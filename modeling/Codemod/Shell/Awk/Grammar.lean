import Codemod.Shell.Awk.Token

/-!
# The grammar of record programs

- `Awk.Parsing` — a text while it is read
- `Awk.parse` — the program of a text
-/

namespace Codemod.Shell.Awk

/-- A text while it is read. -/
structure Parsing where
  tokens : List Placed
  /-- The line of the last token. -/
  line : Nat := 1
  /-- How many lines there are. -/
  lines : Nat
  /-- The functions that were defined, with how many arguments they have. -/
  known : List (String × Nat) := []
  /-- The functions that were called, with how many arguments. -/
  calls : List (String × Nat) := []
  /-- The variables of the current function. -/
  own : List String := []
  inFunction : Bool := false
  /-- Records are there to go on with. -/
  inRecords : Bool := false
  /-- What was found out about names: whether they are tables. -/
  kinds : List (String × Bool)
  loops : Nat := 0
  /-- How many parentheses are open. -/
  depth : Nat := 0
  ranges : Nat := 0

/-- A step of reading. -/
abbrev Parse := StateT Parsing (Except (Nat × Fault))

namespace Parse

/-- The next token. -/
def peek : Parse (Option Token) := do return (← get).tokens.head?.map Placed.token

/-- The token after the next one. -/
def peekSecond : Parse (Option Token) := do return ((← get).tokens[1]?).map Placed.token

/-- Takes a token. -/
def advance : Parse Unit :=
  modify fun p =>
    { p with tokens := p.tokens.drop 1, line := (p.tokens.head?.map Placed.line).getD p.line }

/-- Refuses a text with a fault. -/
def refuse {α : Type} (fault : Fault) : Parse α := do
  let p ← get
  throw ((p.tokens.head?.map Placed.line).getD p.line, fault)

/-- Refuses the next token. -/
def fail {α : Type} : Parse α := do
  let p ← get
  match p.tokens with
  | [] => throw (p.lines + 1, .missingBrace)
  | t :: _ =>
    let ends := match t.token with
      | .lineEnd => true
      | .sign s => s == "\x7d" || s == ";"
      | _ => false
    let isExtra := match t.token with
      | .sign ")" => p.depth == 0
      | _ => false
    throw (t.line,
      if isExtra then .extraParenthesis
      else if ends && 0 < p.depth then .missingNear t.token.shown
      else .syntaxNear t.token.shown)

/-- The next token is a sign. -/
def atSign (s : String) : Parse Bool := do
  match ← peek with
  | some (.sign t) => return s == t
  | _ => return false

/-- The next token is one of some signs. -/
def atSigns (ss : List String) : Parse (Option String) := do
  match ← peek with
  | some (.sign t) => return if ss.contains t then some t else none
  | _ => return none

/-- The next token is a word. -/
def atWord (w : String) : Parse Bool := do
  match ← peek with
  | some (.word t) => return w == t
  | _ => return false

/-- Takes a sign. -/
def expect (s : String) : Parse Unit := do
  if ← atSign s then advance else fail

/-- Takes a sign if it is there. -/
def accept (s : String) : Parse Bool := do
  let found ← atSign s
  if found then advance
  return found

/-- Takes an opening parenthesis. -/
def opening : Parse Unit := do
  expect "("
  modify fun p => { p with depth := p.depth + 1 }

/-- Takes a closing parenthesis. -/
def closing : Parse Unit := do
  expect ")"
  modify fun p => { p with depth := p.depth - 1 }

/-- Takes ends of lines. -/
def skipLines (fuel : Nat) : Parse Unit :=
  match fuel with
  | 0 => return
  | fuel + 1 => do
    match ← peek with
    | some .lineEnd =>
      advance
      skipLines fuel
    | _ => return

/-- Takes all ends of lines. -/
def newLines : Parse Unit := do skipLines ((← get).tokens.length + 1)

/-! ### Names -/

/-- The variable of a name. -/
def resolve (name : String) : Parse Name := do
  return match (← get).own.findIdx? (· == name) with
    | some i => .own i
    | none => .shared name

/-- Notes that a name is a table, or that it is none; it cannot be both. -/
def settle (name : String) (isTable : Bool) : Parse Unit := do
  let p ← get
  if p.own.contains name then return
  match p.kinds.lookup name with
  | some known =>
    if known != isTable then
      throw (p.line, if known then .illegalTable name else .illegalVariable name)
  | none => set { p with kinds := (name, isTable) :: p.kinds }

/-- The name of a table. -/
def table : Parse Name := do
  match ← peek with
  | some (.name name _) =>
    advance
    settle name true
    resolve name
  | _ => fail

/-- The expression of a text between slashes. -/
def regex (text : Octets) : Parse Regex := do
  match Regex.read .escaping text with
  | .ok r => return r
  | .error e => refuse (.regex e text)

/-- The operator of an assignment. -/
def assignment? : String → Option (Option Operator)
  | "=" => some none
  | "+=" => some (some .plus)
  | "-=" => some (some .minus)
  | "*=" => some (some .times)
  | "/=" => some (some .dividedBy)
  | "%=" => some (some .remainder)
  | "^=" => some (some .power)
  | _ => none

/-- How many arguments a function may have. -/
def argumentCounts : BuiltIn → Nat × Nat
  | .length => (0, 1)
  | .substr => (2, 3)
  | .index => (2, 2)
  | .split => (2, 3)
  | .sub => (2, 3)
  | .gsub => (2, 3)
  | .find => (2, 2)
  | .sprintf => (1, 1000)
  | .arcTangent => (2, 2)
  | .random => (0, 0)
  | .seed => (0, 1)
  | .flush => (0, 1)
  | .clock => (0, 0)
  | .date => (0, 3)
  | _ => (1, 1)

/-- The expression stands for a place to which one can assign. -/
def isPlace : Expression → Bool
  | .named _ => true
  | .element _ _ => true
  | .field _ => true
  | _ => false

/-- An operand of a concatenation begins with the token. -/
def startsOperand : Token → Bool
  | .number _ _ => true
  | .text _ _ => true
  | .regex _ => true
  | .name _ _ => true
  | .function _ _ => true
  | .sign s => ["$", "!", "(", "++", "--"].contains s
  | _ => false

/-- The binary operator of a level at a token. -/
def operator? (level : Nat) (inPrint : Bool) : Token → Option (Expression → Expression → Expression)
  | .sign s =>
    match level, s with
    | 0, "||" => some .or
    | 1, "&&" => some .and
    | 3, "~" => some (.matching false)
    | 3, "!~" => some (.matching true)
    | 4, "<" => some (.relation .less)
    | 4, "<=" => some (.relation .atMost)
    | 4, "==" => some (.relation .equal)
    | 4, "!=" => some (.relation .unequal)
    | 4, ">" => if inPrint then none else some (.relation .greater)
    | 4, ">=" => if inPrint then none else some (.relation .atLeast)
    | 6, "+" => some (.arithmetic .plus)
    | 6, "-" => some (.arithmetic .minus)
    | 7, "*" => some (.arithmetic .times)
    | 7, "/" => some (.arithmetic .dividedBy)
    | 7, "%" => some (.arithmetic .remainder)
    | _, _ => none
  | _ => none

/-- A name was used as a variable. -/
def useVariable (name : String) : Parse Expression := do
  return .named (← resolve name)

/-- Notes that an expression is used as a value. -/
def asValue (e : Expression) : Parse Expression := do
  match e with
  | .named (.shared name) => settle name false
  | _ => pure ()
  return e

/-- Notes that an expression is used as a regular one; a text is read at once. -/
def asPattern (e : Expression) : Parse Expression := do
  match e with
  | .text cs => return .pattern (← regex cs)
  | e => asValue e

/-- The arguments of a function of every program, used as it uses them. -/
def asArguments (f : BuiltIn) (es : List Expression) : Parse (List Expression) := do
  match f, es with
  | .split, subject :: .named name :: rest => do
    if let .shared name := name then settle name true
    let rest ← rest.mapM asValue
    return (← asValue subject) :: .named name :: rest
  | .length, es => return es
  | .sub, pattern :: rest | .gsub, pattern :: rest =>
    return (← asPattern pattern) :: (← rest.mapM asValue)
  | .find, [subject, pattern] => return [← asValue subject, ← asPattern pattern]
  | _, es => es.mapM asValue

/-! ### Expressions -/

mutual

/-- An expression. In a list that is printed, a sign for a greater value is none. -/
def expression (fuel : Nat) (inPrint : Bool) : Parse Expression :=
  match fuel with
  | 0 => fail
  | fuel + 1 => do
    let condition ← level fuel inPrint true 0
    if ← accept "?" then
      let a ← expression fuel inPrint
      expect ":"
      let b ← expression fuel inPrint
      return .conditional (← asValue condition) (← asValue a) (← asValue b)
    else return condition

/-- An expression of a level of binding, which may be an assignment if it `assigns`. -/
def level (fuel : Nat) (inPrint assigns : Bool) (n : Nat) : Parse Expression :=
  match fuel with
  | 0 => fail
  | fuel + 1 => do
    if 8 ≤ n then unary fuel inPrint assigns
    else
      let a ← level fuel inPrint assigns (n + 1)
      continued fuel inPrint n a

/-- An expression of a level with what follows on the same level. -/
def continued (fuel : Nat) (inPrint : Bool) (n : Nat) (a : Expression) : Parse Expression :=
  match fuel with
  | 0 => fail
  | fuel + 1 => do
    match ← peek with
    | none => return a
    | some t =>
      if n == 2 then
        if ← atWord "in" then
          advance
          let index := match a with
            | .group es => es
            | e => [e]
          let name ← table
          continued fuel inPrint n (.member index name)
        else return a
      else if n == 5 then
        if startsOperand t then
          let b ← level fuel inPrint false 6
          continued fuel inPrint n (.joined (← asValue a) (← asValue b))
        else return a
      else
        match operator? n inPrint t with
        | none => return a
        | some f =>
          advance
          if n < 2 then newLines
          let b ← level fuel inPrint (n < 6) (n + 1)
          let b ← if n == 3 then asPattern b else asValue b
          continued fuel inPrint n (f (← asValue a) b)

/-- An expression with a sign in front, perhaps. -/
def unary (fuel : Nat) (inPrint assigns : Bool) : Parse Expression :=
  match fuel with
  | 0 => fail
  | fuel + 1 => do
    match ← atSigns ["!", "-", "+"] with
    | some s =>
      advance
      let e ← asValue (← unary fuel inPrint false)
      return match s with
        | "!" => .not e
        | "-" => .negative e
        | _ => .positive e
    | none =>
      let e ← power fuel inPrint assigns
      piped fuel e

/-- An expression from whose output lines are read, perhaps. -/
def piped (fuel : Nat) (e : Expression) : Parse Expression :=
  match fuel with
  | 0 => fail
  | fuel + 1 => do
    let follows := match ← peekSecond with
      | some (.word "getline") => true
      | _ => false
    if (← atSign "|") && follows then
      advance
      advance
      let target ← place? fuel
      piped fuel (.read target .command (← asValue e))
    else return e

/-- A power. -/
def power (fuel : Nat) (inPrint assigns : Bool) : Parse Expression :=
  match fuel with
  | 0 => fail
  | fuel + 1 => do
    let a ← stepped fuel inPrint assigns
    if ← accept "^" then
      let b ← unary fuel inPrint false
      return .arithmetic .power (← asValue a) (← asValue b)
    else return a

/-- An expression that is changed by one, or assigned to, perhaps. -/
def stepped (fuel : Nat) (inPrint assigns : Bool) : Parse Expression :=
  match fuel with
  | 0 => fail
  | fuel + 1 => do
    match ← atSigns ["++", "--"] with
    | some s =>
      advance
      match ← place? fuel with
      | some e => return .step e (if s == "++" then 1 else -1) true
      | none => fail
    | none =>
      let e ← primary fuel inPrint
      if !isPlace e then return e
      match ← atSigns ["++", "--"] with
      | some s =>
        advance
        return .step (← asValue e) (if s == "++" then 1 else -1) false
      | none =>
        match ← peek with
        | some (.sign s) =>
          match assignment? s with
          | none => return e
          | some operator =>
            if !assigns then return e
            advance
            let value ← expression fuel inPrint
            return .assign (← asValue e) operator (← asValue value)
        | _ => return e

/-- A place to which one can assign, if the next token begins one. -/
def place? (fuel : Nat) : Parse (Option Expression) :=
  match fuel with
  | 0 => fail
  | fuel + 1 => do
    match ← peek with
    | some (.name _ false) =>
      let e ← primary fuel false
      return some (← asValue e)
    | some (.sign "$") => return some (← primary fuel false)
    | _ => return none

/-- An operand. -/
def primary (fuel : Nat) (inPrint : Bool) : Parse Expression :=
  match fuel with
  | 0 => fail
  | fuel + 1 => do
    match ← peek with
    | some (.number x _) =>
      advance
      return .number x
    | some (.text cs _) =>
      advance
      return .text cs
    | some (.regex text) =>
      let r ← regex text
      advance
      return .pattern r
    | some (.sign "$") =>
      advance
      match ← atSigns ["++", "--", "-", "+", "!"] with
      | some s =>
        let e ← if s == "++" || s == "--" then stepped fuel inPrint false
          else unary fuel inPrint false
        return .field (← asValue e)
      | none => return .field (← asValue (← primary fuel inPrint))
    | some (.sign "(") =>
      opening
      let es ← if inPrint && (← atSign ")") then pure [] else list fuel false
      closing
      match es with
      | [e] => return .group [← asValue e]
      | es =>
        if !(← atWord "in") then
          let ends := match ← peek with
            | some .lineEnd => true
            | some (.sign s) => [";", "\x7d", ">", ">>", "|"].contains s
            | _ => false
          if !(inPrint && ends) then fail
        return .group es
    | some (.word "getline") =>
      advance
      let target ← place? fuel
      if ← accept "<" then
        let source ← power fuel inPrint false
        return .read target .file (← asValue source)
      else return .read target .records (.text [])
    | some (.function f name) =>
      advance
      if !(← atSign "(") then
        if f == .length then return .apply f []
        fail
      opening
      let es ← if ← atSign ")" then pure [] else list fuel false
      closing
      let (least, most) := argumentCounts f
      if es.length < least || most < es.length then
        throw ((← get).line, .argumentCount name)
      return .apply f (← asArguments f es)
    | some (.name name called) =>
      let p ← get
      let isKnown := (p.known.lookup name).isSome && !p.own.contains name
      if called || isKnown then
        advance
        opening
        let es ← if ← atSign ")" then pure [] else list fuel false
        closing
        modify fun p => { p with calls := (name, es.length) :: p.calls }
        return .call name es
      else
        advance
        if ← accept "[" then
          settle name true
          let index ← list fuel false
          for e in index do let _ ← asValue e
          expect "]"
          return .element (← resolve name) index
        else useVariable name
    | _ => fail

/-- Expressions with commas between them. -/
def list (fuel : Nat) (inPrint : Bool) : Parse (List Expression) :=
  match fuel with
  | 0 => fail
  | fuel + 1 => do
    let e ← expression fuel inPrint
    if ← accept "," then
      newLines
      return e :: (← list fuel inPrint)
    else return [e]

end

/-! ### Statements -/

/-- The end of a statement. -/
def terminator : Parse Unit := do
  match ← peek with
  | some .lineEnd => advance
  | some (.sign ";") => advance
  | some (.sign "\x7d") => return
  | _ => fail

/-- A statement ends here. -/
def atEnd : Parse Bool := do
  match ← peek with
  | some .lineEnd => return true
  | some (.sign s) => return s == ";" || s == "\x7d"
  | none => return true
  | _ => return false

/-- What is printed, and where. -/
def printed (fuel : Nat) : Parse (List Expression × Option (Outlet × Expression)) := do
  let isBare := (← atEnd) || (← atSigns [">", ">>", "|"]).isSome
  let es ← if isBare then pure [] else list fuel true
  let es := match es with
    | [.group inner] => inner
    | es => es
  for e in es do let _ ← asValue e
  let outlet (o : Outlet) : Parse (List Expression × Option (Outlet × Expression)) := do
    advance
    return (es, some (o, ← asValue (← expression fuel false)))
  if ← atSign ">=" then refuse (.syntaxNear "=")
  match ← atSigns [">", ">>", "|"] with
  | some ">" => outlet .replacing
  | some ">>" => outlet .appending
  | some _ => outlet .command
  | none => return (es, none)

/-- A statement without statements in it. -/
def simple (fuel : Nat) : Parse Statement := do
  match ← peek with
  | some (.word "print") =>
    advance
    let (es, outlet) ← printed fuel
    return .print es outlet
  | some (.word "printf") =>
    advance
    let (es, outlet) ← printed fuel
    if es.isEmpty then throw ((← get).line, .noArguments)
    return .printf es outlet
  | some (.word "delete") =>
    advance
    let name ← table
    if ← accept "[" then
      let index ← list fuel false
      expect "]"
      return .delete name (some index)
    else return .delete name none
  | _ => return .evaluate (← asValue (← expression fuel false))

/-- Reads what may leave a loop. -/
def inLoop (body : Parse Statement) : Parse Statement := do
  modify fun p => { p with loops := p.loops + 1 }
  let s ← body
  modify fun p => { p with loops := p.loops - 1 }
  return s

/-- A condition in parentheses. -/
def condition (fuel : Nat) : Parse Expression := do
  opening
  let e ← asValue (← expression fuel false)
  closing
  return e

mutual

/-- A statement. -/
def statement (fuel : Nat) : Parse Statement :=
  match fuel with
  | 0 => fail
  | fuel + 1 => do
    let value? : Parse (Option Expression) := do
      if ← atEnd then return none
      else return some (← asValue (← expression fuel false))
    let ended (s : Statement) : Parse Statement := do
      terminator
      return s
    match ← peek with
    | some (.sign "\x7b") => return .block (← braced fuel)
    | some (.sign ";") =>
      advance
      return .block []
    | some (.word word) =>
      match word with
      | "if" =>
        advance
        let c ← condition fuel
        newLines
        let body ← statement fuel
        newLines
        if ← atWord "else" then
          advance
          newLines
          return .branch c body (some (← statement fuel))
        else return .branch c body none
      | "while" =>
        advance
        let c ← condition fuel
        if ← accept ";" then return .loop c (.block [])
        newLines
        return .loop c (← inLoop (statement fuel))
      | "do" =>
        advance
        newLines
        let body ← inLoop (statement fuel)
        newLines
        if !(← atWord "while") then fail
        advance
        ended (.loopAfter body (← condition fuel))
      | "for" =>
        advance
        forLoop fuel
      | "next" =>
        advance
        let p ← get
        if !p.inRecords && !p.inFunction then throw (p.line, .improper "next")
        ended .next
      | "nextfile" =>
        advance
        ended .nextFile
      | "exit" =>
        advance
        ended (.exit (← value?))
      | "return" =>
        advance
        let p ← get
        if !p.inFunction then throw (p.line, .returnOutside)
        ended (.answer (← value?))
      | "break" =>
        advance
        let p ← get
        if p.loops == 0 then throw (p.line, .leaveOutside "break")
        ended .leaveLoop
      | "continue" =>
        advance
        let p ← get
        if p.loops == 0 then throw (p.line, .leaveOutside "continue")
        ended .nextTurn
      | _ => ended (← simple fuel)
    | _ => ended (← simple fuel)

/-- A counting loop, or one over the keys of a table, after its word. -/
def forLoop (fuel : Nat) : Parse Statement :=
  match fuel with
  | 0 => fail
  | fuel + 1 => do
    opening
    let p ← get
    match p.tokens.map Placed.token with
    | .name loopName _ :: .word "in" :: .name _ _ :: .sign ")" :: _ =>
      advance
      advance
      settle loopName false
      let name ← table
      closing
      newLines
      return .each (← resolve loopName) name (← inLoop (statement fuel))
    | _ =>
      let start ← if ← atSign ";" then pure none else pure (some (← simple fuel))
      expect ";"
      newLines
      let c ← if ← atSign ";" then pure none else pure (some (← asValue (← expression fuel false)))
      expect ";"
      newLines
      let step ← if ← atSign ")" then pure none else pure (some (← simple fuel))
      closing
      if ← accept ";" then return .loopWith start c step (.block [])
      newLines
      return .loopWith start c step (← inLoop (statement fuel))

/-- Statements in braces. -/
def braced (fuel : Nat) : Parse (List Statement) :=
  match fuel with
  | 0 => fail
  | fuel + 1 => do
    expect "\x7b"
    statements fuel

/-- Statements up to the closing brace. -/
def statements (fuel : Nat) : Parse (List Statement) :=
  match fuel with
  | 0 => fail
  | fuel + 1 => do
    newLines
    if ← accept "\x7d" then return []
    if (← peek).isNone then fail
    let s ← statement fuel
    return s :: (← statements fuel)

end

/-! ### Rules -/

/-- The arguments of a function that is defined. -/
def parameters (fuel : Nat) (before : List String) : Parse (List String) :=
  match fuel with
  | 0 => fail
  | fuel + 1 => do
    match ← peek with
    | some (.name name _) =>
      if before.contains name then refuse (.twice name)
      advance
      if ← accept "," then
        newLines
        parameters fuel (before ++ [name])
      else return before ++ [name]
    | _ => fail

/-- A function after its word. -/
def function (fuel : Nat) : Parse Function := do
  match ← peek with
  | some (.name name _) =>
    let p ← get
    if (p.known.lookup name).isSome then refuse (.redefined name)
    if (p.kinds.lookup name).isSome then refuse (.illegalVariable name)
    advance
    opening
    let own ← if ← atSign ")" then pure [] else parameters fuel []
    closing
    newLines
    modify fun p =>
      { p with own, inFunction := true, known := (name, own.length) :: p.known, loops := 0 }
    let body ← braced fuel
    modify fun p => { p with own := [], inFunction := false }
    return { name, locals := own.length, body }
  | _ => fail

/-- An action. -/
def action (fuel : Nat) (inRecords : Bool) : Parse (List Statement) := do
  modify fun p => { p with inRecords, loops := 0 }
  braced fuel

/-- All rules and functions. -/
def items (fuel : Nat) (p : Program) : Parse Program :=
  match fuel with
  | 0 => return p
  | fuel + 1 => do
    let add (r : Rule) : Parse Program := do
      let _ ← accept ";"
      items fuel { p with rules := p.rules ++ [r] }
    let withAction (pattern : Pattern) : Parse Program := do
      if ← atSign "\x7b" then add ⟨pattern, some (← action fuel true)⟩
      else if ← atEnd then add ⟨pattern, none⟩
      else fail
    newLines
    match ← peek with
    | none => return p
    | some (.sign "\x7d") => refuse .extraBrace
    | some (.word "function") =>
      advance
      let f ← function fuel
      let _ ← accept ";"
      items fuel { p with functions := f :: p.functions }
    | some (.word "BEGIN") =>
      advance
      add ⟨.start, some (← action fuel false)⟩
    | some (.word "END") =>
      advance
      add ⟨.finish, some (← action fuel false)⟩
    | some (.sign "\x7b") => withAction .always
    | _ =>
      let first ← asValue (← expression fuel false)
      if ← accept "," then
        newLines
        let last ← asValue (← expression fuel false)
        let n := (← get).ranges
        modify fun p => { p with ranges := n + 1 }
        withAction (.range n first last)
      else withAction (.holds first)

end Parse

/-- What every program has as variables, and as tables. -/
def usualKinds : List (String × Bool) :=
  ["NR", "NF", "FNR", "FS", "OFS", "ORS", "RS", "FILENAME", "SUBSEP", "RSTART", "RLENGTH",
    "CONVFMT",
    "OFMT", "ARGC"].map (·, false)
    ++ ["ARGV", "ENVIRON"].map (·, true)

/-- The program of tokens on so many lines, or a fault with its line. -/
def programOf (lines : Nat) (found : List Placed) : Except (Nat × Fault) Program := do
  let (program, p) ←
    (Parse.items (16 * found.length + 64) {}).run { tokens := found, lines, kinds := usualKinds }
  for (name, count) in p.calls.reverse do
    match p.known.lookup name with
    | none => throw (lines + 1, .undefined name)
    | some most => if most < count then throw (lines, .tooManyArguments name)
  return { program with ranges := p.ranges }

/-- What is found out about a text after its first fault. -/
def laterFaults (lines : Nat) (found : List Placed) (line : Nat) (fault : Fault) :
    List (Nat × Fault) :=
  let count (sign : String) : Nat := found.countP fun t =>
    match t.token with
    | .sign s => s == sign
    | _ => false
  let isOpen := count "\x7d" < count "\x7b"
  match fault with
  | .missingBrace | .regex _ _ | .undefined _ => []
  | .extraBrace => [(line, .syntaxNear "end of line")]
  | .extraParenthesis =>
    if isOpen then [(lines + 1, .missingBrace)]
    else if count "\x7b" == 0 then [(line, .syntaxNear "end of line")]
    else []
  | _ => if isOpen then [(lines + 1, .missingBrace)] else []

/-- The program of a text, or its faults with their lines. -/
def parse (text : Octets) : Except (List (Nat × Fault)) Program := do
  let lines := text.count '\n' + 1
  match tokens (text.length + 1) 1 .lineEnd text with
  | .error fault => throw [fault]
  | .ok found =>
    match programOf lines found with
    | .ok program => return program
    | .error (line, fault) => throw ((line, fault) :: laterFaults lines found line fault)

end Codemod.Shell.Awk
