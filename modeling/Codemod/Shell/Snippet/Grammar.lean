import Codemod.Shell.Snippet.Token

/-!
# The structure of snippets

- `Snippet.Expression.target?` — an expression as something that is assigned to
- `Snippet.Grammar.statement` — one statement
- `Snippet.read` — the statements of a text, or why it is no snippet
-/

namespace Codemod.Shell.Snippet

mutual

/-- An expression as something that is assigned to. -/
def Expression.target? : Expression → Option Target
  | .name n => some (.name n)
  | .member object key false => some (.member object key)
  | .list items => (itemTargets? items).map .list
  | .record fields => (fieldTargets? fields).map .record
  | .assign t none value => some (.orElse t value)
  | _ => none

/-- The items of a list as targets. -/
def itemTargets? : List Item → Option (List Target)
  | [] => some []
  | .nothing :: rest => do return .nothing :: (← itemTargets? rest)
  | .one e :: rest => do return (← e.target?) :: (← itemTargets? rest)
  | .all e :: rest => do return .rest (← e.target?) :: (← itemTargets? rest)

/-- The fields of a record as targets. -/
def fieldTargets? : List Field → Option (List Part)
  | [] => some []
  | .field key e :: rest => do return .field key (← e.target?) :: (← fieldTargets? rest)
  | .all e :: rest => do return .rest (← e.target?) :: (← fieldTargets? rest)

end

namespace Grammar

/-- What is left of the tokens, and where one is. -/
structure Rest where
  tokens : List Placed
  /-- Inside a function. -/
  inFunction : Bool := false
  /-- Inside a loop. -/
  inLoop : Bool := false
  /-- Inside the cases of a choice. -/
  inChoice : Bool := false

/-- A reader of tokens. -/
abbrev Parse := StateT Rest (Except Fault)

/-- The next token. -/
def next? : Parse (Option Token) := do return ((← get).tokens.head?).map Placed.token

/-- Leaves the next token behind. -/
def skip : Parse Unit := modify fun r => { r with tokens := r.tokens.drop 1 }

/-- Fails at the next token. -/
def fail {α : Type} : Parse α := do
  match ← next? with
  | some token => throw (.unexpected token)
  | none => throw .unexpectedEnd

/-- The next token is a sign or a word with this text. -/
def isNext (text : String) : Parse Bool := do
  match ← next? with
  | some (.sign s) | some (.name s) => return s == text
  | _ => return false

/-- Takes a sign or a word if it is the next one. -/
def take? (text : String) : Parse Bool := do
  let found ← isNext text
  if found then skip
  return found

/-- Takes a sign or a word, which must be the next one. -/
def expect (text : String) : Parse Unit := do
  if !(← take? text) then fail

/-- Takes what ends a statement: a semicolon, or a place where one is understood. -/
def endStatement : Parse Unit := do
  if ← take? ";" then return
  match (← get).tokens with
  | [] => return
  | p :: _ =>
    if p.afterBreak then return
    if !(← isNext "\x7d") then fail

/-- Words that are no names. -/
def reserved : List String :=
  ["break", "case", "catch", "class", "const", "continue", "default", "delete", "do", "else",
    "export",
    "extends", "false", "finally", "for", "function", "if", "import", "in", "instanceof", "new",
      "null",
    "return", "super", "switch", "throw", "true", "try", "typeof", "var", "void", "while", "with"]

/-- A name that may be declared. -/
def newName : Parse String := do
  match ← next? with
  | some (.name n) =>
    if reserved.contains n then fail
    skip
    return n
  | _ => fail

/-- What a sign between two expressions means. -/
inductive Joint where
  | operator (o : Operator)
  | choice (c : Choice)

/-- The signs between two expressions, with how tightly they bind. -/
def joints : List (String × Nat × Joint) :=
  [("??", 1, .choice .whenMissing), ("||", 2, .choice .whenFalse), ("&&", 3, .choice .whenTrue),
    ("|", 4, .operator .bitOr), ("^", 5, .operator .bitXor), ("&", 6, .operator .bitAnd),
    ("==", 7, .operator .equal), ("!=", 7, .operator .unequal), ("===", 7, .operator .same),
    ("!==", 7, .operator .different), ("<", 8, .operator .less), (">", 8, .operator .greater),
    ("<=", 8, .operator .atMost), (">=", 8, .operator .atLeast), ("in", 8, .operator .member),
    ("instanceof", 8, .operator .madeBy), ("<<", 9, .operator .shiftLeft),
    (">>", 9, .operator .shiftRight), (">>>", 9, .operator .shiftWord), ("+", 10, .operator .plus),
    ("-", 10, .operator .minus), ("*", 11, .operator .times), ("/", 11, .operator .dividedBy),
    ("%", 11, .operator .remainder), ("**", 12, .operator .power)]

/-- The signs that assign the result of an operation. -/
def assigning : List (String × Option Operator) :=
  [("=", none), ("+=", some .plus), ("-=", some .minus), ("*=", some .times), ("/=", some .dividedBy),
    ("%=", some .remainder), ("**=", some .power), ("&=", some .bitAnd), ("|=", some .bitOr),
    ("^=", some .bitXor), ("<<=", some .shiftLeft), (">>=", some .shiftRight),
    (">>>=", some .shiftWord)]

/-- The signs that assign only when the old value calls for it. -/
def assigningWhen : List (String × Choice) :=
  [("&&=", .whenTrue), ("||=", .whenFalse), ("??=", .whenMissing)]

/-- The signs before an expression. -/
def signsBefore : List (String × Sign) :=
  [("!", .not), ("-", .negative), ("+", .positive), ("~", .complement), ("typeof", .kind),
    ("void", .nothing)]

/-- The tokens after a parenthesis that was opened, its closing one included. -/
def afterParenthesis (depth : Nat) : List Placed → List Placed
  | [] => []
  | p :: rest =>
    match p.token with
    | .sign "(" => afterParenthesis (depth + 1) rest
    | .sign ")" => if depth == 0 then rest else afterParenthesis (depth - 1) rest
    | _ => afterParenthesis depth rest

/-- The next tokens begin a function that is written with an arrow. -/
def isArrow : Parse Bool := do
  let arrow (ps : List Placed) : Bool :=
    match ps with
    | ⟨.sign "=>", false⟩ :: _ => true
    | _ => false
  match (← get).tokens with
  | ⟨.name n, _⟩ :: rest => return !reserved.contains n && arrow rest
  | ⟨.sign "(", _⟩ :: rest => return arrow (afterParenthesis 0 rest)
  | _ => return false

/-- The value of a word. -/
def constant? : String → Option Value
  | "null" => some .null
  | "true" => some (.boolean true)
  | "false" => some (.boolean false)
  | _ => none

/-- Reads the body of a function. -/
def inside {α : Type} (body : Parse α) : Parse α := do
  let before ← get
  set { before with inFunction := true, inLoop := false, inChoice := false }
  let found ← body
  let after ← get
  set { before with tokens := after.tokens }
  return found

/-- Reads the body of a loop. -/
def looping {α : Type} (body : Parse α) : Parse α := do
  let before ← get
  set { before with inLoop := true }
  let found ← body
  let after ← get
  set { before with tokens := after.tokens }
  return found

mutual

/-- Expressions with commas between them. -/
def expression (fuel : Nat) (hasIn : Bool := true) : Parse Expression :=
  match fuel with
  | 0 => fail
  | fuel + 1 => do
    let e ← assignment fuel hasIn
    if ← take? "," then return .sequence e (← expression fuel hasIn) else return e

/-- An expression without a comma. -/
def assignment (fuel : Nat) (hasIn : Bool) : Parse Expression :=
  match fuel with
  | 0 => fail
  | fuel + 1 => do
    if ← isArrow then return ← arrow fuel
    let left ← conditional fuel hasIn
    match ← next? with
    | some (.sign s) =>
      match assigning.lookup s with
      | some operator =>
        let some target := left.target? | throw .badTarget
        skip
        return .assign target operator (← assignment fuel hasIn)
      | none =>
        match assigningWhen.lookup s with
        | some choice =>
          let some target := left.target? | throw .badTarget
          skip
          return .assignWhen choice target (← assignment fuel hasIn)
        | none => return left
    | _ => return left

/-- A function that is written with an arrow. -/
def arrow (fuel : Nat) : Parse Expression :=
  match fuel with
  | 0 => fail
  | fuel + 1 => do
    let parameters ←
      if ← take? "(" then targets fuel
      else do pure [Target.name (← newName)]
    expect "=>"
    let body ←
      if ← isNext "\x7b" then inside (braced fuel)
      else do pure [Statement.finish (some (← assignment fuel true))]
    return .function "" parameters body false

/-- The parameters of a function and the parenthesis after them. -/
def targets (fuel : Nat) : Parse (List Target) :=
  match fuel with
  | 0 => fail
  | fuel + 1 => do
    if ← take? ")" then return []
    let isRest ← take? "..."
    let e ← assignment fuel true
    let some target := e.target? | fail
    let target := if isRest then Target.rest target else target
    if ← take? "," then return target :: (← targets fuel)
    expect ")"
    return [target]

/-- An expression that may choose between two others. -/
def conditional (fuel : Nat) (hasIn : Bool) : Parse Expression :=
  match fuel with
  | 0 => fail
  | fuel + 1 => do
    let e ← joined fuel hasIn 1
    if !(← take? "?") then return e
    let a ← assignment fuel true
    expect ":"
    return .conditional e a (← assignment fuel hasIn)

/-- Expressions with signs between them that bind at least so tightly. -/
def joined (fuel : Nat) (hasIn : Bool) (level : Nat) : Parse Expression :=
  match fuel with
  | 0 => fail
  | fuel + 1 => do joinedTo fuel hasIn level (← unary fuel)

/-- What follows an expression with signs that bind at least so tightly. -/
def joinedTo (fuel : Nat) (hasIn : Bool) (level : Nat) (left : Expression) : Parse Expression :=
  match fuel with
  | 0 => fail
  | fuel + 1 => do
    let word ← match ← next? with
      | some (.sign s) | some (.name s) => pure s
      | _ => pure ""
    match joints.lookup word with
    | some (tightness, joint) =>
      if tightness < level || (word == "in" && !hasIn) then return left
      skip
      let right ← joined fuel hasIn (if tightness == 12 then 12 else tightness + 1)
      let whole := match joint with
        | .operator o => Expression.binary o left right
        | .choice c => Expression.choice c left right
      joinedTo fuel hasIn level whole
    | none => return left

/-- An expression with signs before it. -/
def unary (fuel : Nat) : Parse Expression :=
  match fuel with
  | 0 => fail
  | fuel + 1 => do
    match ← next? with
    | some (.sign s) | some (.name s) =>
      match signsBefore.lookup s with
      | some sign =>
        skip
        return .unary sign (← unary fuel)
      | none =>
        if s == "++" || s == "--" then
          skip
          let e ← unary fuel
          let some target := e.target? | throw .badTarget
          return .step target (if s == "++" then 1 else -1) false
        else if s == "delete" then
          skip
          match ← unary fuel with
          | .member object key _ => return .delete object key
          | _ => return .value (.boolean true)
        else if s == "new" then
          skip
          let callee ← chained fuel false false (← primary fuel)
          let arguments ← if ← take? "(" then items fuel ")" else pure []
          stepped fuel (← chained fuel true false (.make callee arguments))
        else stepped fuel (← chained fuel true false (← primary fuel))
    | _ => stepped fuel (← chained fuel true false (← primary fuel))

/-- An expression that may be changed after its value was taken. -/
def stepped (fuel : Nat) (e : Expression) : Parse Expression :=
  match fuel with
  | 0 => fail
  | _ + 1 => do
    match (← get).tokens with
    | ⟨.sign s, false⟩ :: _ =>
      if s == "++" || s == "--" then
        let some target := e.target? | throw .badTarget
        skip
        return .step target (if s == "++" then 1 else -1) true
      else return e
    | _ => return e

/-- An expression with members and calls after it. -/
def chained (fuel : Nat) (calls lenient : Bool) (e : Expression) : Parse Expression :=
  match fuel with
  | 0 => fail
  | fuel + 1 => do
    let named (lenient : Bool) : Parse Expression := do
      match ← next? with
      | some (.name n) =>
        skip
        chained fuel calls lenient (.member e (.value (.text n)) lenient)
      | _ => fail
    let indexed (lenient : Bool) : Parse Expression := do
      let key ← expression fuel
      expect "]"
      chained fuel calls lenient (.member e key lenient)
    let called (lenient : Bool) : Parse Expression := do
      let arguments ← items fuel ")"
      chained fuel calls lenient (.call e arguments lenient)
    if ← take? "." then named lenient
    else if ← take? "[" then indexed lenient
    else if !calls then return e
    else if ← take? "(" then called lenient
    else if ← take? "?." then
      if ← take? "[" then indexed true
      else if ← take? "(" then called true
      else named true
    else return e

/-- The items of a list up to its closing sign. -/
def items (fuel : Nat) (closing : String) : Parse (List Item) :=
  match fuel with
  | 0 => fail
  | fuel + 1 => do
    if ← take? closing then return []
    if closing == "]" then
      if ← take? "," then return .nothing :: (← items fuel closing)
    let isAll ← take? "..."
    let e ← assignment fuel true
    let item := if isAll then Item.all e else Item.one e
    if ← take? "," then return item :: (← items fuel closing)
    if closing == ")" && !(← isNext ")") then throw .missingArgumentEnd
    expect closing
    return [item]

/-- The fields of a record up to its closing brace. -/
def fields (fuel : Nat) : Parse (List Field) :=
  match fuel with
  | 0 => fail
  | fuel + 1 => do
    if ← take? "\x7d" then return []
    let field ← field fuel
    if ← take? "," then return field :: (← fields fuel)
    expect "\x7d"
    return [field]

/-- One field of a record. -/
def field (fuel : Nat) : Parse Field :=
  match fuel with
  | 0 => fail
  | fuel + 1 => do
    if ← take? "..." then return .all (← assignment fuel true)
    let (key, name) ← match ← next? with
      | some (.name n) => do
        skip
        pure (Expression.value (.text n), some n)
      | some (.text s) => do
        skip
        pure (Expression.value (.text s), none)
      | some (.number x) => do
        skip
        pure (Expression.value (.number x), none)
      | some (.sign "[") => do
        skip
        let e ← expression fuel
        expect "]"
        pure (e, none)
      | _ => fail
    if ← take? ":" then return .field key (← assignment fuel true)
    if ← take? "(" then
      let parameters ← targets fuel
      return .field key (.function (name.getD "") parameters (← inside (braced fuel)) true)
    match name with
    | some n =>
      if reserved.contains n then fail
      if ← take? "=" then return .field key (.assign (.name n) none (← assignment fuel true))
      return .field key (.name n)
    | none => fail

/-- A function after its first word. -/
def function (fuel : Nat) : Parse Expression :=
  match fuel with
  | 0 => fail
  | fuel + 1 => do
    let name ← if ← isNext "(" then pure "" else newName
    expect "("
    let parameters ← targets fuel
    return .function name parameters (← inside (braced fuel)) true

/-- The expressions of a template's pieces. -/
def pieces (fuel : Nat) (found : List Piece) : Parse (List Expression) :=
  match fuel with
  | 0 => fail
  | fuel + 1 => do
    match found with
    | [] => return []
    | .text s :: rest => return .value (.text s) :: (← pieces fuel rest)
    | .source cs :: rest =>
      let inner ← tokens (cs.length + 1) none false cs
      let before ← get
      set { before with tokens := inner }
      let e ← expression fuel
      if (← next?).isSome then fail
      set before
      return e :: (← pieces fuel rest)

/-- An expression without signs around it. -/
def primary (fuel : Nat) : Parse Expression :=
  match fuel with
  | 0 => fail
  | fuel + 1 => do
    match ← next? with
    | some (.number x) =>
      skip
      return .value (.number x)
    | some (.text s) =>
      skip
      return .value (.text s)
    | some (.template ps) =>
      skip
      return .template (← pieces fuel ps)
    | some (.regex body flags) =>
      skip
      return .regex body flags
    | some (.name n) =>
      match constant? n with
      | some v =>
        skip
        return .value v
      | none =>
        if n == "function" then
          skip
          function fuel
        else if reserved.contains n then fail
        else
          skip
          return .name n
    | some (.sign "(") =>
      skip
      let e ← expression fuel
      expect ")"
      return e
    | some (.sign "[") =>
      skip
      return .list (← items fuel "]")
    | some (.sign "\x7b") =>
      skip
      return .record (← fields fuel)
    | _ => fail

/-- Statements in braces. -/
def braced (fuel : Nat) : Parse (List Statement) :=
  match fuel with
  | 0 => fail
  | fuel + 1 => do
    expect "\x7b"
    statements fuel (some "\x7d")

/-- Statements up to a closing sign, or up to the end. -/
def statements (fuel : Nat) (closing : Option String) : Parse (List Statement) :=
  match fuel with
  | 0 => fail
  | fuel + 1 => do
    match closing with
    | some sign =>
      if ← take? sign then return []
    | none =>
      if (← next?).isNone then return []
    return (← statement fuel) :: (← statements fuel closing)

/-- The bindings of a declaration. -/
def bindings (fuel : Nat) (kind : Declaring) (hasIn : Bool) : Parse (List Binding) :=
  match fuel with
  | 0 => fail
  | fuel + 1 => do
    let e ← primary fuel
    let some target := e.target? | fail
    let value ← if ← take? "=" then some <$> assignment fuel hasIn else pure none
    if hasIn && value.isNone then
      match kind, target with
      | .fixed, _ => throw (.missingValue "const")
      | _, .name _ => pure ()
      | _, _ => throw (.missingValue "destructuring")
    let binding := Binding.binding target value
    if ← take? "," then return binding :: (← bindings fuel kind hasIn)
    return [binding]

/-- How the next word declares a name, if it does. -/
def declaring? (fuel : Nat) : Parse (Option Declaring) :=
  match fuel with
  | 0 => return none
  | _ + 1 => do
    if ← take? "var" then return some .function
    if ← take? "const" then return some .fixed
    match (← get).tokens with
    | ⟨.name "let", _⟩ :: ⟨.name _, _⟩ :: _ | ⟨.name "let", _⟩ :: ⟨.sign "[", _⟩ :: _
    | ⟨.name "let", _⟩ :: ⟨.sign "\x7b", _⟩ :: _ =>
      skip
      return some .block
    | _ => return none

/-- A loop after its first word. -/
def loopWith (fuel : Nat) : Parse Statement :=
  match fuel with
  | 0 => fail
  | fuel + 1 => do
    expect "("
    let kind ← declaring? fuel
    let each (target : Target) (keys : Bool) : Parse Statement := do
      let source ← expression fuel
      expect ")"
      return .each kind target keys source (← looping (statement fuel))
    let rest (start : Option Statement) : Parse Statement := do
      expect ";"
      let condition ← if ← isNext ";" then pure none else some <$> expression fuel
      expect ";"
      let step ← if ← isNext ")" then pure none else some <$> expression fuel
      expect ")"
      return .loopWith start condition step (← looping (statement fuel))
    match kind with
    | some declaring =>
      let bs ← bindings fuel declaring false
      match bs with
      | [.binding target none] =>
        if ← take? "of" then each target false
        else if ← take? "in" then each target true
        else rest (some (.declare declaring bs))
      | _ => rest (some (.declare declaring bs))
    | none =>
      if ← isNext ";" then rest none
      else
        let e ← expression fuel false
        match e.target? with
        | some target =>
          if ← take? "of" then each target false
          else if ← take? "in" then each target true
          else rest (some (.evaluate e))
        | none => rest (some (.evaluate e))

/-- The cases of a choice up to its closing brace. -/
def cases (fuel : Nat) : Parse (List Case) :=
  match fuel with
  | 0 => fail
  | fuel + 1 => do
    if ← take? "\x7d" then return []
    let subject ←
      if ← take? "default" then pure none
      else do
        expect "case"
        some <$> expression fuel
    expect ":"
    let body ← caseBody fuel
    return .case subject body :: (← cases fuel)

/-- The statements of a case. -/
def caseBody (fuel : Nat) : Parse (List Statement) :=
  match fuel with
  | 0 => fail
  | fuel + 1 => do
    if (← isNext "case") || (← isNext "default") || (← isNext "\x7d") then return []
    return (← statement fuel) :: (← caseBody fuel)

/-- What is done when statements fail, and what is done at last. -/
def rescue (fuel : Nat) (body : List Statement) : Parse Statement :=
  match fuel with
  | 0 => fail
  | fuel + 1 => do
    let rescue ←
      if ← take? "catch" then do
        let target ←
          if ← take? "(" then do
            let e ← primary fuel
            expect ")"
            pure e.target?
          else pure none
        pure (some (target, ← braced fuel))
      else pure none
    let last ← if ← take? "finally" then some <$> braced fuel else pure none
    if rescue.isNone && last.isNone then fail
    return .attempt body rescue last

/-- One statement. -/
def statement (fuel : Nat) : Parse Statement :=
  match fuel with
  | 0 => fail
  | fuel + 1 => do
    let word ← match ← next? with
      | some (.sign s) | some (.name s) => pure s
      | _ => pure ""
    let parenthesised : Parse Expression := do
      expect "("
      let e ← expression fuel
      expect ")"
      return e
    match word with
    | "\x7b" => return .block (← braced fuel)
    | ";" =>
      skip
      return .block []
    | "function" =>
      skip
      match ← function fuel with
      | e@(.function name _ _ _) =>
        if name.isEmpty then fail
        return .define name e
      | e => return .evaluate e
    | "if" =>
      skip
      let condition ← parenthesised
      let body ← statement fuel
      if ← take? "else" then return .branch condition body (some (← statement fuel))
      return .branch condition body none
    | "while" =>
      skip
      let condition ← parenthesised
      return .loop condition (← looping (statement fuel))
    | "do" =>
      skip
      let body ← looping (statement fuel)
      expect "while"
      let condition ← parenthesised
      let _ ← take? ";"
      return .loopAfter body condition
    | "for" =>
      skip
      loopWith fuel
    | "return" =>
      if !(← get).inFunction then throw .badReturn
      skip
      let isEnd ← match (← get).tokens with
        | [] => pure true
        | p :: _ => do pure (p.afterBreak || (← isNext ";") || (← isNext "\x7d"))
      let value ← if isEnd then pure none else some <$> expression fuel
      endStatement
      return .finish value
    | "break" =>
      if !(← get).inLoop && !(← get).inChoice then throw .badBreak
      skip
      endStatement
      return .leaveLoop
    | "continue" =>
      if !(← get).inLoop then fail
      skip
      endStatement
      return .nextTurn
    | "throw" =>
      skip
      let value ← expression fuel
      endStatement
      return .fail value
    | "try" =>
      skip
      rescue fuel (← braced fuel)
    | "switch" =>
      skip
      let subject ← parenthesised
      expect "\x7b"
      let before ← get
      set { before with inChoice := true }
      let cs ← cases fuel
      let after ← get
      set { before with tokens := after.tokens }
      return .choose subject cs
    | _ =>
      match ← declaring? fuel with
      | some kind =>
        let bs ← bindings fuel kind true
        endStatement
        return .declare kind bs
      | none =>
        let e ← expression fuel
        endStatement
        return .evaluate e

end

end Grammar

/-- The statements of a text; `inFunction` tells whether it may end them with a value. -/
def read (inFunction : Bool) (text : String) : Except Fault (List Statement) := do
  let cs := text.toList
  let ts ← tokens (cs.length + 1) none false cs
  let fuel := 40 * cs.length + 100
  return (← (Grammar.statements fuel none).run { tokens := ts, inFunction }).1

end Codemod.Shell.Snippet
