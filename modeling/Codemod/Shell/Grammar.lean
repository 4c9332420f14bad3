import Codemod.Shell.Token

/-!
# The grammar of a shell script

A script is read one complete command at a time, so that the commands before a mistake are run.

- `Grammar.commandList` — commands up to a word that ends them
- `Grammar.complete` — the next complete command of a script
-/

namespace Codemod.Shell.Grammar

/-- What is known of a script while its tokens are read. -/
structure Reading where
  /-- The script is in the rich language. -/
  rich : Bool := false
  /-- The texts that follow lines, by their places. -/
  texts : List Word := []
  /-- The words that stand for others where a command begins. -/
  aliases : List (Octets × Octets) := []

/-- A command and the tokens after it. -/
abbrev Parsed := Except ScriptError (Command × List Scan.Placed)

/-- The words that have a meaning where a command begins. -/
def reserved : List String :=
  ["if", "then", "else", "elif", "fi", "do", "done", "case", "esac", "while", "until", "for",
    "\x7b", "\x7d", "!", "in"]

/-- The text of a word without quotes and expansions. -/
def plainText? : Token → Option String
  | .word [.plain text] => some (String.ofList text)
  | _ => none

/-- The text is the name of a variable or function. -/
def isName (text : String) : Bool :=
  text.toList.head?.any Scan.startsName && text.toList.all Scan.isNameChar

/-- The token is the plain word. -/
def isWord (text : String) (token : Token) : Bool := plainText? token == some text

/-- The token is the operator. -/
def isOperator (text : String) : Token → Bool
  | .operator op => op == text
  | _ => false

/-- What a token is called in a message. -/
def Token.describe : Token → String
  | .word [.plain text] =>
    let text := String.ofList text
    if reserved.contains text then s!"\"{text}\"" else "word"
  | .word _ | .stream _ | .text _ => "word"
  | .expressions _ => "\"(\""
  | .operator op =>
    if op.toList.all fun c => c == '<' || c == '>' || c == '&' && op.length > 1 && op != "&&" then
      "redirection"
    else s!"\"{op}\""
  | .lineEnd => "newline"
  | .failure e => e.message

/-- The text of a token, as far as it is plain. -/
def Token.plain : Token → String
  | .word pieces =>
    let text : Octets := pieces.flatMap fun
      | .plain text | .literal text => text
      | .parameter name _ => '$' :: name
      | _ => []
    text.toText
  | .stream n => toString n
  | .text _ => ""
  | .expressions _ => "(("
  | .operator op => op
  | .lineEnd => "newline"
  | .failure e => e.message

/-- The failure at the front of the tokens. -/
def unexpected (tokens : List Scan.Placed) (expected : Option String := none) : ScriptError :=
  match tokens with
  | (_, .failure e) :: _ => e
  | (_, token) :: _ => .unexpected (Token.describe token) (Token.plain token) expected
  | [] => .unexpectedEnd expected

/-- The tokens after line ends. -/
def skipLineEnds : List Scan.Placed → List Scan.Placed
  | (_, .lineEnd) :: rest => skipLineEnds rest
  | tokens => tokens

/-- A text as messages show it. -/
def shown (text : String) : String := s!"\"{text}\""

/-- The tokens after an expected word. -/
def expectWord (text : String) (tokens : List Scan.Placed) :
    Except ScriptError (List Scan.Placed) :=
  match tokens with
  | (_, token) :: rest =>
    if isWord text token then .ok rest else .error (unexpected tokens (shown text))
  | [] => .error (unexpected [] (shown text))

/-- The stream and direction of an operator. -/
def redirection? (op : String) : Option (Nat × Direction) :=
  match op with
  | "<" => some (0, .input)
  | ">" => some (1, .output)
  | ">|" => some (1, .overwrite)
  | ">>" => some (1, .append)
  | "<&" => some (0, .duplicate)
  | ">&" => some (1, .duplicate)
  | "<>" => some (0, .both)
  | "<<<" => some (0, .text)
  | "&>" => some (1, .everything false)
  | "&>>" => some (1, .everything true)
  | _ => none

/-- The word names a stream by its number, or closes one. -/
def namesStream (word : Word) : Bool :=
  match word with
  | [.plain text] => text.all fun c => c.isDigit || c == '-'
  | [.literal _] => false
  | _ => true

/-- A redirection at the front of the tokens, if there is one. -/
def redirection (source : Reading) (tokens : List Scan.Placed) :
    Except ScriptError (Option (Redirection × List Scan.Placed)) :=
  let (number, rest) :=
    match tokens with
    | (_, .stream n) :: rest => (some n, rest)
    | tokens => (none, tokens)
  match rest with
  | (_, .operator "<<") :: (_, .text place) :: rest =>
    .ok (some (⟨number.getD 0, .text, source.texts.getD place []⟩, rest))
  | (_, .operator "<<") :: rest => .error (unexpected rest)
  | (_, .operator op) :: after =>
    match redirection? op with
    | none => .ok none
    | some (stream, direction) =>
      match after with
      | (_, .word target) :: rest =>
        let toBoth := op == ">&" && source.rich && number.isNone && !namesStream target
        let direction := if toBoth then .everything false else direction
        let target := if op == "<<<" then target ++ [.literal ['\n']] else target
        .ok (some (⟨number.getD stream, direction, target⟩, rest))
      | tokens => .error (unexpected tokens)
  | _ => .ok none

/-- The redirections at the front of the tokens. -/
def redirections (fuel : Nat) (source : Reading) (tokens : List Scan.Placed) :
    Except ScriptError (List Redirection × List Scan.Placed) :=
  match fuel with
  | 0 => .ok ([], tokens)
  | fuel + 1 => do
    match ← redirection source tokens with
    | none => .ok ([], tokens)
    | some (r, rest) => do
      let (rs, rest) ← redirections fuel source rest
      .ok (r :: rs, rest)

/-- The value of an assignment after its name: after an equals sign, or after one with a plus sign
before it. -/
def assigned? (rich : Bool) (text : Octets) (rest : Word) : Option (Bool × Word) :=
  let value (text : Octets) : Word := if text.isEmpty then rest else .plain text :: rest
  match text with
  | '=' :: text => some (false, value text)
  | '+' :: '=' :: text => if rich then some (true, value text) else none
  | _ => none

/-- An assignment in front of a command: a name, perhaps with a subscript, an equals sign, and a
word. -/
def assignment? (rich : Bool) : Word → Option Assignment
  | .plain text :: rest =>
    let (name, text) := text.span Scan.isNameChar
    if name.head?.any Scan.startsName then
      (assigned? rich text rest).map fun (appends, value) => { name, appends, value }
    else none
  | .target name index :: .plain text :: rest =>
    (assigned? rich text rest).map fun (appends, value) =>
      { name, index := some index, appends, value }
  | _ => none

/-- The tokens with an alias at the front replaced by what it stands for, and so on. An alias does
not stand for itself again. When its text ends in a blank, the next word may be an alias too. -/
def withAliases (source : Reading) (fuel : Nat) (used : List Octets) (tokens : List Scan.Placed) :
    List Scan.Placed :=
  match fuel, tokens with
  | fuel + 1, (line, .word [.plain text]) :: rest =>
    if used.contains text || reserved.contains (String.ofList text) then tokens
    else
      match source.aliases.lookup text with
      | none => tokens
      | some value =>
        let inside := (Scan.tokens source.rich value).1.map fun (_, token) => (line, token)
        let rest :=
          if value.getLast?.any Scan.isGap then withAliases source fuel used rest else rest
        withAliases source fuel (text :: used) (inside ++ rest)
  | _, tokens => tokens

/-- How many aliases one word may stand for in turn. -/
def maxAliases : Nat := 100

/-- A simple command: assignments, words and redirections. -/
def simple (fuel : Nat) (source : Reading) (line : Nat) (assignments : List Assignment)
    (words : List Word) (rs : List Redirection) (tokens : List Scan.Placed) : Parsed :=
  match fuel with
  | 0 => .error (unexpected tokens)
  | fuel + 1 => do
    let tokens :=
      if words.isEmpty && !(assignments.isEmpty && rs.isEmpty) then
        withAliases source maxAliases [] tokens
      else tokens
    match ← redirection source tokens with
    | some (r, rest) => simple fuel source line assignments words (rs ++ [r]) rest
    | none =>
      match tokens with
      | (_, .word word) :: rest =>
        match words, assignment? source.rich word with
        | [], some a => simple fuel source line (assignments ++ [a]) [] rs rest
        | _, _ => simple fuel source line assignments (words ++ [word]) rs rest
      | (_, .failure e) :: _ => .error e
      | _ =>
        if assignments.isEmpty && words.isEmpty && rs.isEmpty then .error (unexpected tokens)
        else .ok (.simple line assignments words rs, tokens)

/-- The words up to the end of a line or a semicolon. -/
def wordsUpToEnd (tokens : List Scan.Placed) : List Word × List Scan.Placed :=
  match tokens with
  | (_, .word word) :: rest =>
    let (words, rest) := wordsUpToEnd rest
    (word :: words, rest)
  | tokens => ([], tokens)

/-- The alternatives of an arm of a choice, and the tokens after the closing parenthesis. -/
def alternatives (tokens : List Scan.Placed) :
    Except ScriptError (List Word × List Scan.Placed) :=
  match tokens with
  | (_, .word word) :: (_, .operator "|") :: rest =>
    (alternatives rest).map fun (words, rest) => (word :: words, rest)
  | (_, .word word) :: (_, .operator ")") :: rest => .ok ([word], rest)
  | (_, .failure e) :: _ => .error e
  | _ :: rest => .error (unexpected rest (shown ")"))
  | [] => .error (unexpected [] (shown ")"))

/-- The words that end a list of commands. -/
def closers : List String := ["then", "else", "elif", "fi", "do", "done", "esac", "\x7d"]

/-- A token that ends a list of commands stands in front. -/
def atCloser (tokens : List Scan.Placed) : Bool :=
  match tokens with
  | [] => true
  | (_, .operator op) :: _ => [")", ";;", ";&", ";;&"].contains op
  | (_, token) :: _ => (plainText? token).any closers.contains

/-- No command can stand in front. -/
def atEnd (tokens : List Scan.Placed) : Bool :=
  match tokens with
  | [] => true
  | (_, .operator op) :: _ => op != "("
  | (_, .lineEnd) :: _ => true
  | _ => false

/-- Joins the commands of a list. -/
def joined : List Command → Command
  | [c] => c
  | cs => .sequence cs

/-- What follows an arm that ends with an operator. -/
def sequel? (op : String) : Option Sequel :=
  match op with
  | ";;" => some .leave
  | ";&" => some .through
  | ";;&" => some .onward
  | _ => none

/-! ### Conditions -/

namespace Condition

/-- A condition and the tokens after it. -/
abbrev Part := Except ScriptError (Proposition × List Scan.Placed)

/-- The signs that ask for a property of a word. -/
def properties : String := "abcdefghknoprstuvwxzGLNORS"

/-- The signs that compare two words. -/
def relations : List String :=
  ["=", "==", "!=", "=~", "-eq", "-ne", "-lt", "-le", "-gt", "-ge", "-nt", "-ot", "-ef"]

/-- The word asks for a property. -/
def isProperty (text : String) : Bool :=
  match text.toList with
  | ['-', c] => properties.toList.contains c
  | _ => false

/-- A mistake near the front of the tokens. -/
def mistake {α : Type} (what : String) (tokens : List Scan.Placed) : Except ScriptError α :=
  match tokens with
  | [] => .error (.unexpectedEnd none)
  | (_, .failure e) :: _ => .error e
  | (_, token) :: _ => .error (.condition what (Token.plain token))

/-- A token between the quotes of a message. -/
def shownToken (tokens : List Scan.Placed) : String :=
  ScriptError.shown ((tokens.head?.map fun (_, token) => Token.plain token).getD "")

/-- The word that an operator is applied to. -/
def operand (kind : String) (tokens : List Scan.Placed) :
    Except ScriptError (Word × List Scan.Placed) :=
  match tokens with
  | (line, .word w) :: rest =>
    if isWord "]]" (.word w) then
      mistake s!"unexpected argument {shownToken tokens} to conditional {kind} operator"
        (if rest.isEmpty then [(line, .word w)] else rest)
    else .ok (w, rest)
  | tokens =>
    mistake s!"unexpected argument {shownToken tokens} to conditional {kind} operator" tokens

mutual

/-- Parts of which one holds. -/
def anyOf (fuel : Nat) (tokens : List Scan.Placed) : Part :=
  match fuel with
  | 0 => mistake "" tokens
  | fuel + 1 => do
    let (p, rest) ← allOf fuel (skipLineEnds tokens)
    match skipLineEnds rest with
    | (_, .operator "||") :: rest => do
      let (q, rest) ← anyOf fuel rest
      return (.either p q, rest)
    | rest => return (p, rest)

/-- Parts that all hold. -/
def allOf (fuel : Nat) (tokens : List Scan.Placed) : Part :=
  match fuel with
  | 0 => mistake "" tokens
  | fuel + 1 => do
    let (p, rest) ← one fuel (skipLineEnds tokens)
    match skipLineEnds rest with
    | (_, .operator "&&") :: rest => do
      let (q, rest) ← allOf fuel rest
      return (.both p q, rest)
    | rest => return (p, rest)

/-- A single part. -/
def one (fuel : Nat) (tokens : List Scan.Placed) : Part :=
  match fuel with
  | 0 => mistake "" tokens
  | fuel + 1 =>
    match tokens with
    | (_, .operator "(") :: rest => do
      let (p, rest) ← anyOf fuel rest
      match rest with
      | (_, .operator ")") :: rest => return (p, rest)
      | rest => mistake s!"unexpected token {shownToken rest}, expected \x60)'" (rest.drop 1)
    | (line, .word w) :: rest =>
      let text := (plainText? (.word w)).getD ""
      if text == "!" then do
        let (p, rest) ← one fuel (skipLineEnds rest)
        return (.not p, rest)
      else if text == "]]" then mistake "" (if rest.isEmpty then [(line, .word w)] else rest)
      else if isProperty text then do
        let (w, rest) ← operand "unary" rest
        return (.property text w, rest)
      else
        match skipLineEnds rest with
        | (_, .word sign) :: more =>
          let op := (plainText? (.word sign)).getD ""
          if relations.contains op then do
            let (b, rest) ← operand "binary" more
            return (.relation w op b, rest)
          else if op == "]]" then return (.word w, rest)
          else mistake "conditional binary operator expected" rest
        | (_, .operator op) :: more =>
          if op == "<" || op == ">" then do
            let (b, rest) ← operand "binary" more
            return (.relation w op b, rest)
          else if ["&&", "||", ")"].contains op then return (.word w, rest)
          else mistake s!"unexpected token {shownToken rest}, conditional binary operator expected" rest
        | rest => mistake "unexpected token, conditional binary operator expected" rest
    | tokens => mistake "" tokens

end

/-- A condition up to the closing brackets. -/
def read (_source : Reading) (tokens : List Scan.Placed) : Part := do
  let (p, rest) ← anyOf (4 * tokens.length + 8) tokens
  let rest := skipLineEnds rest
  match rest with
  | (_, token) :: after =>
    if isWord "]]" token then return (p, after)
    else mistake "syntax error in conditional expression" rest
  | [] => mistake "" []

end Condition

/-! ### Commands -/

mutual

/-- Commands up to a token that ends their list, before which at least one stands unless the list
may be empty. With `oneLine` the list ends with its line and at no token. -/
def commandList (fuel : Nat) (source : Reading) (mayBeEmpty oneLine : Bool)
    (taken : List Command) (tokens : List Scan.Placed) : Parsed :=
  match fuel with
  | 0 => .error (unexpected tokens)
  | fuel + 1 =>
    let tokens := if oneLine && !taken.isEmpty then tokens else skipLineEnds tokens
    let ends := if oneLine || taken.isEmpty && !mayBeEmpty then tokens.isEmpty else atCloser tokens
    if ends then .ok (joined taken, tokens)
    else do
      let (command, rest) ← andOr fuel source tokens
      match rest with
      | (_, .operator ";") :: rest =>
        lineOrMore fuel source oneLine (taken ++ [command]) rest
      | (_, .operator "&") :: rest =>
        lineOrMore fuel source oneLine (taken ++ [.background command]) rest
      | (_, .lineEnd) :: rest =>
        if oneLine then .ok (joined (taken ++ [command]), rest)
        else commandList fuel source mayBeEmpty oneLine (taken ++ [command]) rest
      | rest =>
        if oneLine && !rest.isEmpty then .error (unexpected rest)
        else .ok (joined (taken ++ [command]), rest)

/-- What follows the separator of two commands. -/
def lineOrMore (fuel : Nat) (source : Reading) (oneLine : Bool) (taken : List Command)
    (tokens : List Scan.Placed) : Parsed :=
  match fuel with
  | 0 => .error (unexpected tokens)
  | fuel + 1 =>
    match tokens with
    | (_, .lineEnd) :: rest =>
      if oneLine then .ok (joined taken, rest)
      else commandList fuel source true oneLine taken rest
    | tokens => commandList fuel source true oneLine taken tokens

/-- Pipelines joined by the two connectives. -/
def andOr (fuel : Nat) (source : Reading) (tokens : List Scan.Placed) : Parsed :=
  match fuel with
  | 0 => .error (unexpected tokens)
  | fuel + 1 => do
    let (first, rest) ← pipeline fuel source tokens
    moreAndOr fuel source first rest

/-- The pipelines after the first. -/
def moreAndOr (fuel : Nat) (source : Reading) (first : Command) (tokens : List Scan.Placed) :
    Parsed :=
  match fuel with
  | 0 => .error (unexpected tokens)
  | fuel + 1 =>
    match tokens with
    | (_, .operator "&&") :: rest => do
      let (second, rest) ← pipeline fuel source (skipLineEnds rest)
      moreAndOr fuel source (.both first second) rest
    | (_, .operator "||") :: rest => do
      let (second, rest) ← pipeline fuel source (skipLineEnds rest)
      moreAndOr fuel source (.either first second) rest
    | tokens => .ok (first, tokens)

/-- Commands joined by bars, perhaps negated, perhaps with their time told. -/
def pipeline (fuel : Nat) (source : Reading) (tokens : List Scan.Placed) : Parsed :=
  match fuel with
  | 0 => .error (unexpected tokens)
  | fuel + 1 => do
    match tokens with
    | (_, token) :: rest =>
      if isWord "!" token then
        if source.rich then
          let (inner, rest) ← pipeline fuel source rest
          return (.pipeline true [inner], rest)
        else
          let (commands, rest) ← joinedByBars fuel source rest
          return (.pipeline true commands, rest)
      if source.rich && isWord "time" token then
        let (short, rest) := match rest with
          | (line, token) :: more =>
            if isWord "-p" token then (true, more) else (false, (line, token) :: more)
          | [] => (false, [])
        if atEnd rest then return (.timed short .nothing, rest)
        let (inner, rest) ← pipeline fuel source rest
        return (.timed short inner, rest)
    | [] => pure ()
    let (commands, rest) ← joinedByBars fuel source tokens
    match commands with
    | [single] => return (single, rest)
    | commands => return (.pipeline false commands, rest)

/-- Commands joined by bars. -/
def joinedByBars (fuel : Nat) (source : Reading) (tokens : List Scan.Placed) :
    Except ScriptError (List Command × List Scan.Placed) :=
  match fuel with
  | 0 => .error (unexpected tokens)
  | fuel + 1 => do
    let (first, rest) ← command fuel source tokens
    match rest with
    | (_, .operator "|") :: rest => do
      let (more, rest) ← joinedByBars fuel source (skipLineEnds rest)
      .ok (first :: more, rest)
    | (_, .operator "|&") :: rest => do
      let (more, rest) ← joinedByBars fuel source (skipLineEnds rest)
      .ok (first.withComplaints :: more, rest)
    | rest => .ok ([first], rest)

/-- One command. -/
def command (fuel : Nat) (source : Reading) (tokens : List Scan.Placed) : Parsed :=
  match fuel with
  | 0 => .error (unexpected tokens)
  | fuel + 1 =>
    match withAliases source maxAliases [] tokens with
    | [] => .error (unexpected [])
    | (line, token) :: rest =>
      let tokens := (line, token) :: rest
      match token with
      | .operator "(" => do
        let (body, rest) ← commandList fuel source false false [] rest
        match rest with
        | (_, .operator ")") :: rest => do
          let (rs, rest) ← redirections fuel source rest
          .ok (.subshell body rs, rest)
        | rest => .error (unexpected rest (shown ")"))
      | .expressions parts => do
        let (rs, rest) ← redirections fuel source rest
        .ok (.calculate line (List.intercalate [.literal [';']] parts) rs, rest)
      | _ =>
        match plainText? token with
        | some "\x7b" => do
          let (body, rest) ← commandList fuel source false false [] rest
          let rest ← expectWord "\x7d" rest
          let (rs, rest) ← redirections fuel source rest
          .ok (.group body rs, rest)
        | some "if" => do
          let (make, rest) ← branches fuel source rest
          let (rs, rest) ← redirections fuel source rest
          .ok (make rs, rest)
        | some "while" => loop fuel source false rest
        | some "until" => loop fuel source true rest
        | some "for" =>
          match rest with
          | (_, .expressions parts) :: rest => loopWith fuel source line parts rest
          | rest => each fuel source rest
        | some "case" => choice fuel source rest
        | some name =>
          if reserved.contains name then .error (unexpected tokens)
          else if source.rich && name == "[[" then do
            let (p, rest) ← Condition.read source rest
            let (rs, rest) ← redirections fuel source rest
            .ok (.propose line p rs, rest)
          else if source.rich && name == "function" then define fuel source rest
          else if source.rich && name == "select" then menu fuel source rest
          else
            match rest with
            | (_, .operator "(") :: (_, .operator ")") :: rest => do
              if !isName name && !source.rich then throw .badFunctionName
              let (body, rest) ← command fuel source (skipLineEnds rest)
              .ok (.define name.toList body, rest)
            | (_, .operator "(") :: rest =>
              if source.rich then .error (unexpected ((line, .operator "(") :: rest))
             
             
             
              else if name.toList.contains '=' then .error (unexpected ((line, .operator "(") :: rest))
              else .error (unexpected rest (shown ")"))
            | _ => simple fuel source line [] [] [] tokens
        | none => simple fuel source line [] [] [] tokens

/-- A function after the word that announces it. -/
def define (fuel : Nat) (source : Reading) (tokens : List Scan.Placed) : Parsed :=
  match fuel with
  | 0 => .error (unexpected tokens)
  | fuel + 1 =>
    match tokens with
    | (_, .word [.plain name]) :: rest => do
      let rest := match rest with
        | (_, .operator "(") :: (_, .operator ")") :: rest => rest
        | rest => rest
      let (body, rest) ← command fuel source (skipLineEnds rest)
      .ok (.define name body, rest)
    | tokens => .error (unexpected tokens)

/-- A choice by the one who types, after its first word. -/
def menu (fuel : Nat) (source : Reading) (tokens : List Scan.Placed) : Parsed :=
  match fuel with
  | 0 => .error (unexpected tokens)
  | fuel + 1 => do
    match ← each fuel source tokens with
    | (.each name words body rs, rest) => .ok (.menu name words body rs, rest)
    | found => .ok found

/-- A loop with expressions after them. -/
def loopWith (fuel : Nat) (source : Reading) (line : Nat) (parts : List Word)
    (tokens : List Scan.Placed) : Parsed :=
  match fuel with
  | 0 => .error (unexpected tokens)
  | fuel + 1 => do
    let rest := match tokens with
      | (_, .operator ";") :: rest => rest
      | rest => rest
    let (body, rest) ← loopBody fuel source (skipLineEnds rest)
    let (rs, rest) ← redirections fuel source rest
    match parts with
    | [start, condition, step] => .ok (.loopWith line start condition step body rs, rest)
    | _ => .error (unexpected tokens)

/-- A branch after its first word. -/
def branches (fuel : Nat) (source : Reading) (tokens : List Scan.Placed) :
    Except ScriptError ((List Redirection → Command) × List Scan.Placed) :=
  match fuel with
  | 0 => .error (unexpected tokens)
  | fuel + 1 => do
    let (condition, rest) ← commandList fuel source false false [] tokens
    let rest ← expectWord "then" rest
    let (body, rest) ← commandList fuel source false false [] rest
    match rest with
    | (_, token) :: after =>
      match plainText? token with
      | some "elif" => do
        let (make, rest) ← branches fuel source after
        .ok (.branch condition body (some (make [])), rest)
      | some "else" => do
        let (otherwise, rest) ← commandList fuel source false false [] after
        let rest ← expectWord "fi" rest
        .ok (.branch condition body (some otherwise), rest)
      | some "fi" => .ok (.branch condition body none, after)
      | _ => .error (unexpected rest (shown "fi"))
    | [] => .error (unexpected [] (shown "fi"))

/-- A conditional loop after its first word. -/
def loop (fuel : Nat) (source : Reading) (inverted : Bool) (tokens : List Scan.Placed) : Parsed :=
  match fuel with
  | 0 => .error (unexpected tokens)
  | fuel + 1 => do
    let (condition, rest) ← commandList fuel source false false [] tokens
    let (body, rest) ← loopBody fuel source rest
    let (rs, rest) ← redirections fuel source rest
    .ok (.loop inverted condition body rs, rest)

/-- The body of a loop with the words around it. -/
def loopBody (fuel : Nat) (source : Reading) (tokens : List Scan.Placed) : Parsed :=
  match fuel with
  | 0 => .error (unexpected tokens)
  | fuel + 1 => do
    let braced := source.rich && (tokens.head?.any fun (_, token) => isWord "\x7b" token)
    let rest ← expectWord (if braced then "\x7b" else "do") tokens
    let (body, rest) ← commandList fuel source false false [] rest
    let rest ← expectWord (if braced then "\x7d" else "done") rest
    .ok (body, rest)

/-- A loop over words after its first word. -/
def each (fuel : Nat) (source : Reading) (tokens : List Scan.Placed) : Parsed :=
  match fuel with
  | 0 => .error (unexpected tokens)
  | fuel + 1 =>
    match tokens with
    | (_, token) :: rest =>
      match plainText? token with
      | none => .error .badLoopVariable
      | some name => do
        if !isName name then throw .badLoopVariable
        let (words, rest) :=
          match skipLineEnds rest with
          | (line, token) :: more =>
            if isWord "in" token then
              let (words, rest) := wordsUpToEnd more
              (some words, rest)
            else (none, (line, token) :: more)
          | [] => (none, [])
        let rest ←
          match rest with
          | (_, .operator ";") :: rest => pure rest
          | (_, .lineEnd) :: rest => pure rest
          | rest => if words.isSome then throw (unexpected rest) else pure rest
        let (body, rest) ← loopBody fuel source (skipLineEnds rest)
        let (rs, rest) ← redirections fuel source rest
        .ok (.each name.toList words body rs, rest)
    | [] => .error .badLoopVariable

/-- A choice after its first word. -/
def choice (fuel : Nat) (source : Reading) (tokens : List Scan.Placed) : Parsed :=
  match fuel with
  | 0 => .error (unexpected tokens)
  | fuel + 1 =>
    match tokens with
    | (_, .word subject) :: rest => do
      let rest ← expectWord "in" (skipLineEnds rest)
      let (arms, rest) ← choiceArms fuel source rest
      let (rs, rest) ← redirections fuel source rest
      .ok (.choice subject arms rs, rest)
    | tokens => .error (unexpected tokens (some "word"))

/-- The arms of a choice and its last word. -/
def choiceArms (fuel : Nat) (source : Reading) (tokens : List Scan.Placed) :
    Except ScriptError (List (List Word × Command × Sequel) × List Scan.Placed) :=
  match fuel with
  | 0 => .error (unexpected tokens)
  | fuel + 1 =>
    match skipLineEnds tokens with
    | [] => .error (unexpected [] (shown ")"))
    | (line, token) :: rest =>
      if isWord "esac" token then .ok ([], rest)
      else do
        let tokens := if isOperator "(" token then rest else (line, token) :: rest
        let (patterns, rest) ← alternatives tokens
        let (body, rest) ← commandList fuel source true false [] rest
        match rest with
        | (line, .operator op) :: rest =>
          match sequel? op with
          | some sequel => do
            let (arms, rest) ← choiceArms fuel source rest
            .ok ((patterns, body, sequel) :: arms, rest)
          | none => .error (unexpected ((line, .operator op) :: rest) (shown ";;"))
        | (_, token) :: after =>
          if isWord "esac" token then .ok ([(patterns, body, .leave)], after)
          else .error (unexpected rest (shown ";;"))
        | [] => .error (unexpected [] (shown ";;"))

end

/-- As many steps as tokens and aliases may need. -/
def enough (source : Reading) (tokens : List Scan.Placed) : Nat :=
  20 * (tokens.length + (source.aliases.map fun a => a.2.length).foldl (· + ·) 0) + 40

/-- The line of the token at which the next complete command goes wrong: the last one up to which
the tokens could be read on. -/
def mistakeLine (source : Reading) (tokens : List Scan.Placed) (otherwise : Nat) : Nat :=
  let ends (n : Nat) : Bool :=
    match commandList (enough source tokens) source false true [] (skipLineEnds (tokens.take n)) with
    | .error (.unexpected _ _ _) | .error (.condition _ _) => true
    | _ => false
  match (List.range (tokens.length + 1)).find? ends with
  | some n => ((tokens[n - 1]?).map Prod.fst).getD otherwise
  | none => otherwise

/-- The next complete command of a script, and the tokens after its line. No command is left when
only line ends are. -/
def complete (source : Reading) (tokens : List Scan.Placed) :
    Except ScriptError (Option (Command × List Scan.Placed)) :=
  match skipLineEnds tokens with
  | [] => .ok none
  | tokens => do
    let (command, rest) ← commandList (enough source tokens) source false true [] tokens
    .ok (some (command, rest))

end Codemod.Shell.Grammar
