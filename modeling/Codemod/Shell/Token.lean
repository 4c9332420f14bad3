import Codemod.Shell.Command

/-!
# Tokens of a shell script

A script is a sequence of words, operators and line ends. Comments and blanks between them are
dropped; a backslash before a line end joins two lines.

There are two languages: the plain one, and the rich one with lists, conditions in double brackets,
expressions as commands, and more ways to change a value.

- `Token` — words, operators, line ends
- `Scan.pieces` — the pieces of a word up to where it ends
- `Scan.tokens` — the tokens of a script
-/

namespace Codemod.Shell

/-- Why a script cannot be read. -/
inductive ScriptError where
  | unterminatedQuote (quote : Char)
  | unterminatedBackquote
  /-- A parenthesis is not closed. -/
  | unclosed
  /-- What closes an expansion is missing. -/
  | missing (text : String)
  | badSubstitution
  | badLoopVariable
  | badFunctionName
  /-- A token that cannot stand here: what it is, its text, and what was expected. -/
  | unexpected (what text : String) (expected : Option String)
  | unexpectedEnd (expected : Option String)
  /-- A condition between double brackets is wrong, near a token. -/
  | condition (what : String) (near : String)
deriving DecidableEq

namespace ScriptError

/-- How the error is reported in the plain language. -/
def message : ScriptError → String
  | unterminatedQuote _ => "Syntax error: Unterminated quoted string"
  | unterminatedBackquote => "Syntax error: EOF in backquote substitution"
  | unclosed => "Syntax error: end of file unexpected (expecting \")\")"
  | missing text => "Syntax error: Missing '" ++ text ++ "'"
  | badSubstitution => "Bad substitution"
  | badLoopVariable => "Syntax error: Bad for loop variable"
  | badFunctionName => "Syntax error: Bad function name"
  | unexpected what _ none => s!"Syntax error: {what} unexpected"
  | unexpected what _ (some expected) => s!"Syntax error: {what} unexpected (expecting {expected})"
  | unexpectedEnd none => "Syntax error: end of file unexpected"
  | unexpectedEnd (some expected) =>
    s!"Syntax error: end of file unexpected (expecting {expected})"
  | condition what _ => what

/-- The error is that the script ends too early. -/
def isAtEnd : ScriptError → Bool
  | unterminatedQuote _ | unterminatedBackquote | unclosed | missing _ | unexpectedEnd _ => true
  | _ => false

/-- A text between the quotes of a message. -/
def shown (text : String) : String := "\x60" ++ text ++ "'"

/-- How the error is reported in the rich language, and whether the line is shown too. -/
def richMessage : ScriptError → String × Bool
  | unterminatedQuote quote => (matching (String.singleton quote), false)
  | unterminatedBackquote => (matching "\x60", false)
  | unclosed => (matching ")", false)
  | missing text => (matching (String.ofList (text.toList.take 1)), false)
  | badSubstitution => ("bad substitution", false)
  | badLoopVariable => ("syntax error: bad loop variable", false)
  | badFunctionName => ("not a valid identifier", false)
  | unexpected _ text _ => ("syntax error near unexpected token " ++ shown text, true)
  | unexpectedEnd _ => ("syntax error: unexpected end of file", false)
  | condition _ near => ("syntax error near " ++ shown near, true)
where
  /-- Something is not closed. -/
  matching (text : String) : String := "unexpected EOF while looking for matching " ++ shown text

end ScriptError

/-- A token. -/
inductive Token where
  | word (pieces : Word)
  | operator (text : String)
  /-- The number of the stream that the next operator redirects. -/
  | stream (number : Nat)
  /-- A text to be read, by its place among the texts of the script. -/
  | text (place : Nat)
  /-- Expressions between double parentheses. -/
  | expressions (parts : List Word)
  | lineEnd
  | failure (error : ScriptError)

namespace Scan

/-- A blank within a line. -/
def isGap (c : Char) : Bool := c == ' ' || c == '\t'

/-- A character that ends a word. -/
def endsWord (c : Char) : Bool :=
  isGap c || c == '\n' || c == ';' || c == '&' || c == '|' || c == '<' || c == '>' || c == '('
    || c == ')'

/-- A character of a variable's name. -/
def isNameChar (c : Char) : Bool := c.isAlphanum || c == '_'

/-- A variable's name begins with the character. -/
def startsName (c : Char) : Bool := c.isAlpha || c == '_'

/-- A parameter that is a single sign. -/
def isSpecial (c : Char) : Bool :=
  c == '@' || c == '*' || c == '#' || c == '?' || c == '-' || c == '$' || c == '!'

/-- Where the pieces of a word end, and whether they stand between double quotes. -/
inductive Ending where
  /-- At the end of a word. -/
  | word
  /-- At the closing double quote. -/
  | quote
  /-- At the closing brace. -/
  | brace (quoted : Bool)
  /-- At the closing brace, or at a sign before it. -/
  | sign (quoted : Bool) (c : Char)
  /-- At a blank. -/
  | gap
  /-- At the end of the text, where quotes have their meaning. -/
  | whole
  /-- At the end of the text. -/
  | text
deriving DecidableEq

namespace Ending

/-- Double quotes are in force. -/
def isQuoted : Ending → Bool
  | word | gap | whole => false
  | quote | text => true
  | brace quoted => quoted
  | sign quoted _ => quoted

/-- The pieces end before the character. -/
def stops : Ending → Char → Bool
  | word, c => endsWord c
  | quote, c => c == '"'
  | brace _, c => c == '\x7d'
  | sign _ d, c => c == '\x7d' || c == d
  | gap, c => isGap c || c == '\n'
  | text, _ | whole, _ => false

end Ending

/-- The text up to the parenthesis that closes `depth` others, and what follows it. -/
def untilClosed (fuel depth : Nat) (quote : Option Char) (cs : Octets) :
    Except ScriptError (Octets × Octets) :=
  match fuel with
  | 0 => .error (.unterminatedQuote '"')
  | fuel + 1 =>
    let keep (taken : Octets) (found : Except ScriptError (Octets × Octets)) :=
      found.map fun (text, rest) => (taken ++ text, rest)
    match cs, quote with
    | [], none => .error .unclosed
    | [], some '\x60' => .error .unterminatedBackquote
    | [], some quote => .error (.unterminatedQuote quote)
    | '\\' :: c :: rest, some '\'' => keep ['\\'] (untilClosed fuel depth quote (c :: rest))
    | '\\' :: c :: rest, _ => keep ['\\', c] (untilClosed fuel depth quote rest)
    | c :: rest, some q =>
      keep [c] (untilClosed fuel depth (if c == q then none else some q) rest)
    | '(' :: rest, none => keep ['('] (untilClosed fuel (depth + 1) none rest)
    | ')' :: rest, none =>
      match depth with
      | 0 => .ok ([], rest)
      | depth + 1 => keep [')'] (untilClosed fuel depth none rest)
    | c :: rest, none =>
      let quote := if c == '\'' || c == '"' || c == '\x60' then some c else none
      keep [c] (untilClosed fuel depth quote rest)

/-- The script between backquotes, where a backslash takes away the meaning of a backquote, of a
dollar sign and of a backslash. -/
def untilBackquote : Octets → Option (Octets × Octets)
  | [] => none
  | '\x60' :: rest => some ([], rest)
  | '\\' :: c :: rest =>
    let taken := if c == '\x60' || c == '$' || c == '\\' then [c] else ['\\', c]
    (untilBackquote rest).map fun (text, rest) => (taken ++ text, rest)
  | c :: rest => (untilBackquote rest).map fun (text, rest) => (c :: text, rest)

/-- Joins plain text to the pieces after it. -/
def consPlain (cs : Octets) : Word → Word
  | .plain text :: rest => .plain (cs ++ text) :: rest
  | rest => .plain cs :: rest

/-- Joins text as it stands to the pieces after it. -/
def consLiteral (cs : Octets) : Word → Word
  | .literal text :: rest => .literal (cs ++ text) :: rest
  | rest => .literal cs :: rest

/-- The operator after a parameter's name inside braces: its sign and whether it had a colon. -/
def operator? : Octets → Option (String × Bool × Octets)
  | ':' :: '-' :: rest => some ("-", true, rest)
  | ':' :: '=' :: rest => some ("=", true, rest)
  | ':' :: '?' :: rest => some ("?", true, rest)
  | ':' :: '+' :: rest => some ("+", true, rest)
  | '-' :: rest => some ("-", false, rest)
  | '=' :: rest => some ("=", false, rest)
  | '?' :: rest => some ("?", false, rest)
  | '+' :: rest => some ("+", false, rest)
  | '#' :: '#' :: rest => some ("#", true, rest)
  | '#' :: rest => some ("#", false, rest)
  | '%' :: '%' :: rest => some ("%", true, rest)
  | '%' :: rest => some ("%", false, rest)
  | _ => none

/-- What an operator takes of a parameter. -/
def useOf (sign : String) (colon : Bool) (word : Word) : Use :=
  match sign with
  | "-" => .default colon word
  | "=" => .assign colon word
  | "?" => .require colon word
  | "+" => .alternative colon word
  | "#" => .trimFront colon word
  | _ => .trimEnd colon word

/-- The name of a parameter inside braces. -/
def bracedName : Octets → Octets × Octets
  | c :: rest =>
    if startsName c then (c :: rest).span isNameChar
    else if c.isDigit then (c :: rest).span Char.isDigit
    else if isSpecial c then ([c], rest)
    else ([], c :: rest)
  | [] => ([], [])

/-- The character of an escape between dollar quotes, and what follows it. -/
def dollarEscape : Octets → Octets × Octets
  | [] => (['\\'], [])
  | c :: rest =>
    match c with
    | 'n' => (['\n'], rest)
    | 't' => (['\t'], rest)
    | 'r' => (['\r'], rest)
    | 'a' => ([Char.ofNat 7], rest)
    | 'b' => ([Char.ofNat 8], rest)
    | 'e' | 'E' => ([Char.ofNat 27], rest)
    | 'f' => ([Char.ofNat 12], rest)
    | 'v' => ([Char.ofNat 11], rest)
    | '\\' | '\'' | '"' | '?' => ([c], rest)
    | 'x' => coded 16 2 (fun n => [Char.ofNat n]) ['\\', 'x'] rest
    | 'u' => coded 16 4 utf8 ['\\', 'u'] rest
    | 'U' => coded 16 8 utf8 ['\\', 'U'] rest
    | c =>
      if '0' ≤ c && c ≤ '7' then coded 8 3 (fun n => [Char.ofNat (n % 256)]) [] (c :: rest)
      else (['\\', c], rest)
where
  /-- The octets of a character by its number. -/
  utf8 (n : Nat) : Octets := Octets.ofString (String.singleton (Char.ofNat n))
  /-- What digits to a base stand for. -/
  coded (base most : Nat) (f : Nat → Octets) (otherwise rest : Octets) : Octets × Octets :=
    let values := ((rest.take most).map fun c =>
      if c.isDigit then c.toNat - 48
      else if 'a' ≤ c && c ≤ 'f' then c.toNat - 87
      else if 'A' ≤ c && c ≤ 'F' then c.toNat - 55
      else 99).takeWhile (· < base)
    if values.isEmpty then (otherwise, rest)
    else (f (values.foldl (fun n d => n * base + d) 0), rest.drop values.length)

/-- The text between dollar quotes, and what follows it. -/
def dollarQuoted? (fuel : Nat) (cs : Octets) : Option (Octets × Octets) :=
  match fuel, cs with
  | 0, _ | _, [] => none
  | _, '\'' :: rest => some ([], rest)
  | fuel + 1, '\\' :: rest =>
    let (found, rest) := dollarEscape rest
    (dollarQuoted? fuel rest).map fun (text, rest) => (found ++ text, rest)
  | fuel + 1, c :: rest => (dollarQuoted? fuel rest).map fun (text, rest) => (c :: text, rest)

/-- The subscript up to its closing bracket, and what follows it. -/
def subscript? (depth : Nat) : Octets → Option (Octets × Octets)
  | [] => none
  | ']' :: rest =>
    match depth with
    | 0 => some ([], rest)
    | depth + 1 => (subscript? depth rest).map fun (text, rest) => (']' :: text, rest)
  | c :: rest =>
    (subscript? (if c == '[' then depth + 1 else depth) rest).map fun (text, rest) =>
      (c :: text, rest)

/-- The scope of a replacement, after its first slash. -/
def scopeOf : Octets → Scope × Octets
  | '/' :: rest => (.every, rest)
  | '#' :: rest => (.front, rest)
  | '%' :: rest => (.ending, rest)
  | rest => (.first, rest)

/-- The sign that changes cases, and whether all letters are changed. -/
def caseSign? : Octets → Option (Case × Bool × Octets)
  | '^' :: '^' :: rest => some (.upper, true, rest)
  | '^' :: rest => some (.upper, false, rest)
  | ',' :: ',' :: rest => some (.lower, true, rest)
  | ',' :: rest => some (.lower, false, rest)
  | '~' :: '~' :: rest => some (.other, true, rest)
  | '~' :: rest => some (.other, false, rest)
  | _ => none

/-- Pieces and what follows them. -/
abbrev Read := Except ScriptError (Word × Octets)

/-- Puts something in front of pieces that are read later. -/
def before (f : Word → Word) (found : Read) : Read :=
  found.map fun (pieces, rest) => (f pieces, rest)

mutual

/-- The pieces of a word up to its ending. -/
def pieces (rich : Bool) (fuel : Nat) (ending : Ending) (cs : Octets) : Read :=
  match fuel with
  | 0 => .error (.unterminatedQuote '"')
  | fuel + 1 =>
    let quoted := ending.isQuoted
    match cs with
    | [] =>
      match ending with
      | .word | .text | .gap | .whole => .ok ([], [])
      | .quote => .error (.unterminatedQuote '"')
      | .brace _ | .sign _ _ => .error (.missing "\x7d")
    | '\\' :: '\n' :: rest => pieces rich fuel ending rest
    | '\\' :: c :: rest =>
      let escapes := !quoted || c == '$' || c == '\x60' || c == '\\'
        || (c == '"' && ending != .text) || (c == '\x7d' && ending == .brace true)
      before (consLiteral (if escapes then [c] else ['\\', c])) (pieces rich fuel ending rest)
    | '$' :: rest => do
      let (piece, rest) ← dollar rich fuel quoted rest
      before (piece :: ·) (pieces rich fuel ending rest)
    | '\x60' :: rest =>
      match untilBackquote rest with
      | none => .error .unterminatedBackquote
      | some (script, rest) => before (.output script :: ·) (pieces rich fuel ending rest)
    | c :: rest =>
      if ending.stops c then .ok ([], c :: rest)
      else if c == '\'' && !quoted then
        match rest.span (· != '\'') with
        | (_, []) => .error (.unterminatedQuote '\'')
        | (text, _ :: rest) => before (.literal text :: ·) (pieces rich fuel ending rest)
      else if c == '"' && ending != .text then do
        let (inner, rest) ← pieces rich fuel .quote rest
        before (.quotes inner :: ·) (pieces rich fuel ending (rest.drop 1))
      else
        before ((if quoted then consLiteral [c] else consPlain [c])) (pieces rich fuel ending rest)

/-- The parameter between braces, and what is taken of it. -/
def braced (rich : Bool) (fuel : Nat) (quoted : Bool) (cs : Octets) :
    Except ScriptError (Piece × Octets) :=
  match fuel with
  | 0 => .error (.unterminatedQuote '"')
  | fuel + 1 =>
    let invalid (tail : Octets) : Except ScriptError (Piece × Octets) := do
      let (_, rest) ← pieces rich fuel (.brace quoted) tail
      return (.parameter [] (.invalid (cs.take (cs.length - rest.length))), rest.drop 1)
    match cs with
    | '#' :: '\x7d' :: rest => .ok (.parameter ['#'] .value, rest)
    | '#' :: rest =>
      match bracedName rest with
      | ([], rest) => invalid rest
      | (name, '\x7d' :: rest) => .ok (.parameter name .length, rest)
      | (name, rest) => do
        match ← indexed rich fuel name rest with
        | (some index, '\x7d' :: rest) => return (.element name index .length, rest)
        | (_, rest) => invalid rest
    | cs =>
      let (refers, cs) := match cs with
        | '!' :: c :: rest =>
          if rich && (startsName c || c.isDigit || c == '#') then (true, c :: rest) else (false, cs)
        | cs => (false, cs)
      match bracedName cs with
      | ([], rest) => invalid rest
      | (name, rest) => do
        let (index, rest) ← indexed rich fuel name rest
        let isWhole := index.any fun i =>
          match i with
          | .place _ => false
          | _ => true
        let make (use : Use) : Piece :=
          let use := if !refers then use else if isWhole then .keys else .referred use
          match index with
          | none => .parameter name use
          | some index => .element name index use
        match refers, rest with
        | true, '*' :: '\x7d' :: rest => return (.parameter name (.names true), rest)
        | true, '@' :: '\x7d' :: rest => return (.parameter name (.names false), rest)
        | _, '\x7d' :: rest => return (make .value, rest)
        | _, rest =>
          match operator? rest with
          | some (sign, colon, rest) => do
            let (word, rest) ←
              pieces rich fuel (.brace (quoted && !(rich && (sign == "#" || sign == "%")))) rest
            return (make (useOf sign colon word), rest.drop 1)
          | none =>
            if !rich then invalid rest
            else
              match ← richUse fuel rest with
              | some (use, rest) => return (make use, rest)
              | none => invalid rest

/-- The subscript after a name, if there is one. -/
def indexed (rich : Bool) (fuel : Nat) (_name cs : Octets) :
    Except ScriptError (Option Index × Octets) :=
  match fuel with
  | 0 => .error (.unterminatedQuote '"')
  | fuel + 1 =>
    match rich, cs with
    | true, '[' :: rest =>
      match subscript? 0 rest with
      | none => .ok (none, cs)
      | some (['@'], rest) => .ok (some .each, rest)
      | some (['*'], rest) => .ok (some .joined, rest)
      | some (text, rest) => do
        let (inner, _) ← pieces rich fuel .whole text
        return (some (.place inner), rest)
    | _, _ => .ok (none, cs)

/-- What the rich language alone takes of a parameter. -/
def richUse (fuel : Nat) (cs : Octets) :
    Except ScriptError (Option (Use × Octets)) :=
  match fuel with
  | 0 => .error (.unterminatedQuote '"')
  | fuel + 1 =>
    match cs with
    | ':' :: rest => do
      match ← pieces true fuel (.sign true ':') rest with
      | (offset, ':' :: rest) =>
        let (length, rest) ← pieces true fuel (.brace true) rest
        return some (.slice offset (some length), rest.drop 1)
      | (offset, rest) => return some (.slice offset none, rest.drop 1)
    | '/' :: rest => do
      let (scope, rest) := scopeOf rest
      match ← pieces true fuel (.sign false '/') rest with
      | (pattern, '/' :: rest) =>
        let (replacement, rest) ← pieces true fuel (.brace false) rest
        return some (.replace scope pattern replacement, rest.drop 1)
      | (pattern, rest) => return some (.replace scope pattern [], rest.drop 1)
    | '@' :: letter :: '\x7d' :: rest =>
      return if "QUuLEAaPKk".toList.contains letter then some (.transformed letter, rest) else none
    | cs =>
      match caseSign? cs with
      | some (change, all, rest) => do
        let (pattern, rest) ← pieces true fuel (.brace false) rest
        return some (.cased change all pattern, rest.drop 1)
      | none => return none

/-- The piece after a dollar sign. -/
def dollar (rich : Bool) (fuel : Nat) (quoted : Bool) (cs : Octets) :
    Except ScriptError (Piece × Octets) :=
  match fuel with
  | 0 => .error (.unterminatedQuote '"')
  | fuel + 1 =>
    let plain : Except ScriptError (Piece × Octets) :=
      .ok (if quoted then .literal ['$'] else .plain ['$'], cs)
    match cs with
    | '(' :: '(' :: rest =>
      match untilClosed (rest.length + 1) 0 none rest with
      | .ok (text, ')' :: after) => do
        let (inner, _) ← pieces rich fuel .text text
        return (.arithmetic inner, after)
      | _ => .error (.missing "))")
    | '(' :: rest =>
      (untilClosed (rest.length + 1) 0 none rest).map fun (text, rest) => (.output text, rest)
    | '\x7b' :: rest => braced rich fuel quoted rest
    | '[' :: rest =>
      match if rich then subscript? 0 rest else none with
      | some (text, rest) => do
        let (inner, _) ← pieces rich fuel .text text
        return (.arithmetic inner, rest)
      | none => plain
    | '\'' :: rest =>
      if rich && !quoted then
        match dollarQuoted? (rest.length + 1) rest with
        | some (text, rest) => .ok (.literal text, rest)
        | none => .error (.unterminatedQuote '\'')
      else plain
    | c :: rest =>
      if startsName c then
        let (name, rest) := (c :: rest).span isNameChar
        .ok (.parameter name .value, rest)
      else if c.isDigit || isSpecial c then .ok (.parameter [c] .value, rest)
      else if rich && c == '"' && !quoted then do
        let (inner, rest) ← pieces rich fuel .quote rest
        return (.quotes inner, rest.drop 1)
      else plain
    | [] => plain

end

/-! ### Texts after a line -/

/-- A text that begins on the next line. -/
structure Announced where
  delimiter : Octets
  /-- Nothing in the text is expanded. -/
  verbatim : Bool
  /-- Tabs at the front of lines are dropped. -/
  stripTabs : Bool

/-- The text of the pieces of a delimiter, and whether any of it was quoted. -/
def delimiterText (fuel : Nat) : Word → Octets × Bool
  | [] => ([], false)
  | piece :: rest =>
    let (text, quoted) := delimiterText fuel rest
    match piece, fuel with
    | .plain t, _ => (t ++ text, quoted)
    | .literal t, _ => (t ++ text, true)
    | .quotes inner, fuel + 1 => ((delimiterText fuel inner).1 ++ text, true)
    | _, _ => (text, quoted)

/-- The text up to the delimiter, and the lines after it. Without a delimiter the last line has no
line feed. -/
def takeText (a : Announced) : List Octets → Octets × List Octets
  | [] => ([], [])
  | line :: rest =>
    let line := if a.stripTabs then line.dropWhile (· == '\t') else line
    if line == a.delimiter then ([], rest)
    else
      let (text, after) := takeText a rest
      (line ++ (if rest.isEmpty then [] else ['\n']) ++ text, after)

/-- The texts that were announced on a line, and what follows them. -/
def takeTexts (rich : Bool) : List Announced → List Octets → List Word × List Octets
  | [], lines => ([], lines)
  | a :: more, lines =>
    let (body, lines) := takeText a lines
    let word :=
      if a.verbatim then [.literal body]
      else
        match pieces rich (body.length + 1) .text body with
        | .ok (word, _) => word
        | .error _ => [.literal body]
    let (words, lines) := takeTexts rich more lines
    (word :: words, lines)

/-! ### Tokens -/

/-- The operators of more than one character, longest first. -/
def operators (rich : Bool) : List String :=
  (if rich then ["&>>", "<<<", ";;&", "&>", "|&", ";&"] else [])
    ++ ["<<-", "&&", "||", ";;", "<<", ">>", "<&", ">&", "<>", ">|"]

/-- The operator at the front of a text. -/
def operatorAt? (rich : Bool) (cs : Octets) : Option (String × Octets) :=
  match (operators rich).find? fun op => op.toList.isPrefixOf cs with
  | some op => some (op, cs.drop op.length)
  | none =>
    match cs with
    | c :: rest => if endsWord c && !isGap c && c != '\n' then some (c.toString, rest) else none
    | [] => none

/-- A token and the line it is on. -/
abbrev Placed := Nat × Token

/-- The number of line feeds in a text that was taken. -/
def lineFeeds (cs rest : Octets) : Nat := (cs.take (cs.length - rest.length)).count '\n'

/-- What may stand next. -/
inductive Expected where
  /-- A command. -/
  | command
  /-- Words of a command. -/
  | words
  /-- A name to loop over, or expressions. -/
  | loop
  /-- A regular expression. -/
  | pattern
  /-- Words of a list. -/
  | list
deriving DecidableEq

/-- What may stand after a word that is the path of a process. -/
def Expected.afterProcess (e : Expected) : Expected := if e == .list then .list else .words

/-- What may stand after an operator. -/
def Expected.afterOperator (op : String) : Expected :=
  if [";", "&", "&&", "||", "|", "|&", "(", ";;", ";&", ";;&"].contains op then .command else .words

/-- What may stand after a word. -/
def Expected.afterWord (e : Expected) : Word → Expected
  | [.plain text] =>
    let text := String.ofList text
    if e == .list then .list
    else if text == "=~" then .pattern
    else if e == .command && ["if", "then", "elif", "else", "while", "until", "do", "!", "\x7b",
        "time"].contains text then .command
    else if e == .command && text == "for" then .loop
    else .words
  | _ => if e == .list then .list else .words

/-- The text is a name with the sign of an assignment, after which a list may stand. -/
def opensList (text : Octets) : Bool :=
  match text.span isNameChar with
  | (c :: _, ['=']) | (c :: _, ['+', '=']) => startsName c
  | _ => false

/-- The element of a list at the front of a text, which is assigned: its name, its subscript, and
the text from the sign of the assignment on. Inside a list there is no name. -/
def targetAt? (unnamed : Bool) (cs : Octets) : Option (Octets × Octets × Octets) :=
  match if unnamed then ([], cs) else cs.span isNameChar with
  | (name, '[' :: inner) =>
    if name.isEmpty != unnamed || name.head?.any Char.isDigit then none
    else
      match subscript? 0 inner with
      | some (index, '=' :: rest) => some (name, index, '=' :: rest)
      | some (index, '+' :: '=' :: rest) => some (name, index, '+' :: '=' :: rest)
      | _ => none
  | _ => none

/-- The tokens of a script from a line on, and the texts among them. A failure ends the tokens. -/
def tokensFrom (rich : Bool) (fuel line count : Nat) (expected : Expected)
    (announced : List Announced) (cs : Octets) : List Placed × List Word :=
  match fuel with
  | 0 => ([], [])
  | fuel + 1 =>
    let goOn (token : Token) (expected : Expected) (rest : Octets) : List Placed × List Word :=
      let (tokens, texts) :=
        tokensFrom rich fuel (line + lineFeeds cs rest) count expected announced rest
      ((line, token) :: tokens, texts)
    let fails (e : ScriptError) : List Placed × List Word := ([(line, .failure e)], [])
    let aWord (ending : Ending) : List Placed × List Word :=
      match pieces rich (2 * cs.length + 2) ending cs with
      | .error e => fails e
      | .ok (word, rest) =>
        match word, rest with
        | [.plain text], '(' :: after =>
          if rich && opensList text then
            match untilClosed (after.length + 1) 0 none after with
            | .error e => fails e
            | .ok (inner, rest) =>
              let found := (tokensFrom rich fuel line 0 .list [] inner).1
              let words := found.filterMap fun
                | (_, .word w) => some w
                | _ => none
              goOn (.word [.plain text, .list words]) expected rest
          else goOn (.word word) (expected.afterWord word) rest
        | [.plain text], r :: _ =>
          if (r == '<' || r == '>') && text.length == 1 && text.all Char.isDigit then
            goOn (.stream (text.foldl (fun n c => n * 10 + (c.toNat - 48)) 0)) .words rest
          else goOn (.word word) (expected.afterWord word) rest
        | _, _ => goOn (.word word) (expected.afterWord word) rest
    match cs with
    | [] => ([], [])
    | '\\' :: '\n' :: rest => tokensFrom rich fuel (line + 1) count expected announced rest
    | '#' :: rest =>
      tokensFrom rich fuel line count expected announced (rest.dropWhile (· != '\n'))
    | '\n' :: rest =>
      if announced.isEmpty then
        let (tokens, texts) := tokensFrom rich fuel (line + 1) count .command [] rest
        ((line, .lineEnd) :: tokens, texts)
      else
        let (words, lines) := takeTexts rich announced (rest.splitOn '\n')
        let after := List.intercalate ['\n'] lines
        let (tokens, texts) :=
          tokensFrom rich fuel (line + 1 + lineFeeds rest after) count .command [] after
        ((line, .lineEnd) :: tokens, words ++ texts)
    | c :: rest =>
      let process? : Option Octets := match c, rest with
        | '<', '(' :: after | '>', '(' :: after => if rich then some after else none
        | _, _ => none
      let target? : Option (Octets × Octets × Octets) :=
        if rich && (expected == .command || expected == .list) then targetAt? (expected == .list) cs
        else none
      let expressions? : Option (Octets × Octets) := match c, rest with
        | '(', '(' :: after =>
          if rich && (expected == .command || expected == .loop) then
            match untilClosed (after.length + 1) 0 none after with
            | .ok (text, ')' :: rest) => some (text, rest)
            | _ => none
          else none
        | _, _ => none
      if isGap c then tokensFrom rich fuel line count expected announced rest
      else if expected == .pattern then aWord .gap
      else if let some (name, index, after) := target? then
        match pieces rich (2 * index.length + 2) .whole index,
          pieces rich (2 * cs.length + 2) .word after with
        | .ok (inner, _), .ok (value, rest) =>
          goOn (.word (.target name inner :: value)) expected rest
        | .error e, _ | _, .error e => fails e
      else
        match process?, expressions?, operatorAt? rich cs with
        | some after, _, _ =>
          match untilClosed (after.length + 1) 0 none after with
          | .error e => fails e
          | .ok (script, rest) =>
            goOn (.word [.process (c == '<') script]) (.afterProcess expected) rest
        | none, some (text, rest), _ =>
          let parts := (text.splitOn ';').map fun part =>
            match pieces rich (part.length + 2) .text part with
            | .ok (word, _) => word
            | .error _ => [.literal part]
          goOn (.expressions parts) .words rest
        | none, none, some (op, rest) =>
          let begins := (rest.dropWhile isGap).head?.any fun c => !endsWord c
          if (op == "<<" || op == "<<-") && begins then
            match pieces rich (rest.length + 1) .word (rest.dropWhile isGap) with
            | .ok (word, rest) =>
              let (text, quoted) := delimiterText 4 word
              let a : Announced := ⟨text, quoted, op == "<<-"⟩
              let (tokens, texts) :=
                tokensFrom rich fuel line (count + 1) .words (announced ++ [a]) rest
              ((line, .operator "<<") :: (line, .text count) :: tokens, texts)
            | .error e => fails e
          else goOn (.operator (if op == "<<-" then "<<" else op)) (.afterOperator op) rest
        | none, none, none => aWord .word

/-- The tokens of a script in one of the languages, and the texts among them. -/
def tokens (rich : Bool) (script : Octets) : List Placed × List Word :=
  tokensFrom rich (script.length + 1) 1 0 .command [] script

end Scan

end Codemod.Shell
