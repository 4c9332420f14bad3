import Codemod.Decimal
import Codemod.Instance
import Codemod.Text.Quoted

/-!
# Snippets

A snippet is a small program of expressions and statements, given as an argument or kept in a file.

- `Snippet.Value` — what expressions have as values
- `Snippet.Expression`, `Snippet.Statement`, `Snippet.Target` — what snippets are made of
- `Snippet.Statement.hoisted` — the names that a function's statements declare for all of it
-/

namespace Codemod.Shell.Snippet

/-- A value. -/
inductive Value where
  | undefined
  | null
  | boolean (b : Bool)
  | number (x : Float)
  | text (s : String)
  /-- A function of every snippet, or a group of them, by its name. -/
  | builtIn (name : String)
  /-- An object by its place. -/
  | object (place : Nat)
deriving Inhabited

/-- An operation on two values. -/
inductive Operator where
  | plus
  | minus
  | times
  | dividedBy
  | remainder
  | power
  | less
  | atMost
  | greater
  | atLeast
  | equal
  | unequal
  | same
  | different
  | bitAnd
  | bitOr
  | bitXor
  | shiftLeft
  | shiftRight
  | shiftWord
  /-- The right object has a member of the left name. -/
  | member
  /-- The left value was made by the right function. -/
  | madeBy
deriving DecidableEq

/-- An operation on one value. -/
inductive Sign where
  | not
  | negative
  | positive
  | complement
  /-- The name of the value's kind. -/
  | kind
  /-- The value does not matter. -/
  | nothing
deriving DecidableEq

/-- When the second of two values counts. -/
inductive Choice where
  | whenTrue
  | whenFalse
  | whenMissing
deriving DecidableEq

/-- How a name is declared. -/
inductive Declaring where
  /-- For the function around it. -/
  | function
  /-- For the block around it. -/
  | block
  /-- For the block around it, with a value that stays. -/
  | fixed
deriving DecidableEq

mutual

/-- An expression. -/
inductive Expression where
  | value (v : Value)
  /-- The texts of expressions one after another. -/
  | template (pieces : List Expression)
  | regex (body flags : String)
  | name (n : String)
  | list (items : List Item)
  | record (fields : List Field)
  | function (name : String) (parameters : List Target) (body : List Statement) (hasSelf : Bool)
  | unary (sign : Sign) (e : Expression)
  | binary (operator : Operator) (a b : Expression)
  | choice (choice : Choice) (a b : Expression)
  | conditional (condition a b : Expression)
  | assign (target : Target) (operator : Option Operator) (value : Expression)
  /-- The target is assigned only when its value calls for the second one. -/
  | assignWhen (choice : Choice) (target : Target) (value : Expression)
  /-- The target is changed by a number; the value is that before or after. -/
  | step (target : Target) (change : Float) (before : Bool)
  /-- A member; with `lenient`, of nothing there is none. -/
  | member (object key : Expression) (lenient : Bool)
  | call (function : Expression) (arguments : List Item) (lenient : Bool)
  | make (function : Expression) (arguments : List Item)
  | delete (object key : Expression)
  | sequence (a b : Expression)

/-- An item of a list. -/
inductive Item where
  | nothing
  | one (e : Expression)
  /-- All items of another list. -/
  | all (e : Expression)

/-- A field of a record. -/
inductive Field where
  | field (key value : Expression)
  /-- All fields of another record. -/
  | all (e : Expression)

/-- What is assigned to. -/
inductive Target where
  | nothing
  | name (n : String)
  | member (object key : Expression)
  | list (targets : List Target)
  | record (targets : List Part)
  /-- A value is taken instead of nothing. -/
  | orElse (target : Target) (value : Expression)
  /-- All items that are left. -/
  | rest (target : Target)

/-- A part of a record that is taken apart. -/
inductive Part where
  | field (key : Expression) (target : Target)
  | rest (target : Target)

/-- A statement. -/
inductive Statement where
  | evaluate (e : Expression)
  | declare (kind : Declaring) (bindings : List Binding)
  /-- A function that is there before its block begins. -/
  | define (name : String) (function : Expression)
  | block (body : List Statement)
  | branch (condition : Expression) (body : Statement) (otherwise : Option Statement)
  | loop (condition : Expression) (body : Statement)
  | loopAfter (body : Statement) (condition : Expression)
  | loopWith (start : Option Statement) (condition step : Option Expression) (body : Statement)
  /-- For each item of a list, or for each key. -/
  | each (kind : Option Declaring) (target : Target) (keys : Bool) (source : Expression) (body : Statement)
  | finish (value : Option Expression)
  | leaveLoop
  | nextTurn
  | fail (value : Expression)
  | attempt (body : List Statement) (rescue : Option (Option Target × List Statement))
      (last : Option (List Statement))
  | choose (subject : Expression) (cases : List Case)

/-- A declared target with its value. -/
inductive Binding where
  | binding (target : Target) (value : Option Expression)

/-- A case of a choice; without a subject it is the one for all others. -/
inductive Case where
  | case (subject : Option Expression) (body : List Statement)

end

instance : Inhabited Expression := ⟨.value .undefined⟩
instance : Inhabited Statement := ⟨.leaveLoop⟩

/-! ### Names -/

mutual

/-- The names in a target. -/
def Target.names : Target → List String
  | .nothing => []
  | .name n => [n]
  | .member _ _ => []
  | .list ts => targetNames ts
  | .record ps => partNames ps
  | .orElse t _ => t.names
  | .rest t => t.names

/-- The names in targets. -/
def targetNames : List Target → List String
  | [] => []
  | t :: rest => t.names ++ targetNames rest

/-- The names in the parts of a record. -/
def partNames : List Part → List String
  | [] => []
  | .field _ t :: rest => t.names ++ partNames rest
  | .rest t :: rest => t.names ++ partNames rest

end

/-- The name in a binding's target. -/
def Binding.names : Binding → List String
  | .binding t _ => t.names

mutual

/-- The names that a statement declares for the function around it. -/
def Statement.hoisted : Statement → List String
  | .declare .function bs => bs.flatMap Binding.names
  | .block body => hoistedIn body
  | .branch _ body none => body.hoisted
  | .branch _ body (some other) => body.hoisted ++ other.hoisted
  | .loop _ body | .loopAfter body _ => body.hoisted
  | .loopWith none _ _ body => body.hoisted
  | .loopWith (some start) _ _ body => start.hoisted ++ body.hoisted
  | .each (some .function) t _ _ body => t.names ++ body.hoisted
  | .each _ _ _ _ body => body.hoisted
  | .attempt body rescue last =>
    hoistedIn body
      ++ (match rescue with
        | some (_, statements) => hoistedIn statements
        | none => [])
      ++ (match last with
        | some statements => hoistedIn statements
        | none => [])
  | .choose _ cases => hoistedCases cases
  | _ => []

/-- The names that statements declare for the function around them. -/
def hoistedIn : List Statement → List String
  | [] => []
  | s :: rest => s.hoisted ++ hoistedIn rest

/-- The names that the cases of a choice declare for the function around it. -/
def hoistedCases : List Case → List String
  | [] => []
  | .case _ body :: rest => hoistedIn body ++ hoistedCases rest

end

/-- The names that a statement declares for its block, and whether their values stay. -/
def Statement.declared : Statement → List (String × Bool)
  | .declare .function _ => []
  | .declare kind bs => (bs.flatMap Binding.names).map (·, kind == .fixed)
  | _ => []

end Codemod.Shell.Snippet

/-!
## Tokens of snippets

- `Snippet.Token`, `Snippet.Placed` — tokens, and whether a line begins before them
- `Snippet.tokens` — the tokens of a text
- `Snippet.Fault` — why a text is no snippet
-/

namespace Codemod.Shell.Snippet

/-- A piece of a template: a text, or the source of an expression. -/
inductive Piece where
  | text (s : String)
  | source (cs : List Char)

/-- A token. -/
inductive Token where
  | number (x : Float)
  | text (s : String)
  | template (pieces : List Piece)
  | regex (body flags : String)
  | name (n : String)
  | sign (s : String)

/-- A token, and whether a line begins before it. -/
structure Placed where
  token : Token
  afterBreak : Bool

/-- Why a text is no snippet. -/
inductive Fault where
  | unexpected (token : Token)
  | unexpectedEnd
  | invalid
  | missingArgumentEnd
  | badTarget
  | badReturn
  | badBreak
  | unclosedTemplate
  | unclosedRegex
  | missingValue (what : String)
  | declaredTwice (name : String)

/-- What is said about it. -/
def Fault.message : Fault → String
  | unexpected (.number _) => "Unexpected number"
  | unexpected (.text _) => "Unexpected string"
  | unexpected (.template _) => "Unexpected template string"
  | unexpected (.regex _ _) => "Unexpected regular expression"
  | unexpected (.name n) =>
    if ["if", "for", "while", "return", "const", "var", "function", "new", "do", "else", "case",
      "in"].contains n
    then s!"Unexpected token '{n}'" else s!"Unexpected identifier '{n}'"
  | unexpected (.sign s) => s!"Unexpected token '{s}'"
  | unexpectedEnd => "Unexpected end of input"
  | invalid => "Invalid or unexpected token"
  | missingArgumentEnd => "missing ) after argument list"
  | badTarget => "Invalid left-hand side in assignment"
  | badReturn => "Illegal return statement"
  | badBreak => "Illegal break statement"
  | unclosedTemplate => "Unterminated template literal"
  | unclosedRegex => "Invalid regular expression: missing /"
  | missingValue what => s!"Missing initializer in {what} declaration"
  | declaredTwice name => s!"Identifier '{name}' has already been declared"

/-- The signs, longer ones first. -/
def signs : List String :=
  [">>>=", "...", "===", "!==", "**=", "<<=", ">>=", ">>>", "&&=", "||=", "??=", "=>", "==", "!=",
    "<=",
    ">=", "&&", "||", "??", "?.", "++", "--", "+=", "-=", "*=", "/=", "%=", "&=", "|=", "^=", "<<",
      ">>",
    "**", "\x7b", "\x7d", "(", ")", "[", "]", ";", ",", "<", ">", "+", "-", "*", "/", "%", "&", "|",
      "^",
    "!", "~", "?", ":", "=", "."]

/-- A character that names begin with. -/
def isNameStart (c : Char) : Bool :=
  c.isAlpha || c == '_' || c == '$' || (c.toNat > 127 && Text.isNameCharacter c)

/-- A character of names. -/
def isNamePart (c : Char) : Bool := isNameStart c || c.isDigit

/-- The value of a digit in some base. -/
def digit? (base : Nat) (c : Char) : Option Nat :=
  let n := if c.isDigit then c.toNat - 48
    else if 'a' ≤ c && c ≤ 'z' then c.toNat - 87
    else if 'A' ≤ c && c ≤ 'Z' then c.toNat - 55 else 99
  if n < base then some n else none

/-- The value of digits in some base. -/
def digitsValue (base : Nat) (cs : List Char) : Nat :=
  cs.foldl (fun n c => n * base + (digit? base c).getD 0) 0

/-- The number of a binary floating-point one. -/
def ofBinary (x : Binary64) : Float := Float.ofBits x.bits

/-- The number of a natural one. -/
def ofNat (n : Nat) : Float := ofBinary (Binary64.ofNat n)

/-- The number at the front of a text, and what follows it. -/
def decimal (cs : List Char) : Float × List Char :=
  let (whole, rest) := cs.span fun c => c.isDigit || c == '_'
  let (fraction, rest) := match rest with
    | '.' :: more => more.span fun c => c.isDigit || c == '_'
    | _ => ([], rest)
  let plain (ds : List Char) : List Char := ds.filter (· != '_')
  let ending (sign : Int) (ds rest : List Char) : Float × List Char :=
    let (digits, after) := ds.span Char.isDigit
    if digits.isEmpty then
      (ofBinary (Decimal.ofDigits (plain whole) (plain fraction) 0).nearest, rest)
    else
      let exponent : Int := sign * (Decimal.digitsValue digits : Nat)
      (ofBinary (Decimal.ofDigits (plain whole) (plain fraction) exponent).nearest, after)
  match rest with
  | e :: '-' :: ds => if e == 'e' || e == 'E' then ending (-1) ds rest else ending 1 [] rest
  | e :: '+' :: ds => if e == 'e' || e == 'E' then ending 1 ds rest else ending 1 [] rest
  | e :: ds => if e == 'e' || e == 'E' then ending 1 ds rest else ending 1 [] rest
  | [] => ending 1 [] rest

/-- The character of an escape, and what follows; none where a line is continued. -/
def escape : List Char → Option Char × List Char
  | 'n' :: rest => (some '\n', rest)
  | 't' :: rest => (some '\t', rest)
  | 'r' :: rest => (some '\r', rest)
  | 'b' :: rest => (some (Char.ofNat 8), rest)
  | 'f' :: rest => (some (Char.ofNat 12), rest)
  | 'v' :: rest => (some (Char.ofNat 11), rest)
  | '0' :: rest => (some '\x00', rest)
  | 'x' :: a :: b :: rest => (some (Char.ofNat (digitsValue 16 [a, b])), rest)
  | 'u' :: '\x7b' :: rest =>
    let (ds, rest) := rest.span (· != '\x7d')
    (some (Char.ofNat (digitsValue 16 ds)), rest.drop 1)
  | 'u' :: a :: b :: c :: d :: rest => (some (Char.ofNat (digitsValue 16 [a, b, c, d])), rest)
  | '\n' :: rest => (none, rest)
  | c :: rest => (some c, rest)
  | [] => (none, [])

/-- A text up to its closing quote, and what follows. -/
def quoted (quote : Char) (fuel : Nat) (cs : List Char) : Except Fault (List Char × List Char) :=
  match fuel, cs with
  | 0, _ | _, [] | _, '\n' :: _ => .error .invalid
  | fuel + 1, '\\' :: rest => do
    let (c, rest) := escape rest
    let (text, after) ← quoted quote fuel rest
    return (c.toList ++ text, after)
  | fuel + 1, c :: rest => do
    if c == quote then return ([], rest)
    let (text, after) ← quoted quote fuel rest
    return (c :: text, after)

/-- The source up to the brace that closes it, and what follows. What is open is given innermost
first. -/
def untilBrace (opened : List Char) : List Char → Option (List Char × List Char)
  | [] => none
  | '\\' :: c :: rest => (untilBrace opened rest).map fun (a, b) => ('\\' :: c :: a, b)
  | c :: rest =>
    let go (opened : List Char) : Option (List Char × List Char) :=
      (untilBrace opened rest).map fun (a, b) => (c :: a, b)
    match opened with
    | [] => if c == '\x7d' then some ([], rest)
      else if "\x7b'\"\x60".toList.contains c then go [c] else go []
    | '\x7b' :: outer => if c == '\x7d' then go outer
      else if "\x7b'\"\x60".toList.contains c then go (c :: opened) else go opened
    | quote :: outer =>
      if c == quote then go outer
      else if quote == '\x60' && c == '$' && rest.head? == some '\x7b' then go ('$' :: opened)
      else if quote == '$' then go ('\x7b' :: outer)
      else go opened

/-- The pieces of a template up to its closing quote, and what follows. -/
def template (fuel : Nat) (current : List Char) (cs : List Char) :
    Except Fault (List Piece × List Char) :=
  let piece : Piece := .text (String.ofList current.reverse)
  match fuel, cs with
  | 0, _ | _, [] => .error .unclosedTemplate
  | _, '\x60' :: rest => .ok ([piece], rest)
  | fuel + 1, '$' :: '\x7b' :: rest => do
    let some (source, rest) := untilBrace [] rest | .error .unclosedTemplate
    let (pieces, rest) ← template fuel [] rest
    return (piece :: .source source :: pieces, rest)
  | fuel + 1, '\\' :: rest =>
    let (c, rest) := escape rest
    template fuel (c.toList ++ current) rest
  | fuel + 1, c :: rest => template fuel (c :: current) rest

/-- The body of a regular expression, and what follows its closing slash. -/
def regexBody (inClass : Bool) : List Char → Option (List Char × List Char)
  | [] | '\n' :: _ => none
  | '\\' :: c :: rest => (regexBody inClass rest).map fun (a, b) => ('\\' :: c :: a, b)
  | c :: rest =>
    if c == '/' && !inClass then some ([], rest)
    else
      let inside := if c == '[' then true else if c == ']' then false else inClass
      (regexBody inside rest).map fun (a, b) => (c :: a, b)

/-- A slash after the token begins a regular expression. -/
def opensRegex : Option Token → Bool
  | none => true
  | some (.sign s) => !([")", "]", "\x7d"].contains s)
  | some (.name n) =>
    ["return", "typeof", "case", "in", "of", "delete", "void", "throw", "new"].contains n
  | some _ => false

/-- Skips a comment up to its end. -/
def afterComment : List Char → Option (List Char)
  | '*' :: '/' :: rest => some rest
  | _ :: rest => afterComment rest
  | [] => none

/-- The tokens of a text. -/
def tokens (fuel : Nat) (last : Option Token) (afterBreak : Bool) (cs : List Char) :
    Except Fault (List Placed) :=
  match fuel, cs with
  | 0, _ | _, [] => .ok []
  | fuel + 1, c :: rest => do
    let token (t : Token) (rest : List Char) : Except Fault (List Placed) := do
      return ⟨t, afterBreak⟩ :: (← tokens fuel (some t) false rest)
    if c == '\n' || c == '\r' then tokens fuel last true rest
    else if c == ' ' || c == '\t' || c == Char.ofNat 0xa0 || c == Char.ofNat 0xfeff then
      tokens fuel last afterBreak rest
    else if cs.take 2 == ['/', '/'] || (cs.take 2 == ['#', '!'] && last.isNone) then
      tokens fuel last afterBreak (cs.dropWhile (· != '\n'))
    else if cs.take 2 == ['/', '*'] then
      let some after := afterComment (cs.drop 2) | .error .invalid
      tokens fuel last (afterBreak || (cs.take (cs.length - after.length)).contains '\n') after
    else if isNameStart c then
      let (name, rest) := cs.span isNamePart
      token (.name (String.ofList name)) rest
    else if c.isDigit || (c == '.' && rest.head?.any Char.isDigit) then
      let based (base : Nat) : Except Fault (List Placed) :=
        let (ds, rest) := (rest.drop 1).span fun c => (digit? base c).isSome || c == '_'
        token (.number (ofNat (digitsValue base (ds.filter (· != '_'))))) rest
      match c, rest.head?.map Char.toLower with
      | '0', some 'x' => based 16
      | '0', some 'b' => based 2
      | '0', some 'o' => based 8
      | _, _ =>
        let (x, rest) := decimal cs
        if rest.head?.any isNamePart then .error .invalid else token (.number x) rest
    else if c == '"' || c == '\'' then
      let (text, rest) ← quoted c (cs.length + 1) rest
      token (.text (String.ofList text)) rest
    else if c == '\x60' then
      let (pieces, rest) ← template (cs.length + 1) [] rest
      token (.template pieces) rest
    else if c == '/' && opensRegex last then
      let some (body, rest) := regexBody false rest | .error .unclosedRegex
      let (flags, rest) := rest.span isNamePart
      token (.regex (String.ofList body) (String.ofList flags)) rest
    else
      match signs.find? fun s => s.toList.isPrefixOf cs with
      | some s => token (.sign s) (cs.drop s.length)
      | none => .error .invalid

end Codemod.Shell.Snippet
