import Codemod.Shell.Awk.Value
import Codemod.Shell.Regex.Reading

/-!
# Record programs

A program is a list of rules, each with a pattern and an action that is done on the records to which
the pattern applies.

- `Awk.Expression`, `Awk.Statement` — what actions are made of
- `Awk.Rule`, `Awk.Program` — programs
- `Awk.Fault` — why a text is no program
-/

namespace Codemod.Shell.Awk

/-- A variable: one of the program, or one of the current function by its number. -/
inductive Name where
  | shared (name : String)
  | own (n : Nat)
deriving DecidableEq

/-- An operation on numbers. -/
inductive Operator where
  | plus
  | minus
  | times
  | dividedBy
  | remainder
  | power
deriving DecidableEq

/-- A comparison. -/
inductive Relation where
  | less
  | atMost
  | equal
  | unequal
  | greater
  | atLeast
deriving DecidableEq

/-- A function of every program. -/
inductive BuiltIn where
  | length
  | substr
  | index
  | split
  | sub
  | gsub
  | find
  | sprintf
  | lower
  | upper
  | sine
  | cosine
  | arcTangent
  | exponential
  | logarithm
  | root
  | whole
  | random
  | seed
  | system
  | close
  | flush
  | clock
  | date
deriving DecidableEq

/-- From where a line is read. -/
inductive Supply where
  | records
  | file
  | command
deriving DecidableEq

/-- An expression. -/
inductive Expression where
  | number (x : Float)
  | text (cs : Octets)
  /-- The current record has a match. -/
  | pattern (r : Regex)
  | named (name : Name)
  | element (table : Name) (index : List Expression)
  | field (place : Expression)
  | assign (target : Expression) (operator : Option Operator) (value : Expression)
  /-- The target is changed by a number; the value is that before or after. -/
  | step (target : Expression) (change : Float) (before : Bool)
  | negative (e : Expression)
  | positive (e : Expression)
  | not (e : Expression)
  | arithmetic (operator : Operator) (a b : Expression)
  | relation (relation : Relation) (a b : Expression)
  | matching (negated : Bool) (subject pattern : Expression)
  | and (a b : Expression)
  | or (a b : Expression)
  | member (index : List Expression) (table : Name)
  | conditional (condition a b : Expression)
  | joined (a b : Expression)
  | apply (function : BuiltIn) (arguments : List Expression)
  | call (function : String) (arguments : List Expression)
  | read (target : Option Expression) (supply : Supply) (source : Expression)
  /-- Several expressions in parentheses. -/
  | group (es : List Expression)

/-- Where output goes. -/
inductive Outlet where
  | replacing
  | appending
  | command
deriving DecidableEq

/-- A statement. -/
inductive Statement where
  | print (es : List Expression) (outlet : Option (Outlet × Expression))
  | printf (es : List Expression) (outlet : Option (Outlet × Expression))
  | evaluate (e : Expression)
  | branch (condition : Expression) (body : Statement) (otherwise : Option Statement)
  | loop (condition : Expression) (body : Statement)
  | loopAfter (body : Statement) (condition : Expression)
  | loopWith (start : Option Statement) (condition : Option Expression) (step : Option Statement)
      (body : Statement)
  | each (name : Name) (table : Name) (body : Statement)
  | block (body : List Statement)
  | next
  | nextFile
  | exit (status : Option Expression)
  | answer (value : Option Expression)
  | leaveLoop
  | nextTurn
  | delete (table : Name) (index : Option (List Expression))

/-- When an action is done. -/
inductive Pattern where
  | start
  | finish
  | always
  | holds (e : Expression)
  /-- From one record to another; the number tells ranges apart. -/
  | range (n : Nat) (first last : Expression)

/-- A rule; without an action the record is printed. -/
structure Rule where
  pattern : Pattern
  action : Option (List Statement)

/-- A function of a program. -/
structure Function where
  name : String
  /-- How many variables of its own it has, arguments included. -/
  locals : Nat
  body : List Statement

/-- A program. -/
structure Program where
  rules : List Rule := []
  functions : List Function := []
  /-- How many ranges there are. -/
  ranges : Nat := 0

/-- Why an expression is none. -/
def regexFault : RegexError → String
  | .unmatchedOpening => "missing ')'"
  | .unmatchedClosing => "missing '('"
  | .nothingToRepeat => "missing operand"
  | .unmatchedBracket | .unfinished | .className | .collation | .rangeEnd =>
    "bad class -- [], [^] or ["
  | .braceContent | .unmatchedBrace => "bad interval expression"
  | .tooBig => "resource exhaustion (regular expression or compile)"
  | _ => "syntax error ^* or ^+"

/-- Why a text is no program. -/
inductive Fault where
  | syntaxNear (text : String)
  | missingNear (text : String)
  | missingBrace
  | extraBrace
  | extraParenthesis
  | runawayText (text : Octets)
  | runawayRegex (text : Octets)
  | regex (e : RegexError) (text : Octets)
  | undefined (function : String)
  | argumentCount (function : String)
  | tooManyArguments (function : String)
  | noArguments
  | illegalVariable (name : String)
  | illegalTable (name : String)
  | returnOutside
  | leaveOutside (word : String)
  | improper (word : String)
  | twice (name : String)
  | redefined (name : String)
  | strayOctet (c : Char)

/-- What is said about it after the name of the tool, with the line. -/
def Fault.report (line : Nat) : Fault → String
  | syntaxNear text => s!"line {line}: syntax error at or near {text}"
  | missingNear text => s!"line {line}: missing ) near {text}"
  | missingBrace => s!"line {line}: missing \x7d near end of file"
  | extraBrace => s!"line {line}: extra '\x7d'"
  | extraParenthesis => s!"line {line}: extra ')'"
  | runawayText text => s!"line {line}: runaway string constant \"{text.toText} ..."
  | runawayRegex text => s!"line {line}: runaway regular expression /{text.toText} ..."
  | regex e text =>
    let cause := regexFault e
    s!"line {line}: regular expression compile failed ({cause})\n{text.toText}"
  | undefined name => s!"line {line}: function {name} never defined"
  | argumentCount name => s!"line {line}: wrong number of arguments in call to {name}"
  | tooManyArguments name => s!"line {line}: too many arguments in call to {name}"
  | noArguments => s!"line {line}: no arguments in call to printf"
  | illegalVariable name => s!"line {line}: illegal reference to variable {name}"
  | illegalTable name => s!"line {line}: illegal reference to array {name}"
  | returnOutside => s!"line {line}: return outside function body"
  | leaveOutside word => s!"line {line}: {word} statement outside of loop"
  | improper word => s!"line {line}: improper use of {word}"
  | twice name => s!"line {line}: {name} is duplicated in argument list"
  | redefined name => s!"line {line}: redefinition of {name}"
  | strayOctet c => s!"{line}: unexpected character '{String.singleton c}'"

end Codemod.Shell.Awk

/-!
## Records and fields

- `Awk.Separator` — what separates records or fields
- `Awk.takeRecord` — the first record of a text
- `Awk.fieldsOf` — the fields of a record
- `Awk.Record` — a record with its fields
-/

namespace Codemod.Shell.Awk

/-- What separates records or fields. -/
inductive Separator where
  /-- Blanks, as many as there are. -/
  | blanks
  /-- Nothing: each octet stands alone, or records stand between empty lines. -/
  | nothing
  | octet (c : Char)
  | regex (r : Regex)

/-- The separator of a text, or why it is none. -/
def Separator.read (cs : Octets) : Except RegexError Separator :=
  match cs with
  | [] => .ok .nothing
  | [' '] => .ok .blanks
  | [c] => .ok (.octet c)
  | cs => (Regex.read .escaping cs).map .regex

/-- The first record of a text, and what follows it; none at the end of the text. `separated` tells
whether a separator followed. -/
def takeRecord (s : Separator) (text : Octets) : Option (Octets × Octets × Bool) :=
  match s with
  | .nothing =>
    let text := text.dropWhile (· == '\n')
    if text.isEmpty then none else some (paragraph [] text)
  | s =>
    if text.isEmpty then none
    else
      match s with
      | .octet c => some (upTo c text)
      | .regex r =>
        match (r.all text).find? fun m => m.start < m.stop with
        | some m => some (text.take m.start, text.drop m.stop, true)
        | none => some (text, [], false)
      | _ => some (upTo ' ' text)
where
  /-- The text up to an octet, and what follows it. -/
  upTo (c : Char) (text : Octets) : Octets × Octets × Bool :=
    match text.span (· != c) with
    | (record, _ :: rest) => (record, rest, true)
    | (record, []) => (record, [], false)
  /-- The text up to an empty line, and what follows. -/
  paragraph (read : Octets) : Octets → Octets × Octets × Bool
    | [] => (read.reverse, [], false)
    | '\n' :: rest =>
      match rest with
      | [] => (read.reverse, [], false)
      | '\n' :: rest => (read.reverse, rest.dropWhile (· == '\n'), true)
      | rest => paragraph ('\n' :: read) rest
    | c :: rest => paragraph (c :: read) rest

/-- The words of a text between blanks. -/
def wordsOf (cs : Octets) : List Octets :=
  (cs.splitBy fun a b => isBlank a == isBlank b).filter fun w => !w.any isBlank
where
  /-- Fields are separated by the octet. -/
  isBlank (c : Char) : Bool := c == ' ' || c == '\t' || c == '\n'

/-- The fields of a text. -/
def fieldsOf (s : Separator) (text : Octets) : List Octets :=
  if text.isEmpty then []
  else
    match s with
    | .blanks => wordsOf text
    | .nothing => text.map fun c => [c]
    | .octet c => text.splitOn c
    | .regex r =>
      let (pieces, last) := ((r.all text).filter fun m => m.start < m.stop).foldl
        (fun ((pieces, last) : List Octets × Nat) m =>
          (Regex.slice text last m.start :: pieces, m.stop))
        ([], 0)
      (text.drop last :: pieces).reverse

/-- A record with its fields. -/
structure Record where
  whole : Value := .unset
  fields : List Value := []

namespace Record

/-- The record of a value. -/
def ofValue (s : Separator) (format : Octets) (whole : Value) : Record :=
  { whole, fields := (fieldsOf s (whole.toText format)).map .given }

/-- The record whose whole is put together from its fields again. -/
def joined (separator format : Octets) (r : Record) : Record :=
  { r with whole := .given (List.intercalate separator (r.fields.map (Value.toText format))) }

/-- A field; the whole is at zero. -/
def field (r : Record) (n : Nat) : Value :=
  if n == 0 then r.whole else (r.fields[n - 1]?).getD .unset

/-- The record with so many fields. -/
def resized (separator format : Octets) (count : Nat) (r : Record) : Record :=
  joined separator format
    { r with
      fields := r.fields.take count ++ List.replicate (count - r.fields.length) (.text []) }

/-- The record with another field. -/
def withField (separator format : Octets) (n : Nat) (v : Value) (r : Record) : Record :=
  let fields := r.fields ++ List.replicate (n - r.fields.length) (.text [])
  joined separator format { r with fields := fields.set (n - 1) v }

end Record

end Codemod.Shell.Awk
