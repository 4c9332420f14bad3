import Codemod.Decimal
import Codemod.Json.Basic
import Codemod.Json.Reader
import Codemod.Yaml.Token

/-!
# Texts of YAML without quotes

A plain text ends before a colon with a blank after it, before a comment, and between brackets
before a character that has a meaning there. It may go over several lines that are indented; a line
end with the blanks around it counts as one blank, and empty lines count as line feeds.

- `Scan.plain` — a plain text
-/

namespace Codemod.Yaml.Scan

/-- The character at the place belongs to a plain text. -/
def isPlainChar (s : Scan) : Bool :=
  let c := s.cursor.char
  let next := s.cursor.peek 1
  !isSeparator c
    && !(c == ':' && (isSeparator next || s.inFlow && isFlow next))
    && !(s.inFlow && isFlow c)

/-- Characters of a plain text without a blank. -/
def plainWord : Scanner (List Char) := do loop (← bound) []
where
  /-- One character; `word` holds those before it, last first. -/
  loop : Nat → List Char → Scanner (List Char)
    | 0, _ => failure
    | fuel + 1, word => do
      let s ← get
      if isPlainChar s then
        advance Cursor.skip
        loop fuel (s.cursor.char :: word)
      else return word.reverse

/-- What lies between two words of a plain text: blanks on a line, or a line end and the number of
empty lines after it. -/
inductive PlainGap where
  | blanks (cs : List Char)
  | lines (empty : Nat)

/-- The characters that a gap stands for. -/
def PlainGap.text : PlainGap → List Char
  | blanks cs => cs
  | lines 0 => [' ']
  | lines empty => List.replicate empty '\n'

/-- The blanks and line ends at the place. A tab does not bring text into the column asked for. -/
def plainGap (column : Int) : Scanner PlainGap := do loop (← bound) (.blanks [])
where
  /-- One blank or line end. -/
  loop : Nat → PlainGap → Scanner PlainGap
    | 0, _ => failure
    | fuel + 1, gap => do
      let s ← get
      let c := s.cursor.char
      if isGap c then
        match gap with
        | .blanks cs =>
          advance Cursor.skipBlank
          loop fuel (.blanks (cs ++ [c]))
        | .lines empty =>
          if s.cursor.column < column && c == '\t' then
            let _ ← skipToLineEnd true
            require (isBreakOrEnd (← peek 0))
          else advance Cursor.skipBlank
          loop fuel (.lines empty)
      else if isBreak c then
        advance Cursor.skipBreak
        match gap with
        | .blanks _ => loop fuel (.lines 0)
        | .lines empty => loop fuel (.lines (empty + 1))
      else return gap

/-- A plain text. -/
def plain : Scanner (List Char) := do
  unrollColumns
  let s ← get
  let column := s.indent + 1
  require !(s.inFlow && s.cursor.column < column)
  let text ← loop column (← bound) [] (.blanks [])
  if (← place).fresh then allowKey true
  require !text.isEmpty
  return text
where
  /-- One word after a gap, and the gap after it. -/
  loop (column : Int) : Nat → List Char → PlainGap → Scanner (List Char)
    | 0, _, _ => failure
    | fuel + 1, text, gap => do
      let s ← get
      if s.cursor.fresh && s.cursor.atDocumentMark || s.cursor.char == '#' then return text
      require !(s.inFlow && s.cursor.char == '-' && isFlow (s.cursor.peek 1))
      let word ← plainWord
      let text := if word.isEmpty then text else text ++ gap.text ++ word
      let c ← peek 0
      if !(isGap c || isBreak c) then return text
      let gap ← plainGap column
      if !s.inFlow && (← place).column < column then return text
      loop column fuel text gap

end Codemod.Yaml.Scan

/-!
## Scalars of YAML

Texts that stand for numbers. Some spellings of infinity are numbers that have no value here.

- `Yaml.Scalar.integer?`, `Yaml.Scalar.literal?` — integers
- `Yaml.Scalar.number?` — a floating-point number
- `Yaml.Scalar.isNumber` — the form of one
-/

namespace Codemod.Yaml.Scalar

/-- A sign, if there is one, and what follows it. -/
def sign : List Char → Bool × List Char
  | '-' :: rest => (true, rest)
  | '+' :: rest => (false, rest)
  | cs => (false, cs)

/-- An integer of 64 bits to a base, with an optional sign. -/
def integer? (base : Nat) (cs : List Char) : Option Int := do
  let (negative, ds) := sign cs
  if ds.isEmpty then none
  let values ← ds.mapM Json.Reader.hexValue?
  if !values.all (· < base) then none
  let n : Int := (values.foldl (fun n d => n * base + d) 0 : Nat)
  let n := if negative then -n else n
  if -(2 ^ 63) ≤ n && n < 2 ^ 63 then some n else none

/-- Splits a text at the first character of a class, which is dropped; no second part without
one. -/
def splitAt (p : Char → Bool) (cs : List Char) : List Char × Option (List Char) :=
  match cs.span (!p ·) with
  | (before, _ :: after) => (before, some after)
  | (before, []) => (before, none)

/-- A number with digits before or after an optional point, and an optional exponent. -/
def number? (cs : List Char) : Option Binary64 := do
  let (negative, cs) := sign cs
  let (mantissa, power) := splitAt (fun c => c == 'e' || c == 'E') cs
  let (whole, fraction) := splitAt (· == '.') mantissa
  let fraction := fraction.getD []
  if (whole ++ fraction).isEmpty || !(whole ++ fraction).all Char.isDigit then none
  let exponent : Int ←
    match power with
    | none => some 0
    | some power => do
      let (down, ds) := sign power
      if ds.isEmpty || !ds.all Char.isDigit then none
      let n : Int := Decimal.digitsValue ds
      some (if down then -n else n)
  return (Decimal.ofDigits whole fraction exponent).nearest.withSign negative

/-- The spellings of what is a number and has no digits. -/
def isSpecialNumber (text : String) : Bool :=
  [".inf", ".Inf", ".INF", "+.inf", "+.Inf", "+.INF", "-.inf", "-.Inf", "-.INF", ".nan", ".NaN",
    ".NAN"].contains text

/-- An integer: hexadecimal, octal or decimal. -/
def literal? : List Char → Option Int
  | '0' :: 'x' :: rest => integer? 16 rest
  | '0' :: 'o' :: rest => integer? 8 rest
  | '+' :: rest => integer? 10 rest
  | cs => integer? 10 cs

/-- The text is that of a floating-point number, though it may have no value. -/
def isNumber (cs : List Char) : Bool := isSpecialNumber (String.ofList cs) || (number? cs).isSome

end Codemod.Yaml.Scalar

/-!
## Nodes of YAML

A node is a scalar, a list or a mapping, whose keys are nodes too. A scalar without quotes has the
type that its text suggests, unless a tag says otherwise. What does not have the form of its tag is
unfit.

- `Yaml.Node` — the nodes
- `Node.ofPlain`, `Node.ofTagged` — scalars without quotes
- `Node.table?` — a mapping from its keys and values by turns
- `Node.toJson?` — the value of a node
-/

namespace Codemod.Yaml

/-- A node. -/
inductive Node where
  /-- A scalar that does not have the form of its tag, or a reference to what is not complete. -/
  | unfit
  | nothing
  | boolean (b : Bool)
  | integer (n : Int)
  /-- A floating-point number, as it is written. -/
  | number (text : String)
  | text (s : String)
  | list (items : List Node)
  | table (fields : List (Node × Node))

namespace Node

mutual

/-- Two nodes are equal as keys: numbers are compared as they are written. -/
def same : Node → Node → Bool
  | .unfit, .unfit | .nothing, .nothing => true
  | .boolean a, .boolean b => a == b
  | .integer a, .integer b => a == b
  | .number a, .number b | .text a, .text b => a == b
  | .list as, .list bs => sameItems as bs
  | .table as, .table bs => sameFields as bs
  | _, _ => false

/-- Two lists have equal members. -/
def sameItems : List Node → List Node → Bool
  | [], [] => true
  | a :: as, b :: bs => same a b && sameItems as bs
  | _, _ => false

/-- Two mappings have equal keys and values in the same order. -/
def sameFields : List (Node × Node) → List (Node × Node) → Bool
  | [], [] => true
  | (k, v) :: as, (l, w) :: bs => same k l && same v w && sameFields as bs
  | _, _ => false

end

/-- A scalar without quotes and without a tag. -/
def ofPlain (text : String) : Node :=
  if text == "" || text == "~" || text == "null" then .nothing
  else if text == "true" then .boolean true
  else if text == "false" then .boolean false
  else
    match Scalar.literal? text.toList with
    | some n => .integer n
    | none => if Scalar.isNumber text.toList then .number text else .text text

/-- A scalar without quotes under a tag of the common types, by the last part of the tag. -/
def ofTagged (kind text : String) : Node :=
  match kind with
  | "bool" =>
    if text == "true" then .boolean true else if text == "false" then .boolean false else .unfit
  | "int" => ((Scalar.integer? 10 text.toList).map Node.integer).getD .unfit
  | "float" => if Scalar.isNumber text.toList then .number text else .unfit
  | "null" => if text == "~" || text == "null" then .nothing else .unfit
  | _ => .text text

/-- The mapping of keys and values by turns. No key is there twice. An unfit node is not taken for a
key, so that the next node is. -/
def table? (nodes : List Node) : Option Node :=
  (loop none [] nodes).map .table
where
  /-- The fields so far, and the key that waits for its value. -/
  loop : Option Node → List (Node × Node) → List Node → Option (List (Node × Node))
    | _, fields, [] => some fields
    | some key, fields, value :: rest =>
      if fields.any fun field => field.1.same key then failure
      else loop none (fields ++ [(key, value)]) rest
    | none, fields, .unfit :: rest => loop none fields rest
    | none, fields, key :: rest => loop (some key) fields rest

/-- The text of a key. -/
def keyText? : Node → Option String
  | .text s => some s
  | .number s => some s
  | .integer n => some (toString n)
  | .boolean b => some (if b then "true" else "false")
  | _ => none

mutual

/-- The value of a node, if all its keys are scalars and all its numbers have a value. What is unfit
counts as nothing. -/
def toJson? : Node → Option Json
  | .unfit | .nothing => some .null
  | .boolean b => some (.bool b)
  | .integer n => some (.int n)
  | .number s => (Scalar.number? s.toList).map .float
  | .text s => some (.string s)
  | .list items => (itemValues? items).map .array
  | .table fields => (fieldValues? fields).map .object

/-- The values of the members of a list. -/
def itemValues? : List Node → Option (List Json)
  | [] => some []
  | node :: rest => do return (← toJson? node) :: (← itemValues? rest)

/-- The fields of a mapping. -/
def fieldValues? : List (Node × Node) → Option (List (String × Json))
  | [] => some []
  | (key, node) :: rest => do
    return (← keyText? key, ← toJson? node) :: (← fieldValues? rest)

end

end Node

end Codemod.Yaml
