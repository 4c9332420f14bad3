import Codemod.Json.Basic

/-!
# Printing JSON

- `Json.compress` — without blanks
- `Json.pretty` — one item a line, indented by two blanks
- `Json.quote` — a string literal
-/

namespace Codemod.Json

/-- A lower-case hexadecimal digit. -/
def hexDigit (n : Nat) : Char :=
  if n < 10 then Char.ofNat (48 + n) else Char.ofNat (87 + n)

/-- A character inside a string literal. The quote, the backslash and the controls below the blank
are escaped, and nothing else. -/
def escape (c : Char) : List Char :=
  if c == '"' then ['\\', '"']
  else if c == '\\' then ['\\', '\\']
  else if c == '\n' then ['\\', 'n']
  else if c == '\r' then ['\\', 'r']
  else if c == '\t' then ['\\', 't']
  else if c.toNat == 8 then ['\\', 'b']
  else if c.toNat == 12 then ['\\', 'f']
  else if c.toNat < 32 then ['\\', 'u', '0', '0', hexDigit (c.toNat / 16), hexDigit (c.toNat % 16)]
  else [c]

/-- A string literal. -/
def quote (s : String) : List Char := '"' :: s.toList.flatMap escape ++ ['"']

/-- Floating-point numbers are positional from `1e-5` up to below `1e16`, always with a point or an
exponent, and a positive exponent carries its sign. -/
def numberLayout : Decimal.Layout where
  plainFrom := some (-5)
  plainBelow := some 16
  pointZero := true
  plusSign := true

/-- A finite floating-point number; what is not finite has no spelling and is written as null. -/
def floatText (x : Binary64) : List Char :=
  if x.exponentField == 0x7FF then "null".toList
  else
    let text := Decimal.render numberLayout (Decimal.shortest .toEven x)
    if x.isNegative then '-' :: text else text

mutual

/-- The text of a value without blanks. -/
def compressChars : Json → List Char
  | null => "null".toList
  | bool true => "true".toList
  | bool false => "false".toList
  | int n => (toString n).toList
  | float x => floatText x
  | string s => quote s
  | array [] => ['[', ']']
  | array (v :: rest) => '[' :: compressChars v ++ compressItems rest
  | object [] => ['\x7b', '\x7d']
  | object ((k, v) :: rest) => '\x7b' :: quote k ++ ':' :: compressChars v ++ compressFields rest

/-- The members after the first, and the closing bracket. -/
def compressItems : List Json → List Char
  | [] => [']']
  | v :: rest => ',' :: compressChars v ++ compressItems rest

/-- The fields after the first, and the closing brace. -/
def compressFields : List (String × Json) → List Char
  | [] => ['\x7d']
  | (k, v) :: rest => ',' :: quote k ++ ':' :: compressChars v ++ compressFields rest

end

/-- The text of a value without blanks. -/
def compress (v : Json) : String := String.ofList (compressChars v)

/-- A line break and the indentation of a nesting depth. -/
def newLine (depth : Nat) : List Char := '\n' :: List.replicate (2 * depth) ' '

mutual

/-- The indented text of a value whose surroundings are `depth` levels deep. -/
def prettyChars (depth : Nat) : Json → List Char
  | array (v :: rest) =>
    '[' :: newLine (depth + 1) ++ prettyChars (depth + 1) v ++ prettyItems depth rest
  | object ((k, v) :: rest) =>
    '\x7b' :: newLine (depth + 1) ++ quote k ++ ':' :: ' ' :: prettyChars (depth + 1) v
      ++ prettyFields depth rest
  | array [] => ['[', ']']
  | object [] => ['\x7b', '\x7d']
  | null => "null".toList
  | bool true => "true".toList
  | bool false => "false".toList
  | int n => (toString n).toList
  | float x => floatText x
  | string s => quote s

/-- The members after the first, each on a line of its own, and the closing bracket. -/
def prettyItems (depth : Nat) : List Json → List Char
  | [] => newLine depth ++ [']']
  | v :: rest => ',' :: newLine (depth + 1) ++ prettyChars (depth + 1) v ++ prettyItems depth rest

/-- The fields after the first, each on a line of its own, and the closing brace. -/
def prettyFields (depth : Nat) : List (String × Json) → List Char
  | [] => newLine depth ++ ['\x7d']
  | (k, v) :: rest =>
    ',' :: newLine (depth + 1) ++ quote k ++ ':' :: ' ' :: prettyChars (depth + 1) v
      ++ prettyFields depth rest

end

/-- The text of a value with one item a line. -/
def pretty (v : Json) : String := String.ofList (prettyChars 0 v)

end Codemod.Json
