import Codemod.Json.Basic

/-!
# Reading JSON

The reader is strict: the four blanks of the format, no byte-order mark, no raw controls in strings,
surrogates only in pairs, no leading zeros, no number beyond the largest finite one, and at most 127
levels of nesting.

A value that nobody asks for is passed over by its form alone: it may be any number, hold any code
in an escape and be nested to any depth.

- `Json.Reader.value` — one value and the text after it
- `Json.Reader.skipValue` — the text after one value
- `Json.read?` — a whole text, fields in the order of the text
- `Json.readOnly?` — a whole text, where only some fields are asked for
- `Json.parse?` — a whole text in canonical form
-/

namespace Codemod.Json.Reader

/-- Space, tab, line feed or carriage return. -/
def isSpace (c : Char) : Bool := c == ' ' || c == '\t' || c == '\n' || c == '\r'

/-- The text after its leading blanks. -/
def skipSpace (cs : List Char) : List Char := cs.dropWhile isSpace

/-- The value of a hexadecimal digit. -/
def hexValue? (c : Char) : Option Nat :=
  let n := c.toNat
  if 48 ≤ n && n ≤ 57 then some (n - 48)
  else if 65 ≤ n && n ≤ 70 then some (n - 55)
  else if 97 ≤ n && n ≤ 102 then some (n - 87)
  else none

/-- The value of four hexadecimal digits. -/
def hexQuad? (a b c d : Char) : Option Nat := do
  let a ← hexValue? a
  let b ← hexValue? b
  let c ← hexValue? c
  let d ← hexValue? d
  return ((a * 16 + b) * 16 + c) * 16 + d

/-- The character of a single-letter escape. -/
def shortEscape? (c : Char) : Option Char :=
  match c with
  | '"' => some '"'
  | '\\' => some '\\'
  | '/' => some '/'
  | 'b' => some (Char.ofNat 8)
  | 'f' => some (Char.ofNat 12)
  | 'n' => some '\n'
  | 'r' => some '\r'
  | 't' => some '\t'
  | _ => none

/-- The character of a pair of surrogates. -/
def joinSurrogates? (high low : Nat) : Option Char :=
  if 0xDC00 ≤ low && low ≤ 0xDFFF then
    some (Char.ofNat (0x10000 + (high - 0xD800) * 0x400 + (low - 0xDC00)))
  else none

/-- The rest of a string literal after its opening quote, and the text after it. -/
def stringBody : List Char → Option (List Char × List Char)
  | [] => none
  | '"' :: rest => some ([], rest)
  | '\\' :: 'u' :: a :: b :: c :: d :: rest =>
    match hexQuad? a b c d with
    | none => none
    | some n =>
      if 0xD800 ≤ n && n ≤ 0xDBFF then
        match rest with
        | '\\' :: 'u' :: e :: f :: g :: h :: rest =>
          match (hexQuad? e f g h).bind (joinSurrogates? n) with
          | none => none
          | some ch => (stringBody rest).map fun (text, after) => (ch :: text, after)
        | _ => none
      else if 0xDC00 ≤ n && n ≤ 0xDFFF then none
      else (stringBody rest).map fun (text, after) => (Char.ofNat n :: text, after)
  | '\\' :: c :: rest =>
    match shortEscape? c with
    | none => none
    | some ch => (stringBody rest).map fun (text, after) => (ch :: text, after)
  | c :: rest =>
    if c == '\\' || c.toNat < 32 then none
    else (stringBody rest).map fun (text, after) => (c :: text, after)

/-- The value of a digit. -/
def digitValue (c : Char) : Nat := c.toNat - 48

/-- The leading digits of a text and what follows them. -/
def spanDigits (cs : List Char) : List Char × List Char := cs.span Char.isDigit

/-- Digits taken into a significand of at most 64 bits: the significand, how many digits were
taken, and how many were left over once it was full. -/
def takeSignificand (significand : Nat) : List Char → Nat × Nat × Nat
  | [] => (significand, 0, 0)
  | c :: cs =>
    let next := significand * 10 + digitValue c
    if next < 2 ^ 64 then
      let (s, taken, left) := takeSignificand next cs
      (s, taken + 1, left)
    else (significand, 0, cs.length + 1)

/-- `x * 10 ^ exponent` by one rounded multiplication or by rounded divisions, each by at most
`1e308`. No value stands for a number beyond the largest. -/
def scaled (fuel : Nat) (x : Binary64) (exponent : Int) : Option Binary64 :=
  match fuel with
  | 0 => some x
  | fuel + 1 =>
    if exponent.natAbs ≤ 308 then
      let power := Binary64.ofNat (10 ^ exponent.natAbs)
      if 0 ≤ exponent then
        let y := x.mul power
        if y.isInfinite then none else some y
      else some (x.div power)
    else if x.isZero then some x
    else if 0 ≤ exponent then none
    else scaled fuel (x.div (Binary64.ofNat (10 ^ 308))) (exponent + 308)

/-- A number from its sign, significand and exponent of ten. Three divisions bring any significand
to zero. -/
def ofParts (negative : Bool) (significand : Nat) (exponent : Int) : Option Json :=
  (scaled 8 (Binary64.ofNat significand) exponent).map fun x => .float (x.withSign negative)

/-- The exponent after its mark, and the text after it. -/
def exponentPart (cs : List Char) : Option (Int × List Char) :=
  let (negative, cs) :=
    match cs with
    | '-' :: r => (true, r)
    | '+' :: r => (false, r)
    | r => (false, r)
  match spanDigits cs with
  | ([], _) => none
  | (ds, rest) =>
    let n := ds.foldl (fun n c => n * 10 + digitValue c) 0
    some (if negative then -(n : Int) else n, rest)

/-- A number without its sign, and the text after it. -/
def number (negative : Bool) (cs : List Char) : Option (Json × List Char) :=
  match spanDigits cs with
  | ([], _) => none
  | (ds, rest) =>
    if ds.length > 1 && ds.head? == some '0' then none
    else
      let (whole, _, dropped) := takeSignificand 0 ds
      let withExponent (significand : Nat) (exponent : Int) (rest : List Char) :=
        match rest with
        | c :: r =>
          if c == 'e' || c == 'E' then
            match exponentPart r with
            | none => none
            | some (e, r) => (ofParts negative significand (exponent + e)).map fun v => (v, r)
          else (ofParts negative significand exponent).map fun v => (v, rest)
        | [] => (ofParts negative significand exponent).map fun v => (v, rest)
      match rest with
      | '.' :: r =>
        match spanDigits r with
        | ([], _) => none
        | (fs, r) =>
          let (significand, taken, _) := takeSignificand whole fs
          withExponent significand ((dropped : Int) - taken) r
      | c :: _ =>
        if c == 'e' || c == 'E' || dropped > 0 then withExponent whole dropped rest
        else integer whole rest
      | [] => if dropped > 0 then withExponent whole dropped rest else integer whole rest
where
  /-- An integer literal that fits 64 bits stays one; a negative zero or a negative number below
  the least 64-bit integer does not. -/
  integer (n : Nat) (rest : List Char) : Option (Json × List Char) :=
    if !negative then some (.int n, rest)
    else if 0 < n && n ≤ 2 ^ 63 then some (.int (-(n : Int)), rest)
    else some (.float ((Binary64.ofNat n).withSign true), rest)

/-! ### Passing over -/

/-- The text after the rest of a string literal. An escape may hold any code. -/
def skipString : List Char → Option (List Char)
  | [] => none
  | '"' :: rest => some rest
  | '\\' :: 'u' :: a :: b :: c :: d :: rest =>
    if (hexQuad? a b c d).isSome then skipString rest else none
  | '\\' :: c :: rest => if (shortEscape? c).isSome then skipString rest else none
  | c :: rest => if c == '\\' || c.toNat < 32 then none else skipString rest

/-- The text after the digits at its front, of which there has to be one. -/
def skipDigits? (cs : List Char) : Option (List Char) :=
  match spanDigits cs with
  | ([], _) => none
  | (_, rest) => some rest

/-- The text after a number of any size without its sign. -/
def skipNumber (cs : List Char) : Option (List Char) := do
  let rest ←
    match cs with
    | '0' :: rest => if (skipDigits? rest).isSome then none else some rest
    | cs => skipDigits? cs
  let rest ←
    match rest with
    | '.' :: rest => skipDigits? rest
    | rest => some rest
  match rest with
  | c :: rest =>
    if c == 'e' || c == 'E' then (exponentPart rest).map Prod.snd else some (c :: rest)
  | [] => some []

/-- The text after a closing bracket at its front, or after a comma. The flag tells which. -/
def closing? (bracket : Char) (cs : List Char) : Option (Bool × List Char) :=
  match skipSpace cs with
  | c :: rest =>
    if c == bracket then some (true, rest) else if c == ',' then some (false, rest) else none
  | [] => none

mutual

/-- The text after one value after blanks. The number bounds the steps. -/
def skipValue (fuel : Nat) (cs : List Char) : Option (List Char) :=
  match fuel with
  | 0 => none
  | fuel + 1 =>
    match skipSpace cs with
    | 'n' :: 'u' :: 'l' :: 'l' :: rest => some rest
    | 't' :: 'r' :: 'u' :: 'e' :: rest => some rest
    | 'f' :: 'a' :: 'l' :: 's' :: 'e' :: rest => some rest
    | '"' :: rest => skipString rest
    | '-' :: rest => skipNumber rest
    | '[' :: rest =>
      match skipSpace rest with
      | ']' :: rest => some rest
      | rest => skipItems fuel rest
    | '\x7b' :: rest =>
      match skipSpace rest with
      | '\x7d' :: rest => some rest
      | rest => skipFields fuel rest
    | rest => skipNumber rest

/-- The text after the members of an array and its closing bracket. -/
def skipItems (fuel : Nat) (cs : List Char) : Option (List Char) :=
  match fuel with
  | 0 => none
  | fuel + 1 =>
    match (skipValue fuel cs).bind (closing? ']') with
    | some (true, rest) => some rest
    | some (false, rest) => skipItems fuel rest
    | none => none

/-- The text after the fields of an object and its closing brace. -/
def skipFields (fuel : Nat) (cs : List Char) : Option (List Char) :=
  match fuel with
  | 0 => none
  | fuel + 1 =>
    match skipSpace cs with
    | '"' :: rest =>
      match (skipString rest).map skipSpace with
      | some (':' :: rest) =>
        match (skipValue fuel rest).bind (closing? '\x7d') with
        | some (true, rest) => some rest
        | some (false, rest) => skipFields fuel rest
        | none => none
      | _ => none
    | _ => none

end

/-! ### Values -/

mutual

/-- One value after blanks, and the text after it. Fields that are not wanted are passed over. The
first number bounds the steps, the second the levels of nesting. -/
def value (wanted : String → Bool) (fuel depth : Nat) (cs : List Char) :
    Option (Json × List Char) :=
  match fuel with
  | 0 => none
  | fuel + 1 =>
    match skipSpace cs with
    | 'n' :: 'u' :: 'l' :: 'l' :: rest => some (.null, rest)
    | 't' :: 'r' :: 'u' :: 'e' :: rest => some (.bool true, rest)
    | 'f' :: 'a' :: 'l' :: 's' :: 'e' :: rest => some (.bool false, rest)
    | '"' :: rest => (stringBody rest).map fun (s, after) => (.string (String.ofList s), after)
    | '-' :: rest => number true rest
    | '[' :: rest =>
      match depth with
      | 0 => none
      | depth + 1 =>
        match skipSpace rest with
        | ']' :: rest => some (.array [], rest)
        | rest => (items wanted fuel depth rest).map fun (vs, after) => (.array vs, after)
    | '\x7b' :: rest =>
      match depth with
      | 0 => none
      | depth + 1 =>
        match skipSpace rest with
        | '\x7d' :: rest => some (.object [], rest)
        | rest => (fields wanted fuel depth rest).map fun (fs, after) => (.object fs, after)
    | rest => number false rest

/-- The members of an array up to its closing bracket. -/
def items (wanted : String → Bool) (fuel depth : Nat) (cs : List Char) :
    Option (List Json × List Char) :=
  match fuel with
  | 0 => none
  | fuel + 1 =>
    match value wanted fuel depth cs with
    | none => none
    | some (v, rest) =>
      match closing? ']' rest with
      | some (true, rest) => some ([v], rest)
      | some (false, rest) =>
        (items wanted fuel depth rest).map fun (vs, after) => (v :: vs, after)
      | none => none

/-- The fields of an object up to its closing brace. -/
def fields (wanted : String → Bool) (fuel depth : Nat) (cs : List Char) :
    Option (List (String × Json) × List Char) :=
  match fuel with
  | 0 => none
  | fuel + 1 =>
    match skipSpace cs with
    | '"' :: rest =>
      match stringBody rest with
      | none => none
      | some (key, rest) =>
        match skipSpace rest with
        | ':' :: rest =>
          let key := String.ofList key
          let field :=
            if wanted key then
              (value wanted fuel depth rest).map fun (v, rest) => ([(key, v)], rest)
            else (skipValue fuel rest).map fun rest => ([], rest)
          match field with
          | none => none
          | some (entry, rest) =>
            match closing? '\x7d' rest with
            | some (true, rest) => some (entry, rest)
            | some (false, rest) =>
              (fields wanted fuel depth rest).map fun (fs, after) => (entry ++ fs, after)
            | none => none
        | _ => none
    | _ => none

end

/-- The deepest nesting that is read. -/
def maxDepth : Nat := 127

end Reader

/-- Reads a whole text as one value, of which only the fields with wanted names are looked at, in
the order of the text and repeated ones kept. -/
def readOnly? (wanted : String → Bool) (text : String) : Option Json :=
  let cs := text.toList
  match Reader.value wanted (2 * cs.length + 2) Reader.maxDepth cs with
  | some (v, rest) => if (Reader.skipSpace rest).isEmpty then some v else none
  | none => none

/-- Reads a whole text as one value, fields in the order of the text and repeated ones kept. -/
def read? (text : String) : Option Json := readOnly? (fun _ => true) text

/-- Reads a whole text as one value in canonical form. -/
def parse? (text : String) : Option Json := (read? text).map canonical

end Codemod.Json
