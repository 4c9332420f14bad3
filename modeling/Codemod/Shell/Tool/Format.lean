import Codemod.Decimal
import Codemod.Shell.Tool.Bench

/-!
# Formats

A format is a text with conversions, each begun by a percent sign.

- `Escape.read` — texts with escapes
- `Conversion`, `Format.parts` — the parts of a format
- `Ratio` — numbers that are not whole
- `Conversion.text`, `Conversion.integer`, `Conversion.real` — values in the writing that is asked
  for
-/

namespace Codemod.Shell

namespace Escape

/-- The octet of a single-letter escape. -/
def letter? (c : Char) : Option Char :=
  match c with
  | 'a' => some (Char.ofNat 7)
  | 'b' => some (Char.ofNat 8)
  | 'f' => some (Char.ofNat 12)
  | 'n' => some '\n'
  | 'r' => some '\r'
  | 't' => some '\t'
  | 'v' => some (Char.ofNat 11)
  | '\\' => some '\\'
  | _ => none

/-- An octal digit. -/
def isOctal (c : Char) : Bool := '0' ≤ c && c ≤ '7'

/-- The value of a hexadecimal digit. -/
def hexValue? (c : Char) : Option Nat :=
  if c.isDigit then some (c.toNat - 48)
  else if 'a' ≤ c && c ≤ 'f' then some (c.toNat - 87)
  else if 'A' ≤ c && c ≤ 'F' then some (c.toNat - 55)
  else none

/-- The octet of up to `most` octal digits, and what follows them. -/
def octal (most : Nat) (cs : Octets) : Char × Octets :=
  let ds := (cs.take most).takeWhile isOctal
  (Char.ofNat (ds.foldl (fun n c => n * 8 + (c.toNat - 48)) 0 % 256), cs.drop ds.length)

/-- The octet of up to two hexadecimal digits, and what follows them; none without digits. -/
def hex? (cs : Octets) : Option (Char × Octets) :=
  let ds := (cs.take 2).takeWhile fun c => (hexValue? c).isSome
  if ds.isEmpty then none
  else
    some (Char.ofNat (ds.foldl (fun n c => n * 16 + (hexValue? c).getD 0) 0), cs.drop ds.length)

/-- Which escapes there are. -/
structure Style where
  /-- Octal codes have a zero in front. -/
  zero : Bool := false
  /-- Octal codes without a zero count too. -/
  bare : Bool := true
  /-- An escape can end the output. -/
  stops : Bool := false
  /-- There are hexadecimal codes. -/
  rich : Bool := false
  /-- A quote may be escaped. -/
  quotes : Bool := false

/-- A text with its escapes replaced, and whether an escape ended it. -/
def read (style : Style) (fuel : Nat) (cs : Octets) : Octets × Bool :=
  match fuel, cs with
  | 0, _ => ([], false)
  | _, [] => ([], false)
  | fuel + 1, '\\' :: c :: rest =>
    let keep (taken : Octets) (rest : Octets) : Octets × Bool :=
      let (text, ended) := read style fuel rest
      (taken ++ text, ended)
    if c == 'c' && style.stops then ([], true)
    else if c == '0' && style.zero then
      let (octet, rest) := octal 3 rest
      keep [octet] rest
    else if isOctal c && style.bare then
      let (octet, rest) := octal 3 (c :: rest)
      keep [octet] rest
    else if c == 'x' && style.rich then
      match hex? rest with
      | some (octet, rest) => keep [octet] rest
      | none => keep ['\\', 'x'] rest
    else if c == 'e' then keep [Char.ofNat 27] rest
    else if c == '"' && style.quotes then keep ['"'] rest
    else
      match letter? c with
      | some octet => keep [octet] rest
      | none => keep ['\\', c] rest
  | fuel + 1, c :: rest =>
    let (text, ended) := read style fuel rest
    (c :: text, ended)

/-- A text with its escapes replaced. -/
def replaced (style : Style) (cs : Octets) : Octets := (read style (cs.length + 1) cs).1

end Escape

/-- A length in a format. -/
inductive FormatLength where
  | fixed (n : Nat)
  /-- An argument says it. -/
  | given
deriving DecidableEq

/-- A conversion of a format. -/
structure Conversion where
  left : Bool := false
  zeros : Bool := false
  plus : Bool := false
  blank : Bool := false
  alternate : Bool := false
  width : FormatLength := .fixed 0
  precision : Option FormatLength := none
  letter : Char := 's'

/-- A part of a format. -/
inductive FormatPart where
  | text (text : Octets)
  | conversion (c : Conversion)
  /-- What follows a percent sign and is no conversion. -/
  | bad (text : Octets)

namespace Format

/-- The flags of a conversion. -/
def flags (c : Conversion) : Octets → Conversion × Octets
  | '-' :: rest => flags { c with left := true } rest
  | '0' :: rest => flags { c with zeros := true } rest
  | '+' :: rest => flags { c with plus := true } rest
  | ' ' :: rest => flags { c with blank := true } rest
  | '#' :: rest => flags { c with alternate := true } rest
  | rest => (c, rest)

/-- A length at the front of a text. -/
def lengthAt (cs : Octets) : FormatLength × Octets :=
  match cs with
  | '*' :: rest => (.given, rest)
  | cs =>
    let (ds, rest) := cs.span Char.isDigit
    (.fixed ((Tool.natural? ds).getD 0), rest)

/-- A conversion after its percent sign. The `modifiers` in front of the letter do not count. -/
def conversion? (modifiers : Octets) (cs : Octets) : Option (Conversion × Octets) :=
  let (c, rest) := flags {} cs
  let (width, rest) := lengthAt rest
  let (precision, rest) :=
    match rest with
    | '.' :: rest =>
      let (length, rest) := lengthAt rest
      (some length, rest)
    | rest => (none, rest)
  match rest.dropWhile modifiers.contains with
  | letter :: rest => some ({ c with width, precision, letter }, rest)
  | [] => none

/-- The parts of a format with conversions of some letters. Nothing is read after a bad one. -/
def parts (letters modifiers : Octets) (fuel : Nat) (cs : Octets) : List FormatPart :=
  match fuel, cs with
  | 0, _ => []
  | _, [] => []
  | fuel + 1, '%' :: '%' :: rest => .text ['%'] :: parts letters modifiers fuel rest
  | fuel + 1, '%' :: rest =>
    match conversion? modifiers rest with
    | some (c, after) =>
      if letters.contains c.letter then .conversion c :: parts letters modifiers fuel after
      else [.bad ('%' :: rest.take (rest.length - after.length))]
    | none => [.bad []]
  | fuel + 1, cs =>
    let (text, rest) := cs.span (· != '%')
    .text text :: parts letters modifiers fuel rest

end Format

/-- A number that need not be whole, or no number. -/
inductive Ratio where
  | quotient (negative : Bool) (num den : Nat)
  | infinite (negative : Bool)
  | nan (negative : Bool)
deriving DecidableEq

namespace Ratio

/-- A whole number. -/
def ofInt (n : Int) : Ratio := .quotient (n < 0) n.natAbs 1

/-- The sign of an exponent and its digits. -/
def exponent? (cs : Octets) : Option (Int × Octets) :=
  match cs with
  | e :: rest =>
    if e == 'e' || e == 'E' then
      let (negative, ds) := match rest with
        | '-' :: ds => (true, ds)
        | '+' :: ds => (false, ds)
        | ds => (false, ds)
      let (digits, rest) := ds.span Char.isDigit
      match Tool.natural? digits with
      | some n => some (if negative then -(n : Int) else n, rest)
      | none => none
    else none
  | [] => none

/-- The number at the front of a text, and what follows it; none when there is none. -/
def read? (cs : Octets) : Option (Ratio × Octets) :=
  let cs := Octets.trimLeft cs
  let (negative, ds) := match cs with
    | '-' :: ds => (true, ds)
    | '+' :: ds => (false, ds)
    | ds => (false, ds)
  let lower := (ds.take 8).map Char.toLower
  if "infinity".toList.isPrefixOf lower then some (.infinite negative, ds.drop 8)
  else if "inf".toList.isPrefixOf lower then some (.infinite negative, ds.drop 3)
  else if "nan".toList.isPrefixOf lower then some (.nan negative, ds.drop 3)
  else if "0x".toList.isPrefixOf lower && (ds[2]?).any fun c => (Escape.hexValue? c).isSome then
    let (digits, rest) := (ds.drop 2).span fun c => (Escape.hexValue? c).isSome
    some (.quotient negative (digits.foldl (fun n c => n * 16 + (Escape.hexValue? c).getD 0) 0) 1,
      rest)
  else
    let (whole, rest) := ds.span Char.isDigit
    let (fraction, rest) :=
      match rest with
      | '.' :: after =>
        let (fraction, after) := after.span Char.isDigit
        if whole.isEmpty && fraction.isEmpty then ([], rest) else (fraction, after)
      | rest => ([], rest)
    match Tool.natural? (whole ++ fraction) with
    | none => none
    | some n =>
      let (e, rest) := (exponent? rest).getD (0, rest)
      let e := max (-5000) (min 5000 e)
      some (.quotient negative (n * 10 ^ e.toNat) (10 ^ (fraction.length + (-e).toNat)), rest)

/-- The number as a floating-point number of 64 bits has it. -/
def rounded : Ratio → Ratio
  | quotient negative num den =>
    let x := Binary64.ofRatio num den
    if x.isInfinite then .infinite negative
    else
      let (m, q) := x.magnitude
      .quotient negative (m * 2 ^ q.toNat) (2 ^ (-q).toNat)
  | r => r

end Ratio

namespace Conversion

/-- The width of a conversion whose lengths are fixed. -/
def columns (c : Conversion) : Nat :=
  match c.width with
  | .fixed n => n
  | .given => 0

/-- How many digits or octets a conversion asks for. -/
def places? (c : Conversion) : Option Nat :=
  match c.precision with
  | some (.fixed n) => some n
  | _ => none

/-- A text in a field. -/
def padded (c : Conversion) (text : Octets) : Octets :=
  if c.left then Octets.padRight c.columns text else Octets.padLeft c.columns text

/-- A text, cut off when it is too long. -/
def text (c : Conversion) (text : Octets) : Octets :=
  c.padded (match c.places? with
    | some n => text.take n
    | none => text)

/-- Digits in a field with a sign, or with zeros in front. -/
def withSign (c : Conversion) (zeros : Bool) (sign digits : Octets) : Octets :=
  if zeros && c.zeros && !c.left then
    sign ++ Octets.padLeft (c.columns - sign.length) digits '0'
  else c.padded (sign ++ digits)

/-- The sign of a number. -/
def sign (c : Conversion) (negative : Bool) : Octets :=
  if negative then ['-'] else if c.plus then ['+'] else if c.blank then [' '] else []

/-- A whole number. -/
def integer (c : Conversion) (n : Int) : Octets :=
  let digits (base n : Nat) : Octets :=
    let ds := if c.places? == some 0 && n == 0 then [] else Nat.toDigits base n
    Octets.padLeft (c.places?.getD 1) ds '0'
  let zeros := c.places?.isNone
  let unsigned := (n % 2 ^ 64).toNat
  match c.letter with
  | 'u' => c.withSign zeros [] (digits 10 unsigned)
  | 'o' =>
    let ds := digits 8 unsigned
    c.withSign zeros [] (if c.alternate && ds.head? != some '0' then '0' :: ds else ds)
  | 'x' =>
    c.withSign zeros (if c.alternate && unsigned != 0 then ['0', 'x'] else []) (digits 16 unsigned)
  | 'X' =>
    c.withSign zeros (if c.alternate && unsigned != 0 then ['0', 'X'] else [])
      ((digits 16 unsigned).map Char.toUpper)
  | _ => c.withSign zeros (c.sign (n < 0)) (digits 10 n.natAbs)

/-- A number that need not be whole. -/
def real (c : Conversion) (r : Ratio) : Octets :=
  let cased (text : Octets) : Octets := if c.letter.isUpper then text.map Char.toUpper else text
  match r with
  | .infinite negative =>
    { c with zeros := false }.withSign false (c.sign negative) (cased "inf".toList)
  | .nan negative => { c with zeros := false }.withSign false (c.sign negative) (cased "nan".toList)
  | .quotient negative num den =>
    let places := c.places?.getD 6
    let digits :=
      match c.letter.toLower with
      | 'e' => Decimal.Places.scientific num den places
      | 'f' => Decimal.Places.fixed num den places
      | _ => Decimal.Places.general num den places
    let digits :=
      if c.alternate && places == 0 && c.letter.toLower == 'f' then digits ++ ['.'] else digits
    c.withSign true (c.sign negative) (cased digits)

end Conversion

end Codemod.Shell
