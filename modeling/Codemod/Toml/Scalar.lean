import Codemod.Decimal
import Codemod.Json.Reader

/-!
# Quoted texts of TOML

There are four kinds: between double quotes with escapes, between single quotes without, and both
over several lines between triple quotes.

- `Toml.Quoted.basic?`, `Toml.Quoted.literal?` — on one line
- `Toml.Quoted.basicLines?`, `Toml.Quoted.literalLines?` — over several lines
- `Toml.Quoted.read?` — any of the four, from its opening quotes
-/

namespace Codemod.Toml.Quoted

/-- A text that was read and what follows it. -/
abbrev Read := Option (List Char × List Char)

/-- A character may stand in a text or a comment: no control but the tab. -/
def isAllowed (c : Char) : Bool := c == '\t' || (32 ≤ c.toNat && c.toNat != 127)

/-- A blank within a line. -/
def isGap (c : Char) : Bool := c == ' ' || c == '\t'

/-- A character by its code, unless the code is that of a surrogate or too large. -/
def ofCode? (n : Nat) : Option Char :=
  if h : n.isValidChar then some (Char.ofNatAux n h) else none

/-- The character that an escape stands for, and what follows it. -/
def escape? : List Char → Option (Char × List Char)
  | 'b' :: rest => some (Char.ofNat 8, rest)
  | 'e' :: rest => some (Char.ofNat 27, rest)
  | 't' :: rest => some ('\t', rest)
  | 'n' :: rest => some ('\n', rest)
  | 'f' :: rest => some (Char.ofNat 12, rest)
  | 'r' :: rest => some ('\r', rest)
  | '"' :: rest => some ('"', rest)
  | '\\' :: rest => some ('\\', rest)
  | 'x' :: a :: b :: rest => do
    some (← ofCode? (← Json.Reader.hexQuad? '0' '0' a b), rest)
  | 'u' :: a :: b :: c :: d :: rest => do
    some (← ofCode? (← Json.Reader.hexQuad? a b c d), rest)
  | 'U' :: a :: b :: c :: d :: e :: f :: g :: h :: rest => do
    let high ← Json.Reader.hexQuad? a b c d
    let low ← Json.Reader.hexQuad? e f g h
    some (← ofCode? (high * 65536 + low), rest)
  | _ => none

/-- A text with escapes after its opening quote. -/
def basic? (fuel : Nat) (cs : List Char) : Read :=
  match fuel, cs with
  | 0, _ => none
  | _, '"' :: rest => some ([], rest)
  | fuel + 1, '\\' :: rest => do
    let (c, rest) ← escape? rest
    let (text, rest) ← basic? fuel rest
    some (c :: text, rest)
  | fuel + 1, c :: rest =>
    if isAllowed c then (basic? fuel rest).map fun (text, rest) => (c :: text, rest) else none
  | _, [] => none

/-- A text without escapes after its opening quote. -/
def literal? : List Char → Read
  | '\'' :: rest => some ([], rest)
  | c :: rest =>
    if isAllowed c then (literal? rest).map fun (text, rest) => (c :: text, rest) else none
  | [] => none

/-- What follows a line break, if there is one. -/
def afterBreak? : List Char → Option (List Char)
  | '\n' :: rest => some rest
  | '\r' :: '\n' :: rest => some rest
  | _ => none

/-- The text without a line break at its front. -/
def skipBreak (cs : List Char) : List Char := (afterBreak? cs).getD cs

/-- Blanks and line breaks dropped after a backslash that ends a line. -/
def skipFolded : List Char → List Char
  | '\r' :: '\n' :: rest => skipFolded rest
  | c :: rest => if isGap c || c == '\n' then skipFolded rest else c :: rest
  | [] => []

/-- The quotes that end a text over several lines: three that close it, and up to two before them
that belong to it. -/
def closing? (quote : Char) (cs : List Char) : Read :=
  let (run, rest) := cs.span (· == quote)
  if run.length < 3 then none
  else
    let kept := min (run.length - 3) 2
    some (List.replicate kept quote, List.replicate (run.length - 3 - kept) quote ++ rest)

/-- A text over several lines with escapes, after its opening quotes. -/
def basicLines? (fuel : Nat) (cs : List Char) : Read :=
  match fuel with
  | 0 => none
  | fuel + 1 =>
    match closing? '"' cs with
    | some found => some found
    | none =>
      match cs with
      | '\\' :: rest =>
        match escape? rest with
        | some (c, rest) => (basicLines? fuel rest).map fun (text, rest) => (c :: text, rest)
        | none => do
          let after ← afterBreak? (rest.dropWhile isGap)
          basicLines? fuel (skipFolded after)
      | '\r' :: '\n' :: rest =>
        (basicLines? fuel rest).map fun (text, rest) => ('\r' :: '\n' :: text, rest)
      | c :: rest =>
        if isAllowed c || c == '\n' then
          (basicLines? fuel rest).map fun (text, rest) => (c :: text, rest)
        else none
      | [] => none

/-- A text over several lines without escapes, after its opening quotes. -/
def literalLines? (fuel : Nat) (cs : List Char) : Read :=
  match fuel with
  | 0 => none
  | fuel + 1 =>
    match closing? '\'' cs with
    | some found => some found
    | none =>
      match cs with
      | '\r' :: '\n' :: rest =>
        (literalLines? fuel rest).map fun (text, rest) => ('\r' :: '\n' :: text, rest)
      | c :: rest =>
        if isAllowed c || c == '\n' then
          (literalLines? fuel rest).map fun (text, rest) => (c :: text, rest)
        else none
      | [] => none

/-- A text on one line from its opening quote, as a key may be written. -/
def readKey? : List Char → Read
  | '"' :: rest => basic? (rest.length + 1) rest
  | '\'' :: rest => literal? rest
  | _ => none

/-- A text from its opening quotes. -/
def read? : List Char → Read
  | '"' :: '"' :: '"' :: rest => basicLines? (rest.length + 1) (skipBreak rest)
  | '\'' :: '\'' :: '\'' :: rest => literalLines? (rest.length + 1) (skipBreak rest)
  | cs => readKey? cs

end Codemod.Toml.Quoted

/-!
## Bare values of TOML

A value that is written without quotes or brackets is a truth value, an integer, a floating-point
number or a date. It is read from its whole text. A date is kept as the text of its normal form.

- `Toml.Scalar.integer?`, `Toml.Scalar.float?`, `Toml.Scalar.moment?` — the three families
- `Toml.Scalar.read?` — a bare value
-/

namespace Codemod.Toml.Scalar

/-- Digits with single underscores between them, without the underscores. -/
def digits? (isDigit : Char → Bool) : List Char → Option (List Char)
  | [c] => if isDigit c then some [c] else none
  | c :: '_' :: d :: rest =>
    if isDigit c then (digits? isDigit (d :: rest)).map (c :: ·) else none
  | c :: rest => if isDigit c then (digits? isDigit rest).map (c :: ·) else none
  | [] => none

/-- A sign, if there is one, and what follows it. -/
def sign : List Char → Bool × List Char
  | '-' :: rest => (true, rest)
  | '+' :: rest => (false, rest)
  | cs => (false, cs)

/-- Decimal digits without a leading zero. -/
def wholeDigits? (cs : List Char) : Option (List Char) := do
  let ds ← digits? Char.isDigit cs
  if ds.length > 1 && ds.head? == some '0' then none else some ds

/-- The value of digits to a base. -/
def valueOf (base : Nat) (ds : List Char) : Nat :=
  ds.foldl (fun n c => n * base + (Json.Reader.hexValue? c).getD 0) 0

/-- A digit below a base. -/
def isDigitOf (base : Nat) (c : Char) : Bool :=
  match Json.Reader.hexValue? c with
  | some n => n < base
  | none => false

/-- An integer literal, without regard to its size. -/
def unbounded? : List Char → Option Int
  | '0' :: 'x' :: rest => (digits? (isDigitOf 16) rest).map fun ds => (valueOf 16 ds : Int)
  | '0' :: 'o' :: rest => (digits? (isDigitOf 8) rest).map fun ds => (valueOf 8 ds : Int)
  | '0' :: 'b' :: rest => (digits? (isDigitOf 2) rest).map fun ds => (valueOf 2 ds : Int)
  | cs =>
    let (negative, cs) := sign cs
    (wholeDigits? cs).map fun ds =>
      let n : Int := Decimal.digitsValue ds
      if negative then -n else n

/-- An integer literal of 64 bits. -/
def integer? (cs : List Char) : Option Int := do
  let n ← unbounded? cs
  if -(2 ^ 63) ≤ n && n < 2 ^ 63 then some n else none

/-- Splits a text at the first character of a class, which is dropped. -/
def splitAt? (p : Char → Bool) (cs : List Char) : Option (List Char × List Char) :=
  match cs.span (!p ·) with
  | (before, _ :: after) => some (before, after)
  | (_, []) => none

/-- A floating-point literal: a whole part with a fraction, an exponent, or both; or one of the two
names. A number beyond the largest has no literal. -/
def float? (cs : List Char) : Option Binary64 := do
  let (negative, cs) := sign cs
  let x ←
    match cs with
    | ['i', 'n', 'f'] => some Binary64.infinity
    | ['n', 'a', 'n'] => some Binary64.nan
    | _ => do
      let (mantissa, exponent) ←
        match splitAt? (fun c => c == 'e' || c == 'E') cs with
        | some (mantissa, power) => do
          let (down, power) := sign power
          let n : Int := Decimal.digitsValue (← digits? Char.isDigit power)
          some (mantissa, some (if down then -n else n))
        | none => some (cs, none)
      let decimal ←
        match splitAt? (· == '.') mantissa, exponent with
        | some (whole, fraction), exponent => do
          some (Decimal.ofDigits (← wholeDigits? whole) (← digits? Char.isDigit fraction)
            (exponent.getD 0))
        | none, some exponent => do some (Decimal.ofDigits (← wholeDigits? mantissa) [] exponent)
        | none, none => none
      let x := decimal.nearest
      if x.isInfinite then none else some x
  return x.withSign negative

/-! ### Dates and times -/

/-- Two digits and their value. -/
def pair? : List Char → Option (Nat × List Char)
  | a :: b :: rest =>
    if a.isDigit && b.isDigit then some (Decimal.digitsValue [a, b], rest) else none
  | _ => none

/-- The number of days of a month. -/
def daysIn (year month : Nat) : Nat :=
  if month == 2 then
    if year % 4 == 0 && (year % 100 != 0 || year % 400 == 0) then 29 else 28
  else if [4, 6, 9, 11].contains month then 30
  else 31

/-- A calendar date at the front of a text. -/
def date? (cs : List Char) : Option (List Char × List Char) :=
  match cs with
  | y₁ :: y₂ :: y₃ :: y₄ :: '-' :: m₁ :: m₂ :: '-' :: d₁ :: d₂ :: rest =>
    let parts := [y₁, y₂, y₃, y₄, m₁, m₂, d₁, d₂]
    let year := Decimal.digitsValue [y₁, y₂, y₃, y₄]
    let month := Decimal.digitsValue [m₁, m₂]
    let day := Decimal.digitsValue [d₁, d₂]
    if parts.all Char.isDigit && 1 ≤ month && month ≤ 12 && 1 ≤ day && day ≤ daysIn year month then
      some (cs.take 10, rest)
    else none
  | _ => none

/-- A fraction of a second in normal form: at most nine digits, without trailing zeros but one. -/
def fractionText (ds : List Char) : List Char :=
  match ((ds.take 9).reverse.dropWhile (· == '0')).reverse with
  | [] => ['.', '0']
  | kept => '.' :: kept

/-- The seconds of a time of day at the front of a text, in normal form. They may be missing. -/
def seconds? : List Char → Option (List Char × List Char)
  | ':' :: rest => do
    let (second, after) ← pair? rest
    if second > 60 then none
    else
      let whole := ':' :: rest.take 2
      match after with
      | '.' :: after =>
        match after.span Char.isDigit with
        | ([], _) => none
        | (ds, after) => some (whole ++ fractionText ds, after)
      | after => some (whole, after)
  | cs => some ([], cs)

/-- A time of day at the front of a text. -/
def time? (cs : List Char) : Option (List Char × List Char) := do
  let (hour, rest) ← pair? cs
  let (minute, rest) ← match rest with
    | ':' :: rest => pair? rest
    | _ => none
  if hour > 23 || minute > 59 then none
  else
    let (seconds, rest) ← seconds? rest
    some (cs.take 5 ++ seconds, rest)

/-- The end of a date with a time: nothing, or a difference to universal time. No difference has
the sign of a plus. -/
def offset? (cs : List Char) : Option (List Char) :=
  match cs with
  | [] => some []
  | ['Z'] | ['z'] => some ['Z']
  | mark :: rest =>
    if mark == '+' || mark == '-' then
      match pair? rest with
      | some (hour, ':' :: after) =>
        match pair? after with
        | some (minute, []) =>
          if hour ≤ 23 && minute ≤ 59 then
            some ((if hour == 0 && minute == 0 then '+' else mark) :: rest)
          else none
        | _ => none
      | _ => none
    else none

/-- A date, a time, or a date with a time, in normal form. -/
def moment? (cs : List Char) : Option (List Char) :=
  match date? cs with
  | some (date, []) => some date
  | some (date, mark :: rest) =>
    if mark == 'T' || mark == 't' || mark == ' ' then do
      let (time, rest) ← time? rest
      let offset ← offset? rest
      some (date ++ 'T' :: time ++ offset)
    else none
  | none =>
    match time? cs with
    | some (time, []) => some time
    | _ => none

/-- A bare value from its whole text. -/
def read? (cs : List Char) : Option Json :=
  match String.ofList cs with
  | "true" => some (.bool true)
  | "false" => some (.bool false)
  | _ =>
    match integer? cs, float? cs, moment? cs with
    | some n, _, _ => some (.int n)
    | _, some x, _ => some (.float x)
    | _, _, some text => some (.string (String.ofList text))
    | none, none, none => none

end Codemod.Toml.Scalar
