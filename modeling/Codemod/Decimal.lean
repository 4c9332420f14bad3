import Codemod.Instance

/-!
# Binary floating point in exact arithmetic

A `Binary64` is the 64-bit pattern of a floating-point number. Its value is read as `m * 2 ^ q` with
natural `m`, and results are rounded from exact quotients, to nearest with ties to even.

- `Binary64.ofRatio` — the number nearest to a quotient of naturals
- `Binary64.mul`, `Binary64.div` — rounded product and quotient of magnitudes
- `Binary64.toIntRounded` — nearest integer, halves away from zero
-/

namespace Codemod

/-- A 64-bit floating-point number, by its bits. -/
structure Binary64 where
  bits : UInt64
deriving DecidableEq, Inhabited

namespace Binary64

/-- The sign bit. -/
def isNegative (x : Binary64) : Bool := x.bits >>> 63 == 1

/-- The eleven bits of the exponent field. -/
def exponentField (x : Binary64) : Nat := ((x.bits >>> 52) &&& 0x7FF).toNat

/-- The fifty-two bits of the fraction field. -/
def fractionField (x : Binary64) : Nat := (x.bits &&& 0xFFFFFFFFFFFFF).toNat

/-- Infinite, of either sign. -/
def isInfinite (x : Binary64) : Bool := x.exponentField == 0x7FF && x.fractionField == 0

/-- Not a number. -/
def isNaN (x : Binary64) : Bool := x.exponentField == 0x7FF && x.fractionField != 0

/-- Zero, of either sign. -/
def isZero (x : Binary64) : Bool := x.exponentField == 0 && x.fractionField == 0

/-- The magnitude of a finite number as `m * 2 ^ q`. -/
def magnitude (x : Binary64) : Nat × Int :=
  if x.exponentField == 0 then (x.fractionField, -1074)
  else (2 ^ 52 + x.fractionField, (x.exponentField : Int) - 1075)

/-- The same magnitude under another sign. -/
def withSign (negative : Bool) (x : Binary64) : Binary64 :=
  ⟨(x.bits &&& 0x7FFFFFFFFFFFFFFF) ||| (if negative then 0x8000000000000000 else 0)⟩

/-- Positive infinity. -/
def infinity : Binary64 := ⟨0x7FF0000000000000⟩

/-- The quotient rounded to a natural number, ties to even. -/
def roundQuotient (num den : Nat) : Nat :=
  let q := num / den
  let r := num % den
  if 2 * r < den then q
  else if den < 2 * r then q + 1
  else if q % 2 == 0 then q else q + 1

/-- The number with significand `m < 2 ^ 53` and exponent `q`, infinite when the exponent is too
large. A significand below `2 ^ 52` goes with the least exponent only. -/
def ofSignificand (m : Nat) (q : Int) : Binary64 :=
  if m < 2 ^ 52 then ⟨m.toUInt64⟩
  else
    let field := (q + 1075).toNat
    if field ≥ 0x7FF then infinity
    else ⟨(field * 2 ^ 52 + (m - 2 ^ 52)).toUInt64⟩

/-- The number nearest to `num / den`, ties to even; infinite when beyond the largest. -/
def ofRatio (num den : Nat) : Binary64 :=
  if num == 0 || den == 0 then ⟨0⟩
  else
    let guess : Int := (num.log2 : Int) - den.log2 - 53
    let quotient (q : Int) : Nat × Nat := (num * 2 ^ (-q).toNat, den * 2 ^ q.toNat)
    let fits (q : Int) : Bool := (quotient q).1 / (quotient q).2 < 2 ^ 53
    let q := max (-1074) (if fits guess then guess else guess + 1)
    let m := roundQuotient (quotient q).1 (quotient q).2
    if m == 2 ^ 53 then ofSignificand (2 ^ 52) (q + 1) else ofSignificand m q

/-- The number nearest to a natural number. -/
def ofNat (n : Nat) : Binary64 := ofRatio n 1

/-- The rounded product of two finite magnitudes. -/
def mul (x y : Binary64) : Binary64 :=
  let (m, q) := x.magnitude
  let (n, r) := y.magnitude
  ofRatio (m * n * 2 ^ (q + r).toNat) (2 ^ (-(q + r)).toNat)

/-- The rounded quotient of two finite magnitudes. -/
def div (x y : Binary64) : Binary64 :=
  let (m, q) := x.magnitude
  let (n, r) := y.magnitude
  ofRatio (m * 2 ^ (q - r).toNat) (n * 2 ^ (r - q).toNat)

/-- The nearest integer of a finite number, halves away from zero. -/
def toIntRounded (x : Binary64) : Int :=
  let (m, q) := x.magnitude
  let num := m * 2 ^ q.toNat
  let den := 2 ^ (-q).toNat
  let n := (2 * num + den) / (2 * den)
  if x.isNegative then -(n : Int) else n

end Binary64

end Codemod

/-!
## The shortest decimal that reads back

The shortest decimal of a floating-point number is the one of fewest digits among those that round
to it. The search runs over decimal grids from coarse to fine and tests, on each grid, the two
neighbours of the exact value.

- `Decimal.readsBack` — the decimals that round to a magnitude
- `Decimal.shortest` — the shortest one, the nearest of those
- `Decimal.Layout` — how digits and exponent are written down
-/

namespace Codemod

/-- The decimal `digits * 10 ^ exponent`. -/
structure Decimal where
  digits : Nat
  exponent : Int
deriving DecidableEq, Inhabited

namespace Decimal

/-- Compares `a * 10 ^ i` with `n * 2 ^ j` exactly. -/
def compareScaled (a : Nat) (i : Int) (n : Nat) (j : Int) : Ordering :=
  compare (a * 10 ^ i.toNat * 2 ^ (-j).toNat) (n * 2 ^ j.toNat * 10 ^ (-i).toNat)

/-- The decimal lies among the reals that round to the magnitude of `x`: halfway to the neighbours,
ends included when the significand is even. -/
def readsBack (x : Binary64) (d : Decimal) : Bool :=
  let (m, q) := x.magnitude
  let narrow := x.fractionField == 0 && x.exponentField > 1
  let low := if narrow then 4 * m - 1 else 4 * m - 2
  let ends := m % 2 == 0
  let atLow := compareScaled d.digits d.exponent low (q - 2)
  let atHigh := compareScaled d.digits d.exponent (4 * m + 2) (q - 2)
  (atLow == .gt || (ends && atLow == .eq)) && (atHigh == .lt || (ends && atHigh == .eq))

/-- Which of two equally near decimals is taken. -/
inductive Tie where
  | toEven
  | up
deriving DecidableEq

/-- The least `k` with `m * 2 ^ q < 10 ^ k`, for a positive `m`, found from an estimate. -/
def scale (m : Nat) (q : Int) : Int :=
  let estimate : Int := ((m.log2 : Int) + q) * 30103 / 100000
  let below (k : Int) : Bool := compareScaled 1 k m q == .gt
  match [estimate - 1, estimate, estimate + 1].find? below with
  | some k => k
  | none => estimate + 2

/-- The better of the two neighbours of the magnitude on the grid `10 ^ e`, if one reads back. -/
def onGrid? (x : Binary64) (tie : Tie) (e : Int) : Option Decimal :=
  let (m, q) := x.magnitude
  let num := m * 2 ^ q.toNat * 10 ^ (-e).toNat
  let den := 2 ^ (-q).toNat * 10 ^ e.toNat
  let lower := num / den
  let down : Decimal := ⟨lower, e⟩
  let up : Decimal := ⟨lower + 1, e⟩
  match readsBack x down, readsBack x up with
  | false, false => none
  | true, false => some down
  | false, true => some up
  | true, true =>
    match compare (2 * num) ((2 * lower + 1) * den), tie with
    | .lt, _ => some down
    | .gt, _ => some up
    | .eq, .up => some up
    | .eq, .toEven => some (if lower % 2 == 0 then down else up)

/-- Moves trailing zeros of the digits into the exponent. -/
def stripZeros : Nat → Decimal → Decimal
  | 0, d => d
  | fuel + 1, d =>
    if d.digits != 0 && d.digits % 10 == 0 then stripZeros fuel ⟨d.digits / 10, d.exponent + 1⟩
    else d

/-- The exact value of a magnitude. -/
def exact (x : Binary64) : Decimal :=
  let (m, q) := x.magnitude
  if 0 ≤ q then ⟨m * 2 ^ q.toNat, 0⟩ else ⟨m * 5 ^ (-q).toNat, q⟩

/-- The shortest decimal of a finite magnitude. -/
def shortest (tie : Tie) (x : Binary64) : Decimal :=
  if x.isZero then ⟨0, 0⟩
  else
    let k := scale x.magnitude.1 x.magnitude.2
    match (List.range 17).findSome? (fun (i : Nat) => onGrid? x tie (k - 1 - i)) with
    | some d => stripZeros 20 d
    | none => exact x

/-- How a decimal is written. -/
structure Layout where
  /-- Least exponent of the leading digit that is written positionally; none for no limit. -/
  plainFrom : Option Int
  /-- First exponent of the leading digit that is no longer written positionally. -/
  plainBelow : Option Int
  /-- An integral number ends in `.0`. -/
  pointZero : Bool
  /-- A positive exponent carries a plus sign. -/
  plusSign : Bool

/-- Writes the digits positionally. -/
def plain (layout : Layout) (ds : List Char) (exponent : Int) : List Char :=
  if 0 ≤ exponent then
    ds ++ List.replicate exponent.toNat '0' ++ (if layout.pointZero then ['.', '0'] else [])
  else
    let fraction := (-exponent).toNat
    if ds.length ≤ fraction then '0' :: '.' :: List.replicate (fraction - ds.length) '0' ++ ds
    else ds.take (ds.length - fraction) ++ '.' :: ds.drop (ds.length - fraction)

/-- Writes the digits with an exponent. -/
def scientific (layout : Layout) (ds : List Char) (leading : Int) : List Char :=
  let sign := if leading < 0 then ['-'] else if layout.plusSign then ['+'] else []
  let point := if ds.length ≤ 1 then [] else '.' :: ds.drop 1
  ds.take 1 ++ point ++ 'e' :: sign ++ (toString leading.natAbs).toList

/-- Writes a decimal. -/
def render (layout : Layout) (d : Decimal) : List Char :=
  let ds := (toString d.digits).toList
  let leading : Int := d.exponent + ds.length - 1
  let positional :=
    (match layout.plainFrom with | some e => decide (e ≤ leading) | none => true)
      && (match layout.plainBelow with | some e => decide (leading < e) | none => true)
  if positional || d.digits == 0 then plain layout ds d.exponent else scientific layout ds leading

end Decimal

end Codemod

/-!
## Decimals in plain writing

- `Decimal.nearest` — the floating-point number nearest to a decimal
- `Decimal.ofDigits` — a decimal from its written parts
- `Binary64.plain` — a number written positionally, whatever its size
-/

namespace Codemod

namespace Decimal

/-- The number nearest to a decimal, ties to even; infinite when beyond the largest. Decimals far
outside the range are told by their leading digit alone. -/
def nearest (d : Decimal) : Binary64 :=
  let leading : Int := d.exponent + (toString d.digits).length
  if d.digits == 0 || leading < -400 then ⟨0⟩
  else if 400 < leading then Binary64.infinity
  else Binary64.ofRatio (d.digits * 10 ^ d.exponent.toNat) (10 ^ (-d.exponent).toNat)

/-- The value of a list of digits. -/
def digitsValue (ds : List Char) : Nat := ds.foldl (fun n c => n * 10 + (c.toNat - 48)) 0

/-- The decimal with these digits before and after the point, times a power of ten. -/
def ofDigits (whole fraction : List Char) (exponent : Int) : Decimal :=
  ⟨digitsValue (whole ++ fraction), exponent - fraction.length⟩

/-- Positional writing without a limit, an integral number without a point. -/
def plainLayout : Layout where
  plainFrom := none
  plainBelow := none
  pointZero := false
  plusSign := false

end Decimal

namespace Binary64

/-- The bits of a number that is not one. -/
def nan : Binary64 := ⟨0x7FF8000000000000⟩

/-- A number written positionally, with the fewest digits that read back. -/
def plain (x : Binary64) : String :=
  if x.isNaN then "NaN"
  else
    let text :=
      if x.isInfinite then "inf".toList
      else Decimal.render Decimal.plainLayout (Decimal.shortest .toEven x)
    String.ofList (if x.isNegative then '-' :: text else text)

/-- A number written positionally, a finite one always with a point. -/
def plainWithPoint (x : Binary64) : String :=
  let text := x.plain
  if x.exponentField == 0x7FF || text.toList.contains '.' then text else text ++ ".0"

end Binary64

end Codemod

/-!
## Quotients with a number of digits

A quotient of natural numbers is written with so many places, in positional or scientific writing,
or in whichever of the two is the shorter. A half goes to the even neighbour.

- `Decimal.Places.fixed` — with so many places after the point
- `Decimal.Places.scientific` — with one digit before the point and an exponent
- `Decimal.Places.general` — with so many digits in all, without zeros at the end
-/

namespace Codemod.Decimal.Places

/-- The decimal digits of a number, at least so many. -/
def digitsAtLeast (width n : Nat) : List Char :=
  let ds := (toString n).toList
  List.replicate (width - ds.length) '0' ++ ds

/-- Puts a point before the last `places` digits. -/
def pointed (places : Nat) (ds : List Char) : List Char :=
  if places = 0 then ds
  else ds.take (ds.length - places) ++ '.' :: ds.drop (ds.length - places)

/-- A quotient with so many places after the point. -/
def fixed (num den places : Nat) : List Char :=
  pointed places (digitsAtLeast (places + 1) (Binary64.roundQuotient (num * 10 ^ places) den))

/-- The exponent of the first digit of a quotient that is not zero. -/
def leadingExponent (num den : Nat) : Int :=
  let guess : Int := (toString num).length - (toString den).length
  if den * 10 ^ guess.toNat ≤ num * 10 ^ (-guess).toNat then guess else guess - 1

/-- The first digits of a quotient, `places` of them after the first, and the exponent of the first:
rounding may raise it. -/
def leadingDigits (num den places : Nat) : List Char × Int :=
  if num = 0 then (List.replicate (places + 1) '0', 0)
  else
    let exponent := leadingExponent num den
    let shift : Int := places - exponent
    let n := Binary64.roundQuotient (num * 10 ^ shift.toNat) (den * 10 ^ (-shift).toNat)
    let ds := (toString n).toList
    if ds.length > places + 1 then (ds.take (places + 1), exponent + 1) else (ds, exponent)

/-- An exponent with its sign and at least two digits. -/
def exponentText (exponent : Int) : List Char :=
  'e' :: (if exponent < 0 then '-' else '+') :: digitsAtLeast 2 exponent.natAbs

/-- A quotient with one digit before the point, so many after it, and an exponent. -/
def scientific (num den places : Nat) : List Char :=
  let (ds, exponent) := leadingDigits num den places
  pointed places ds ++ exponentText exponent

/-- Leaves out zeros at the end of a fraction, and a point with nothing after it. -/
def withoutZeros (cs : List Char) : List Char :=
  if cs.contains '.' then
    match cs.reverse.dropWhile (· == '0') with
    | '.' :: rest => rest.reverse
    | rest => rest.reverse
  else cs

/-- A quotient with so many digits: positional while the exponent is at least -4 and less than the
number of digits, scientific otherwise, without zeros at the end. -/
def general (num den digits : Nat) : List Char :=
  let digits := max digits 1
  let (ds, exponent) := leadingDigits num den (digits - 1)
  if exponent < -4 || (digits : Int) ≤ exponent then
    withoutZeros (pointed (digits - 1) ds) ++ exponentText exponent
  else withoutZeros (fixed num den ((digits : Int) - 1 - exponent).toNat)

end Codemod.Decimal.Places
