import Codemod.Shell.Tool.Format
import Codemod.Shell.Tool.Lines

/-!
# Rows of numbers and of lines

- `Tool.sequence` — numbers from one to another
- `Tool.affirm` — a line again and again
- `Tool.factors` — the prime factors of numbers
-/

namespace Codemod.Shell.Tool

/-! ### Numbers from one to another -/

/-- A number that limits a sequence or leads to its next number. -/
structure Limit where
  value : Ratio
  /-- How many digits stand after its point. -/
  places : Nat
  /-- How many columns it takes. -/
  width : Nat

/-- The number of an argument, with the places and columns in which it is written. -/
def limit? (text : Octets) : Option Limit := do
  let (value, rest) ← Ratio.read? text
  if !rest.isEmpty then none
  let bare := (Octets.trimLeft text).dropWhile (· == '+')
  if bare.any fun c => c == 'x' || c == 'X' then return ⟨value, 0, 0⟩
  let (mantissa, exponent) := bare.span fun c => c != 'e' && c != 'E'
  let (whole, fraction) := mantissa.span (· != '.')
  let places := (fraction.drop 1).length
  let lacksWhole := !(whole.getLast?.any Char.isDigit)
  let width :=
    if fraction.isEmpty then mantissa.length
    else if places == 0 then mantissa.length - 1
    else if lacksWhole then mantissa.length + 1
    else mantissa.length
  match Ratio.exponent? exponent with
  | none => return ⟨value, places, width⟩
  | some (e, _) =>
    if e < 0 then
      let point := if fraction.isEmpty || places == 0 then 1 else 0
      return ⟨value, places + e.natAbs, width + point + e.natAbs⟩
    else
      let point := if places != 0 && places ≤ e.toNat then 1 else 0
      return ⟨value, places - e.toNat, width - point + (e.toNat - places)⟩

/-- A quotient as numerator and denominator; none for what is no number. -/
def quotient? : Ratio → Option (Int × Nat)
  | .quotient negative num den => some (if negative then -(num : Int) else num, den)
  | _ => none

/-- The numbers from a first one in equal steps. They are given over a common denominator. -/
def numbersBetween (first step last : Int) : Nat → Int → List Int
  | 0, _ => []
  | fuel + 1, k =>
    let n := first + k * step
    if (if step < 0 then n < last else last < n) then []
    else n :: numbersBetween first step last fuel (k + 1)

/-- What is wrong with a format for numbers; otherwise what stands before and after its
conversion. -/
def numberFormat (text : Octets) : Except String (Octets × Conversion × Octets) :=
  let parts := Format.parts "aefgAEFG".toList ['L'] (text.length + 1) text
  let conversions := parts.filterMap fun
    | .conversion c => some c
    | _ => none
  let literal (parts : List FormatPart) : Octets := parts.flatMap fun
    | .text text => text
    | _ => []
  let isConversion : FormatPart → Bool
    | .conversion _ => true
    | _ => false
  let bad := parts.findSome? fun
    | .bad text => some text
    | _ => none
  match bad, conversions with
  | some [], _ => .error s!"format {quoted text} ends in %"
  | some bad, [] =>
    let letter := String.ofList (bad.drop (bad.length - 1))
    .error s!"format {quoted text} has unknown %{letter} directive"
  | none, [c] =>
    let (before, after) := parts.span (!isConversion ·)
    .ok (literal before, c, literal (after.drop 1))
  | none, [] => .error s!"format {quoted text} has no % directive"
  | _, _ => .error s!"format {quoted text} has too many % directives"

/-- How many octets are made of an output without an end: more than any reader takes. -/
def plenty : Nat := 2 ^ 18

/-- A text that goes on without an end. -/
def sayForever (text : Octets) : Tool Nat := do
  say (List.replicate (plenty / text.length + 1) text).flatten
  modify fun b => { b with stuck := true }
  return 0

/-- Prints the numbers from one to another. -/
def sequence (arguments : List Octets) : Tool Nat := do
  let isNegative (a : Octets) : Bool :=
    match a with
    | '-' :: c :: _ => c.isDigit || c == '.'
    | _ => false
  let (front, back) := arguments.span (!isNegative ·)
  let flags := Options.known "f,format: s,separator: w,equal-width help version"
  match Options.read flags front false with
  | .error refusal => refuse 1 refusal.message
  | .ok o =>
    let operands := o.operands ++ back
    match operands with
    | [] => missingOperand 1
    | _ :: _ :: _ :: extra :: _ => extraOperand 1 extra
    | _ =>
      let mut limits : List Limit := []
      for text in operands do
        match limit? text with
        | some l =>
          if let .nan _ := l.value then
            return ← refuse 1 s!"invalid 'not-a-number' argument: {quoted text}"
          limits := limits ++ [l]
        | none => return ← refuse 1 s!"invalid floating point argument: {quoted text}"
      let one : Limit := ⟨.ofInt 1, 0, 1⟩
      let (first, step, last) := match limits with
        | [last] => (one, one, last)
        | [first, last] => (first, one, last)
        | first :: step :: last :: _ => (first, step, last)
        | [] => (one, one, one)
      let (a, s) := ((quotient? first.value).getD (0, 1), (quotient? step.value).getD (1, 1))
      if s.1 == 0 then
        return ← refuse 1 s!"invalid Zero increment value: {quoted (operands.getD 1 [])}"
      let format ← match o.value? "f" with
        | none => pure none
        | some text =>
          match numberFormat text with
          | .ok parts => pure (some parts)
          | .error text =>
            blame text
            return 1
      if format.isSome && o.has "w" then
        return ← refuse 1 "format string may not be specified when printing equal width strings"
      let separator := (o.value? "s").getD ['\n']
      let places := max first.places step.places
      let pointed (l : Limit) : Nat :=
        l.width + (places - l.places) + (if l.places == 0 && places != 0 then 1 else 0)
      let lastWidth := last.width + places - last.places
        + (if last.places == 0 && places != 0 then 1 else 0)
        - (if last.places != 0 && places == 0 then 1 else 0)
      let width := max (pointed first) lastWidth
      let usual : Conversion := { letter := 'f', precision := some (.fixed places) }
      let usual := if o.has "w" then { usual with zeros := true, width := .fixed width } else usual
      let (before, c, after) := format.getD ([], usual, [])
      let shown (n : Int) (den : Nat) : Octets :=
        before ++ c.real (.quotient (n < 0) n.natAbs den) ++ after
      match quotient? last.value with
      | none =>
        let rising := match last.value with
          | .infinite negative => (s.1 < 0) == negative
          | _ => false
        if !rising then return 0
        let den := a.2 * s.2
        say ((List.range (plenty / 8)).flatMap fun (k : Nat) =>
          shown (a.1 * s.2 + k * (s.1 * a.2)) den ++ separator)
        modify fun b => { b with stuck := true }
        return 0
      | some l =>
        let den := a.2 * s.2 * l.2
        let (x, y, z) := (a.1 * (s.2 * l.2), s.1 * (a.2 * l.2), l.1 * (a.2 * s.2))
        let count := ((z - x) / y).toNat + 1
        let numbers := numbersBetween x y z count 0
        if !numbers.isEmpty then
          say (List.intercalate separator (numbers.map fun n => shown n den) ++ ['\n'])
        return 0

/-! ### A line again and again -/

/-- Prints a line again and again. -/
def affirm : List Octets → Tool Nat :=
  withOptions "" 1 fun o =>
    sayForever ((if o.operands.isEmpty then ['y'] else List.intercalate [' '] o.operands) ++ ['\n'])

/-! ### Prime factors -/

/-- The prime factors of a number without those below a divisor, found in so many trials. -/
def primeFactors (fuel d n : Nat) : List Nat :=
  match fuel with
  | 0 => [n]
  | fuel + 1 =>
    if n ≤ 1 then []
    else if n < d * d then [n]
    else if n % d == 0 then d :: primeFactors fuel d (n / d)
    else primeFactors fuel (if d == 2 then 3 else d + 2) n

/-- Factors with how often each stands in a row. -/
def powers : List Nat → List (Nat × Nat)
  | [] => []
  | n :: rest =>
    match powers rest with
    | (m, k) :: more => if m == n then (m, k + 1) :: more else (n, 1) :: (m, k) :: more
    | [] => [(n, 1)]

/-- Prints the prime factors of numbers. -/
def factors : List Octets → Tool Nat :=
  withOptions "h,exponents" 1 fun o => do
  let isBlank (c : Char) : Bool := c == ' ' || c == '\t' || c == '\n'
  let words ←
    if o.operands.isEmpty then (fun text => (text.splitOnP isBlank).filter (!·.isEmpty)) <$> readAll
    else pure o.operands
  let mut status := 0
  let mut out : List String := []
  for word in words do
    let bare := Octets.trimLeft word
    match natural? (if bare.head? == some '+' then bare.drop 1 else bare) with
    | some n =>
      let found := primeFactors 20000000 2 n
      let texts :=
        if o.has "h" then
          (powers found).map fun (p, k) => if k == 1 then toString p else s!"{p}^{k}"
        else found.map toString
      out := String.join (s!"{n}:" :: texts.map (" " ++ ·)) :: out
    | none =>
      blame s!"{quoted word} is not a valid positive integer"
      status := 1
  sayText (String.join (out.reverse.map (· ++ "\n")))
  return status

end Codemod.Shell.Tool
