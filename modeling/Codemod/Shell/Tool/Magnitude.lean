import Codemod.Shell.Tool.Columns

/-!
# Numbers with the units of their magnitude

- `Magnitude.shown` — a number with a unit
- `Magnitude.read` — the number of a text with a unit
- `Tool.magnitudes` — the tool
-/

namespace Codemod.Shell

/-- The units in which numbers are written. -/
inductive UnitScale where
  | none
  | auto
  | si
  | iec
  | iecLong
deriving DecidableEq

/-- Where numbers that have too many digits go. -/
inductive RoundingMode where
  | up
  | down
  | fromZero
  | towardsZero
  | nearest
deriving DecidableEq

namespace Magnitude

/-- The letters of units, smallest first. -/
def letters : List Char := ['K', 'M', 'G', 'T', 'P', 'E', 'Z', 'Y', 'R', 'Q']

/-- What a unit is a power of. -/
def base : UnitScale → Nat
  | .si => 1000
  | _ => 1024

/-- A number that need not be whole, with its sign apart. -/
structure Amount where
  negative : Bool
  num : Nat
  den : Nat

/-- A number without digits after its point. -/
def Amount.rounded (mode : RoundingMode) (a : Amount) : Amount :=
  let away := (a.num + a.den - 1) / a.den
  let toward := a.num / a.den
  let n := match mode with
    | .fromZero => away
    | .towardsZero => toward
    | .up => if a.negative then toward else away
    | .down => if a.negative then away else toward
    | .nearest => (2 * a.num + a.den) / (2 * a.den)
  { a with num := n, den := 1 }

/-- A number rounded to so many places. -/
def Amount.roundedTo (mode : RoundingMode) (places : Nat) (a : Amount) : Amount :=
  let r := ({ a with num := a.num * 10 ^ places } : Amount).rounded mode
  { r with den := r.den * 10 ^ places }

/-- How often a number can be divided by a base until it is smaller. -/
def power (base : Nat) (a : Amount) : Nat → Nat
  | 0 => 0
  | fuel + 1 =>
    if a.num < base * a.den then 0 else power base { a with den := a.den * base } fuel + 1

/-- The digits of a number with so many places. -/
def digits (a : Amount) (places : Nat) : Octets :=
  (if a.negative then ['-'] else []) ++ Decimal.Places.fixed a.num a.den places

/-- A number in a scale; the places are chosen unless they are given. -/
def shown (scale : UnitScale) (mode : RoundingMode) (given : Option Nat) (usual : Nat)
    (a : Amount) :
    Octets :=
  match scale with
  | .none =>
    let places := given.getD usual
    digits (a.roundedTo mode places) places
  | scale =>
    let b := base scale
    let p := power b a 60
    let a : Amount := { a with den := a.den * b ^ p }
    let places := match given with
      | some n => min (3 * p) n
      | none => if a.num < 10 * a.den then 1 else 0
    let a := a.roundedTo mode places
    let (a, p) : Amount × Nat :=
      if b * a.den ≤ a.num then ({ a with den := a.den * b }, p + 1) else (a, p)
    let fraction := match given with
      | some n => n
      | none => if a.num != 0 && a.num < 10 * a.den && p > 0 then 1 else 0
    let unit := if p == 0 then [] else [letters.getD (p - 1) '?']
    digits a fraction ++ unit ++ (if scale == .iecLong && p > 0 then ['i'] else [])

/-- What is wrong with a text that should be a number. -/
inductive Fault where
  | number
  | suffix
  | rejected
  | missingLong

/-- What is said about it. -/
def Fault.message (text : Octets) : Fault → String
  | number => s!"invalid number: '{text.toText}'"
  | suffix => s!"invalid suffix in input: '{text.toText}'"
  | rejected => s!"rejecting suffix in input: '{text.toText}' (consider using --from)"
  | missingLong => s!"missing 'i' suffix in input: '{text.toText}' (e.g Ki/Mi/Gi)"

/-- The number of a text with a unit, and its places. -/
def read (scale : UnitScale) (text : Octets) : Except Fault (Amount × Nat) := do
  let (negative, ds) := match text with
    | '-' :: ds => (true, ds)
    | ds => (false, ds)
  let (whole, rest) := ds.span Char.isDigit
  let (fraction, rest) := match rest with
    | '.' :: after => after.span Char.isDigit
    | rest => ([], rest)
  let some n := Tool.natural? (whole ++ fraction) | throw .number
  let number (factor : Nat) : Amount := ⟨negative, n * factor, 10 ^ fraction.length⟩
  match rest with
  | [] => return (number 1, fraction.length)
  | letter :: more =>
    let some p := letters.idxOf? letter | throw .suffix
    let (long, more) := match more with
      | 'i' :: more => (true, more)
      | more => (false, more)
    if scale == .none then throw .rejected
    if scale == .iecLong && !long then throw .missingLong
    if !more.isEmpty || (long && (scale == .si || scale == .iec)) then throw .suffix
    let b := if scale == .si || (scale == .auto && !long) then 1000 else 1024
    return (number (b ^ (p + 1)), 0)

end Magnitude

namespace Tool

/-- The scale of a name. -/
def unitScale? (name : Octets) : Option UnitScale :=
  match name.toText with
  | "none" => some .none
  | "auto" => some .auto
  | "si" => some .si
  | "iec" => some .iec
  | "iec-i" => some .iecLong
  | _ => none

/-- Writes numbers with the units of their magnitude. -/
def magnitudes : List Octets → Tool Nat :=
  withOptions ("from: to: suffix: padding: round: format: field: d,delimiter: header:: invalid: "
    ++ "from-unit: to-unit: grouping debug z,zero-terminated") 1 fun o => do
  let badChoice (option : String) (name : Octets) (valid : List String) : Tool Nat :=
    refuse 1 (s!"invalid argument {quoted name} for '--{option}'\nValid arguments are:\n"
      ++ String.intercalate "\n" (valid.map fun v => s!"  - '{v}'"))
  let chosen (option : String) : Option UnitScale :=
    match o.value? option with
    | some name => unitScale? name
    | none => some .none
  let some source := chosen "from"
    | badChoice "from" ((o.value? "from").getD []) ["none", "auto", "si", "iec", "iec-i"]
  let some target := chosen "to"
    | badChoice "to" ((o.value? "to").getD []) ["none", "si", "iec", "iec-i"]
  let modes := [("up", RoundingMode.up), ("down", .down), ("from-zero", .fromZero),
    ("towards-zero", .towardsZero), ("nearest", .nearest)]
  let modeName := (o.value? "round").getD "from-zero".toList
  let some mode := modes.lookup modeName.toText
    | badChoice "round" modeName (modes.map Prod.fst)
  let format ← match o.value? "format" with
    | none => pure none
    | some text =>
      match Format.parts ['f'] ['\''] (text.length + 1) text with
      | [.conversion c] => pure (some ([], c, []))
      | [.text a, .conversion c] => pure (some (a, c, []))
      | [.conversion c, .text b] => pure (some ([], c, b))
      | [.text a, .conversion c, .text b] => pure (some (a, c, b))
      | _ =>
        blame s!"format {quoted text} has no % directive"
        return 1
  let suffix := (o.value? "suffix").getD []
  let units (option : String) : Nat := ((o.value? option).bind natural?).getD 1
  let padding := (o.value? "padding").bind integer
  let fields ← match columnRanges fieldColumns ((o.value? "field").getD ['1']) with
    | .ok ranges => pure ranges
    | .error text => return ← refuse 1 text
  let invalid := ((o.value? "invalid").getD []).toText
  let separator := (o.value? "d").bind (·.head?)
  /- One field: its text, or what is wrong with it. -/
  let converted (index : Nat) (text : Octets) : Except String Octets := do
    let bare := Octets.trimLeft text
    let body :=
      if !suffix.isEmpty && suffix.isSuffixOf bare then bare.take (bare.length - suffix.length)
      else bare
    match Magnitude.read source body with
    | .error fault => throw (fault.message bare)
    | .ok (a, places) =>
      let a := { a with num := a.num * units "from-unit", den := a.den * units "to-unit" }
      let given := format.bind fun (_, c, _) => c.places?
      let number := Magnitude.shown target mode given places a ++ suffix
      let number := match format with
        | some (before, c, after) =>
          before ++ c.withSign true [] number ++ after
        | none => number
      let wide := if bare.length < text.length || index > 0 then text.length else 0
      return match padding with
        | some n => if n < 0 then Octets.padRight n.natAbs number else Octets.padLeft n.toNat number
        | none =>
          if separator.isNone && format.isNone then Octets.padLeft wide number else number
  let pieces (line : Octets) : List Octets :=
    match separator with
    | some c => line.splitOn c
    | none => blankFields (line.length + 1) line
  let joint := separator.getD ' '
  let headers :=
    if o.has "header" then (((o.value? "header").bind natural?).getD 1) else 0
  let lines ← if o.operands.isEmpty then Octets.pieces '\n' <$> readAll else pure o.operands
  let mut status := 0
  for (line, i) in lines.zipIdx do
    if i < headers && o.operands.isEmpty then say (line ++ ['\n'])
    else
      let mut out : List Octets := []
      for (field, index) in (pieces line).zipIdx do
        if fields.any (inRange (index + 1)) then
          match converted index field with
          | .ok text => out := text :: out
          | .error text =>
            if invalid != "ignore" then blame text
            if invalid != "warn" && invalid != "ignore" then
              if invalid == "fail" then status := 2
              else
                say (List.intercalate [joint] out.reverse ++ (if out.isEmpty then [] else [joint]))
                return 2
            out := field :: out
        else out := field :: out
      say (List.intercalate [joint] out.reverse ++ ['\n'])
  return status
where
  /-- A whole number with its sign. -/
  integer (cs : Octets) : Option Int :=
    match cs with
    | '-' :: ds => (natural? ds).map fun n => -(n : Int)
    | ds => (natural? ds).map Int.ofNat
  /-- The fields of a line, each with the blanks before it, the last one of which separates. -/
  blankFields (fuel : Nat) (line : Octets) : List Octets :=
    match fuel with
    | 0 => [line]
    | fuel + 1 =>
      let isBlank (c : Char) : Bool := c == ' ' || c == '\t'
      let (blanks, rest) := line.span isBlank
      let (word, rest) := rest.span (!isBlank ·)
      match rest with
      | [] => [blanks ++ word]
      | _ :: rest => (blanks ++ word) :: blankFields fuel rest

end Tool

end Codemod.Shell
