import Codemod.Instance

/-!
# Durations

A duration is a number of nanoseconds below `2 ^ 64` seconds.

- `Duration.ofSeconds`, `Duration.ofMilliseconds` — from 64-bit amounts
- `Duration.times?` — a multiple, if it is a duration
- `Duration.text` — in the largest unit that leaves a whole part
-/

namespace Codemod

/-- The number of nanoseconds that no duration reaches. -/
def Duration.limit : Nat := 2 ^ 64 * 10 ^ 9

/-- A span of time. -/
structure Duration where
  nanoseconds : Nat
  bounded : nanoseconds < Duration.limit := by decide
deriving DecidableEq

namespace Duration

/-- No time at all. -/
def zero : Duration := ⟨0, by decide⟩

instance : Inhabited Duration := ⟨zero⟩

/-- The duration is empty. -/
def isZero (d : Duration) : Bool := d.nanoseconds == 0

/-- A number of nanoseconds, if it is a duration. -/
def ofNanoseconds? (n : Nat) : Option Duration :=
  if h : n < limit then some ⟨n, h⟩ else none

/-- A number of seconds. -/
def ofSeconds (n : UInt64) : Duration :=
  ⟨n.toNat * 10 ^ 9, by have := n.toNat_lt; unfold limit; omega⟩

/-- A number of milliseconds. -/
def ofMilliseconds (n : UInt64) : Duration :=
  ⟨n.toNat * 10 ^ 6, by have := n.toNat_lt; unfold limit; omega⟩

/-- A multiple, if it is a duration. -/
def times? (d : Duration) (factor : Nat) : Option Duration :=
  ofNanoseconds? (d.nanoseconds * factor)

/-- The shorter of two durations. -/
def min (a b : Duration) : Duration := if a.nanoseconds ≤ b.nanoseconds then a else b

/-- The longer of two durations. -/
def max (a b : Duration) : Duration := if a.nanoseconds ≤ b.nanoseconds then b else a

/-- Whole seconds. -/
def seconds (d : Duration) : Nat := d.nanoseconds / 10 ^ 9

/-- Nanoseconds beyond the whole seconds. -/
def subsecond (d : Duration) : Nat := d.nanoseconds % 10 ^ 9

/-- The digits of a fraction of so many places, without zeros at the end. -/
def fractionDigits (places n : Nat) : List Char :=
  let ds := (toString n).toList
  let padded := List.replicate (places - ds.length) '0' ++ ds
  (padded.reverse.dropWhile (· == '0')).reverse

/-- A number of nanoseconds in a unit of `10 ^ places` nanoseconds. -/
def inUnit (n places : Nat) (unit : String) : String :=
  let fraction := fractionDigits places (n % 10 ^ places)
  let point := if fraction.isEmpty then "" else "." ++ String.ofList fraction
  toString (n / 10 ^ places) ++ point ++ unit

/-- The duration in the largest unit in which it is at least one, with every digit. -/
def text (d : Duration) : String :=
  let n := d.nanoseconds
  if 10 ^ 9 ≤ n then inUnit n 9 "s"
  else if 10 ^ 6 ≤ n then inUnit n 6 "ms"
  else if 10 ^ 3 ≤ n then inUnit n 3 "µs"
  else inUnit n 0 "ns"

end Duration

end Codemod
