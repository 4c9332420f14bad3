import Codemod.Instance
import Codemod.Timestamp

/-!
# Arithmetic that must not wrap

Counts are unsigned and totals signed 64-bit numbers. Sums and differences that leave their range
stop a run.

- `Overflow` — which operation left its range
- `addCounts`, `addTotals`, `subTotals` — checked arithmetic
- `totalOfCount` — a count as a total, which wraps
-/

namespace Codemod

/-- The operation whose result does not fit. -/
inductive Overflow where
  | add
  | subtract
deriving DecidableEq, Inhabited

/-- How an overflow is reported. -/
def Overflow.message : Overflow → String
  | add => "attempt to add with overflow"
  | subtract => "attempt to subtract with overflow"

/-- A number that fits a signed 64-bit word. -/
def fitsTotal (n : Int) : Bool := -(2 ^ 63 : Int) ≤ n && n < 2 ^ 63

/-- The sum of two counts. -/
def addCounts (a b : UInt64) : Except Overflow UInt64 :=
  if a.toNat + b.toNat < 2 ^ 64 then .ok (a + b) else .error .add

/-- The sum of two totals. -/
def addTotals (a b : Int64) : Except Overflow Int64 :=
  let sum := a.toInt + b.toInt
  if fitsTotal sum then .ok (Int64.ofInt sum) else .error .add

/-- The difference of two totals. -/
def subTotals (a b : Int64) : Except Overflow Int64 :=
  let difference := a.toInt - b.toInt
  if fitsTotal difference then .ok (Int64.ofInt difference) else .error .subtract

/-- A count as a total; a count of `2 ^ 63` or more turns negative. -/
def totalOfCount (n : UInt64) : Int64 := n.toInt64

end Codemod

/-!
## The burndown of remaining occurrences

A history is the series of totals of one run: the total before the migration, and the running total
after every verified change. Timestamps never decrease, whatever the clock says; counts may rise,
because a change may add occurrences.

- `Snapshot`, `History` — one point and the series
- `History.recordInitial`, `History.recordFix` — the two ways to add a point
- `History.currentTotal` — the last count
-/

namespace Codemod

/-- One point of the series; the one before the migration names no file. -/
structure Snapshot where
  time : Timestamp
  count : Int64
  file : Option String
deriving DecidableEq

/-- The series of a run, oldest first. -/
structure History where
  snapshots : List Snapshot := []
deriving DecidableEq

namespace History

/-- No points. -/
def empty : History := {}

instance : Inhabited History := ⟨empty⟩

/-- There are no points. -/
def isEmpty (h : History) : Bool := h.snapshots.isEmpty

/-- The clock's reading, or the last timestamp when that is later. -/
def nextTime (h : History) (now : Timestamp) : Timestamp :=
  match h.snapshots.getLast? with
  | some last => if now.before last.time then last.time else now
  | none => now

/-- The count of the last point, zero without one. -/
def currentTotal (h : History) : Int64 :=
  match h.snapshots.getLast? with
  | some last => last.count
  | none => 0

/-- Adds a point. -/
def push (h : History) (s : Snapshot) : History := ⟨h.snapshots ++ [s]⟩

/-- The point of the total before the migration. -/
def initialSnapshot (h : History) (now : Timestamp) (total : Int64) : Snapshot :=
  ⟨h.nextTime now, total, none⟩

/-- Records the total before the migration. -/
def recordInitial (h : History) (now : Timestamp) (total : Int64) : History :=
  h.push (h.initialSnapshot now total)

/-- The point after a verified change: the current total less what the change fixed. -/
def fixSnapshot (h : History) (now : Timestamp) (file : String) (fixed : Int64) :
    Except Overflow Snapshot :=
  (subTotals h.currentTotal fixed).map fun count => ⟨h.nextTime now, count, some file⟩

/-- Records a verified change. -/
def recordFix (h : History) (now : Timestamp) (file : String) (fixed : Int64) :
    Except Overflow History :=
  (h.fixSnapshot now file fixed).map h.push

/-- Timestamps never decrease. -/
def isOrdered : List Snapshot → Bool
  | a :: b :: rest => !b.time.before a.time && isOrdered (b :: rest)
  | _ => true

end History

end Codemod
