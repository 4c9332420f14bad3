import Codemod.Migration.Run
import Codemod.Proofs.Burndown
import Codemod.Proofs.Migration.Trail
import Mathlib.Algebra.Ring.Int.Defs
import Mathlib.Data.List.Chain
import Mathlib.Data.Prod.Lex

/-!
# Recording a history

A history is only ever written by three operations: the total before a migration, a verified change,
and clearing. Whatever their order and whatever the clock shows, its timestamps never decrease and
its last count is the balance of what was recorded. A change whose count would not fit leaves the
history, and the session that holds it, as it was.

- `Timestamp.instant`, `Timestamp.before_iff` — the order of time
- `Ordered`, `isOrdered_iff` — timestamps that never decrease
- `Operation`, `perform` — the three ways to write a history
- `Performed`, `performed_perform` — what one of them does
- `Usage`, `usage` — a sequence of operations on a history that starts empty
- `balance` — the total that the operations add up to
- `Lawful`, `Lawful.next` — what one operation preserves
- `usage_ordered_balanced` — what holds after any sequence
-/

namespace Codemod

/-! ### The order of time -/

/-- Seconds and nanoseconds, in the order of time. -/
def Timestamp.instant (t : Timestamp) : Int ×ₗ Nat := toLex (t.seconds, t.nanoseconds)

theorem Timestamp.before_iff {a b : Timestamp} : a.before b = true ↔ a.instant < b.instant := by
  simp [before, instant, Prod.Lex.toLex_lt_toLex]

namespace History

variable {h h' : History} {now : Timestamp} {p : Snapshot}

/-- No point is earlier than one before it. -/
def Ordered (h : History) : Prop :=
  h.snapshots.Pairwise fun a b => a.time.instant ≤ b.time.instant

/-- The order of neighbours is that of all points. -/
theorem ordered_iff_isChain :
    h.Ordered ↔ h.snapshots.IsChain fun a b => a.time.instant ≤ b.time.instant :=
  have : IsTrans Snapshot fun a b => a.time.instant ≤ b.time.instant := ⟨fun _ _ _ => le_trans⟩
  List.isChain_iff_pairwise.symm

/-- Orderedness can be decided from neighbour to neighbour. -/
theorem isOrdered_iff (h : History) : isOrdered h.snapshots = true ↔ h.Ordered := by
  rw [ordered_iff_isChain]
  generalize h.snapshots = snapshots
  induction snapshots with
  | nil => exact iff_of_true rfl .nil
  | cons a rest ih =>
    cases rest with
    | nil => exact iff_of_true rfl (.singleton a)
    | cons b rest =>
      rw [isOrdered, Bool.and_eq_true, ih, List.isChain_cons_cons, Bool.not_eq_true',
        ← Bool.not_eq_true, Timestamp.before_iff, not_lt]

/-- The time of a point that is added: the clock's reading, or the last time when that is later. -/
def Dated (h : History) (now : Timestamp) (p : Snapshot) : Prop :=
  match h.snapshots.getLast? with
  | some last => p.time.instant = max last.time.instant now.instant
  | none => p.time = now

theorem dated_nextTime (h : History) (now : Timestamp) (count : Int64) (file : Option String) :
    h.Dated now ⟨h.nextTime now, count, file⟩ := by
  unfold Dated nextTime
  cases h.snapshots.getLast? with
  | none => rfl
  | some last =>
    dsimp only
    split
    · next hbefore => exact (max_eq_left (Timestamp.before_iff.mp hbefore).le).symm
    · next hbefore => exact (max_eq_right (not_lt.mp (hbefore ∘ Timestamp.before_iff.mpr))).symm

theorem Ordered.of_append (hord : h.Ordered) (hdate : h.Dated now p)
    (hsnap : h'.snapshots = h.snapshots ++ [p]) : h'.Ordered := by
  rw [ordered_iff_isChain] at hord ⊢
  rw [hsnap]
  -- only the last point and the new one are new neighbours
  refine List.isChain_append.mpr ⟨hord, .singleton p, fun last hlast q hq => ?_⟩
  obtain rfl : p = q := Option.some.inj hq
  rw [Dated, Option.mem_def.mp hlast] at hdate
  exact hdate ▸ le_max_left ..

/-! ### One operation -/

/-- A way to write a history. -/
inductive Operation where
  | initial (total : Int64)
  | fix (file : String) (fixed : Int64)
  | clear

/-- Writes a history at a reading of the clock. -/
def perform (h : History) (now : Timestamp) : Operation → Except Overflow History
  | .initial total => .ok (h.recordInitial now total)
  | .fix file fixed => h.recordFix now file fixed
  | .clear => .ok .empty

/-- The count of the last point, zero without one. -/
def lastCount (h : History) : Int := (h.snapshots.getLast?.map fun p => p.count.toInt).getD 0

theorem currentTotal_toInt (h : History) : h.currentTotal.toInt = h.lastCount := by
  unfold currentTotal lastCount
  cases h.snapshots.getLast? <;> rfl

/-- How an operation on a history goes. -/
inductive Performed (h : History) (now : Timestamp) :
    Operation → Except Overflow History → Prop
  | initial {total : Int64} {p : Snapshot} {h' : History} :
    h'.snapshots = h.snapshots ++ [p] → h.Dated now p → p.count = total → p.file = none →
    Performed h now (.initial total) (.ok h')
  | fix {file : String} {fixed : Int64} {p : Snapshot} {h' : History} :
    h'.snapshots = h.snapshots ++ [p] → h.Dated now p →
    p.count.toInt = h.lastCount - fixed.toInt → p.file = some file →
    Performed h now (.fix file fixed) (.ok h')
  | overflow {file : String} {fixed : Int64} :
    fitsTotal (h.lastCount - fixed.toInt) = false →
    Performed h now (.fix file fixed) (.error .subtract)
  | clear {h' : History} : h'.snapshots = [] → Performed h now .clear (.ok h')

theorem recordFix_of_overflow (now : Timestamp) (file : String) {fixed : Int64}
    (hfits : fitsTotal (h.lastCount - fixed.toInt) = false) :
    h.recordFix now file fixed = .error .subtract := by
  rw [← currentTotal_toInt] at hfits
  have hsub : subTotals h.currentTotal fixed = .error .subtract :=
    if_neg (Bool.eq_false_iff.mp hfits)
  rw [recordFix, fixSnapshot, hsub]
  rfl

/-- A change is recorded when its count fits, and fails as a subtraction otherwise. -/
theorem performed_recordFix (h : History) (now : Timestamp) (file : String) (fixed : Int64) :
    Performed h now (.fix file fixed) (h.recordFix now file fixed) := by
  cases hfits : fitsTotal (h.lastCount - fixed.toInt) with
  | false =>
    rw [recordFix_of_overflow now file hfits]
    exact .overflow hfits
  | true =>
    rw [← currentTotal_toInt] at hfits
    obtain ⟨count, hsub⟩ := subTotals_of_fits hfits
    rw [recordFix, fixSnapshot, hsub]
    refine .fix rfl (h.dated_nextTime now count (some file)) ?_ rfl
    rw [← currentTotal_toInt]
    exact subTotals_toInt hsub

theorem performed_perform (h : History) (now : Timestamp) (op : Operation) :
    Performed h now op (h.perform now op) := by
  cases op with
  | initial total => exact .initial rfl (h.dated_nextTime now total none) rfl rfl
  | fix file fixed => exact h.performed_recordFix now file fixed
  | clear => exact .clear rfl

/-! ### Sequences of operations -/

/-- A history and the operations that were recorded in it, the latest first. -/
structure Usage where
  history : History := {}
  done : List Operation := []

/-- An operation more; one that overflows is not recorded. -/
def Usage.next (u : Usage) (step : Timestamp × Operation) : Usage :=
  match u.history.perform step.1 step.2 with
  | .ok history => ⟨history, step.2 :: u.done⟩
  | .error _ => u

/-- Operations on a history that starts empty, each with the reading of the clock at its time. -/
def usage (steps : List (Timestamp × Operation)) : Usage := steps.foldl Usage.next {}

/-- The operation is a change. -/
def Operation.isFix : Operation → Bool
  | fix .. => true
  | initial _ | clear => false

/-- What an operation takes from the total. -/
def Operation.fixed : Operation → Int
  | fix _ fixed => fixed.toInt
  | initial _ | clear => 0

/-- The total that changes start from: the initial one, and zero after clearing or without one. -/
def startingTotal : List Operation → Int
  | .initial total :: _ => total.toInt
  | _ => 0

/-- The last initial total less all that was fixed since; the latest operation stands first. -/
def balance (done : List Operation) : Int :=
  startingTotal (done.dropWhile Operation.isFix)
    - ((done.takeWhile Operation.isFix).map Operation.fixed).sum

theorem balance_fix (file : String) (fixed : Int64) (done : List Operation) :
    balance (.fix file fixed :: done) = balance done - fixed.toInt := by
  simp only [balance, List.dropWhile_cons, List.takeWhile_cons, Operation.isFix, if_true,
    List.map_cons, List.sum_cons, Operation.fixed]
  omega

/-- What sequences of operations keep. -/
structure Lawful (u : Usage) : Prop where
  ordered : u.history.Ordered
  balanced : u.history.lastCount = balance u.done

theorem lastCount_of_append (hsnap : h'.snapshots = h.snapshots ++ [p]) :
    h'.lastCount = p.count.toInt := by
  rw [lastCount, hsnap, List.getLast?_concat]
  rfl

namespace Lawful

theorem next {u : Usage} (hu : Lawful u) (step : Timestamp × Operation) :
    Lawful (u.next step) := by
  obtain ⟨now, op⟩ := step
  have hperf := performed_perform u.history now op
  unfold Usage.next
  dsimp only
  -- the result is only known through `Performed`, whose cases are those of the operation
  generalize u.history.perform now op = result at hperf
  cases hperf with
  | overflow _ => exact hu
  | clear hsnap =>
    exact ⟨by rw [Ordered, hsnap]; exact .nil, by rw [lastCount, hsnap]; rfl⟩
  | initial hsnap hdate hcount hfile =>
    refine ⟨hu.ordered.of_append hdate hsnap, ?_⟩
    rw [lastCount_of_append hsnap, hcount]
    exact (Int.sub_zero _).symm
  | fix hsnap hdate hcount hfile =>
    refine ⟨hu.ordered.of_append hdate hsnap, ?_⟩
    rw [lastCount_of_append hsnap, hcount, hu.balanced, balance_fix]

theorem foldl {u : Usage} (hu : Lawful u) (steps : List (Timestamp × Operation)) :
    Lawful (steps.foldl Usage.next u) := by
  induction steps generalizing u with
  | nil => exact hu
  | cons step steps ih => exact ih (hu.next step)

end Lawful

/-- Nothing was recorded and nothing is due. -/
theorem Lawful.start : Lawful {} := ⟨List.Pairwise.nil, rfl⟩

/-! ### In a run -/

/-- A change whose count does not fit stops a run before anything is written. -/
theorem recordOutcome_of_overflow {σ : Type} {agents : Migration.Agents σ}
    {s : Migration.Session σ} {o : Migration.Outcome} (hdone : o.state = .done)
    (hfits : fitsTotal (s.history.lastCount - o.fixed.toInt) = false) :
    Migration.recordOutcome agents o s = .error .subtract s := by
  unfold Migration.recordOutcome
  rw [if_pos (by simpa [Migration.Outcome.succeeded] using hdone), Migration.get_bind,
    Migration.bind_of_error]
  exact Migration.checked_of_error (recordFix_of_overflow _ _ hfits)

/-- Whatever is recorded, and whatever the clock shows: no point is earlier than one before it, the
last count is the balance of what was recorded, and the next operation goes as `Performed` says. A
run with that history which records a change whose count does not fit fails with all as it was. -/
theorem usage_ordered_balanced (steps : List (Timestamp × Operation)) :
    (usage steps).history.Ordered ∧
      (usage steps).history.currentTotal.toInt = balance (usage steps).done ∧
      (∀ now op, Performed (usage steps).history now op ((usage steps).history.perform now op)) ∧
      ∀ (σ : Type) (agents : Migration.Agents σ) (s : Migration.Session σ) (o : Migration.Outcome),
        s.history = (usage steps).history → o.state = .done →
        fitsTotal ((usage steps).history.lastCount - o.fixed.toInt) = false →
        Migration.recordOutcome agents o s = .error .subtract s := by
  have hlawful : Lawful (usage steps) := Lawful.start.foldl steps
  refine ⟨hlawful.ordered, ?_, performed_perform _, fun σ agents s o hhist hdone hfits => ?_⟩
  · rw [currentTotal_toInt, hlawful.balanced]
  · exact recordOutcome_of_overflow hdone (hhist ▸ hfits)

/-- The clock goes back, one change adds occurrences, and one that does not fit is not recorded. -/
example :
    (usage [(⟨9, 0⟩, .initial 7), (⟨4, 0⟩, .fix "a.js" (-2)), (⟨5, 0⟩, .fix "b.js" Int64.minValue)]
      ).history = ⟨[⟨⟨9, 0⟩, 7, none⟩, ⟨⟨9, 0⟩, 9, some "a.js"⟩]⟩ := by decide

end History

end Codemod
