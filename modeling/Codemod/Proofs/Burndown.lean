import Codemod.Burndown.Basic

/-!
# Totals and the history

Checked sums and differences are the machine's when they succeed, and a history's total is moved by
what each change fixed.

- `addCounts_eq_ok`, `subTotals_eq_ok`, `totalOfCount_eq` — counts and totals as numbers
- `addTotals_toInt`, `subTotals_toInt` — sums and differences that were checked
- `addTotals_of_fits`, `subTotals_of_fits` — those that fit
- `History.points` — the files and counts of a history
- `History.currentTotal_push`, `History.recordFix_eq_ok` — a point more
- `History.recordFix_of_points` — histories with the same points
-/

namespace Codemod

theorem addCounts_eq_ok {a b c : UInt64} (h : addCounts a b = .ok c) :
    c.toNat = a.toNat + b.toNat := by
  unfold addCounts at h
  split at h
  · next hfits =>
    cases h
    rw [UInt64.toNat_add, Nat.mod_eq_of_lt hfits]
  · cases h

theorem addCounts_eq_error {a b : UInt64} {e : Overflow} (h : addCounts a b = .error e) :
    2 ^ 64 ≤ a.toNat + b.toNat := by
  unfold addCounts at h
  split at h
  · cases h
  · next hlarge => exact Nat.le_of_not_lt hlarge

theorem subTotals_eq_ok {a b c : Int64} (h : subTotals a b = .ok c) : c = a - b := by
  unfold subTotals at h
  dsimp only at h
  split at h
  · cases h
    rw [Int64.ofInt_sub, Int64.ofInt_toInt, Int64.ofInt_toInt]
  · cases h

theorem totalOfCount_eq (n : UInt64) : totalOfCount n = Int64.ofInt n.toNat := by
  rw [totalOfCount, ← Int64.toBitVec_inj]
  simp

/-- A total that fits is the number itself. -/
theorem toInt_ofInt_of_fits {n : Int} (h : fitsTotal n = true) : (Int64.ofInt n).toInt = n := by
  rw [fitsTotal, Bool.and_eq_true, decide_eq_true_eq, decide_eq_true_eq] at h
  exact Int64.toInt_ofInt_of_le h.1 h.2

theorem fitsTotal_iff {n : Int} : fitsTotal n = true ↔ -(2 ^ 63) ≤ n ∧ n < 2 ^ 63 := by
  rw [fitsTotal, Bool.and_eq_true, decide_eq_true_eq, decide_eq_true_eq]

theorem addTotals_of_fits {a b : Int64} (h : fitsTotal (a.toInt + b.toInt) = true) :
    ∃ c, addTotals a b = .ok c :=
  ⟨_, if_pos h⟩

theorem subTotals_of_fits {a b : Int64} (h : fitsTotal (a.toInt - b.toInt) = true) :
    ∃ c, subTotals a b = .ok c :=
  ⟨_, if_pos h⟩

/-- A count below `2 ^ 63` is the same number as a total. -/
theorem totalOfCount_toInt {n : UInt64} (h : n.toNat < 2 ^ 63) :
    (totalOfCount n).toInt = n.toNat := by
  rw [totalOfCount_eq, toInt_ofInt_of_fits]
  rw [fitsTotal_iff]
  omega

/-- A checked sum is the sum. -/
theorem addTotals_toInt {a b c : Int64} (h : addTotals a b = .ok c) :
    c.toInt = a.toInt + b.toInt := by
  unfold addTotals at h
  dsimp only at h
  split at h
  · next hfits =>
    cases h
    exact toInt_ofInt_of_fits hfits
  · cases h

/-- A checked difference is the difference. -/
theorem subTotals_toInt {a b c : Int64} (h : subTotals a b = .ok c) :
    c.toInt = a.toInt - b.toInt := by
  unfold subTotals at h
  dsimp only at h
  split at h
  · next hfits =>
    cases h
    exact toInt_ofInt_of_fits hfits
  · cases h

namespace History

variable {history history' : History} {now : Timestamp} {file : String} {fixed : Int64}

/-- The files and counts of a history. -/
def points (history : History) : List (Option String × Int) :=
  history.snapshots.map fun p => (p.file, p.count.toInt)

theorem points_push (history : History) (p : Snapshot) :
    (history.push p).points = history.points ++ [(p.file, p.count.toInt)] := by
  rw [points, push, List.map_append, points, List.map_singleton]

theorem currentTotal_push (history : History) (p : Snapshot) :
    (history.push p).currentTotal = p.count := by
  rw [currentTotal, push, List.getLast?_concat]

/-- The last point holds the current total. -/
theorem currentTotal_of_points (h : history.points = history'.points) :
    history.currentTotal = history'.currentTotal := by
  have hlast : history.points.getLast? = history'.points.getLast? := by rw [h]
  rw [points, points, List.getLast?_map, List.getLast?_map] at hlast
  unfold currentTotal
  cases hp : history.snapshots.getLast? with
  | none =>
    rw [hp] at hlast
    rw [Option.map_eq_none_iff.mp hlast.symm]
  | some p =>
    cases hp' : history'.snapshots.getLast? with
    | none =>
      rw [hp, hp'] at hlast
      cases hlast
    | some p' =>
      rw [hp, hp', Option.map_some, Option.map_some, Option.some.injEq, Prod.mk.injEq] at hlast
      exact Int64.toInt_inj.mp hlast.2

theorem currentTotal_recordInitial (history : History) (now : Timestamp) (total : Int64) :
    (history.recordInitial now total).currentTotal = total :=
  currentTotal_push _ _

theorem recordFix_eq_ok (h : history.recordFix now file fixed = .ok history') :
    ∃ p, history' = history.push p ∧ p.file = some file ∧
      subTotals history.currentTotal fixed = .ok p.count := by
  unfold recordFix fixSnapshot at h
  cases hsub : subTotals history.currentTotal fixed with
  | error e =>
    rw [hsub] at h
    cases h
  | ok count =>
    rw [hsub] at h
    cases h
    exact ⟨⟨history.nextTime now, count, some file⟩, rfl, rfl, rfl⟩

/-- A change is recorded the same in histories with the same points. -/
theorem recordFix_of_points (h : history.points = history'.points) (now now' : Timestamp)
    (file : String) (fixed : Int64) :
    (∃ e, history.recordFix now file fixed = .error e ∧
        history'.recordFix now' file fixed = .error e) ∨
      ∃ later later', history.recordFix now file fixed = .ok later ∧
        history'.recordFix now' file fixed = .ok later' ∧ later.points = later'.points := by
  unfold recordFix fixSnapshot
  rw [currentTotal_of_points h]
  cases subTotals history'.currentTotal fixed with
  | error e => exact .inl ⟨e, rfl, rfl⟩
  | ok count => exact .inr ⟨_, _, rfl, rfl, by rw [points_push, points_push, h]⟩

/-- A change takes what it fixed from the total. -/
theorem currentTotal_recordFix (h : history.recordFix now file fixed = .ok history') :
    history'.currentTotal = history.currentTotal - fixed := by
  obtain ⟨p, rfl, -, hsub⟩ := recordFix_eq_ok h
  rw [currentTotal_push, subTotals_eq_ok hsub]

end History

end Codemod
