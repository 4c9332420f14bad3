import Codemod.Proofs.FileSystem.Overwriting
import Codemod.Proofs.Walk
import Mathlib.Data.List.Perm.Basic

/-!
# Listing orders

The order of the entries is the order in which directories list them. Two file systems with the
same entries in different orders hold the same nodes, so every path leads to the same place in both,
every ignore file reads the same, and a walk yields the same locations in another order.

- `FileSystem.Rearranged` — the same entries in any order
- `Rearranged.get?_eq`, `Rearranged.find_eq` — what stands where, and where a path leads
- `Rearranged.read_eq`, `Rearranged.excludes_eq` — the ignore rules of a directory and of the user
- `Rearranged.children_perm`, `Rearranged.unsorted_perm` — what is listed, and what a walk yields
-/

namespace Codemod

variable {fs fs' : FileSystem}

namespace FileSystem

/-- The same entries, listed in any order. -/
structure Rearranged (fs fs' : FileSystem) : Prop where
  entries : fs.entries.Perm fs'.entries
  workingDirectory : fs.workingDirectory = fs'.workingDirectory

namespace Rearranged

/-! ### Nodes and paths -/

theorem get?_eq (h : Rearranged fs fs') (loc : Location) : fs'.get? loc = fs.get? loc := by
  unfold get?
  split
  · rfl
  · ext node
    constructor
    · intro hnode
      exact lookup_of_mem fs.distinct (h.entries.mem_iff.mpr (mem_of_lookup hnode))
    · intro hnode
      exact lookup_of_mem fs'.distinct (h.entries.mem_iff.mp (mem_of_lookup hnode))

theorem walkNames_eq (h : Rearranged fs fs') (follow : Bool) (place : Location)
    (names : List String) : fs'.walkNames follow place names = fs.walkNames follow place names := by
  induction names generalizing place with
  | nil => rw [walkNames, walkNames]
  | cons name rest ih =>
    by_cases hname : name ≠ "" ∧ name ≠ "." ∧ name ≠ ".."
    · rw [walkNames_name _ _ _ hname, walkNames_name _ _ _ hname, h.get?_eq, ih]
    · obtain rfl | rfl | rfl : name = "" ∨ name = "." ∨ name = ".." := by tauto
      all_goals
        rw [walkNames, walkNames]
        exact ih _

theorem walkThrough_eq (h : Rearranged fs fs') (follow : Bool) (links : Nat) (start : Location)
    (names : List String) :
    fs'.walkThrough follow links start names = fs.walkThrough follow links start names := by
  induction links generalizing start names with
  | zero => rw [walkThrough, walkThrough, h.walkNames_eq]
  | succ links ih =>
    rw [walkThrough, walkThrough, h.walkNames_eq]
    simp only [ih]

theorem find_eq (h : Rearranged fs fs') : fs'.find = fs.find := by
  funext path
  unfold find resolve
  simp only [h.walkThrough_eq, h.workingDirectory]

/-! ### Ignore rules -/

theorem readBytes_eq (h : Rearranged fs fs') : fs'.readBytes = fs.readBytes := by
  funext path
  rw [readBytes, readBytes, h.find_eq]

theorem configuration?_eq (h : Rearranged fs fs') (directory : Location) :
    Ignore.configuration? fs' directory = Ignore.configuration? fs directory := by
  unfold Ignore.configuration? Ignore.firstLine? isFile
  rw [h.readBytes_eq, h.find_eq]

/-- The rules of a directory are those of the files that lie in it. -/
theorem read_eq (h : Rearranged fs fs') (directory : Location) :
    Ignore.Level.read fs' directory = Ignore.Level.read fs directory := by
  unfold Ignore.Level.read Ignore.rulesIn pathExists
  rw [h.readBytes_eq, h.configuration?_eq, h.find_eq]

theorem above_eq (h : Rearranged fs fs') (directory : Location) :
    Ignore.Level.above fs' directory = Ignore.Level.above fs directory := by
  unfold Ignore.Level.above
  simp only [h.read_eq]

/-- The rules for all repositories are read from files that hold the same. -/
theorem excludes_eq (h : Rearranged fs fs') (env : SystemEnvironment) (base : String) :
    Ignore.Excludes.read fs' env base = Ignore.Excludes.read fs env base := by
  unfold Ignore.Excludes.read Ignore.Excludes.path? Ignore.Excludes.named? Ignore.rulesIn
  rw [h.readBytes_eq, h.workingDirectory]

/-! ### The walk -/

theorem children_perm (h : Rearranged fs fs') (directory : Location) :
    (fs'.children directory).Perm (fs.children directory) :=
  (h.entries.filterMap _).symm

theorem descend_perm (h : Rearranged fs fs') (w : Walker) (excludes : Ignore.Excludes) (fuel : Nat)
    (levels : List Ignore.Level) (directory relative : Location) :
    (w.descend fs' excludes fuel levels directory relative).Perm
      (w.descend fs excludes fuel levels directory relative) := by
  -- one level of directories for each unit of fuel
  induction fuel generalizing levels directory relative with
  | zero => exact .rfl
  | succ fuel ih =>
    rw [Walker.descend_succ, Walker.descend_succ]
    refine (h.children_perm directory).flatMap fun ⟨name, node⟩ _ => ?_
    cases node with
    | link target => exact .rfl
    | file bytes => exact .rfl
    | directory =>
      rw [Walker.visit, Walker.visit, h.read_eq]
      split
      · exact .rfl
      · exact ih _ _ _

theorem unsorted_perm (h : Rearranged fs fs') (w : Walker) (base : String)
    (env : SystemEnvironment) : (w.unsorted fs' base env).Perm (w.unsorted fs base env) := by
  unfold Walker.unsorted
  rw [h.find_eq, h.excludes_eq, ← h.entries.length_eq]
  split
  · rw [h.above_eq]
    exact h.descend_perm _ _ _ _ _ _
  · exact .rfl
  · exact .rfl

end Rearranged

end FileSystem

end Codemod
