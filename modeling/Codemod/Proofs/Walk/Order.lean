import Codemod.Proofs.Walk.Listing
import Codemod.Proofs.Walk
import Mathlib.Data.List.Lex
import Mathlib.Data.List.Sort
import Mathlib.Data.String.Basic

/-!
# The order of the files

The files of a walk come in one order, whatever the order in which directories list them: that of
their names, name by name from the root. The text of a path is not compared, so what lies in a
directory stays together even when the name of a sibling goes on with a character that sorts before
the slash.

- `Location.le_iff`, `Location.prefix_of_between` — the order name by name
- `filter_infix_of_between` — a stretch of a sorted list
- `Walker.files_pairwise_le`, `Walker.files_eq` — sorting forgets the listing order
- `Walker.files_canonical` — the files and those that match a pattern, whatever rules the user has
-/

namespace Codemod

variable {fs fs' : FileSystem} {w : Walker} {base : String} {root : Location}
variable {env : SystemEnvironment}

/-! ### The order name by name -/

namespace Location

variable {a b c place : Location}

theorem le_cons_cons_iff {x y : String} {xs ys : Location} :
    le (x :: xs) (y :: ys) = true ↔ x < y ∨ x = y ∧ le xs ys = true := by
  rw [le]
  split
  · next heq =>
    obtain rfl := eq_of_beq heq
    simp
  · next hne =>
    have hne : x ≠ y := by simpa using hne
    simp [hne]

/-- The comparison is that of lists of names, the shorter one first when it begins the other. -/
theorem le_iff : le a b = true ↔ a ≤ b := by
  induction a generalizing b with
  | nil => exact iff_of_true rfl (not_lt.mp (List.not_lt_nil b))
  | cons x xs ih =>
    cases b with
    | nil => exact iff_of_false Bool.false_ne_true (not_le.mpr (List.nil_lt_cons x xs))
    | cons y ys =>
      rw [le_cons_cons_iff, ih, ← not_lt, ← not_lt, List.cons_lt_cons_iff]
      grind

/-- What lies between two locations below a place lies below it too. -/
theorem prefix_of_between (hab : le a b = true) (hbc : le b c = true) (ha : place <+: a)
    (hc : place <+: c) : place <+: b := by
  induction place generalizing a b c with
  | nil => exact List.nil_prefix
  | cons name place ih =>
    obtain ⟨a, rfl, hplace⟩ := List.cons_prefix_iff.mp ha
    obtain ⟨c, rfl, hplace'⟩ := List.cons_prefix_iff.mp hc
    cases b with
    | nil => cases hab
    | cons other b =>
      rw [le_cons_cons_iff] at hab hbc
      obtain hlt | ⟨rfl, hab⟩ := hab
      · obtain hgt | ⟨rfl, -⟩ := hbc
        · exact absurd hgt hlt.not_gt
        · exact absurd hlt (lt_irrefl _)
      · obtain hlt | ⟨-, hbc⟩ := hbc
        · exact absurd hlt (lt_irrefl _)
        · exact List.cons_prefix_cons.mpr ⟨rfl, ih hab hbc hplace hplace'⟩

end Location

/-! ### A stretch of a sorted list -/

section Stretch

variable {α : Type} {le : α → α → Bool} {p : α → Bool} {x : α} {l : List α}

/-- Behind a member of a class without gaps, the class goes on to its end at once. -/
theorem filter_prefix_of_between
    (hbetween : ∀ a b c, le a b = true → le b c = true → p a = true → p c = true → p b = true)
    (hsorted : (x :: l).Pairwise fun a b => le a b = true) (hx : p x = true) :
    l.filter p <+: l := by
  induction l with
  | nil => exact List.prefix_rfl
  | cons y rest ih =>
    obtain ⟨hx_le, htail⟩ := List.pairwise_cons.mp hsorted
    cases hy : p y with
    | true =>
      rw [List.filter_cons_of_pos hy]
      have hrest : (x :: rest).Pairwise fun a b => le a b = true :=
        hsorted.sublist (by simp)
      exact List.cons_prefix_cons.mpr ⟨rfl, ih hrest⟩
    | false =>
      -- nobody behind a gap belongs to the class
      have hnone : (y :: rest).filter p = [] := by
        rw [List.filter_eq_nil_iff]
        intro z hz hpz
        obtain rfl | hz := List.mem_cons.mp hz
        · rw [hy] at hpz
          cases hpz
        · have hpy := hbetween x y z (hx_le y List.mem_cons_self)
            ((List.pairwise_cons.mp htail).1 z hz) hx hpz
          rw [hy] at hpy
          cases hpy
      rw [hnone]
      exact List.nil_prefix

/-- In a sorted list the members of a class without gaps stand side by side. -/
theorem filter_infix_of_between
    (hbetween : ∀ a b c, le a b = true → le b c = true → p a = true → p c = true → p b = true)
    (hsorted : l.Pairwise fun a b => le a b = true) : l.filter p <:+: l := by
  induction l with
  | nil => exact List.infix_rfl
  | cons x rest ih =>
    cases hx : p x with
    | true =>
      rw [List.filter_cons_of_pos hx]
      have hrest := filter_prefix_of_between hbetween hsorted hx
      exact (List.cons_prefix_cons.mpr ⟨rfl, hrest⟩).isInfix
    | false =>
      rw [List.filter_cons_of_neg (by rw [hx]; exact Bool.false_ne_true)]
      exact List.infix_cons (ih hsorted.of_cons)

end Stretch

/-! ### Sorting the files -/

namespace Walker

theorem files_pairwise_le (w : Walker) (fs : FileSystem) (base : String)
    (env : SystemEnvironment) : (w.files fs base env).Pairwise fun a b => a.le b = true := by
  refine List.pairwise_mergeSort (fun a b c hab hbc => ?_) (fun a b => ?_) _
  · rw [Location.le_iff] at hab hbc ⊢
    exact hab.trans hbc
  · rw [Bool.or_eq_true, Location.le_iff, Location.le_iff]
    exact le_total a b

/-- A walk that finds the same in another order yields the same files. -/
theorem files_eq (h : (w.unsorted fs' base env).Perm (w.unsorted fs base env)) :
    w.files fs' base env = w.files fs base env := by
  refine List.Perm.eq_of_pairwise (fun a b _ _ hab hba => ?_) (files_pairwise_le w fs' base env)
    (files_pairwise_le w fs base env) ?_
  · exact le_antisymm (Location.le_iff.mp hab) (Location.le_iff.mp hba)
  · exact (List.mergeSort_perm _ _).trans (h.trans (List.mergeSort_perm _ _).symm)

theorem files_pairwise_lt (hnamed : fs.Named) (hbase : fs.find base = .ok (root, .directory)) :
    (w.files fs base env).Pairwise (· < ·) := by
  have hnodup : (w.files fs base env).Nodup :=
    (files_perm hbase).nodup_iff.mpr (descend_nodup hnamed)
  refine ((files_pairwise_le w fs base env).and hnodup).imp fun hle => ?_
  exact lt_of_le_of_ne (Location.le_iff.mp hle.1) hle.2

/-- The files below a directory stand side by side. -/
theorem files_below_infix (w : Walker) (fs : FileSystem) (base : String)
    (env : SystemEnvironment) (directory : Location) :
    (w.files fs base env).filter (directory.isPrefixOf ·) <:+: w.files fs base env := by
  refine filter_infix_of_between (fun a b c hab hbc ha hc => ?_) (files_pairwise_le w fs base env)
  rw [List.isPrefixOf_iff_prefix] at ha hc ⊢
  exact Location.prefix_of_between hab hbc ha hc

/-! ### One order -/

theorem matching_of_stripped {pattern left : String} (h : Stripped pattern left)
    {p : Glob.Pattern} (hp : Glob.Pattern.parse true left = .ok p) :
    w.matching fs base pattern env =
      .ok ((w.files fs base env).filter fun loc => p.matches (Location.text loc)) := by
  rw [matching, h.filePattern_eq, hp]
  rfl

/-- In whatever order the directories of a tree list their entries, a walk yields the same files,
and the same of them match a pattern. The files ascend name by name, those below a directory side by
side, and are regular files below the root. What matches a pattern is a part of them, in the same
order. -/
theorem files_canonical (hnamed : fs.Named) (hbase : fs.find base = .ok (root, .directory))
    (hlisting : fs.Rearranged fs') (w : Walker) (env : SystemEnvironment) :
    w.files fs' base env = w.files fs base env ∧
      (∀ pattern, w.matching fs' base pattern env = w.matching fs base pattern env) ∧
      (w.files fs base env).Pairwise (· < ·) ∧
      (∀ directory : Location,
        (w.files fs base env).filter (directory.isPrefixOf ·) <:+: w.files fs base env) ∧
      (∀ loc ∈ w.files fs base env, ∃ bytes, fs.HasFile root loc bytes) ∧
      ∀ pattern, (∃ left, Stripped pattern left) ∧ ∀ left, Stripped pattern left →
        ∀ p, Glob.Pattern.parse true left = .ok p →
          w.matching fs base pattern env =
            .ok ((w.files fs base env).filter fun loc => p.matches (Location.text loc)) := by
  have hfiles : w.files fs' base env = w.files fs base env :=
    files_eq (hlisting.unsorted_perm w base env)
  refine ⟨hfiles, fun pattern => ?_, files_pairwise_lt hnamed hbase,
    files_below_infix w fs base env, fun loc hloc => ?_, fun pattern =>
      ⟨exists_stripped pattern, fun left hleft p hp => matching_of_stripped hleft hp⟩⟩
  · rw [matching, matching, hfiles]
  · obtain ⟨rel, bytes, rfl, hfile⟩ := descend_hasFile hnamed ((files_perm hbase).mem_iff.mp hloc)
    exact ⟨bytes, hfile⟩

/-- A repository with a directory, and a sibling whose name sorts before the slash behind that of
the directory. The user has a rule for all repositories. -/
def hyphenTree : FileSystem where
  entries := [(["w"], .directory), (["w", ".git"], .directory), (["w", "a-b"], .file "x\n".toUTF8),
    (["w", "a"], .directory), (["w", "a", "c"], .file "y\n".toUTF8),
    (["w", "a", "d.log"], .file "z\n".toUTF8), (["u"], .directory), (["u", "git"], .directory),
    (["u", "git", "ignore"], .file "*.log\n".toUTF8)]
  distinct := by decide

/-- The same tree, listed the other way around. -/
def hyphenTreeReversed : FileSystem where
  entries := hyphenTree.entries.reverse
  distinct := by decide

/-- The user's configuration lies in a directory of its own. -/
def hyphenEnvironment : SystemEnvironment where
  bindings := [("XDG_CONFIG_HOME", "/u".toUTF8)]

/-- The file beside the directory is listed first, and comes behind the one in the directory. A rule
of the user leaves the log out. -/
theorem files_canonical_hyphen :
    ({} : Walker).unsorted hyphenTree "/w" hyphenEnvironment = [["a-b"], ["a", "c"]] ∧
      ({} : Walker).files hyphenTree "/w" hyphenEnvironment = [["a", "c"], ["a-b"]] := by
  have hnamed : hyphenTree.Named := FileSystem.named_of_entries (by decide)
  have hbase : hyphenTree.find "/w" = .ok (["w"], .directory) := by decide +kernel
  have hlisting : hyphenTree.Rearranged hyphenTreeReversed := ⟨(List.reverse_perm _).symm, rfl⟩
  obtain ⟨hfiles, -⟩ := files_canonical hnamed hbase hlisting {} hyphenEnvironment
  refine ⟨by decide +kernel, ?_⟩
  -- listed the other way around, the files are sorted already
  rw [← hfiles, files, List.mergeSort_of_pairwise (by decide +kernel)]
  decide +kernel

end Walker

end Codemod
