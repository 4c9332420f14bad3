import Codemod.Proofs.FileSystem.Workspace
import Codemod.Proofs.Model.Unwrapping
import Codemod.Walk

/-!
# What a walk yields

A walk goes down through directories only, so every location that it yields is a file below its
root, and it yields none twice.

- `FileSystem.Named` — every entry has the name of an entry
- `Walker.visit`, `Walker.descend_succ` — a walk entry by entry
- `Walker.descend_hasFile`, `Walker.descend_nodup` — the walk below a directory
- `Walker.matching_hasFile`, `Walker.matching_nodup` — the files that match a pattern
-/

namespace Codemod

variable {fs : FileSystem} {w : Walker} {root directory relative path loc : Location}
variable {name base pattern : String} {node : Node} {locations : List Location}
variable {excludes : Ignore.Excludes} {env : SystemEnvironment}

/-! ### The entries of a directory -/

namespace FileSystem

/-- All entries have names such as a file system allows. -/
def Named (fs : FileSystem) : Prop :=
  ∀ loc node, fs.get? loc = some node → ∀ name ∈ loc, IsName name

theorem named_of_entries (h : ∀ entry ∈ fs.entries, ∀ name ∈ entry.1, IsName name) : fs.Named := by
  intro loc node hget
  unfold get? at hget
  split at hget
  · next hroot =>
    rw [hroot]
    exact nofun
  · exact h _ (mem_of_lookup hget)

theorem lookup_of_mem {entries : List (Location × Node)} (hdistinct : (entries.map Prod.fst).Nodup)
    (h : (loc, node) ∈ entries) : lookup loc entries = some node := by
  induction entries with
  | nil => cases h
  | cons entry rest ih =>
    obtain ⟨l, n⟩ := entry
    rw [List.map_cons, List.nodup_cons] at hdistinct
    rw [List.mem_cons] at h
    unfold lookup
    obtain h | h := h
    · cases h
      exact if_pos rfl
    · have hne : l ≠ loc := by
        rintro rfl
        exact hdistinct.1 (List.mem_map.mpr ⟨(l, node), h, rfl⟩)
      rw [if_neg hne]
      exact ih hdistinct.2 h

/-- How an entry is listed in its directory. -/
theorem child_eq_some {entry : Location × Node} {child : String × Node}
    (h : (match entry.1.getLast? with
      | some name => if entry.1.dropLast = directory then some (name, entry.2) else none
      | none => none) = some child) : entry = (directory ++ [child.1], child.2) := by
  obtain ⟨l, n⟩ := entry
  split at h
  · next name hlast =>
    split at h
    · next hdirectory =>
      cases h
      obtain ⟨before, rfl⟩ := List.getLast?_eq_some_iff.mp hlast
      rw [List.dropLast_concat] at hdirectory
      rw [hdirectory]
    · cases h
  · cases h

theorem get?_of_mem_children (h : (name, node) ∈ fs.children directory) :
    fs.get? (directory ++ [name]) = some node := by
  unfold children at h
  obtain ⟨entry, hmem, hchild⟩ := List.mem_filterMap.mp h
  obtain rfl := child_eq_some hchild
  rw [get?, if_neg (by simp)]
  exact lookup_of_mem fs.distinct hmem

theorem children_nodup (fs : FileSystem) (directory : Location) :
    ((fs.children directory).map Prod.fst).Nodup := by
  unfold children
  rw [List.Nodup, List.pairwise_map, List.pairwise_filterMap]
  have hdistinct := fs.distinct
  rw [List.Nodup, List.pairwise_map] at hdistinct
  refine hdistinct.imp fun {a a'} hne b hb b' hb' heq => hne ?_
  rw [child_eq_some hb, child_eq_some hb', heq]

end FileSystem

/-! ### The walk -/

namespace Walker

/-- What one entry of a directory adds to a walk. -/
def visit (w : Walker) (fs : FileSystem) (excludes : Ignore.Excludes) (fuel : Nat)
    (levels : List Ignore.Level) (directory relative : Location) : String × Node → List Location
  | (_, .link _) => []
  | (name, .file _) =>
    if w.hides excludes levels (directory ++ [name]) (relative ++ [name]) name false ||
      w.omits (Location.text (relative ++ [name])) then [] else [relative ++ [name]]
  | (name, .directory) =>
    if w.hides excludes levels (directory ++ [name]) (relative ++ [name]) name true ||
      w.prunes (Location.text (relative ++ [name])) then []
    else w.descend fs excludes fuel (Ignore.Level.read fs (directory ++ [name]) :: levels)
      (directory ++ [name]) (relative ++ [name])

theorem descend_succ (fuel : Nat) (levels : List Ignore.Level) :
    w.descend fs excludes (fuel + 1) levels directory relative =
      (fs.children directory).flatMap (w.visit fs excludes fuel levels directory relative) := by
  unfold descend
  congr 1
  funext ⟨name, node⟩
  cases node <;> rfl

/-- Every location that a walk yields is a file below the directory. -/
theorem descend_hasFile (hnamed : fs.Named) {fuel : Nat} {levels : List Ignore.Level}
    (h : path ∈ w.descend fs excludes fuel levels directory relative) :
    ∃ rel bytes, path = relative ++ rel ∧ fs.HasFile directory rel bytes := by
  -- one level of directories for each unit of fuel
  induction fuel generalizing levels directory relative path with
  | zero => cases h
  | succ fuel ih =>
    rw [descend_succ] at h
    obtain ⟨⟨name, node⟩, hmem, hpath⟩ := List.mem_flatMap.mp h
    have hnode := FileSystem.get?_of_mem_children hmem
    have hname : IsName name := hnamed _ _ hnode name (by simp)
    cases node with
    | link => cases hpath
    | file bytes =>
      rw [visit] at hpath
      split at hpath
      · cases hpath
      · rw [List.mem_singleton] at hpath
        exact ⟨[name], bytes, hpath, .last hname hnode⟩
    | directory =>
      rw [visit] at hpath
      split at hpath
      · cases hpath
      · obtain ⟨rel, bytes, rfl, hfile⟩ := ih hpath
        exact ⟨name :: rel, bytes, by simp, .through hname hnode hfile⟩

/-- What an entry adds to a walk goes on from its name. -/
theorem visit_begins (hnamed : fs.Named) {fuel : Nat} {levels : List Ignore.Level}
    {child : String × Node} (h : path ∈ w.visit fs excludes fuel levels directory relative child) :
    ∃ rest, path = relative ++ child.1 :: rest := by
  obtain ⟨name, node⟩ := child
  cases node with
  | link => cases h
  | file bytes =>
    rw [visit] at h
    split at h
    · cases h
    · rw [List.mem_singleton] at h
      exact ⟨[], h⟩
  | directory =>
    rw [visit] at h
    split at h
    · cases h
    · obtain ⟨rel, -, rfl, -⟩ := descend_hasFile hnamed h
      exact ⟨rel, by simp⟩

/-- A walk yields no location twice. -/
theorem descend_nodup (hnamed : fs.Named) {fuel : Nat} {levels : List Ignore.Level} :
    (w.descend fs excludes fuel levels directory relative).Nodup := by
  induction fuel generalizing levels directory relative with
  | zero => exact List.nodup_nil
  | succ fuel ih =>
    rw [descend_succ, List.Nodup, List.pairwise_flatMap]
    constructor
    · rintro ⟨name, node⟩ -
      cases node with
      | link => exact .nil
      | file bytes =>
        rw [visit]
        split
        · exact .nil
        · exact List.pairwise_singleton _ _
      | directory =>
        rw [visit]
        split
        · exact .nil
        · exact ih
    -- what two entries add begins with their names, which differ
    · have hnames := fs.children_nodup directory
      rw [List.Nodup, List.pairwise_map] at hnames
      refine hnames.imp fun {child child'} hne x hx y hy heq => hne ?_
      obtain ⟨rest, rfl⟩ := visit_begins hnamed hx
      obtain ⟨rest', rfl⟩ := visit_begins hnamed hy
      exact (List.cons.inj (List.append_cancel_left heq)).1

/-- A walk that yields sorted locations leaves nothing to sort. -/
theorem matching_of_sorted
    (hsorted : (w.unsorted fs base env).Pairwise fun a b => a.le b = true) :
    w.matching fs base pattern env = (filePattern pattern).map fun p =>
      (w.unsorted fs base env).filter fun loc => p.matches (Location.text loc) := by
  unfold matching files
  rw [List.mergeSort_of_pairwise hsorted]

/-- The files that match a pattern are a part of those that the walk yields. -/
theorem matching_sublist (h : w.matching fs base pattern env = .ok locations) :
    locations.Sublist (w.files fs base env) := by
  unfold matching at h
  cases hp : filePattern pattern with
  | error cause =>
    rw [hp] at h
    cases h
  | ok p =>
    rw [hp] at h
    cases h
    exact List.filter_sublist

theorem files_perm (hbase : fs.find base = .ok (root, .directory)) :
    (w.files fs base env).Perm
      (w.descend fs (Ignore.Excludes.read fs env base) (fs.entries.length + 1)
        (Ignore.Level.above fs root) root []) := by
  have hunsorted : w.unsorted fs base env =
      w.descend fs (Ignore.Excludes.read fs env base) (fs.entries.length + 1)
        (Ignore.Level.above fs root) root [] := by
    rw [unsorted, hbase]
  rw [files, hunsorted]
  exact List.mergeSort_perm _ _

/-- The files that match a pattern are files below the base. -/
theorem matching_hasFile (hnamed : fs.Named) (hbase : fs.find base = .ok (root, .directory))
    (h : w.matching fs base pattern env = .ok locations) (hmem : loc ∈ locations) :
    ∃ bytes, fs.HasFile root loc bytes := by
  have hwalk := (files_perm hbase).mem_iff.mp ((matching_sublist h).subset hmem)
  obtain ⟨rel, bytes, rfl, hfile⟩ := descend_hasFile hnamed hwalk
  exact ⟨bytes, hfile⟩

theorem matching_nodup (hnamed : fs.Named) (hbase : fs.find base = .ok (root, .directory))
    (h : w.matching fs base pattern env = .ok locations) : locations.Nodup :=
  ((files_perm hbase).nodup_iff.mpr (descend_nodup hnamed)).sublist (matching_sublist h)

end Walker

end Codemod

/-!
## File patterns

What is read as a file pattern is what is left of it without the blanks around it and without every
`./` at its beginning. Both are said here of the text of the pattern, apart from how they are taken
off.

- `Text.Trims`, `Text.trims_trim` — a text between blanks
- `Walker.Undotted`, `Walker.undotted_dropDotSlashes` — a text behind every `./`
- `Walker.Stripped`, `Walker.exists_stripped` — both, for a pattern
- `Walker.Stripped.filePattern_eq` — what is read
-/

namespace Codemod

variable {cs core rest : List Char} {pattern left : String}

/-! ### Blanks -/

namespace Text

/-- `core` is the text between blanks, neither beginning nor ending with one. -/
structure Trims (cs core : List Char) : Prop where
  between : ∃ before after, cs = before ++ core ++ after ∧
    (∀ c ∈ before, isBlank c = true) ∧ ∀ c ∈ after, isBlank c = true
  begins : ∀ c ∈ core.head?, isBlank c = false
  ends : ∀ c ∈ core.getLast?, isBlank c = false

theorem trims_trim (cs : List Char) : Trims cs (trim cs) := by
  have hkept := dropEndWhile_append_takeWhile isBlank (cs.dropWhile isBlank)
  constructor
  · refine ⟨cs.takeWhile isBlank, ((cs.dropWhile isBlank).reverse.takeWhile isBlank).reverse,
      ?_, fun c hc => List.mem_takeWhile_imp hc, fun c hc => ?_⟩
    · rw [List.append_assoc, trim, trimEnd, hkept, List.takeWhile_append_dropWhile]
    · exact List.mem_takeWhile_imp (List.mem_reverse.mp hc)
  · intro c hc
    -- what begins the text that is left begins the text without the blanks before it
    have hhead := List.head?_dropWhile_not isBlank cs
    rw [← hkept, List.head?_append, ← trimEnd, ← trim, Option.mem_def.mp hc] at hhead
    exact hhead
  · exact getLast?_dropEndWhile isBlank _

theorem Trims.trim_eq (h : Trims cs core) : trim cs = core := by
  obtain ⟨before, after, rfl, hbefore, hafter⟩ := h.between
  rw [trim, List.append_assoc, List.dropWhile_append_of_pos hbefore]
  cases hcore : core with
  | nil =>
    rw [List.nil_append, List.dropWhile_eq_nil_iff.mpr hafter]
    rfl
  | cons c rest =>
    have hc : isBlank c = false := h.begins c (by rw [hcore]; rfl)
    rw [List.cons_append, List.dropWhile_cons_of_neg (by rw [hc]; exact Bool.false_ne_true),
      ← List.cons_append, ← hcore, trimEnd, dropEndWhile_append_of_pos hafter]
    exact dropEndWhile_eq_self h.ends

end Text

/-! ### Dots -/

namespace Walker

/-- `rest` is the text behind every `./` at its beginning. -/
structure Undotted (cs rest : List Char) : Prop where
  behind : ∃ n, cs = (List.replicate n ['.', '/']).flatten ++ rest
  all : ¬['.', '/'] <+: rest

theorem undotted_dropDotSlashes (cs : List Char) : Undotted cs (dropDotSlashes cs) := by
  fun_induction dropDotSlashes cs with
  | case1 rest ih =>
    obtain ⟨⟨n, hrest⟩, hall⟩ := ih
    refine ⟨⟨n + 1, ?_⟩, hall⟩
    rw [List.replicate_succ, List.flatten_cons, List.append_assoc, ← hrest]
    rfl
  | case2 cs hnot =>
    refine ⟨⟨0, rfl⟩, ?_⟩
    rintro ⟨rest, rfl⟩
    exact hnot rest rfl

theorem Undotted.dropDotSlashes_eq (h : Undotted cs rest) : dropDotSlashes cs = rest := by
  obtain ⟨⟨n, rfl⟩, hall⟩ := h
  induction n with
  | zero =>
    rw [List.replicate_zero, List.flatten_nil, List.nil_append, dropDotSlashes]
    rintro more rfl
    exact hall (List.prefix_append _ more)
  | succ n ih =>
    rw [List.replicate_succ, List.flatten_cons]
    exact ih

/-! ### Patterns -/

/-- What is left of a pattern once the blanks around it are taken off, and then every `./` at its
beginning. -/
def Stripped (pattern left : String) : Prop :=
  ∃ core, Text.Trims pattern.toList core ∧ Undotted core left.toList

theorem exists_stripped (pattern : String) : ∃ left, Stripped pattern left := by
  refine ⟨String.ofList (dropDotSlashes (Text.trim pattern.toList)), Text.trim pattern.toList,
    Text.trims_trim _, ?_⟩
  rw [String.toList_ofList]
  exact undotted_dropDotSlashes _

/-- What is left of a pattern is what is read. -/
theorem Stripped.filePattern_eq (h : Stripped pattern left) :
    filePattern pattern =
      (Glob.Pattern.parse true left).mapError (PatternError.file left) := by
  obtain ⟨core, htrims, hundotted⟩ := h
  rw [filePattern, htrims.trim_eq, hundotted.dropDotSlashes_eq, String.ofList_toList]

end Walker

end Codemod
