import Codemod.FileSystem.Basic

/-!
# Paths made of names

The text of a relative location names it again when its names are such as a file system allows, and
joined to the path of a directory it adds its names to those of the directory.

- `IsName`, `isName_iff` — what the name of an entry looks like
- `Location.names_text` — a text and its names
- `Path.names_join`, `Path.isAbsolute_join`, `Path.endsInSlash_join`, `Path.no_null_join` — a
  relative text after a base
-/

namespace Codemod

variable {name base path : String} {rel : Location}

/-- The name of an entry: one name of a path, which does not lead elsewhere and is not too long. -/
structure IsName (name : String) : Prop where
  ne_empty : name ≠ ""
  ne_dot : name ≠ "."
  ne_dots : name ≠ ".."
  no_slash : '/' ∉ name.toList
  no_null : '\x00' ∉ name.toList
  short : name.utf8ByteSize ≤ FileSystem.maxNameBytes

theorem isName_iff : IsName name ↔ (name ≠ "" ∧ name ≠ "." ∧ name ≠ "..") ∧
    '/' ∉ name.toList ∧ '\x00' ∉ name.toList ∧ name.utf8ByteSize ≤ FileSystem.maxNameBytes := by
  constructor
  · rintro ⟨h₁, h₂, h₃, h₄, h₅, h₆⟩
    exact ⟨⟨h₁, h₂, h₃⟩, h₄, h₅, h₆⟩
  · rintro ⟨⟨h₁, h₂, h₃⟩, h₄, h₅, h₆⟩
    exact ⟨h₁, h₂, h₃, h₄, h₅, h₆⟩

instance (name : String) : Decidable (IsName name) := decidable_of_iff _ isName_iff.symm

theorem IsName.proper (h : IsName name) : name ≠ "" ∧ name ≠ "." ∧ name ≠ ".." :=
  ⟨h.ne_empty, h.ne_dot, h.ne_dots⟩

theorem IsName.toList_ne_nil (h : IsName name) : name.toList ≠ [] := by
  intro hnil
  exact h.ne_empty (String.toList_eq_nil_iff.mp hnil)

/-! ### The text of a location -/

namespace Location

theorem toList_text (rel : Location) :
    (text rel).toList = ['/'].intercalate (rel.map String.toList) := by
  rw [text, String.toList_intercalate]
  rfl

/-- Between the slashes of its text stand the names of a location. -/
theorem splitOn_text (h : ∀ name ∈ rel, IsName name) (hne : rel ≠ []) :
    (text rel).toList.splitOn '/' = rel.map String.toList := by
  rw [toList_text, List.splitOn_intercalate]
  · intro cs hcs
    obtain ⟨name, hmem, rfl⟩ := List.mem_map.mp hcs
    exact (h name hmem).no_slash
  · simpa using hne

theorem ne_nil_of_mem_splitOn_text (h : ∀ name ∈ rel, IsName name) (hne : rel ≠ [])
    {cs : List Char} (hcs : cs ∈ (text rel).toList.splitOn '/') : cs ≠ [] := by
  rw [splitOn_text h hne, List.mem_map] at hcs
  obtain ⟨name, hmem, rfl⟩ := hcs
  exact (h name hmem).toList_ne_nil

/-- A relative location is read back from its text. -/
theorem names_text (h : ∀ name ∈ rel, IsName name) : Path.names (text rel) = rel := by
  by_cases hne : rel = []
  · rw [hne]
    decide
  · have hkept : (rel.map String.toList).filter (fun cs => !cs.isEmpty) =
        rel.map String.toList := by
      rw [List.filter_eq_self]
      intro cs hcs
      rw [← splitOn_text h hne] at hcs
      simpa using ne_nil_of_mem_splitOn_text h hne hcs
    have hround : String.ofList ∘ String.toList = id := by
      funext name
      exact String.ofList_toList
    rw [Path.names, splitOn_text h hne, hkept, List.map_map, hround, List.map_id]

theorem text_ne_empty (h : ∀ name ∈ rel, IsName name) (hne : rel ≠ []) : text rel ≠ "" := by
  intro hempty
  have hnames := names_text h
  rw [hempty] at hnames
  exact hne hnames.symm

/-- Locations with the same text are the same. -/
theorem text_injective {rel' : Location} (h : ∀ name ∈ rel, IsName name)
    (h' : ∀ name ∈ rel', IsName name) (heq : text rel = text rel') :
    rel = rel' := by
  rw [← names_text h, heq, names_text h']

theorem not_isAbsolute_text (h : ∀ name ∈ rel, IsName name) (hne : rel ≠ []) :
    Path.isAbsolute (text rel) = false := by
  rw [Path.isAbsolute, beq_eq_false_iff_ne]
  intro hhead
  obtain ⟨cs, hcs⟩ := List.head?_eq_some_iff.mp hhead
  have hsplit : ([] : List Char) ∈ (text rel).toList.splitOn '/' := by
    rw [hcs, ← List.nil_append ('/' :: cs), List.splitOn_append_cons_self]
    simp
  exact ne_nil_of_mem_splitOn_text h hne hsplit rfl

theorem not_endsInSlash_text (h : ∀ name ∈ rel, IsName name) (hne : rel ≠ []) :
    Path.endsInSlash (text rel) = false := by
  rw [Path.endsInSlash, beq_eq_false_iff_ne]
  intro hlast
  obtain ⟨cs, hcs⟩ := List.getLast?_eq_some_iff.mp hlast
  have hsplit : ([] : List Char) ∈ (text rel).toList.splitOn '/' := by
    rw [hcs, List.splitOn_append_cons_self]
    simp
  exact ne_nil_of_mem_splitOn_text h hne hsplit rfl

theorem no_null_text (h : ∀ name ∈ rel, IsName name) : '\x00' ∉ (text rel).toList := by
  rw [toList_text]
  induction rel with
  | nil => simp
  | cons name rest ih =>
    have hname := (h name List.mem_cons_self).no_null
    have hrest := ih fun n hn => h n (List.mem_cons_of_mem _ hn)
    cases rest with
    | nil => simpa using hname
    | cons next rest =>
      simp only [List.map_cons, List.intercalate_cons_cons] at hrest ⊢
      simp only [List.mem_append, not_or]
      exact ⟨⟨hname, by decide⟩, hrest⟩

end Location

/-! ### A relative text after a base -/

namespace Path

/-- What stands between a base and a relative text. -/
def gap (base : String) : List Char :=
  if base.isEmpty || endsInSlash base then [] else ['/']

theorem toList_join (base : String) (hrel : isAbsolute path = false) :
    (join base path).toList = base.toList ++ gap base ++ path.toList := by
  unfold join gap
  rw [if_neg (by rw [hrel]; exact Bool.false_ne_true)]
  split <;> simp [String.toList_append]

/-- Relative texts are told apart after the same base. -/
theorem join_injective {path' : String} (hrel : isAbsolute path = false)
    (hrel' : isAbsolute path' = false) (h : join base path = join base path') : path = path' := by
  have hlists := congrArg String.toList h
  rw [toList_join base hrel, toList_join base hrel'] at hlists
  exact String.toList_injective (List.append_cancel_left hlists)

/-- The parts of a text between slashes that are not empty. -/
def parts (cs : List Char) : List (List Char) := (cs.splitOn '/').filter fun part => !part.isEmpty

theorem parts_slash (before after : List Char) :
    parts (before ++ '/' :: after) = parts before ++ parts after := by
  rw [parts, List.splitOn_append_cons_self, List.filter_append]
  rfl

theorem parts_gap (base : String) (cs : List Char) :
    parts (base.toList ++ gap base ++ cs) = parts base.toList ++ parts cs := by
  unfold gap
  split
  · next h =>
    rw [Bool.or_eq_true] at h
    rw [List.append_nil]
    obtain hempty | hslash := h
    · rw [String.isEmpty_iff.mp hempty]
      rfl
    · rw [endsInSlash, beq_iff_eq] at hslash
      obtain ⟨before, hbase⟩ := List.getLast?_eq_some_iff.mp hslash
      rw [hbase, List.append_assoc]
      -- the slash at the end of the base is the one between the names
      show parts (before ++ '/' :: cs) = parts (before ++ '/' :: []) ++ parts cs
      rw [parts_slash, parts_slash, List.append_assoc]
      rfl
  · rw [List.append_assoc]
    exact parts_slash base.toList cs

theorem names_join (hrel : isAbsolute path = false) :
    names (join base path) = names base ++ names path := by
  show (parts (join base path).toList).map String.ofList = _
  rw [toList_join base hrel, parts_gap, List.map_append]
  rfl

theorem isAbsolute_join (hrel : isAbsolute path = false) (hbase : base ≠ "") :
    isAbsolute (join base path) = isAbsolute base := by
  have hne : base.toList ≠ [] := fun h => hbase (String.toList_eq_nil_iff.mp h)
  obtain ⟨c, cs, hcs⟩ := List.exists_cons_of_ne_nil hne
  rw [isAbsolute, isAbsolute, toList_join base hrel, hcs]
  rfl

theorem endsInSlash_join (hrel : isAbsolute path = false) (hpath : path ≠ "") :
    endsInSlash (join base path) = endsInSlash path := by
  have hne : path.toList ≠ [] := fun h => hpath (String.toList_eq_nil_iff.mp h)
  rw [endsInSlash, endsInSlash, toList_join base hrel, List.getLast?_append,
    List.getLast?_eq_some_getLast hne]
  rfl

theorem join_ne_empty (base : String) (hrel : isAbsolute path = false) (hpath : path ≠ "") :
    join base path ≠ "" := by
  intro hempty
  have hlist := toList_join base hrel
  rw [hempty] at hlist
  have hnil := List.append_eq_nil_iff.mp hlist.symm
  exact hpath (String.toList_eq_nil_iff.mp hnil.2)

theorem no_null_join (hrel : isAbsolute path = false) (hbase : '\x00' ∉ base.toList)
    (hpath : '\x00' ∉ path.toList) : '\x00' ∉ (join base path).toList := by
  have hgap : '\x00' ∉ gap base := by
    unfold gap
    split <;> decide
  rw [toList_join base hrel]
  simp only [List.mem_append, not_or]
  exact ⟨⟨hbase, hgap⟩, hpath⟩

end Path

end Codemod
