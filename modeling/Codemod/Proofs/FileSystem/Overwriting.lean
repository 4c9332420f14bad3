import Codemod.FileSystem.Text
import Codemod.Text.Utf8

/-!
# What a write does to paths

A write puts a file where a file was or nothing at all, and gives what was written to every other
name of this file. No walk crosses such a location, so paths lead where they led before, and the
path of the write leads to what was written.

- `sharesFile_refl`, `sharesFile_comm`, `sharesFile_trans` — names of one file
- `Writable`, `Arrival.overwritten` — where a file can be put, and what it does to the end of a walk
- `walkNames_set`, `walkThrough_set`, `resolve_set` — paths after a file was put somewhere
- `walkNames_refill`, `resolve_refill` — paths after files got other bytes
- `get?_overwrite`, `resolve_overwrite` — both at once, as a write does it
- `writable_of_writeTarget` — a write goes to a file or to a free name
- `readBytes_writeBytes`, `find_overwrite_directory` — what is read after a write
- `writePart_cases` — a write that was broken off
-/

namespace Codemod.FileSystem

variable {fs : FileSystem} {loc place : Location} {bytes : ByteArray} {path : String}

/-! ### Names of one file -/

theorem sharesFile_iff {a b : Location} : fs.sharesFile a b = true ↔
    a = b ∨ ∃ n, (fs.record a).identity = some n ∧ (fs.record b).identity = some n := by
  unfold sharesFile
  cases (fs.record a).identity with
  | none => simp
  | some n =>
    simp only [Option.isSome_some, Bool.true_and, Bool.or_eq_true, beq_iff_eq, Option.some.injEq,
      exists_eq_left']
    exact or_congr_right eq_comm

theorem sharesFile_refl (fs : FileSystem) (a : Location) : fs.sharesFile a a = true :=
  sharesFile_iff.mpr (.inl rfl)

theorem sharesFile_comm (fs : FileSystem) (a b : Location) :
    fs.sharesFile a b = fs.sharesFile b a := by
  rw [Bool.eq_iff_iff, sharesFile_iff, sharesFile_iff]
  simp only [eq_comm, and_comm]

theorem sharesFile_trans {a b c : Location} (hab : fs.sharesFile a b = true)
    (hbc : fs.sharesFile b c = true) : fs.sharesFile a c = true := by
  rw [sharesFile_iff] at hab hbc ⊢
  obtain rfl | ⟨n, ha, hb⟩ := hab
  · exact hbc
  · obtain rfl | ⟨m, hb', hc⟩ := hbc
    · exact .inr ⟨n, ha, hb⟩
    · obtain rfl : m = n := Option.some.inj (hb'.symm.trans hb)
      exact .inr ⟨m, ha, hc⟩

/-- What is put somewhere does not change which names belong together. -/
@[simp] theorem sharesFile_overwrite (a b : Location) :
    (fs.overwrite loc bytes).sharesFile a b = fs.sharesFile a b := rfl

/-! ### Paths after a file was put somewhere -/

/-- Nothing stands at the location, or a file does. -/
def Writable (fs : FileSystem) (loc : Location) : Prop :=
  ∀ node, fs.get? loc = some node → node.isFile = true

/-- Where a walk ends after a file was put at a location, for walks that did not fail before. -/
def Arrival.overwritten (loc : Location) (bytes : ByteArray) : Arrival → Option Arrival
  | .found l (.file old) => some (.found l (.file (if l = loc then bytes else old)))
  | .found l node => some (.found l node)
  | .crossing directory target rest => some (.crossing directory target rest)
  | .free l false => if l = loc then some (.found loc (.file bytes)) else none
  | .free _ true | .failed _ => none

theorem Writable.ne_nil (h : fs.Writable loc) : loc ≠ [] := by
  rintro rfl
  have := h .directory (by simp [get?])
  cases this

/-- A proper name leads on through a directory, stops at a link or at a file, or is free. -/
theorem walkNames_name (fs : FileSystem) (follow : Bool) (place : Location) {name : String}
    (hname : name ≠ "" ∧ name ≠ "." ∧ name ≠ "..") (rest : List String) :
    fs.walkNames follow place (name :: rest) =
      if maxNameBytes < name.utf8ByteSize then .failed .nameTooLong
      else match fs.get? (place ++ [name]) with
      | some .directory => fs.walkNames follow (place ++ [name]) rest
      | some (.link target) =>
        if rest.isEmpty && !follow then .found (place ++ [name]) (.link target)
        else .crossing place target rest
      | some (.file bytes) =>
        if rest.isEmpty then .found (place ++ [name]) (.file bytes) else .failed .notDirectory
      | none =>
        match rest with
        | [] => .free (place ++ [name]) false
        | [""] => .free (place ++ [name]) true
        | _ => .failed .notFound := by
  obtain ⟨h₁, h₂, h₃⟩ := hname
  refine (walkNames.eq_def ..).trans ?_
  split
  case h_1 h => cases h
  case h_2 h => exact absurd (List.cons.inj h).1 h₁
  case h_3 h => exact absurd (List.cons.inj h).1 h₂
  case h_4 h => exact absurd (List.cons.inj h).1 h₃
  case h_5 h =>
    obtain ⟨rfl, rfl⟩ := List.cons.inj h
    rfl

/-- A directory or a link stays what it is. -/
theorem Writable.get?_set_node (hloc : fs.Writable loc) {l : Location} {node : Node}
    (hnode : fs.get? l = some node) (hfile : node.isFile = false) :
    (fs.set loc (.file bytes)).get? l = some node := by
  rw [get?_set fs loc l _ hloc.ne_nil, if_neg, hnode]
  rintro rfl
  rw [hloc node hnode] at hfile
  cases hfile

/-- A walk ends where it ended before. -/
theorem walkNames_set (hloc : fs.Writable loc) {follow : Bool} {names : List String} {a : Arrival}
    (h : (fs.walkNames follow place names).overwritten loc bytes = some a) :
    (fs.set loc (.file bytes)).walkNames follow place names = a := by
  have hset := fun l => get?_set fs loc l (.file bytes) hloc.ne_nil
  -- along the names: directories and links are as before, so both walks take the same way
  fun_induction walkNames fs follow place names with
  | case1 =>
    injection h
  | case2 _ _ ih =>
    rw [walkNames]
    exact ih h
  | case3 _ _ ih =>
    rw [walkNames]
    exact ih h
  | case4 _ _ ih =>
    rw [walkNames]
    exact ih h
  | case5 | case10 | case13 => cases h
  | case6 place name rest h₁ h₂ h₃ l hsize hdir ih =>
    rw [walkNames_name _ _ _ ⟨h₁, h₂, h₃⟩, if_neg hsize, hloc.get?_set_node hdir rfl]
    exact ih h
  | case7 place name rest h₁ h₂ h₃ l hsize target hlink hlast =>
    rw [walkNames_name _ _ _ ⟨h₁, h₂, h₃⟩, if_neg hsize, hloc.get?_set_node hlink rfl]
    injection h with h
    subst h
    exact if_pos hlast
  | case8 place name rest h₁ h₂ h₃ l hsize target hlink hlast =>
    rw [walkNames_name _ _ _ ⟨h₁, h₂, h₃⟩, if_neg hsize, hloc.get?_set_node hlink rfl]
    injection h with h
    subst h
    exact if_neg hlast
  | case9 place name rest h₁ h₂ h₃ l hsize old hfile hlast =>
    rw [walkNames_name _ _ _ ⟨h₁, h₂, h₃⟩, if_neg hsize, hset, hfile]
    injection h with h
    subst h
    by_cases hl : l = loc
    · rw [if_pos hl, if_pos hl]
      exact if_pos hlast
    · rw [if_neg hl, if_neg hl]
      exact if_pos hlast
  | case11 place name h₁ h₂ h₃ l hsize hnone =>
    -- a free name at the end: the file is there now, or the walk ended somewhere else
    rw [walkNames_name _ _ _ ⟨h₁, h₂, h₃⟩, if_neg hsize, hset]
    by_cases hl : l = loc
    · rw [Arrival.overwritten, if_pos hl] at h
      injection h with h
      rw [if_pos hl, ← h, ← hl]
      rfl
    · rw [Arrival.overwritten, if_neg hl] at h
      cases h
  | case12 => cases h

/-- A walk that meets no link needs no way through it. -/
theorem walkThrough_of_stop {follow : Bool} {links : Nat} {start : Location} {names : List String}
    {a : Arrival} (h : fs.walkNames follow start names = a)
    (hstop : ∀ directory target rest, a ≠ .crossing directory target rest) :
    fs.walkThrough follow links start names = a := by
  rw [walkThrough, h]
  cases a with
  | crossing directory target rest => exact absurd rfl (hstop directory target rest)
  | _ => rfl

theorem Arrival.overwritten_stops {a a' : Arrival} (h : a.overwritten loc bytes = some a')
    (hstop : ∀ directory target rest, a ≠ .crossing directory target rest) :
    ∀ directory target rest, a' ≠ .crossing directory target rest := by
  rintro directory target rest rfl
  unfold Arrival.overwritten at h
  split at h <;> grind

theorem walkThrough_set (hloc : fs.Writable loc) {follow : Bool} {links : Nat} {start : Location}
    {names : List String} {a : Arrival}
    (h : (fs.walkThrough follow links start names).overwritten loc bytes = some a) :
    (fs.set loc (.file bytes)).walkThrough follow links start names = a := by
  fun_induction walkThrough fs follow links start names with
  | case1 | case2 => cases h
  | case3 start names directory target rest hwalk links hne start' slash ih =>
    rw [walkThrough, walkNames_set hloc (a := .crossing directory target rest) (by rw [hwalk]; rfl)]
    dsimp only
    rw [if_neg hne]
    exact ih h
  | case4 links start names hstop =>
    exact walkThrough_of_stop (walkNames_set hloc h) (Arrival.overwritten_stops h hstop)

theorem resolve_set (hloc : fs.Writable loc) {follow : Bool} {a : Arrival}
    (h : (fs.resolve follow path).overwritten loc bytes = some a) :
    (fs.set loc (.file bytes)).resolve follow path = a := by
  unfold resolve at h ⊢
  split at h
  · cases h
  rename_i hnull
  split at h
  · cases h
  rename_i hlong
  split at h
  · cases h
  rename_i hempty
  rw [if_neg hnull, if_neg hlong, if_neg hempty]
  exact walkThrough_set hloc h

/-! ### Paths after files got other bytes -/

variable {p : Location → Bool}

theorem get?_refill (fs : FileSystem) (p : Location → Bool) (bytes : ByteArray) (l : Location) :
    (fs.refill p bytes).get? l =
      (fs.get? l).map fun node => if p l then node.refilled bytes else node := by
  have hlookup : ∀ es : List (Location × Node),
      lookup l (es.map fun e => (e.1, if p e.1 then e.2.refilled bytes else e.2)) =
        (lookup l es).map fun node => if p l then node.refilled bytes else node := by
    intro es
    induction es with
    | nil => rfl
    | cons e rest ih =>
      obtain ⟨k, node⟩ := e
      rw [List.map_cons, lookup, lookup, ih]
      by_cases hk : k = l
      · rw [if_pos hk, if_pos hk, hk]
        rfl
      · rw [if_neg hk, if_neg hk]
  unfold get?
  by_cases hl : l = []
  · rw [if_pos hl, if_pos hl]
    cases hp : p l <;> rfl
  · rw [if_neg hl, if_neg hl]
    exact hlookup fs.entries

/-- Where a walk ends after files got other bytes. -/
def Arrival.refilled (p : Location → Bool) (bytes : ByteArray) : Arrival → Arrival
  | .found l (.file old) => .found l (.file (if p l then bytes else old))
  | a => a

theorem walkNames_refill {follow : Bool} {names : List String} :
    (fs.refill p bytes).walkNames follow place names =
      (fs.walkNames follow place names).refilled p bytes := by
  -- directories, links and free names are as before, so both walks take the same way
  fun_induction walkNames fs follow place names with
  | case1 => rfl
  | case2 _ _ ih | case3 _ _ ih | case4 _ _ ih =>
    rw [walkNames]
    exact ih
  | case5 place name rest h₁ h₂ h₃ hsize =>
    rw [walkNames_name _ _ _ ⟨h₁, h₂, h₃⟩, if_pos hsize]
    rfl
  | case6 place name rest h₁ h₂ h₃ l hsize hdir ih =>
    rw [walkNames_name _ _ _ ⟨h₁, h₂, h₃⟩, if_neg hsize, get?_refill, hdir]
    cases hp : p (place ++ [name]) <;> exact ih
  | case7 place name rest h₁ h₂ h₃ l hsize target hlink hlast =>
    rw [walkNames_name _ _ _ ⟨h₁, h₂, h₃⟩, if_neg hsize, get?_refill, hlink]
    cases hp : p (place ++ [name]) <;> exact if_pos hlast
  | case8 place name rest h₁ h₂ h₃ l hsize target hlink hlast =>
    rw [walkNames_name _ _ _ ⟨h₁, h₂, h₃⟩, if_neg hsize, get?_refill, hlink]
    cases hp : p (place ++ [name]) <;> exact if_neg hlast
  | case9 place name rest h₁ h₂ h₃ l hsize old hfile hlast =>
    rw [walkNames_name _ _ _ ⟨h₁, h₂, h₃⟩, if_neg hsize, get?_refill, hfile, Arrival.refilled]
    cases hp : p l <;> exact if_pos hlast
  | case10 place name rest h₁ h₂ h₃ l hsize old hfile hlast =>
    rw [walkNames_name _ _ _ ⟨h₁, h₂, h₃⟩, if_neg hsize, get?_refill, hfile]
    cases hp : p (place ++ [name]) <;> exact if_neg hlast
  | case11 place name h₁ h₂ h₃ l hsize hnone =>
    rw [walkNames_name _ _ _ ⟨h₁, h₂, h₃⟩, if_neg hsize, get?_refill, hnone]
    rfl
  | case12 place name h₁ h₂ h₃ l hsize hnone =>
    rw [walkNames_name _ _ _ ⟨h₁, h₂, h₃⟩, if_neg hsize, get?_refill, hnone]
    rfl
  | case13 place name rest h₁ h₂ h₃ l hsize hnone hfree hfree' =>
    rw [walkNames_name _ _ _ ⟨h₁, h₂, h₃⟩, if_neg hsize, get?_refill, hnone]
    dsimp only [Option.map_none]
    split
    · exact absurd rfl hfree
    · exact absurd rfl hfree'
    · rfl

theorem walkThrough_refill {follow : Bool} {links : Nat} {start : Location}
    {names : List String} :
    (fs.refill p bytes).walkThrough follow links start names =
      (fs.walkThrough follow links start names).refilled p bytes := by
  fun_induction walkThrough fs follow links start names with
  | case1 start names directory target rest hwalk =>
    rw [walkThrough, walkNames_refill, hwalk]
    rfl
  | case2 start names directory target rest hwalk links hempty =>
    rw [walkThrough, walkNames_refill, hwalk]
    exact if_pos hempty
  | case3 start names directory target rest hwalk links hne start' slash ih =>
    rw [walkThrough, walkNames_refill, hwalk]
    dsimp only [Arrival.refilled]
    rw [if_neg hne]
    exact ih
  | case4 links start names hstop =>
    refine walkThrough_of_stop walkNames_refill ?_
    intro directory target rest heq
    unfold Arrival.refilled at heq
    split at heq
    · cases heq
    · exact hstop directory target rest heq

theorem resolve_refill {follow : Bool} :
    (fs.refill p bytes).resolve follow path = (fs.resolve follow path).refilled p bytes := by
  unfold resolve
  split
  · rfl
  split
  · rfl
  split
  · rfl
  exact walkThrough_refill

/-! ### Paths after a write -/

/-- A write puts the file there, and other names of the file get the same bytes. -/
theorem get?_overwrite (hloc : fs.Writable loc) (bytes : ByteArray) (l : Location) :
    (fs.overwrite loc bytes).get? l =
      if l = loc then some (.file bytes)
      else (fs.get? l).map fun node =>
        if fs.sharesFile loc l then node.refilled bytes else node := by
  rw [overwrite, get?_refill, get?_set _ _ _ _ hloc.ne_nil]
  by_cases hl : l = loc
  · rw [if_pos hl, if_pos hl, hl, sharesFile_refl]
    rfl
  · rw [if_neg hl, if_neg hl]

/-- What is no name of the file stays as it is. -/
theorem get?_overwrite_apart (hloc : fs.Writable loc) {l : Location}
    (h : fs.sharesFile loc l = false) : (fs.overwrite loc bytes).get? l = fs.get? l := by
  rw [get?_overwrite hloc, if_neg, h]
  · exact Option.map_id'
  · rintro rfl
    rw [sharesFile_refl] at h
    cases h

/-- What is no file stays what it is. -/
theorem get?_overwrite_node (hloc : fs.Writable loc) {l : Location} {node : Node}
    (hnode : fs.get? l = some node) (hfile : node.isFile = false) :
    (fs.overwrite loc bytes).get? l = some node := by
  rw [overwrite, get?_refill, hloc.get?_set_node hnode hfile]
  cases node with
  | file => cases hfile
  | directory | link => exact congrArg some (ite_self _)

/-- A file holds what was written when it has the name of the write, and otherwise what it held. -/
theorem get?_overwrite_file (hloc : fs.Writable loc) {l : Location} {old : ByteArray}
    (hold : fs.get? l = some (.file old)) :
    (fs.overwrite loc bytes).get? l =
      some (.file (if fs.sharesFile loc l then bytes else old)) := by
  rw [get?_overwrite hloc, hold]
  by_cases hl : l = loc
  · rw [if_pos hl, hl, sharesFile_refl]
    rfl
  · rw [if_neg hl]
    cases fs.sharesFile loc l <;> rfl

/-- What is a file under a name of the file that was written holds what was written. -/
theorem get?_overwrite_shared (hloc : fs.Writable loc) {l : Location} {new : ByteArray}
    (h : fs.sharesFile loc l = true) (hnew : (fs.overwrite loc bytes).get? l = some (.file new)) :
    new = bytes := by
  rw [get?_overwrite hloc, h] at hnew
  split at hnew
  · cases hnew
    rfl
  · cases hnode : fs.get? l with
    | none =>
      rw [hnode] at hnew
      cases hnew
    | some node =>
      rw [hnode] at hnew
      cases node with
      | file =>
        cases hnew
        rfl
      | directory | link => cases hnew

theorem resolve_overwrite (hloc : fs.Writable loc) {follow : Bool} {a : Arrival}
    (h : (fs.resolve follow path).overwritten loc bytes = some a) :
    (fs.overwrite loc bytes).resolve follow path = a.refilled (fs.sharesFile loc) bytes := by
  rw [overwrite, resolve_refill, resolve_set hloc h]

/-! ### Where a write goes -/

/-- What is at the end of a walk is there, and a free name is free. -/
def Arrival.Holds (fs : FileSystem) : Arrival → Prop
  | .found l (.file bytes) => fs.get? l = some (.file bytes)
  | .free l _ => fs.get? l = none
  | _ => True

theorem walkNames_holds {follow : Bool} {names : List String} :
    (fs.walkNames follow place names).Holds fs := by
  fun_induction walkNames fs follow place names with
  | case9 _ _ _ _ _ _ _ _ _ hfile => exact hfile
  | case11 _ _ _ _ _ _ _ hnone => exact hnone
  | case12 _ _ _ _ _ _ _ hnone => exact hnone
  | case2 _ _ ih | case3 _ _ ih | case4 _ _ ih => exact ih
  | case6 _ _ _ _ _ _ _ _ _ ih => exact ih
  | _ => trivial

theorem walkThrough_holds {follow : Bool} {links : Nat} {start : Location} {names : List String} :
    (fs.walkThrough follow links start names).Holds fs := by
  fun_induction walkThrough fs follow links start names with
  | case1 | case2 => trivial
  | case3 _ _ _ _ _ _ _ _ _ _ ih => exact ih
  | case4 => exact walkNames_holds

theorem resolve_holds (fs : FileSystem) (follow : Bool) (path : String) :
    (fs.resolve follow path).Holds fs := by
  unfold resolve
  split
  · trivial
  split
  · trivial
  split
  · trivial
  exact walkThrough_holds

/-- A write goes to a file or to a free name. -/
theorem writeTarget_eq_ok (h : fs.writeTarget path = .ok loc) :
    (∃ old, fs.resolve true path = .found loc (.file old)) ∨
      fs.resolve true path = .free loc false := by
  unfold writeTarget at h
  split at h
  · next hfound =>
    cases h
    exact .inl ⟨_, hfound⟩
  · cases h
  · cases h
  · next hfree =>
    split at h
    · cases h
    · next hfile =>
      cases h
      rw [Bool.not_eq_true] at hfile
      rw [hfile] at hfree
      exact .inr hfree
  · cases h
  · split at h <;> cases h

theorem writable_of_writeTarget (h : fs.writeTarget path = .ok loc) : fs.Writable loc := by
  intro node hnode
  have hholds := resolve_holds fs true path
  obtain ⟨old, hres⟩ | hres := writeTarget_eq_ok h
  · rw [hres, Arrival.Holds, hnode] at hholds
    cases hholds
    rfl
  · rw [hres, Arrival.Holds, hnode] at hholds
    cases hholds

theorem writeBytes_eq_ok {fs' : FileSystem} (h : fs.writeBytes path bytes = .ok fs') :
    ∃ loc, fs.writeTarget path = .ok loc ∧ fs' = fs.overwrite loc bytes := by
  unfold writeBytes at h
  cases htarget : fs.writeTarget path with
  | error cause =>
    rw [htarget] at h
    cases h
  | ok loc =>
    rw [htarget] at h
    cases h
    exact ⟨loc, rfl, rfl⟩

/-! ### What is read after a write -/

/-- A file holds what was last written to its path. -/
theorem readBytes_writeBytes {fs' : FileSystem} (h : fs.writeBytes path bytes = .ok fs') :
    fs'.readBytes path = .ok bytes := by
  obtain ⟨loc, htarget, rfl⟩ := writeBytes_eq_ok h
  -- the path led to the place of the write, and leads there afterwards
  have hplace : (fs.resolve true path).overwritten loc bytes = some (.found loc (.file bytes)) := by
    obtain ⟨old, hres⟩ | hres := writeTarget_eq_ok htarget
    · rw [hres, Arrival.overwritten, if_pos rfl]
    · rw [hres, Arrival.overwritten, if_pos rfl]
  rw [readBytes, find, resolve_overwrite (writable_of_writeTarget htarget) hplace,
    Arrival.refilled, sharesFile_refl]
  rfl

/-- A directory is found where it was before a write. -/
theorem find_overwrite_directory {l : Location} (hloc : fs.Writable loc)
    (h : fs.find path = .ok (l, .directory)) :
    (fs.overwrite loc bytes).find path = .ok (l, .directory) := by
  have hres : fs.resolve true path = .found l .directory := by
    unfold find at h
    split at h
    · next hfound =>
      cases h
      exact hfound
    all_goals cases h
  rw [find, resolve_overwrite (a := .found l .directory) hloc (by rw [hres]; rfl),
    Arrival.refilled]
  exact nofun

theorem readBytes_of_readText {text : String} (h : fs.readText path = .ok text) :
    fs.readBytes path = .ok text.toUTF8 := by
  unfold readText readString at h
  cases hbytes : fs.readBytes path with
  | error cause =>
    rw [hbytes] at h
    cases h
  | ok bytes =>
    rw [hbytes] at h
    dsimp only at h
    split at h
    · next htext =>
      cases h
      rw [Text.eq_toUTF8_of_fromUTF8? htext]
    · cases h

theorem readText_of_readBytes {text : String} (h : fs.readBytes path = .ok text.toUTF8) :
    fs.readText path = .ok text := by
  rw [readText, readString, h]
  dsimp only
  rw [Text.fromUTF8?_toUTF8]
  rfl

/-- Files with the same bytes read the same. -/
theorem readText_congr {fs' : FileSystem} (h : fs.readBytes path = fs'.readBytes path) :
    fs.readText path = fs'.readText path := by
  rw [readText, readText, readString, readString, h]

theorem writeBytes_of_writeText {fs' : FileSystem} {text : String}
    (h : fs.writeText path text = .ok fs') : fs.writeBytes path text.toUTF8 = .ok fs' := by
  unfold writeText at h
  cases hbytes : fs.writeBytes path text.toUTF8 with
  | error cause =>
    rw [hbytes] at h
    cases h
  | ok made =>
    rw [hbytes] at h
    cases h
    rfl

/-- A write that was broken off has changed nothing, or put a part of the text in its place. -/
theorem writePart_cases (text : String) (fault : Fault) :
    fs.writePart path text fault = fs ∨
      ∃ loc bytes, fs.writeTarget path = .ok loc ∧
        fs.writePart path text fault = fs.overwrite loc bytes := by
  unfold writePart
  split
  · exact .inl rfl
  · next n _ =>
    cases hbytes : fs.writeBytes path (text.toUTF8.extract 0 n) with
    | error cause => exact .inl rfl
    | ok made =>
      obtain ⟨loc, htarget, rfl⟩ := writeBytes_eq_ok hbytes
      exact .inr ⟨loc, _, htarget, rfl⟩

end Codemod.FileSystem
