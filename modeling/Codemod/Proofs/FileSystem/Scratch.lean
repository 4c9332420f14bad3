import Codemod.FileSystem.Scratch
import Codemod.Proofs.FileSystem.Overwriting

/-!
# A scratch file from its making to its removal

The path of a new file leads to it, and once it is removed the path leads to nothing, whatever else
has changed meanwhile.

- `Within`, `Within.resolve_found` — a path leads nowhere new when entries are taken away
- `Holds` — the path names a file with these bytes
- `holds_createFile`, `holds_createScratch` — a new file
- `Holds.readBytes_eq` — what is read from it
- `Holds.removeFile_eq` — its removal
-/

namespace Codemod.FileSystem

variable {fs small large : FileSystem} {loc l place : Location} {path : String} {bytes : ByteArray}

/-! ### Fewer entries -/

/-- All that is in the first file system is in the second, which is seen from the same directory. -/
structure Within (small large : FileSystem) : Prop where
  workingDirectory : small.workingDirectory = large.workingDirectory
  get? : ∀ l node, small.get? l = some node → large.get? l = some node

/-- The walk came to an entry. -/
def Arrival.AtEntry : Arrival → Prop
  | .found _ _ | .crossing _ _ _ => True
  | .free _ _ | .failed _ => False

/-- A walk that comes to an entry comes to it among more entries too. -/
theorem Within.walkNames_eq (h : Within small large) {follow : Bool} {names : List String}
    (hat : (small.walkNames follow place names).AtEntry) :
    large.walkNames follow place names = small.walkNames follow place names := by
  fun_induction walkNames small follow place names with
  | case1 => rfl
  | case2 _ _ ih | case3 _ _ ih | case4 _ _ ih =>
    rw [walkNames]
    exact ih hat
  | case5 | case10 | case11 | case12 | case13 => cases hat
  | case6 place name rest h₁ h₂ h₃ l hsize hdir ih =>
    rw [walkNames_name _ _ _ ⟨h₁, h₂, h₃⟩, if_neg hsize, h.get? _ _ hdir]
    exact ih hat
  | case7 place name rest h₁ h₂ h₃ l hsize target hlink hlast =>
    rw [walkNames_name _ _ _ ⟨h₁, h₂, h₃⟩, if_neg hsize, h.get? _ _ hlink]
    exact if_pos hlast
  | case8 place name rest h₁ h₂ h₃ l hsize target hlink hlast =>
    rw [walkNames_name _ _ _ ⟨h₁, h₂, h₃⟩, if_neg hsize, h.get? _ _ hlink]
    exact if_neg hlast
  | case9 place name rest h₁ h₂ h₃ l hsize old hfile hlast =>
    rw [walkNames_name _ _ _ ⟨h₁, h₂, h₃⟩, if_neg hsize, h.get? _ _ hfile]
    exact if_pos hlast

theorem Within.walkThrough_eq (h : Within small large) {follow : Bool} {links : Nat}
    {start : Location} {names : List String}
    (hat : (small.walkThrough follow links start names).AtEntry) :
    large.walkThrough follow links start names = small.walkThrough follow links start names := by
  fun_induction walkThrough small follow links start names with
  | case1 | case2 => cases hat
  | case3 start names directory target rest hwalk links hne start' slash ih =>
    have hlarge : large.walkNames follow start names = small.walkNames follow start names :=
      h.walkNames_eq (by rw [hwalk]; trivial)
    rw [walkThrough, hlarge, hwalk]
    dsimp only
    rw [if_neg hne]
    exact ih hat
  | case4 links start names hstop =>
    exact walkThrough_of_stop (h.walkNames_eq hat) hstop

/-- A path that leads to an entry is walked in the same way in all file systems that are seen from
the same directory. -/
theorem resolve_walk {follow : Bool} (hat : (fs.resolve follow path).AtEntry) :
    ∃ start names, ∀ (fs' : FileSystem) (follow' : Bool),
      fs'.workingDirectory = fs.workingDirectory →
      fs'.resolve follow' path = fs'.walkThrough follow' maxLinks start names := by
  unfold resolve at hat
  split at hat
  · cases hat
  rename_i hnull
  split at hat
  · cases hat
  rename_i hlong
  split at hat
  · cases hat
  rename_i hempty
  refine ⟨if Path.isAbsolute path then [] else fs.workingDirectory,
    Path.names path ++ if Path.endsInSlash path then [""] else [], fun fs' follow' hdirectory => ?_⟩
  rw [resolve, if_neg hnull, if_neg hlong, if_neg hempty, hdirectory]

theorem Within.resolve_found (h : Within small large) {follow : Bool} {node : Node}
    (hfound : small.resolve follow path = .found loc node) :
    large.resolve follow path = .found loc node := by
  obtain ⟨start, names, hwalk⟩ := resolve_walk (by rw [hfound]; trivial)
  rw [hwalk small follow rfl] at hfound
  rw [hwalk large follow h.workingDirectory.symm, h.walkThrough_eq (by rw [hfound]; trivial),
    hfound]

/-! ### A file behind a path -/

/-- The path names a file with these bytes, and no link to one. -/
def Holds (fs : FileSystem) (path : String) (bytes : ByteArray) : Prop :=
  ∃ loc, fs.resolve false path = .found loc (.file bytes)

/-- The walk came to a link that it was not asked to follow. -/
def Arrival.AtLink : Arrival → Prop
  | .found _ (.link _) => True
  | _ => False

/-- Unless there is a link at the end, following links at the end makes no difference. -/
theorem walkNames_follow {names : List String}
    (hat : (fs.walkNames false place names).AtEntry)
    (hlink : ¬(fs.walkNames false place names).AtLink) :
    fs.walkNames true place names = fs.walkNames false place names := by
  fun_induction walkNames fs false place names with
  | case1 => rfl
  | case2 _ _ ih | case3 _ _ ih | case4 _ _ ih =>
    rw [walkNames]
    exact ih hat hlink
  | case5 | case10 | case11 | case12 | case13 => cases hat
  | case6 place name rest h₁ h₂ h₃ l hsize hdir ih =>
    rw [walkNames_name _ _ _ ⟨h₁, h₂, h₃⟩, if_neg hsize, hdir]
    exact ih hat hlink
  | case7 => exact absurd trivial hlink
  | case8 place name rest h₁ h₂ h₃ l hsize target htarget =>
    rw [walkNames_name _ _ _ ⟨h₁, h₂, h₃⟩, if_neg hsize, htarget]
    exact if_neg (by rw [Bool.not_true, Bool.and_false]; exact Bool.false_ne_true)
  | case9 place name rest h₁ h₂ h₃ l hsize old hfile hlast =>
    rw [walkNames_name _ _ _ ⟨h₁, h₂, h₃⟩, if_neg hsize, hfile]
    exact if_pos hlast

theorem walkThrough_follow {links : Nat} {start : Location} {names : List String}
    (hat : (fs.walkThrough false links start names).AtEntry)
    (hlink : ¬(fs.walkThrough false links start names).AtLink) :
    fs.walkThrough true links start names = fs.walkThrough false links start names := by
  fun_induction walkThrough fs false links start names with
  | case1 | case2 => cases hat
  | case3 start names directory target rest hwalk links hne start' slash ih =>
    have hfollow : fs.walkNames true start names = fs.walkNames false start names :=
      walkNames_follow (by rw [hwalk]; trivial) (by rw [hwalk]; exact id)
    rw [walkThrough, hfollow, hwalk]
    dsimp only
    rw [if_neg hne]
    exact ih hat hlink
  | case4 links start names hstop =>
    exact walkThrough_of_stop (walkNames_follow hat hlink) hstop

theorem resolve_follow (h : fs.resolve false path = .found loc (.file bytes)) :
    fs.resolve true path = .found loc (.file bytes) := by
  obtain ⟨start, names, hwalk⟩ := resolve_walk (by rw [h]; trivial)
  rw [hwalk fs false rfl] at h
  rw [hwalk fs true rfl, walkThrough_follow (by rw [h]; trivial) (by rw [h]; exact id), h]

/-- What is read from the file is what it holds. -/
theorem Holds.readBytes_eq (h : fs.Holds path bytes) : fs.readBytes path = .ok bytes := by
  obtain ⟨loc, hfound⟩ := h
  rw [readBytes, find, resolve_follow hfound]

/-! ### Making a file -/

theorem within_amend_set (fs : FileSystem) (loc : Location) (node : Node) (f : Record → Record) :
    Within (fs.set loc node) ((fs.set loc node).amend loc f) :=
  ⟨rfl, fun _ _ h => h⟩

theorem holds_createFile {fs' : FileSystem} (h : fs.createFile path bytes = .ok fs') :
    fs'.Holds path bytes := by
  unfold createFile at h
  split at h
  · cases h
  · next loc asDirectory hfree =>
    split at h
    · cases h
    · next hfile =>
      rw [Bool.not_eq_true] at hfile
      rw [hfile] at hfree
      have hwritable : fs.Writable loc := by
        intro node hnode
        have hholds := resolve_holds fs false path
        rw [hfree, Arrival.Holds, hnode] at hholds
        cases hholds
      have hset : (fs.set loc (.file bytes)).resolve false path = .found loc (.file bytes) :=
        resolve_set hwritable (by rw [hfree, Arrival.overwritten, if_pos rfl])
      cases h
      exact ⟨loc, (within_amend_set ..).resolve_found hset⟩
  · cases h
  · cases h

theorem holds_createScratch {fs' : FileSystem} {directory before after : String}
    (h : fs.createScratch directory before after bytes = .ok (path, fs')) :
    fs'.Holds path bytes := by
  unfold createScratch at h
  dsimp only at h
  split at h
  · next hmade =>
    cases h
    exact holds_createFile hmade
  · cases h

/-! ### Removing it -/

theorem lookup_filter (p : Location → Bool) (l : Location) (es : List (Location × Node)) :
    lookup l (es.filter fun e => p e.1) = if p l then lookup l es else none := by
  induction es with
  | nil => rw [List.filter_nil, lookup, ite_self]
  | cons e rest ih =>
    obtain ⟨k, node⟩ := e
    by_cases hk : k = l <;> grind [lookup]

theorem get?_erase (hl : l ≠ []) :
    (fs.erase loc).get? l = if loc.isPrefixOf l then none else fs.get? l := by
  rw [get?, if_neg hl, get?, if_neg hl, erase, restrict]
  dsimp only
  rw [lookup_filter fun l => !loc.isPrefixOf l]
  cases loc.isPrefixOf l <;> rfl

theorem within_erase (fs : FileSystem) (loc : Location) : Within (fs.erase loc) fs where
  workingDirectory := rfl
  get? l node h := by
    by_cases hl : l = []
    · rw [hl] at h ⊢
      exact h
    · rw [get?_erase hl] at h
      split at h
      · cases h
      · exact h

/-- The removal of a file succeeds, and its path leads to nothing then. -/
theorem Holds.removeFile_eq (h : fs.Holds path bytes) :
    ∃ fs', fs.removeFile path = .ok fs' ∧ fs'.isTaken path = false := by
  obtain ⟨loc, hfound⟩ := h
  refine ⟨fs.erase loc, by rw [removeFile, hfound], ?_⟩
  rw [isTaken]
  split
  · next l node hleft =>
    -- the path led there before, so it is the place of the file, which is empty now
    have hbefore := (within_erase fs loc).resolve_found hleft
    rw [hfound] at hbefore
    cases hbefore
    have hholds := resolve_holds (fs.erase loc) false path
    have hthere := resolve_holds fs false path
    rw [hleft, Arrival.Holds] at hholds
    rw [hfound, Arrival.Holds] at hthere
    have hloc : loc ≠ [] := by
      rintro rfl
      cases hthere
    rw [get?_erase hloc, if_pos (by simp)] at hholds
    cases hholds
  · rfl

end Codemod.FileSystem
