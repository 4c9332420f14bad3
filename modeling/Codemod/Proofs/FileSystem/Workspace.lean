import Codemod.Proofs.FileSystem.Naming
import Codemod.Proofs.FileSystem.Overwriting

/-!
# Files below a directory

A path to a directory, with the text of a relative location after it, leads to what stands at that
location below the directory, unless it is too long to lead anywhere.

- `HasFile` — directories along a relative location and a file at its end
- `HasFile.overwrite`, `HasFile.congr` — the same after a write, and after a change elsewhere
- `walkThrough_below` — a walk to a directory goes on below it
- `HasFile.resolve_join`, `HasFile.writeTarget_join`, `HasFile.readText_join_iff` — where the path
  of such a file leads
- `Coherent` — the names of one file hold the same
- `ChangedOnly` — nothing changes below a directory but the content of some files
-/

namespace Codemod.FileSystem

variable {fs fs' : FileSystem} {place loc root : Location} {rel : List String}
variable {bytes old : ByteArray} {base : String}

/-! ### Directories and a file -/

/-- Below a place there are directories along the names and a file at the end. -/
inductive HasFile (fs : FileSystem) : (place : Location) → (rel : List String) → ByteArray → Prop
  | last {place : Location} {name : String} {bytes : ByteArray} :
    IsName name → fs.get? (place ++ [name]) = some (.file bytes) → HasFile fs place [name] bytes
  | through {place : Location} {name : String} {rest : List String} {bytes : ByteArray} :
    IsName name → fs.get? (place ++ [name]) = some .directory →
    HasFile fs (place ++ [name]) rest bytes → HasFile fs place (name :: rest) bytes

namespace HasFile

theorem ne_nil (h : fs.HasFile place rel bytes) : rel ≠ [] := by
  cases h <;> exact List.cons_ne_nil _ _

theorem names (h : fs.HasFile place rel bytes) : ∀ name ∈ rel, IsName name := by
  induction h with
  | last hname =>
    intro name hmem
    rw [List.mem_singleton] at hmem
    rw [hmem]
    exact hname
  | through hname _ _ ih =>
    intro name hmem
    rw [List.mem_cons] at hmem
    obtain rfl | hmem := hmem
    · exact hname
    · exact ih name hmem

theorem get? (h : fs.HasFile place rel bytes) : fs.get? (place ++ rel) = some (.file bytes) := by
  induction h with
  | last _ hfile => exact hfile
  | through _ _ _ ih => rwa [List.append_assoc] at ih

/-- A write leaves the file as it is, or replaces what it holds if it goes to a name of it. -/
theorem overwrite (bytes : ByteArray) (hloc : fs.Writable loc) (h : fs.HasFile place rel old) :
    (fs.overwrite loc bytes).HasFile place rel
      (if fs.sharesFile loc (place ++ rel) then bytes else old) := by
  induction h with
  | last hname hfile => exact .last hname (get?_overwrite_file hloc hfile)
  | through hname hdir _ ih =>
    refine .through hname (get?_overwrite_node hloc hdir rfl) ?_
    rwa [List.append_assoc] at ih

/-- A write can go where the file is. -/
theorem writable (h : fs.HasFile place rel bytes) : fs.Writable (place ++ rel) := by
  intro node hnode
  rw [h.get?] at hnode
  cases hnode
  rfl

/-- What is not below the place does not matter. -/
theorem congr (hsame : ∀ l, place <+: l → fs'.get? l = fs.get? l)
    (h : fs.HasFile place rel bytes) : fs'.HasFile place rel bytes := by
  induction h with
  | last hname hfile => exact .last hname (by rw [hsame _ (List.prefix_append _ _), hfile])
  | through hname hdir _ ih =>
    refine .through hname (by rw [hsame _ (List.prefix_append _ _), hdir]) (ih fun l hl => ?_)
    exact hsame l ((List.prefix_append _ _).trans hl)

/-- A walk along the names ends at the file. -/
theorem walkNames (h : fs.HasFile place rel bytes) :
    fs.walkNames true place rel = .found (place ++ rel) (.file bytes) := by
  induction h with
  | last hname hfile =>
    rw [walkNames_name _ _ _ hname.proper, if_neg (Nat.not_lt.mpr hname.short),
      hfile]
    rfl
  | through hname hdir _ ih =>
    rw [walkNames_name _ _ _ hname.proper, if_neg (Nat.not_lt.mpr hname.short),
      hdir]
    dsimp only
    rw [ih, List.append_assoc]
    rfl

end HasFile

/-! ### Walks that go on -/

/-- The walk cannot go on from here, neither in a directory nor through a link. -/
def Arrival.Stops : Arrival → Prop
  | .found _ .directory | .crossing _ _ _ => False
  | _ => True

/-- A name leads to another place, crosses a link, or is the end of the walk, whatever follows. -/
theorem walkNames_step (fs : FileSystem) (place : Location) (name : String) :
    (∃ next, ∀ rest, fs.walkNames true place (name :: rest) = fs.walkNames true next rest) ∨
      (∃ target, ∀ rest, fs.walkNames true place (name :: rest) = .crossing place target rest) ∨
      ∀ rest, (fs.walkNames true place (name :: rest)).Stops := by
  by_cases hname : name ≠ "" ∧ name ≠ "." ∧ name ≠ ".."
  · by_cases hsize : maxNameBytes < name.utf8ByteSize
    · refine .inr (.inr fun rest => ?_)
      rw [walkNames_name fs true place hname, if_pos hsize]
      trivial
    · have hstep := walkNames_name fs true place hname
      simp only [if_neg hsize] at hstep
      cases hnode : fs.get? (place ++ [name]) with
      | none =>
        refine .inr (.inr fun rest => ?_)
        rw [hstep, hnode]
        dsimp only
        split <;> trivial
      | some node =>
        cases node with
        | directory => exact .inl ⟨place ++ [name], fun rest => by rw [hstep, hnode]⟩
        | link target =>
          refine .inr (.inl ⟨target, fun rest => ?_⟩)
          rw [hstep, hnode]
          dsimp only
          rw [if_neg (by simp)]
        | file bytes =>
          refine .inr (.inr fun rest => ?_)
          rw [hstep, hnode]
          dsimp only
          split <;> trivial
  · have hcases : name = "" ∨ name = "." ∨ name = ".." := by
      simpa only [ne_eq, Decidable.not_and_iff_not_or_not, Decidable.not_not] using hname
    obtain rfl | rfl | rfl := hcases
    · exact .inl ⟨place, fun rest => by rw [walkNames]⟩
    · exact .inl ⟨place, fun rest => by rw [walkNames]⟩
    · exact .inl ⟨place.dropLast, fun rest => by rw [walkNames]⟩

variable {slash more names : List String}

/-- A walk that ends at a directory goes on below it. -/
theorem walkNames_below (hslash : slash = [] ∨ slash = [""])
    (hroot : fs.walkNames true place (names ++ slash) = .found root .directory) :
    fs.walkNames true place (names ++ more) = fs.walkNames true root more := by
  -- step by step, since a walk that comes to a directory has gone on from every name
  induction names generalizing place with
  | nil => obtain rfl | rfl := hslash <;> cases hroot <;> rfl
  | cons name rest ih =>
    obtain ⟨next, hnext⟩ | ⟨target, hlink⟩ | hstops := walkNames_step fs place name
    · rw [List.cons_append, hnext] at hroot ⊢
      exact ih hroot
    · rw [List.cons_append, hlink] at hroot
      cases hroot
    · have := hstops (rest ++ slash)
      rw [← List.cons_append, hroot] at this
      cases this

/-- A walk that ends at a link ends at the same link with other names to go. -/
theorem walkNames_crossing (more : List String) {directory : Location} {target : String}
    {left : List String} (hslash : slash = [] ∨ slash = [""])
    (hlink : fs.walkNames true place (names ++ slash) = .crossing directory target left) :
    ∃ middle, left = middle ++ slash ∧
      fs.walkNames true place (names ++ more) = .crossing directory target (middle ++ more) := by
  induction names generalizing place with
  | nil => obtain rfl | rfl := hslash <;> cases hlink
  | cons name rest ih =>
    obtain ⟨next, hnext⟩ | ⟨link, hcross⟩ | hstops := walkNames_step fs place name
    · rw [List.cons_append, hnext] at hlink ⊢
      exact ih hlink
    · rw [List.cons_append, hcross] at hlink ⊢
      cases hlink
      exact ⟨rest, rfl, rfl⟩
    · have := hstops (rest ++ slash)
      rw [← List.cons_append, hlink] at this
      cases this

/-- A walk that meets no link on its way to a directory goes on below it. -/
theorem walkThrough_below_of_stop {links : Nat} {loc : Location} {node : Node} {a : Arrival}
    (hslash : slash = [] ∨ slash = [""])
    (hwalk : fs.walkNames true place (names ++ slash) = a)
    (hstop : ∀ directory target rest, a ≠ .crossing directory target rest)
    (hroot : fs.walkThrough true links place (names ++ slash) = .found root .directory)
    (hmore : fs.walkNames true root more = .found loc node) :
    fs.walkThrough true links place (names ++ more) = .found loc node := by
  rw [walkThrough_of_stop hwalk hstop] at hroot
  rw [hroot] at hwalk
  refine walkThrough_of_stop ((walkNames_below hslash hwalk).trans hmore) ?_
  intro directory target rest h
  cases h

/-- The same through links. -/
theorem walkThrough_below {links : Nat} {loc : Location} {node : Node}
    (hslash : slash = [] ∨ slash = [""])
    (hroot : fs.walkThrough true links place (names ++ slash) = .found root .directory)
    (hmore : fs.walkNames true root more = .found loc node) :
    fs.walkThrough true links place (names ++ more) = .found loc node := by
  -- on the links that are left: behind a link the names after it start a walk of their own
  induction links generalizing place names with
  | zero =>
    cases hwalk : fs.walkNames true place (names ++ slash) with
    | crossing directory target left =>
      rw [walkThrough, hwalk] at hroot
      cases hroot
    | _ => exact walkThrough_below_of_stop hslash hwalk (fun _ _ _ h => by cases h) hroot hmore
  | succ links ih =>
    cases hwalk : fs.walkNames true place (names ++ slash) with
    | crossing directory target left =>
      obtain ⟨middle, rfl, hcross⟩ := walkNames_crossing more hslash hwalk
      rw [walkThrough, hwalk] at hroot
      rw [walkThrough, hcross]
      dsimp only at hroot ⊢
      split at hroot
      · cases hroot
      · next hne =>
        rw [if_neg hne, ← List.append_assoc]
        rw [← List.append_assoc] at hroot
        exact ih hroot
    | _ => exact walkThrough_below_of_stop hslash hwalk (fun _ _ _ h => by cases h) hroot hmore

/-- A path that leads to something is a path: not empty, without null, and not too long. -/
theorem resolve_of_find {base : String} {loc : Location} {node : Node}
    (h : fs.find base = .ok (loc, node)) :
    '\x00' ∉ base.toList ∧ base ≠ "" ∧
      fs.walkThrough true maxLinks (if Path.isAbsolute base then [] else fs.workingDirectory)
        (Path.names base ++ if Path.endsInSlash base then [""] else []) = .found loc node := by
  have hres : fs.resolve true base = .found loc node := by
    unfold find at h
    split at h <;> cases h
    assumption
  unfold resolve at hres
  split at hres
  · cases hres
  next hnull =>
  split at hres
  · cases hres
  split at hres
  · cases hres
  next hempty =>
  refine ⟨by simpa using hnull, by simpa using hempty, hres⟩

/-! ### The path of a file below a directory -/

/-- The path of a relative location below a base is too long to lead anywhere. -/
def tooLong (base : String) (rel : Location) : Prop :=
  maxPathBytes ≤ (Path.join base (Location.text rel)).utf8ByteSize

instance (base : String) (rel : Location) : Decidable (tooLong base rel) :=
  inferInstanceAs (Decidable (_ ≤ _))

namespace HasFile

theorem resolve_join (hbase : fs.find base = .ok (root, .directory))
    (h : fs.HasFile root rel bytes) :
    fs.resolve true (Path.join base (Location.text rel)) =
      if tooLong base rel then .failed .nameTooLong else .found (root ++ rel) (.file bytes) := by
  obtain ⟨hnull, hempty, hroot⟩ := resolve_of_find hbase
  have hrel := Location.not_isAbsolute_text h.names h.ne_nil
  have hne := Location.text_ne_empty h.names h.ne_nil
  have hslash := Location.not_endsInSlash_text h.names h.ne_nil
  have hjoined := Path.join_ne_empty base hrel hne
  have hjoined_null := Path.no_null_join hrel hnull (Location.no_null_text h.names)
  -- only the length can be wrong with the joined path; its names are those of the base and `rel`
  unfold resolve
  rw [if_neg (by simpa using hjoined_null)]
  by_cases hlong : tooLong base rel
  · rw [if_pos hlong, if_pos (show maxPathBytes ≤ _ from hlong)]
  · rw [if_neg hlong, if_neg (show ¬maxPathBytes ≤ _ from hlong), if_neg (by simpa using hjoined)]
    dsimp only
    rw [Path.isAbsolute_join hrel hempty, Path.endsInSlash_join hrel hne, hslash,
      Path.names_join hrel, Location.names_text h.names, if_neg Bool.false_ne_true, List.append_nil]
    refine walkThrough_below ?_ hroot h.walkNames
    split
    · exact .inr rfl
    · exact .inl rfl

/-- The path of a file can be written to at its own location only. -/
theorem writeTarget_join (hbase : fs.find base = .ok (root, .directory))
    (h : fs.HasFile root rel bytes)
    (htarget : fs.writeTarget (Path.join base (Location.text rel)) = .ok loc) :
    loc = root ++ rel := by
  have hres := h.resolve_join hbase
  obtain ⟨old, hfound⟩ | hfree := writeTarget_eq_ok htarget
  · rw [hfound] at hres
    split at hres <;> cases hres
    rfl
  · rw [hfree] at hres
    split at hres <;> cases hres

theorem readBytes_join (hbase : fs.find base = .ok (root, .directory))
    (h : fs.HasFile root rel bytes) :
    fs.readBytes (Path.join base (Location.text rel)) =
      if tooLong base rel then .error .nameTooLong else .ok bytes := by
  have hres := h.resolve_join hbase
  by_cases hlong : tooLong base rel
  · rw [if_pos hlong] at hres ⊢
    rw [readBytes, find, hres]
  · rw [if_neg hlong] at hres ⊢
    rw [readBytes, find, hres]

/-- A text is read from the path of a file when the path is not too long and the file holds it. -/
theorem readText_join_iff (hbase : fs.find base = .ok (root, .directory))
    (h : fs.HasFile root rel bytes) {text : String} :
    fs.readText (Path.join base (Location.text rel)) = .ok text ↔
      ¬tooLong base rel ∧ bytes = text.toUTF8 := by
  have hbytes := h.readBytes_join hbase
  constructor
  · intro hread
    rw [readBytes_of_readText hread] at hbytes
    split at hbytes
    · cases hbytes
    · next hshort =>
      injection hbytes with hbytes
      exact ⟨hshort, hbytes.symm⟩
  · rintro ⟨hshort, rfl⟩
    rw [if_neg hshort] at hbytes
    exact readText_of_readBytes hbytes

end HasFile

/-- Below a directory, the names of one file hold the same. -/
def Coherent (fs : FileSystem) (root : Location) : Prop :=
  ∀ a b x y, fs.sharesFile (root ++ a) (root ++ b) = true →
    fs.get? (root ++ a) = some (.file x) → fs.get? (root ++ b) = some (.file y) → x = y

theorem Coherent.below (h : fs.Coherent []) (root : Location) : fs.Coherent root :=
  fun a b => h (root ++ a) (root ++ b)

theorem mem_of_lookup {node : Node} {entries : List (Location × Node)}
    (h : lookup loc entries = some node) : (loc, node) ∈ entries := by
  induction entries with
  | nil => cases h
  | cons entry rest ih =>
    obtain ⟨l, n⟩ := entry
    unfold lookup at h
    split at h
    · next heq =>
      cases h
      rw [heq]
      exact List.mem_cons_self
    · exact List.mem_cons_of_mem _ (ih h)

/-- Every name gets what is written, so the names of one file hold the same afterwards. -/
theorem Coherent.overwrite (bytes : ByteArray) (hloc : fs.Writable loc)
    (h : fs.Coherent root) : (fs.overwrite loc bytes).Coherent root := by
  intro a b x y hshares ha hb
  rw [sharesFile_overwrite] at hshares
  -- both locations are names of the file that was written, or neither is
  have hboth : fs.sharesFile loc (root ++ a) = fs.sharesFile loc (root ++ b) := by
    rw [Bool.eq_iff_iff]
    refine ⟨fun h => sharesFile_trans h hshares, fun h => sharesFile_trans h ?_⟩
    rwa [sharesFile_comm]
  cases hloc' : fs.sharesFile loc (root ++ a) with
  | false =>
    rw [get?_overwrite_apart hloc hloc'] at ha
    rw [get?_overwrite_apart hloc (hboth ▸ hloc')] at hb
    exact h a b x y hshares ha hb
  | true =>
    rw [get?_overwrite_shared hloc hloc' ha, get?_overwrite_shared hloc (hboth ▸ hloc') hb]

/-- The path still leads to the directory, and below it nothing changes but the content of files at
some relative locations. The same locations are names of one file, and if these held the same, they
still do. -/
structure ChangedOnly (base : String) (root : Location) (P : Location → Prop)
    (fs fs' : FileSystem) : Prop where
  found : fs'.find base = .ok (root, .directory)
  entry : ∀ rel, fs'.get? (root ++ rel) = fs.get? (root ++ rel) ∨
    P rel ∧ ∃ old new, fs.get? (root ++ rel) = some (.file old) ∧
      fs'.get? (root ++ rel) = some (.file new)
  names : ∀ a b, fs'.sharesFile (root ++ a) (root ++ b) = fs.sharesFile (root ++ a) (root ++ b)
  coherent : fs.Coherent root → fs'.Coherent root

namespace ChangedOnly

variable {P Q : Location → Prop} {fs₁ : FileSystem}

/-- Only the locations that are excepted may differ. -/
theorem same (h : ChangedOnly base root P fs fs') (hrel : ¬P rel) :
    fs'.get? (root ++ rel) = fs.get? (root ++ rel) :=
  (h.entry rel).resolve_right fun hchanged => hrel hchanged.1

/-- Files stay files. -/
theorem files (h : ChangedOnly base root P fs fs') (hfile : fs.HasFile root rel bytes) :
    ∃ bytes', fs'.HasFile root rel bytes' ∧ (¬P rel → bytes' = bytes) := by
  -- down the directories, which are as they were, to the file itself
  have hbelow : ∀ {place rel}, fs.HasFile place rel bytes → ∀ dirs, place = root ++ dirs →
      ∃ bytes', fs'.HasFile place rel bytes' ∧ (¬P (dirs ++ rel) → bytes' = bytes) := by
    intro place rel hbelow
    clear hfile
    induction hbelow with
    | @last place name bytes hname hget =>
      rintro dirs rfl
      rw [List.append_assoc] at hget
      obtain hsame | ⟨hP, old, new, -, hnew⟩ := h.entry (dirs ++ [name])
      · refine ⟨bytes, .last hname ?_, fun _ => rfl⟩
        rw [List.append_assoc, hsame, hget]
      · exact ⟨new, .last hname (by rw [List.append_assoc, hnew]), fun hnot => absurd hP hnot⟩
    | @through place name rest bytes hname hdir _ ih =>
      rintro dirs rfl
      obtain ⟨bytes', hrest, heq⟩ := ih (dirs ++ [name]) (by rw [List.append_assoc])
      rw [List.append_assoc] at hdir
      refine ⟨bytes', .through hname ?_ hrest, by simpa using heq⟩
      obtain hsame | ⟨-, old, new, hold, -⟩ := h.entry (dirs ++ [name])
      · rw [List.append_assoc, hsame, hdir]
      · rw [hdir] at hold
        cases hold
  exact hbelow hfile [] (List.append_nil root).symm

/-- Nothing changes where only the rest of the file system does. -/
theorem of_same (hfound : fs'.find base = .ok (root, .directory))
    (hsame : ∀ rel, fs'.get? (root ++ rel) = fs.get? (root ++ rel))
    (hnames : ∀ a b,
      fs'.sharesFile (root ++ a) (root ++ b) = fs.sharesFile (root ++ a) (root ++ b)) :
    ChangedOnly base root P fs fs' where
  found := hfound
  entry rel := .inl (hsame rel)
  names := hnames
  coherent h a b x y hshares ha hb := by
    rw [hsame] at ha hb
    exact h a b x y (hnames a b ▸ hshares) ha hb

theorem refl (hfound : fs.find base = .ok (root, .directory)) : ChangedOnly base root P fs fs :=
  of_same hfound (fun _ => rfl) fun _ _ => rfl

theorem trans (h₁ : ChangedOnly base root P fs fs₁) (h₂ : ChangedOnly base root P fs₁ fs') :
    ChangedOnly base root P fs fs' where
  found := h₂.found
  entry rel := by
    obtain hsame₁ | ⟨hP, old, new, hold, hnew⟩ := h₁.entry rel
    · rw [← hsame₁]
      exact h₂.entry rel
    · obtain hsame₂ | ⟨-, -, new', -, hnew'⟩ := h₂.entry rel
      · exact .inr ⟨hP, old, new, hold, hsame₂.trans hnew⟩
      · exact .inr ⟨hP, old, new', hold, hnew'⟩
  names a b := (h₂.names a b).trans (h₁.names a b)
  coherent h := h₂.coherent (h₁.coherent h)

theorem mono (hPQ : ∀ rel, P rel → Q rel) (h : ChangedOnly base root P fs fs') :
    ChangedOnly base root Q fs fs' where
  found := h.found
  entry rel := (h.entry rel).imp_right fun hchanged => ⟨hPQ rel hchanged.1, hchanged.2⟩
  names := h.names
  coherent := h.coherent

/-- A write where a file of the directory is changes this file only, under all of its names. -/
theorem overwrite (bytes : ByteArray) (hfound : fs.find base = .ok (root, .directory))
    (hfile : fs.HasFile root rel old) :
    ChangedOnly base root (fun other => fs.sharesFile (root ++ rel) (root ++ other) = true) fs
      (fs.overwrite (root ++ rel) bytes) where
  found := find_overwrite_directory hfile.writable hfound
  entry other := by
    cases hshares : fs.sharesFile (root ++ rel) (root ++ other) with
    | false => exact .inl (get?_overwrite_apart hfile.writable hshares)
    | true =>
      cases hnode : fs.get? (root ++ other) with
      | none =>
        left
        rw [get?_overwrite hfile.writable, if_neg, hnode]
        · rfl
        · intro heq
          rw [heq, hfile.get?] at hnode
          cases hnode
      | some node =>
        cases node with
        | file held => exact .inr ⟨rfl, held, _, rfl, get?_overwrite_file hfile.writable hnode⟩
        | directory | link => exact .inl (get?_overwrite_node hfile.writable hnode rfl)
  names _ _ := rfl
  coherent h := h.overwrite bytes hfile.writable

/-- A file that changes under its names and then holds what it held has not changed. -/
theorem undo (h : ChangedOnly base root
      (fun other => fs.sharesFile (root ++ rel) (root ++ other) = true) fs fs')
    (hcoherent : fs.Coherent root) (hbefore : fs.HasFile root rel old)
    (hafter : fs'.HasFile root rel old) : ChangedOnly base root P fs fs' where
  found := h.found
  entry other := by
    obtain hsame | ⟨hshares, held, new, hheld, hnew⟩ := h.entry other
    · exact .inl hsame
    -- another name of the file held the same before, and holds the same now
    · left
      have hshares' : fs'.sharesFile (root ++ rel) (root ++ other) = true :=
        (h.names rel other).trans hshares
      rw [hheld, hnew, ← hcoherent rel other old held hshares hbefore.get? hheld,
        ← h.coherent hcoherent rel other old new hshares' hafter.get? hnew]
  names := h.names
  coherent := h.coherent

end ChangedOnly

end Codemod.FileSystem
