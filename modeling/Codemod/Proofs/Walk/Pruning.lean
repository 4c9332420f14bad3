import Codemod.Proofs.Walk
import Mathlib.Data.List.Perm.Subperm

/-!
# What pruning loses

A walk leaves out what its globs match, and it does not enter a directory when they match the
directory or an entry of it that need not exist, its probe. In a tree without hidden entries and
ignore rules the walk yields the files that are reached in this way. It yields all files that are
not matched, themselves or through a directory above them, exactly when none of them lies below a
directory whose probe is matched; a glob on names of one kind can match the probe and nothing that
is there. The user has no rules for all repositories.

- `Ignore.Level.Silent`, `FileSystem.Bare` — trees that nothing but the globs is left out of
- `Location.Above` — the directories on the way to a file
- `FileSystem.HasFile.length_le` — no file lies deeper than there are entries
- `Walker.descend_reaches`, `Walker.mem_descend` — a walk yields what it reaches
- `Walker.mem_files_iff_reaches` — the files of a bare tree
- `Walker.files_lose_below_probes` — the same, beside the files that are not matched
-/

namespace Codemod

variable {fs : FileSystem} {w : Walker} {root directory relative path loc place : Location}
variable {name base : String} {node : Node} {rest : List String} {bytes : ByteArray}
variable {excludes : Ignore.Excludes} {env : SystemEnvironment}

/-! ### Trees without rules and hidden entries -/

namespace Ignore

variable {levels : List Level} {level : Level}

/-- There are no rules for the directory. -/
structure Level.Silent (level : Level) : Prop where
  general : level.general = []
  shared : level.shared = []
  personal : level.personal = []

instance (level : Level) : Decidable level.Silent :=
  decidable_of_iff (level.general = [] ∧ level.shared = [] ∧ level.personal = [])
    ⟨fun h => ⟨h.1, h.2.1, h.2.2⟩, fun h => ⟨h.general, h.shared, h.personal⟩⟩

theorem findSome?_ask_eq_none {rules : Level → List Rule} (h : ∀ level ∈ levels, rules level = [])
    (entry : Location) (directory : Bool) :
    levels.findSome? (fun level => level.ask (rules level) entry directory) = none := by
  rw [List.findSome?_eq_none_iff]
  intro level hlevel
  rw [h level hlevel]
  rfl

theorem mem_of_mem_repositoryLevels (h : level ∈ repositoryLevels levels) : level ∈ levels := by
  induction levels with
  | nil => cases h
  | cons first others ih =>
    rw [repositoryLevels] at h
    split at h
    · rw [List.mem_singleton] at h
      rw [h]
      exact List.mem_cons_self
    · split at h
      · cases h
      · next inside _ =>
        obtain rfl | hothers := List.mem_cons.mp h
        · exact List.mem_cons_self
        · exact List.mem_cons_of_mem first (ih hothers)

/-- Directories without rules say nothing of an entry. -/
theorem verdict?_of_silent (h : ∀ level ∈ levels, level.Silent) (entry : Location)
    (directory : Bool) : verdict? levels entry directory = none := by
  have hinside : ∀ level ∈ repositoryLevels levels, level.Silent := fun level hlevel =>
    h level (mem_of_mem_repositoryLevels hlevel)
  unfold verdict?
  dsimp only
  rw [findSome?_ask_eq_none fun level hlevel => (h level hlevel).general,
    findSome?_ask_eq_none fun level hlevel => (hinside level hlevel).shared,
    findSome?_ask_eq_none fun level hlevel => (hinside level hlevel).personal]
  rfl

/-- Without rules for all repositories nothing is said of an entry either. -/
theorem Excludes.verdict?_of_rules_eq_nil (h : excludes.rules = []) (levels : List Level)
    (relative : Location) (directory : Bool) :
    excludes.verdict? levels relative directory = none := by
  unfold verdict?
  dsimp only
  split
  · rw [h]
    rfl
  · rfl

end Ignore

namespace FileSystem

/-- Below a place there are no hidden entries, and no rules in the directories. -/
structure Bare (fs : FileSystem) (place : Location) : Prop where
  shown : ∀ rel node, fs.get? (place ++ rel) = some node →
    ∀ name ∈ rel, Walker.isHiddenName name = false
  silent : ∀ rel, fs.get? (place ++ rel) = some .directory →
    (Ignore.Level.read fs (place ++ rel)).Silent

theorem Bare.enter (h : fs.Bare place) (name : String) : fs.Bare (place ++ [name]) where
  shown rel node hnode other hother := by
    rw [List.append_assoc] at hnode
    exact h.shown _ node hnode other (List.mem_append_right [name] hother)
  silent rel hdirectory := by
    rw [List.append_assoc] at hdirectory ⊢
    exact h.silent _ hdirectory

theorem bare_of_entries (hplace : place ≠ [])
    (hshown : ∀ entry ∈ fs.entries, ∀ name ∈ entry.1, Walker.isHiddenName name = false)
    (hsilent : ∀ entry ∈ fs.entries, entry.2 = .directory →
      (Ignore.Level.read fs entry.1).Silent) : fs.Bare place := by
  have hentry : ∀ rel node, fs.get? (place ++ rel) = some node →
      (place ++ rel, node) ∈ fs.entries := by
    intro rel node hnode
    rw [get?, if_neg (List.append_ne_nil_of_left_ne_nil hplace rel)] at hnode
    exact mem_of_lookup hnode
  constructor
  · intro rel node hnode name hname
    exact hshown _ (hentry rel node hnode) name (List.mem_append_right place hname)
  · intro rel hnode
    exact hsilent _ (hentry rel .directory hnode) rfl

theorem mem_children_iff :
    (name, node) ∈ fs.children directory ↔ fs.get? (directory ++ [name]) = some node := by
  refine ⟨get?_of_mem_children, fun h => ?_⟩
  rw [get?, if_neg (by simp)] at h
  unfold children
  rw [List.mem_filterMap]
  refine ⟨(directory ++ [name], node), mem_of_lookup h, ?_⟩
  simp

/-! ### The depth of a file -/

/-- Everything on the way to a file is an entry. -/
theorem HasFile.get?_take (h : fs.HasFile place path bytes) {n : Nat} (hn : n < path.length) :
    ∃ node, fs.get? (place ++ path.take (n + 1)) = some node := by
  induction h generalizing n with
  | @last place name bytes _ hfile =>
    rw [List.take_of_length_le (Nat.succ_le_succ (Nat.zero_le n))]
    exact ⟨_, hfile⟩
  | @through place name rest bytes _ hdirectory _ ih =>
    cases n with
    | zero => exact ⟨_, hdirectory⟩
    | succ n =>
      obtain ⟨node, hnode⟩ := ih (Nat.lt_of_succ_lt_succ hn)
      rw [List.append_assoc] at hnode
      exact ⟨node, hnode⟩

/-- No file lies deeper than there are entries. -/
theorem HasFile.length_le (h : fs.HasFile place path bytes) : path.length ≤ fs.entries.length := by
  -- the entries on the way to the file differ in their lengths
  have hdistinct : ((List.range path.length).map fun n => place ++ path.take (n + 1)).Nodup := by
    rw [List.Nodup, List.pairwise_map]
    refine List.nodup_range.imp_of_mem fun {n m} hn hm hne heq => hne ?_
    rw [List.mem_range] at hn hm
    have hlengths := congrArg List.length (List.append_cancel_left heq)
    rw [List.length_take, List.length_take] at hlengths
    omega
  have hentries : ((List.range path.length).map fun n => place ++ path.take (n + 1)) ⊆
      fs.entries.map Prod.fst := by
    intro l hl
    obtain ⟨n, hn, rfl⟩ := List.mem_map.mp hl
    obtain ⟨node, hnode⟩ := h.get?_take (List.mem_range.mp hn)
    have hne : place ++ path.take (n + 1) ≠ [] := by
      have hlong := List.mem_range.mp hn
      intro hnil
      have hlength := congrArg List.length hnil
      rw [List.length_append, List.length_take, List.length_nil] at hlength
      omega
    rw [FileSystem.get?, if_neg hne] at hnode
    exact List.mem_map.mpr ⟨_, mem_of_lookup hnode, rfl⟩
  have hcount := (List.subperm_of_subset hdistinct hentries).length_le
  rwa [List.length_map, List.length_map, List.length_range] at hcount

end FileSystem

/-! ### On the way to a file -/

/-- The directory lies on the way to the location. -/
def Location.Above (directory loc : Location) : Prop :=
  directory ≠ [] ∧ ∃ name rest, loc = directory ++ name :: rest

theorem Location.above_cons_iff :
    Location.Above directory (name :: rest) ↔
      directory = [name] ∧ rest ≠ [] ∨ ∃ inner, directory = name :: inner ∧ Above inner rest := by
  constructor
  · rintro ⟨hne, next, more, heq⟩
    cases directory with
    | nil => exact absurd rfl hne
    | cons first inner =>
      obtain ⟨rfl, hrest⟩ := List.cons.inj heq
      cases inner with
      | nil => exact .inl ⟨rfl, by rw [hrest]; exact List.cons_ne_nil next more⟩
      | cons second inner => exact .inr ⟨_, rfl, List.cons_ne_nil second inner, next, more, hrest⟩
  · rintro (⟨rfl, hrest⟩ | ⟨inner, rfl, -, next, more, rfl⟩)
    · obtain ⟨next, more, rfl⟩ := List.exists_cons_of_ne_nil hrest
      exact ⟨List.cons_ne_nil name [], next, more, rfl⟩
    · exact ⟨List.cons_ne_nil name inner, next, more, rfl⟩

theorem Location.not_above_singleton : ¬Location.Above directory [name] := by
  rw [Location.above_cons_iff]
  rintro (⟨-, hne⟩ | ⟨inner, -, -, next, more, hnil⟩)
  · exact hne rfl
  · exact absurd hnil.symm (by simp)

namespace Walker

/-- The walk gets from a directory to a location below it: the location is not left out, and no
directory on the way is pruned. -/
structure Reaches (w : Walker) (relative path : Location) : Prop where
  kept : w.omits (Location.text (relative ++ path)) = false
  entered : ∀ directory, directory.Above path →
    w.prunes (Location.text (relative ++ directory)) = false

theorem reaches_cons_iff (hrest : rest ≠ []) :
    w.Reaches relative (name :: rest) ↔
      w.prunes (Location.text (relative ++ [name])) = false ∧
        w.Reaches (relative ++ [name]) rest := by
  constructor
  · intro h
    refine ⟨h.entered [name] (Location.above_cons_iff.mpr (.inl ⟨rfl, hrest⟩)), ?_, ?_⟩
    · have hkept := h.kept
      rwa [List.append_cons] at hkept
    · intro inner hinner
      have hentered := h.entered (name :: inner)
        (Location.above_cons_iff.mpr (.inr ⟨_, rfl, hinner⟩))
      rwa [List.append_cons] at hentered
  · rintro ⟨hfirst, h⟩
    refine ⟨?_, fun directory habove => ?_⟩
    · rw [List.append_cons]
      exact h.kept
    · obtain ⟨rfl, -⟩ | ⟨inner, rfl, hinner⟩ := Location.above_cons_iff.mp habove
      · exact hfirst
      · rw [List.append_cons]
        exact h.entered inner hinner

theorem reaches_singleton_iff :
    w.Reaches relative [name] ↔ w.omits (Location.text (relative ++ [name])) = false :=
  ⟨Reaches.kept, fun h => ⟨h, fun _ habove => absurd habove Location.not_above_singleton⟩⟩

/-! ### The walk -/

/-- A walk yields only what it reaches. -/
theorem descend_reaches (hnamed : fs.Named) {fuel : Nat} {levels : List Ignore.Level}
    (h : path ∈ w.descend fs excludes fuel levels directory relative) :
    ∃ rel bytes, path = relative ++ rel ∧ fs.HasFile directory rel bytes ∧
      w.Reaches relative rel := by
  -- one level of directories for each unit of fuel
  induction fuel generalizing levels directory relative path with
  | zero => cases h
  | succ fuel ih =>
    rw [descend_succ] at h
    obtain ⟨⟨name, node⟩, hmem, hpath⟩ := List.mem_flatMap.mp h
    have hnode := FileSystem.get?_of_mem_children hmem
    have hname : IsName name := hnamed _ _ hnode name (by simp)
    cases node with
    | link => cases hpath
    | file bytes =>
      rw [visit] at hpath
      split at hpath
      · cases hpath
      · next hpasses =>
        rw [List.mem_singleton] at hpath
        rw [Bool.or_eq_true, not_or, Bool.not_eq_true, Bool.not_eq_true] at hpasses
        exact ⟨[name], bytes, hpath, .last hname hnode, reaches_singleton_iff.mpr hpasses.2⟩
    | directory =>
      rw [visit] at hpath
      split at hpath
      · cases hpath
      · next hpasses =>
        rw [Bool.or_eq_true, not_or, Bool.not_eq_true, Bool.not_eq_true] at hpasses
        obtain ⟨rel, bytes, rfl, hfile, hreaches⟩ := ih hpath
        refine ⟨name :: rel, bytes, by simp, .through hname hnode hfile, ?_⟩
        exact (reaches_cons_iff hfile.ne_nil).mpr ⟨hpasses.2, hreaches⟩

/-- Nothing hides an entry when there are no rules and the name does not. -/
theorem hides_of_silent (hrules : excludes.rules = []) {levels : List Ignore.Level}
    (hsilent : ∀ level ∈ levels, level.Silent) (hname : isHiddenName name = false)
    (entry relative : Location) (isDirectory : Bool) :
    w.hides excludes levels entry relative name isDirectory = false := by
  unfold hides
  rw [Ignore.verdict?_of_silent hsilent, Ignore.Excludes.verdict?_of_rules_eq_nil hrules, hname]
  exact Bool.and_false _

/-- A walk of a bare tree yields the files that it reaches, if it goes deep enough. -/
theorem mem_descend (hrules : excludes.rules = []) (hfile : fs.HasFile directory path bytes)
    (hbare : fs.Bare directory) {fuel : Nat} (hfuel : path.length ≤ fuel)
    {levels : List Ignore.Level} (hsilent : ∀ level ∈ levels, level.Silent)
    (hreaches : w.Reaches relative path) :
    relative ++ path ∈ w.descend fs excludes fuel levels directory relative := by
  induction hfile generalizing fuel levels relative with
  | @last directory name bytes _ hnode =>
    obtain ⟨fuel, rfl⟩ := Nat.exists_eq_succ_of_ne_zero (Nat.ne_of_gt hfuel)
    rw [descend_succ, List.mem_flatMap]
    refine ⟨(name, .file bytes), FileSystem.mem_children_iff.mpr hnode, ?_⟩
    have hshown := hbare.shown [name] _ hnode name List.mem_cons_self
    rw [visit, hides_of_silent hrules hsilent hshown, reaches_singleton_iff.mp hreaches]
    exact List.mem_singleton.mpr rfl
  | @through directory name rest bytes _ hnode hfile ih =>
    obtain ⟨fuel, rfl⟩ := Nat.exists_eq_succ_of_ne_zero (Nat.ne_of_gt (Nat.zero_lt_of_lt hfuel))
    rw [descend_succ, List.mem_flatMap]
    refine ⟨(name, .directory), FileSystem.mem_children_iff.mpr hnode, ?_⟩
    have hshown := hbare.shown [name] _ hnode name List.mem_cons_self
    obtain ⟨hfirst, hrest⟩ := (reaches_cons_iff hfile.ne_nil).mp hreaches
    rw [visit, hides_of_silent hrules hsilent hshown, hfirst]
    have hlevels : ∀ level ∈ Ignore.Level.read fs (directory ++ [name]) :: levels,
        level.Silent := by
      rw [List.forall_mem_cons]
      exact ⟨hbare.silent [name] hnode, hsilent⟩
    have hinside := ih (hbare.enter name) (Nat.le_of_succ_le_succ hfuel) hlevels hrest
    rwa [List.append_assoc] at hinside

/-- The files of a bare tree that a walk yields are those that it reaches. -/
theorem mem_files_iff_reaches (hnamed : fs.Named) (hbase : fs.find base = .ok (root, .directory))
    (hbare : fs.Bare root) (habove : ∀ level ∈ Ignore.Level.above fs root, level.Silent)
    (hrules : (Ignore.Excludes.read fs env base).rules = []) :
    loc ∈ w.files fs base env ↔ (∃ bytes, fs.HasFile root loc bytes) ∧ w.Reaches [] loc := by
  rw [(files_perm hbase).mem_iff]
  constructor
  · intro h
    obtain ⟨rel, bytes, rfl, hfile, hreaches⟩ := descend_reaches hnamed h
    exact ⟨⟨bytes, hfile⟩, hreaches⟩
  · rintro ⟨⟨bytes, hfile⟩, hreaches⟩
    exact mem_descend hrules hfile hbare (Nat.le_succ_of_le hfile.length_le) habove hreaches

/-! ### Beside the files that are not matched -/

/-- The globs do not match the location or a directory on the way to it. -/
structure Spares (w : Walker) (loc : Location) : Prop where
  itself : w.omits (Location.text loc) = false
  above : ∀ directory, directory.Above loc → w.omits (Location.text directory) = false

/-- The globs do not match the probe of a directory on the way to the location: an entry with a name
that no file needs to have. -/
def SparesProbes (w : Walker) (loc : Location) : Prop :=
  ∀ directory, directory.Above loc → w.omits (Location.text directory ++ "/_") = false

theorem reaches_iff : w.Reaches [] loc ↔ w.Spares loc ∧ w.SparesProbes loc := by
  constructor
  · intro h
    have hprunes : ∀ directory, directory.Above loc →
        w.omits (Location.text directory) = false ∧
          w.omits (Location.text directory ++ "/_") = false := fun directory habove =>
      Bool.or_eq_false_iff.mp (h.entered directory habove)
    exact ⟨⟨h.kept, fun directory habove => (hprunes directory habove).1⟩,
      fun directory habove => (hprunes directory habove).2⟩
  · rintro ⟨hspares, hprobes⟩
    exact ⟨hspares.itself, fun directory habove =>
      Bool.or_eq_false_iff.mpr ⟨hspares.above directory habove, hprobes directory habove⟩⟩

/-- In a tree without hidden entries and ignore rules, in it, above it or of the user, a walk yields
every file once that the globs spare together with the directories and probes on the way to it.
These are all the files that the globs spare with the directories alone exactly when no such file
lies below a directory whose probe is matched. -/
theorem files_lose_below_probes (w : Walker) (hnamed : fs.Named)
    (hbase : fs.find base = .ok (root, .directory)) (hbare : fs.Bare root)
    (habove : ∀ level ∈ Ignore.Level.above fs root, level.Silent)
    (hrules : (Ignore.Excludes.read fs env base).rules = []) :
    (w.files fs base env).Nodup ∧
      (∀ loc, loc ∈ w.files fs base env ↔
        (∃ bytes, fs.HasFile root loc bytes) ∧ w.Spares loc ∧ w.SparesProbes loc) ∧
      ((∀ loc, loc ∈ w.files fs base env ↔
          (∃ bytes, fs.HasFile root loc bytes) ∧ w.Spares loc) ↔
        ∀ loc bytes, fs.HasFile root loc bytes → w.Spares loc → w.SparesProbes loc) := by
  have hfiles : ∀ loc, loc ∈ w.files fs base env ↔
      (∃ bytes, fs.HasFile root loc bytes) ∧ w.Spares loc ∧ w.SparesProbes loc := by
    intro loc
    rw [mem_files_iff_reaches hnamed hbase hbare habove hrules, reaches_iff]
  refine ⟨(files_perm hbase).nodup_iff.mpr (descend_nodup hnamed), hfiles, ?_⟩
  constructor
  · intro hall loc bytes hfile hspares
    have hloc := (hall loc).mpr ⟨⟨bytes, hfile⟩, hspares⟩
    exact ((hfiles loc).mp hloc).2.2
  · intro hprobes loc
    rw [hfiles]
    constructor
    · rintro ⟨hfile, hspares, -⟩
      exact ⟨hfile, hspares⟩
    · rintro ⟨⟨bytes, hfile⟩, hspares⟩
      exact ⟨⟨bytes, hfile⟩, hspares, hprobes loc bytes hfile hspares⟩

/-! ### A glob on the names of files -/

/-- A tree with a script in a directory and one beside it. -/
def scriptTree : FileSystem where
  entries := [(["w"], .directory), (["w", "main.js"], .file "a\n".toUTF8),
    (["w", "src"], .directory), (["w", "src", "a.js"], .file "b\n".toUTF8)]
  distinct := by decide

theorem scriptTree_named : scriptTree.Named := FileSystem.named_of_entries (by decide)

theorem scriptTree_bare : scriptTree.Bare ["w"] :=
  FileSystem.bare_of_entries (by decide) (by decide) (by decide +kernel)

theorem scriptTree_find : scriptTree.find "/w" = .ok (["w"], .directory) := by decide +kernel

theorem scriptTree_rules : (Ignore.Excludes.read scriptTree {} "/w").rules = [] := by
  decide +kernel

/-- A walker that leaves out the entries whose names begin with an underscore. -/
def underscoreWalker : Walker where
  ignores := [⟨[.treePrefix, .literal '_', .star], false⟩]

theorem underscoreWalker_ofPatterns : ofPatterns ["**/_*"] = .ok underscoreWalker := by rfl

/-- The globs match neither the script nor its directory. -/
theorem underscoreWalker_spares : underscoreWalker.Spares ["src", "a.js"] := by
  refine ⟨by decide +kernel, fun directory habove => ?_⟩
  obtain ⟨rfl, -⟩ | ⟨inner, -, hinner⟩ := Location.above_cons_iff.mp habove
  · decide +kernel
  · exact absurd hinner Location.not_above_singleton

/-- They match the probe of the directory. -/
theorem underscoreWalker_not_sparesProbes : ¬underscoreWalker.SparesProbes ["src", "a.js"] := by
  intro h
  have hprobe := h ["src"] ⟨by decide, "a.js", [], rfl⟩
  exact absurd hprobe (by decide +kernel)

/-- The script beside the directory is found, and the one in the directory is lost. -/
theorem files_lose_below_probes_underscore :
    ["main.js"] ∈ underscoreWalker.files scriptTree "/w" ∧
      ["src", "a.js"] ∉ underscoreWalker.files scriptTree "/w" := by
  obtain ⟨-, hfiles, -⟩ := files_lose_below_probes underscoreWalker scriptTree_named
    scriptTree_find scriptTree_bare (by decide +kernel) scriptTree_rules
  constructor
  · rw [hfiles]
    refine ⟨⟨_, .last (by decide) (by rfl)⟩, ⟨by decide +kernel, ?_⟩, ?_⟩
    · intro directory habove
      exact absurd habove Location.not_above_singleton
    · intro directory habove
      exact absurd habove Location.not_above_singleton
  · intro hfound
    exact underscoreWalker_not_sparesProbes ((hfiles _).mp hfound).2.2

/-- Pruning loses a file that no glob matches, itself or through a directory. -/
theorem not_files_all_spared :
    ¬∀ (patterns : List String) (w : Walker) (fs : FileSystem) (env : SystemEnvironment)
        (base : String) (root : Location),
      ofPatterns patterns = .ok w → fs.Named → fs.find base = .ok (root, .directory) →
      fs.Bare root → (∀ level ∈ Ignore.Level.above fs root, level.Silent) →
      (Ignore.Excludes.read fs env base).rules = [] →
      ∀ loc, loc ∈ w.files fs base env ↔
        (∃ bytes, fs.HasFile root loc bytes) ∧ w.Spares loc := by
  intro h
  have hfile : scriptTree.HasFile ["w"] ["src", "a.js"] "b\n".toUTF8 :=
    .through (by decide) (by rfl) (.last (by decide) (by rfl))
  have hfound := (h _ _ _ _ _ _ underscoreWalker_ofPatterns scriptTree_named scriptTree_find
    scriptTree_bare (by decide +kernel) scriptTree_rules _).mpr
      ⟨⟨_, hfile⟩, underscoreWalker_spares⟩
  rw [mem_files_iff_reaches scriptTree_named scriptTree_find scriptTree_bare (by decide +kernel)
    scriptTree_rules, reaches_iff] at hfound
  exact underscoreWalker_not_sparesProbes hfound.2.2

end Walker

end Codemod
