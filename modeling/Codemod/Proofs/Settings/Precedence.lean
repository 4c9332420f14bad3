import Codemod.Proofs.FileSystem.Naming
import Codemod.Proofs.Json.Printing
import Codemod.Proofs.Settings.Merging
import Codemod.Proofs.Settings.Reading
import Mathlib.Data.List.Induction
import Mathlib.Data.List.TakeWhile
import Mathlib.Tactic.Choose

/-!
# The precedence of settings

The settings of a workspace are read whenever its first settings file holds a record in which the
settings that are there have values of their kinds, and every variable of the environment that is
meant for a setting has one too. Setting by setting, the variable counts before the file and the
file before the default. Nothing that the workspace holds besides that file matters.

- `Setting.inFile?`, `Setting.inEnvironment?` — the value that a layer gives a setting
- `Typed`, `Suitable` — files and environments whose values have the kinds of the settings
- `Suitable.typed` — the variables as the fields of a file
- `at?_gather` — what all layers leave under the path of a setting
- `FirstFile`, `FirstFile.fileLayer_eq` — the fields of the first settings file, and their layer
- `load_by_precedence` — the settings of a workspace
-/

namespace Codemod.Settings

variable {env : Environment} {fs : FileSystem} {root origin : String} {t : Tree}
variable {fields assignments : List (String × Json)} {setting : Setting}

/-! ### What the layers give -/

/-- The value that a settings file gives a setting. Of several the last counts. -/
def Setting.inFile? (setting : Setting) (fields : List (String × Json)) : Option Json :=
  (given setting.path (.object (spelled fields))).getLast?

/-- The name of a setting's variable: after the mark the keys, joined by two underscores. -/
def Setting.variableName (setting : Setting) : String :=
  "gfactor_" ++ "__".intercalate setting.path

/-- The variable of a name, in whatever case, is that of the setting. -/
def Setting.isVariable (setting : Setting) (name : String) : Bool :=
  name.toList.map lowered == setting.variableName.toList

/-- The value that the environment gives a setting. Of several the last counts. -/
def Setting.inEnvironment? (setting : Setting) (env : Environment) : Option Json :=
  ((env.bindings.filter fun b => setting.isVariable b.1).getLast?).map fun b => .string b.2

/-- In a record of a settings file, the settings that are there have values of their kinds, and
sections are records. Other keys are free, as long as they do not lead into a setting. -/
structure Typed (fields : List (String × Json)) : Prop where
  spelledOut : ∀ f ∈ fields, ∀ setting : Setting,
    setting.path.head? = some (Place.read f.1).first → (spelledOut? f).isSome
  records : ∀ setting : Setting, Leads setting.path (.object (spelled fields))
  values : ∀ setting : Setting, ∀ v ∈ given setting.path (.object (spelled fields)),
    ∃ x, setting.kind.Reads v x

/-- Where the names of the fields are keys, the fields themselves count. -/
theorem Typed.of_keys (hkeys : ∀ f ∈ fields, f.1.toList.all Place.isKeyChar = true)
    (hrecords : ∀ setting : Setting, Leads setting.path (.object fields))
    (hvalues : ∀ setting : Setting, ∀ v ∈ given setting.path (.object fields),
      ∃ x, setting.kind.Reads v x) : Typed fields where
  spelledOut := fun f hf _ _ => by
    rw [spelledOut?_eq_self (hkeys f hf)]
    rfl
  records := by rwa [spelled_eq_self hkeys]
  values := by rwa [spelled_eq_self hkeys]

theorem Typed.isSome_spelledOut? {key : String} {rest : List String} (h : Typed fields)
    (hpath : setting.path = key :: rest) :
    ∀ f ∈ fields, (Place.read f.1).first = key → (spelledOut? f).isSome := by
  rintro f hf rfl
  exact h.spelledOut f hf setting (by rw [hpath]; rfl)

/-- The name of a variable leads to no section and no setting. -/
def LeadsElsewhere (name : String) : Prop :=
  ∀ text, settingName? name = some text →
    ∀ setting : Setting, setting.path.head? ≠ some (Place.read text).first

theorem leadsElsewhere_of_eq_none {name : String} (h : settingName? name = none) :
    LeadsElsewhere name := by
  intro text htext
  rw [h] at htext
  cases htext

/-- Each variable is that of a setting and has a value that reads as one of its kind, or leads
elsewhere. -/
def Suitable (env : Environment) : Prop :=
  ∀ b ∈ env.bindings, LeadsElsewhere b.1 ∨
    ∃ setting : Setting, setting.isVariable b.1 = true ∧
      ∃ x, setting.kind.Reads (.string b.2) x

/-! ### Variables as assignments -/

/-- The assignments of the environment. -/
def assignmentsOf (env : Environment) : List (String × Json) :=
  env.bindings.filterMap fun b => (settingName? b.1).map fun name => (name, .string b.2)

theorem environmentLayer_eq (env : Environment) :
    environmentLayer env = Tree.ofFields environmentOrigin (assignmentsOf env) := by
  rw [Tree.ofFields_eq_map, assignmentsOf, List.map_filterMap, environmentLayer]
  congr 1
  funext b
  rw [Option.map_map]
  rfl

/-- The field that a variable stands for. -/
def bound? (b : String × String) : Option (String × Json) :=
  (settingName? b.1).bind fun name => spelledOut? (name, .string b.2)

theorem spelled_assignmentsOf (env : Environment) :
    spelled (assignmentsOf env) = env.bindings.filterMap bound? := by
  rw [spelled, assignmentsOf, List.filterMap_filterMap]
  congr 1
  funext b
  rw [bound?]
  cases settingName? b.1 <;> rfl

theorem settingName?_eq {name rest : String}
    (h : name.toList.map lowered = (variableMark ++ rest).toList) :
    settingName? name = some (Text.replaceAll "__" "." rest) := by
  have hlist : (name.map lowered).toList = variableMark.toList ++ rest.toList := by
    rw [String.toList_map, h, String.toList_append]
  have hstarts : (name.map lowered).startsWith variableMark = true := by
    rw [String.startsWith_string_iff, hlist]
    exact List.prefix_append _ _
  have hrest : (name.map lowered).toList.drop variableMark.length = rest.toList := by
    rw [hlist, ← String.length_toList, List.drop_left]
  rw [settingName?, if_pos hstarts, hrest, String.ofList_toList]

theorem settingName?_eq_none {name : String}
    (h : ¬variableMark.toList <+: name.toList.map lowered) : settingName? name = none := by
  have hstarts : ¬(name.map lowered).startsWith variableMark = true := by
    rwa [String.startsWith_string_iff, String.toList_map]
  rw [settingName?, if_neg hstarts]

/-- The name of a setting's variable is read as the path of the setting. -/
theorem settingName?_of_isVariable {name : String} (h : setting.isVariable name = true) :
    settingName? name = some (".".intercalate setting.path) := by
  rw [settingName?_eq (beq_iff_eq.mp h)]
  cases setting <;> decide

theorem Setting.place_eq (setting : Setting) : ∃ key rest, setting.path = key :: rest ∧
    Place.read (".".intercalate setting.path) = ⟨key, rest.map .key⟩ := by
  cases setting <;> exact ⟨_, _, rfl, by decide⟩

/-- A variable of a setting stands for its value inside of the records on the way to the setting. -/
theorem bound?_of_isVariable {b : String × String} (h : setting.isVariable b.1 = true) :
    ∃ g, bound? b = some g ∧ .object [g] = wrap setting.path (.string b.2) := by
  obtain ⟨key, rest, hpath, hplace⟩ := setting.place_eq
  refine ⟨(key, wrap rest (.string b.2)), ?_, by rw [hpath, wrap]⟩
  rw [bound?, settingName?_of_isVariable h, Option.bind_some, spelledOut?, hplace]
  dsimp only
  rw [nested?_key]
  rfl

/-- A variable belongs to one setting. -/
theorem Setting.isVariable_unique {other : Setting} {name : String}
    (h : setting.isVariable name = true) (h' : other.isVariable name = true) : setting = other := by
  have hname := settingName?_of_isVariable h
  rw [settingName?_of_isVariable h', Option.some.injEq] at hname
  obtain ⟨key, rest, hpath, hplace⟩ := setting.place_eq
  obtain ⟨key', rest', hpath', hplace'⟩ := other.place_eq
  rw [← hname, hplace', Place.mk.injEq] at hplace
  obtain ⟨rfl, hrest⟩ := hplace
  have hsame : setting.path = other.path := by
    rw [hpath, hpath', (List.map_inj_right fun _ _ h => Step.key.inj h).mp hrest]
  exact Setting.eq_of_prefix (hsame ▸ List.prefix_rfl)

/-- What leads elsewhere is no variable of a setting. -/
theorem LeadsElsewhere.isVariable_eq_false {name : String} (h : LeadsElsewhere name)
    (setting : Setting) : setting.isVariable name = false := by
  rw [Bool.eq_false_iff]
  intro hvariable
  obtain ⟨key, rest, hpath, hplace⟩ := setting.place_eq
  refine h _ (settingName?_of_isVariable hvariable) setting ?_
  rw [hplace, hpath]
  rfl

/-- What leads elsewhere stands under another key than a setting. -/
theorem LeadsElsewhere.given_bound? {b : String × String} (h : LeadsElsewhere b.1)
    (setting : Setting) : Leads setting.path (.object (bound? b).toList) ∧
      given setting.path (.object (bound? b).toList) = [] := by
  obtain ⟨key, rest, hpath⟩ := setting.exists_path
  rw [hpath]
  cases hg : bound? b with
  | none => exact ⟨nofun, rfl⟩
  | some g =>
    have hkey : g.1 ≠ key := by
      rintro rfl
      obtain ⟨name, hname, hspelled⟩ := Option.bind_eq_some_iff.mp hg
      refine h name hname setting ?_
      rw [hpath, ← first_of_spelledOut? hspelled]
      rfl
    constructor
    · simp [Leads, hkey]
    · simp [given, hkey]

/-- A variable of a setting gives its value to this setting alone. -/
theorem given_bound?_of_isVariable {owner : Setting} {b : String × String}
    (h : owner.isVariable b.1 = true) (setting : Setting) :
    Leads setting.path (.object (bound? b).toList) ∧
      given setting.path (.object (bound? b).toList) =
        if setting.isVariable b.1 then [.string b.2] else [] := by
  obtain ⟨g, hg, hwrap⟩ := bound?_of_isVariable h
  rw [hg, Option.toList_some, hwrap]
  constructor
  · refine leads_wrap (fun hprefix => ?_) _
    rw [Setting.eq_of_prefix hprefix]
  · split
    · next hvariable => rw [Setting.isVariable_unique hvariable h, given_wrap_self]
    · next hvariable =>
      have hne : owner ≠ setting := by
        rintro rfl
        exact hvariable h
      exact given_wrap_of_not_prefix (fun h => hne (Setting.eq_of_prefix h))
        (fun h => hne (Setting.eq_of_prefix h).symm) _

/-- The environment gives a setting the values of its variables. -/
theorem given_assignmentsOf (henv : Suitable env) (setting : Setting) :
    Leads setting.path (.object (spelled (assignmentsOf env))) ∧
      given setting.path (.object (spelled (assignmentsOf env))) =
        (env.bindings.filter fun b => setting.isVariable b.1).map fun b => .string b.2 := by
  obtain ⟨key, rest, hpath⟩ := setting.exists_path
  rw [spelled_assignmentsOf]
  unfold Suitable at henv
  generalize env.bindings = bindings at henv
  induction bindings with
  | nil =>
    rw [hpath]
    exact ⟨nofun, rfl⟩
  | cons b bindings ih =>
    have hgives : Leads setting.path (.object (bound? b).toList) ∧
        given setting.path (.object (bound? b).toList) =
          if setting.isVariable b.1 then [.string b.2] else [] := by
      obtain hother | ⟨owner, howner, -⟩ := henv b List.mem_cons_self
      · rw [hother.isVariable_eq_false]
        exact hother.given_bound? setting
      · exact given_bound?_of_isVariable howner setting
    obtain ⟨hleads, hgiven⟩ := hgives
    obtain ⟨hrest, hlater⟩ := ih fun b hb => henv b (List.mem_cons_of_mem _ hb)
    have hcons : (b :: bindings).filterMap bound? =
        (bound? b).toList ++ bindings.filterMap bound? := by
      rw [List.filterMap_cons]
      cases bound? b <;> rfl
    rw [hpath] at hleads hgiven hrest hlater ⊢
    rw [hcons, leads_object_append, given_object_append, hgiven, hlater]
    refine ⟨⟨hleads, hrest⟩, ?_⟩
    rw [List.filter_cons]
    split <;> rfl

/-- The assignments of a suitable environment give the settings values of their kinds. -/
theorem Suitable.typed (henv : Suitable env) : Typed (assignmentsOf env) where
  spelledOut := by
    intro f hf setting hhead
    obtain ⟨b, hb, hassigned⟩ := List.mem_filterMap.mp hf
    obtain ⟨name, hname, rfl⟩ := Option.map_eq_some_iff.mp hassigned
    obtain hother | ⟨owner, howner, -⟩ := henv b hb
    · exact absurd hhead (hother name hname setting)
    · obtain ⟨g, hg, -⟩ := bound?_of_isVariable howner
      rw [bound?, hname, Option.bind_some] at hg
      exact Option.isSome_of_eq_some hg
  records := fun setting => (given_assignmentsOf henv setting).1
  values := by
    intro setting v hv
    rw [(given_assignmentsOf henv setting).2] at hv
    obtain ⟨b, hb, rfl⟩ := List.mem_map.mp hv
    obtain ⟨hmem, hvariable⟩ := List.mem_filter.mp hb
    obtain hother | ⟨owner, howner, hreads⟩ := henv b hmem
    · rw [hother.isVariable_eq_false] at hvariable
      cases hvariable
    · rwa [Setting.isVariable_unique hvariable howner]

theorem inFile?_assignmentsOf (henv : Suitable env) (setting : Setting) :
    setting.inFile? (assignmentsOf env) = setting.inEnvironment? env := by
  rw [Setting.inFile?, (given_assignmentsOf henv setting).2, List.getLast?_map]
  rfl

/-! ### What the layers leave -/

/-- Of values without parts, the last one is left. -/
theorem foldl_overlay_of_reads {kind : Kind} {vs : List Json} (h : ∀ v ∈ vs, ∃ x, kind.Reads v x)
    (origin : String) (old : Option Tree) :
    vs.foldl (Tree.overlay origin) old = (vs.getLast?.map (Tree.ofJson origin)).or old := by
  induction vs using List.reverseRecOn with
  | nil => rfl
  | append_singleton vs v _ =>
    obtain ⟨x, hx⟩ := h v (by simp)
    rw [List.foldl_append, List.getLast?_concat]
    simp only [List.foldl_cons, List.foldl_nil, Tree.overlay, hx.cover_eq]
    rfl

/-- Of records, a table is left. -/
theorem isTable_foldl_overlay {vs : List Json} (h : ∀ v ∈ vs, ∃ fields, v = .object fields)
    {old : Option Tree} (hold : ∀ u ∈ old, u.IsTable) :
    ∀ u ∈ vs.foldl (Tree.overlay origin) old, u.IsTable := by
  induction vs generalizing old with
  | nil => exact hold
  | cons v vs ih =>
    obtain ⟨fields, rfl⟩ := h v List.mem_cons_self
    refine ih (fun v hv => h v (List.mem_cons_of_mem _ hv)) ?_
    rintro u ⟨⟩
    cases old.getD .nothing <;> exact ⟨_, _, rfl⟩

/-- A layer of typed values leaves under the path of a setting the value that it gives, if it gives
one. -/
theorem Typed.at?_layer (h : Typed assignments) (origin : String) (t : Tree) (setting : Setting) :
    Tree.at? setting.path (t.layer (Tree.ofFields origin assignments)) =
      ((setting.inFile? assignments).map (Tree.ofJson origin)).or (Tree.at? setting.path t) := by
  obtain ⟨key, rest, hpath⟩ := setting.exists_path
  rw [Setting.inFile?, ← foldl_overlay_of_reads (h.values setting)]
  have hleads := h.records setting
  have hspelled := h.isSome_spelledOut? hpath
  rw [hpath] at hleads ⊢
  exact Tree.at?_layer origin hspelled hleads t

/-- A layer of typed values leaves sections tables. -/
theorem Typed.isTable_layer (h : Typed assignments) {key inner : String}
    (hpath : setting.path = [key, inner]) (ht : ∀ u ∈ Tree.at? [key] t, u.IsTable) :
    ∀ u ∈ Tree.at? [key] (t.layer (Tree.ofFields origin assignments)), u.IsTable := by
  have hleads := h.records setting
  rw [hpath] at hleads
  have hsection : Leads [key] (.object (spelled assignments)) := fun _ _ _ => trivial
  rw [Tree.at?_layer origin (h.isSome_spelledOut? hpath) hsection]
  exact isTable_foldl_overlay (fun v hv => hleads.of_given hv) ht

theorem Tree.IsTable.layer (h : t.IsTable) (assignments : List (String × Tree)) :
    (t.layer assignments).IsTable := by
  induction assignments generalizing t with
  | nil => exact h
  | cons assignment assignments ih =>
    obtain ⟨origin, entries, rfl⟩ := h
    exact ih ⟨_, _, rfl⟩

/-- All layers leave under the path of a setting the value of the environment, else that of the
file. -/
theorem at?_gather (hfile : Typed fields) (henv : Suitable env) (origin : String)
    (setting : Setting) :
    Tree.at? setting.path (gather env (Tree.ofFields origin fields)) =
      ((setting.inEnvironment? env).map (Tree.ofJson environmentOrigin)).or
        ((setting.inFile? fields).map (Tree.ofJson origin)) := by
  obtain ⟨key, rest, hpath⟩ := setting.exists_path
  have hempty : Tree.at? setting.path (.table none []) = none := by
    rw [hpath]
    rfl
  rw [gather, environmentLayer_eq, henv.typed.at?_layer, hfile.at?_layer,
    inFile?_assignmentsOf henv, hempty, Option.or_none]

/-! ### The first settings file -/

/-- The fields of the first settings file of a directory: there is no such file, and no field, or
the first name that leads to anything leads to a file that holds a record with these fields. -/
inductive FirstFile (fs : FileSystem) (root : String) : List (String × Json) → Prop
  | missing : (∀ name ∈ fileNames, fs.pathExists (Path.join root name) = false) →
    FirstFile fs root []
  | found {earlier later : List String} {name : String} {bytes : ByteArray} {format : Format}
    {fields : List (String × Json)} : fileNames = earlier ++ name :: later →
    (∀ name ∈ earlier, fs.pathExists (Path.join root name) = false) →
    fs.readBytes (Path.join root name) = .ok bytes → Format.ofName? name = some format →
    format.parse? (fileText bytes) = some fields → FirstFile fs root fields

/-- A file that can be read is a regular file, which exists. -/
theorem isFile_of_readBytes {path : String} {bytes : ByteArray}
    (h : fs.readBytes path = .ok bytes) : fs.pathExists path = true ∧ fs.isFile path = true := by
  unfold FileSystem.readBytes at h
  unfold FileSystem.pathExists FileSystem.isFile
  split at h
  · next hfind =>
    rw [hfind]
    exact ⟨rfl, rfl⟩
  all_goals cases h

/-- Names that lead to nothing are passed over. -/
theorem find?_join_eq_none {names : List String}
    (h : ∀ name ∈ names, fs.pathExists (Path.join root name) = false) :
    (names.map (Path.join root)).find? fs.pathExists = none := by
  rw [List.find?_eq_none]
  intro path hpath
  obtain ⟨name, hname, rfl⟩ := List.mem_map.mp hpath
  simp [h name hname]

/-- The format of a file is told by its name, whatever the directory. -/
theorem ofName?_join {name : String} (hrelative : Path.isAbsolute name = false)
    (hdot : '.' ∈ name.toList) (root : String) :
    Format.ofName? (Path.join root name) = Format.ofName? name := by
  have hending : ∀ cs : List Char, (cs ++ name.toList).reverse.takeWhile (· != '.') =
      name.toList.reverse.takeWhile (· != '.') := by
    intro cs
    rw [List.reverse_append, List.takeWhile_append, if_neg]
    intro hlength
    have hall := (List.takeWhile_prefix (fun c => c != '.')).eq_of_length hlength
    have hnone := List.takeWhile_eq_self_iff.mp hall '.' (List.mem_reverse.mpr hdot)
    simp at hnone
  unfold Format.ofName?
  rw [Path.toList_join root hrelative, hending]

/-- The layer of the file consists of the fields of the first settings file. -/
theorem FirstFile.fileLayer_eq (h : FirstFile fs root fields) :
    ∃ origin, fileLayer fs root = .ok (Tree.ofFields origin fields) := by
  cases h with
  | missing hmissing =>
    refine ⟨"", ?_⟩
    rw [fileLayer, find?_join_eq_none hmissing]
    rfl
  | @found earlier later name bytes format fields hnames hearlier hread hformat hparse =>
    obtain ⟨hexists, hfile⟩ := isFile_of_readBytes hread
    have hfind : (fileNames.map (Path.join root)).find? fs.pathExists =
        some (Path.join root name) := by
      rw [hnames, List.map_append, List.map_cons, List.find?_append, find?_join_eq_none hearlier,
        Option.none_or, List.find?_cons_of_pos hexists]
    have hregular : regularFile? fs (Path.join root name) = some (Path.join root name) := by
      rw [regularFile?, List.find?_cons_of_pos hfile]
    have hlisted : name ∈ fileNames := by simp [hnames]
    have hdotted : ∀ name ∈ fileNames, Path.isAbsolute name = false ∧ '.' ∈ name.toList := by
      decide
    obtain ⟨hrelative, hdot⟩ := hdotted name hlisted
    refine ⟨shownPath fs (Path.join root name), ?_⟩
    rw [fileLayer, hfind]
    dsimp only
    rw [hregular]
    dsimp only
    rw [hread, ofName?_join hrelative hdot, hformat]
    dsimp only
    rw [hparse]

/-- A printed record in canonical form is the record of its file. -/
theorem Format.parse?_compress {fields : List (String × Json)}
    (hwhole : Json.whole Json.Reader.maxDepth (.object fields) = true)
    (hcanonical : (Json.object fields).canonical = .object fields) :
    Format.json.parse? (Json.object fields).compress = some fields := by
  unfold Format.parse?
  simp only [Json.parse?_compress hwhole, hcanonical]

/-! ### The settings of a workspace -/

/-- The value of a setting in the environment, else in the file, is of its kind. -/
theorem exists_reads (hfile : Typed fields) (henv : Suitable env) {v : Json}
    (h : (setting.inEnvironment? env).or (setting.inFile? fields) = some v) :
    ∃ x, setting.kind.Reads v x := by
  obtain henvironment | ⟨-, hrecord⟩ := Option.or_eq_some_iff.mp h
  · rw [← inFile?_assignmentsOf henv] at henvironment
    exact henv.typed.values setting v (List.mem_of_getLast? henvironment)
  · exact hfile.values setting v (List.mem_of_getLast? hrecord)

/-- Whenever the first settings file holds a record whose values have the kinds of their settings,
and the variables of settings have values that read so, the settings are loaded. Every setting is
what its variable gives, else what the file gives under its key, else its default. They are the same
in every workspace with these fields in its first settings file, whatever later files hold. -/
theorem load_by_precedence (env : Environment) (fields : List (String × Json))
    (hfile : Typed fields) (henv : Suitable env) :
    ∃ settings : Settings,
      (∀ fs root, FirstFile fs root fields → load env fs root = .ok settings) ∧
      ∀ setting : Setting,
        match (setting.inEnvironment? env).or (setting.inFile? fields) with
        | some v => setting.kind.Reads v (setting.get settings)
        | none => setting.get settings = setting.get {} := by
  have hvalue : ∀ setting : Setting, ∃ x : setting.kind.Value,
      match (setting.inEnvironment? env).or (setting.inFile? fields) with
      | some v => setting.kind.Reads v x
      | none => x = setting.get {} := by
    intro setting
    cases hgiven : (setting.inEnvironment? env).or (setting.inFile? fields) with
    | some v => exact exists_reads hfile henv hgiven
    | none => exact ⟨_, rfl⟩
  choose value hvalue using hvalue
  refine ⟨Setting.assemble value, ?_, by simpa only [Setting.get_assemble] using hvalue⟩
  intro fs root hfirst
  obtain ⟨origin, hlayer⟩ := hfirst.fileLayer_eq
  have hsections : ∀ (setting : Setting) (key inner : String), setting.path = [key, inner] →
      ∀ u, Tree.at? [key] (gather env (Tree.ofFields origin fields)) = some u → u.IsTable := by
    intro setting key inner hpath
    rw [gather, environmentLayer_eq]
    exact henv.typed.isTable_layer hpath (hfile.isTable_layer hpath nofun)
  have hoffers : ∀ setting : Setting, (gather env (Tree.ofFields origin fields)).Offers
      setting.path setting.kind.ofTree (setting.get {}) (value setting) := by
    intro setting
    have hgiven := hvalue setting
    rw [Tree.Offers, at?_gather hfile henv origin setting]
    -- the value stands there with the layer that it came from
    cases henvironment : setting.inEnvironment? env with
    | some v =>
      rw [henvironment] at hgiven
      exact .inr ⟨_, rfl, hgiven.ofTree_eq environmentOrigin⟩
    | none =>
      rw [henvironment] at hgiven
      cases hrecord : setting.inFile? fields with
      | some v =>
        rw [hrecord] at hgiven
        exact .inr ⟨_, rfl, hgiven.ofTree_eq origin⟩
      | none =>
        rw [hrecord] at hgiven
        exact .inl ⟨rfl, hgiven⟩
  have htable : (gather env (Tree.ofFields origin fields)).IsTable :=
    Tree.IsTable.layer (Tree.IsTable.layer ⟨none, [], rfl⟩ _) _
  unfold load
  rw [hlayer]
  show (ofTree (gather env (Tree.ofFields origin fields))).mapError LoadError.unfit = _
  rw [ofTree_eq htable hsections hoffers]
  rfl

/-! ### A small workspace -/

/-- Fields of a settings file, some of them settings. -/
def smallRecord : List (String × Json) :=
  [("commands", .object [("lint", .string "npm run lint")]),
    ("llm", .object [("program", .string "fake-llm"), ("timeout_secs", .int 7)]),
    ("notes", .array [.bool true])]

/-- A workspace with these fields in its first settings file, and a later file that is malformed. -/
def smallDisk : FileSystem where
  entries := [(["w"], .directory),
    (["w", "gfactor.json"], .file (Json.object smallRecord).compress.toUTF8),
    (["w", ".gfactor.toml"], .file "= [".toUTF8)]

/-- Two variables of settings, and two others. -/
def smallEnvironment : Environment where
  bindings := [("PATH", "/bin"), ("GFACTOR_LLM__TIMEOUT_SECS", "+09"),
    ("gfactor_verify__max_fix_attempts", "On"), ("GFACTOR_LOG", "debug")]

theorem firstFile_smallDisk : FirstFile smallDisk "/w" smallRecord := by
  let printed := (Json.object smallRecord).compress
  have htext : fileText printed.toUTF8 = printed := by decide +kernel
  have hcanonical : (Json.object smallRecord).canonical = .object smallRecord := by
    simp only [smallRecord, Json.canonical, Json.canonicalFields, Json.canonicalItems]
    rw [Json.sortFields_eq_self (by decide), Json.sortFields_eq_self (by decide),
      Json.sortFields_eq_self (by decide)]
  have hnames : fileNames =
      ["gfactor.toml", "gfactor.yaml"] ++ "gfactor.json" :: [".gfactor.toml"] := rfl
  have hread : smallDisk.readBytes "/w/gfactor.json" = .ok printed.toUTF8 := rfl
  refine .found hnames (by decide) hread rfl ?_
  rw [htext]
  exact Format.parse?_compress (by decide +kernel) hcanonical

theorem typed_smallRecord : Typed smallRecord := by
  refine .of_keys (by decide) (fun setting => ?_) fun setting v hv => ?_
  · cases setting <;> simp [Setting.path, smallRecord, Leads]
  · cases setting <;> simp [Setting.path, smallRecord, given] at hv
    case program =>
      rw [hv]
      exact ⟨_, .text _⟩
    case timeout =>
      rw [hv]
      exact ⟨(7 : UInt64), .word64 (.number 7)⟩
    case lintCommand =>
      rw [hv]
      exact ⟨_, .optionalText _⟩

theorem denotes_nine : Denotes (.string "+09") 9 :=
  @Denotes.digits "+09" ['0', '9'] (by decide) (List.all_eq_true.mp rfl) (.inr rfl)

theorem denotes_one : Denotes (.string "On") 1 := .on (by decide +kernel)

theorem suitable_smallEnvironment : Suitable smallEnvironment := by
  have hlog : LeadsElsewhere "GFACTOR_LOG" := by
    have hname : "GFACTOR_LOG".toList.map lowered = (variableMark ++ "log").toList := by decide
    intro text htext setting
    rw [settingName?_eq hname] at htext
    cases htext
    cases setting <;> decide
  intro b hb
  simp only [smallEnvironment, List.mem_cons, List.not_mem_nil, or_false] at hb
  obtain rfl | rfl | rfl | rfl := hb
  · exact .inl (leadsElsewhere_of_eq_none (settingName?_eq_none (by decide)))
  · exact .inr ⟨.timeout, by decide, (9 : UInt64), .word64 denotes_nine⟩
  · exact .inr ⟨.maxFixAttempts, by decide, (1 : UInt32), .word32 denotes_one⟩
  · exact .inl hlog

/-- A variable counts before the file, and the file before the defaults, within one section. -/
theorem load_smallDisk : ∃ settings, load smallEnvironment smallDisk "/w" = .ok settings ∧
    settings.tool.program = "fake-llm" ∧ settings.tool.timeoutSeconds = 9 ∧
    settings.tool.maxAttempts = 4 ∧ settings.verify.maxFixAttempts = 1 ∧
    settings.commands.lint = some "npm run lint" ∧ settings.commands.test = none := by
  obtain ⟨settings, hload, hget⟩ := load_by_precedence smallEnvironment smallRecord
    typed_smallRecord suitable_smallEnvironment
  have hprogram : Kind.text.Reads (.string "fake-llm") settings.tool.program := hget .program
  have htimeout : Kind.word64.Reads (.string "+09") settings.tool.timeoutSeconds := hget .timeout
  have hattempts : settings.tool.maxAttempts = 4 := hget .maxAttempts
  have hfixing : Kind.word32.Reads (.string "On") settings.verify.maxFixAttempts :=
    hget .maxFixAttempts
  have hlint : Kind.optionalText.Reads (.string "npm run lint") settings.commands.lint :=
    hget .lintCommand
  have htest : settings.commands.test = none := hget .testCommand
  exact ⟨settings, hload smallDisk "/w" firstFile_smallDisk, hprogram.unique (.text _),
    htimeout.unique (.word64 denotes_nine), hattempts, hfixing.unique (.word32 denotes_one),
    hlint.unique (.optionalText _), htest⟩

end Codemod.Settings
