import Codemod.Migration.Run
import Codemod.Proofs.Migration.Trail

/-!
# What keeps a run from starting

A run is refused when its workspace is no directory, when its credential is missing, or when its
file pattern cannot be read; the first of these counts. Nothing has been done then but to log. What
a run does with the files that it selects stands behind these checks.

- `SystemEnvironment.Lacks` — a credential that is missing
- `Setup.Refuses`, `Setup.refuses_iff` — why a run is refused, and how that is found out
- `behindChecks` — a run behind its preconditions
- `migrating`, `counting` — what a run does behind them
- `Absorbs` — an activity that refuses nothing
-/

namespace Codemod

/-! ### Why a run is refused -/

/-- The environment holds no credential under a name. -/
inductive SystemEnvironment.Lacks (env : SystemEnvironment) (name : String) : Prop
  | unset : env.bindings.lookup name = none → env.Lacks name
  | notText {bytes : ByteArray} :
    env.bindings.lookup name = some bytes → ¬bytes.IsValidUTF8 → env.Lacks name
  | blank {value : String} :
    env.bindings.lookup name = some value.toUTF8 → (∀ c ∈ value.toList, Text.isBlank c = true) →
    env.Lacks name

namespace Migration

variable {σ α β : Type} {agents : Agents σ} {setup : Setup} {request : Request}
variable {fs : FileSystem} {e : RunError} {s s₁ s' : Session σ} {opening : Activity σ Unit}
variable {rest : List String → Activity σ (Except RunError α)}

/-- The path of the workspace leads to a directory. -/
def Setup.HasWorkspace (setup : Setup) (fs : FileSystem) : Prop :=
  ∃ root, fs.find setup.workspace = .ok (root, .directory)

/-- The setup names a credential that is missing. -/
def Setup.Misses (setup : Setup) (name : String) : Prop :=
  setup.credential = some name ∧ setup.environment.Lacks name

/-- Why a run is refused. The workspace comes before the credential, and this before the pattern. -/
inductive Setup.Refuses (setup : Setup) (request : Request) (fs : FileSystem) : RunError → Prop
  | workspace :
    ¬setup.HasWorkspace fs → Setup.Refuses setup request fs (.noWorkspace setup.workspace)
  | credential {name : String} :
    setup.HasWorkspace fs → setup.Misses name →
    Setup.Refuses setup request fs (.noCredentials name)
  | pattern {cause : PatternError} :
    setup.HasWorkspace fs → (∀ name, ¬setup.Misses name) →
    Walker.filePattern request.fileGlob = .error cause →
    Setup.Refuses setup request fs (.invalidGlob request.fileGlob cause)

theorem Setup.isDirectory_iff : fs.isDirectory setup.workspace = true ↔ setup.HasWorkspace fs := by
  unfold FileSystem.isDirectory HasWorkspace
  cases fs.find setup.workspace with
  | error cause => simp
  | ok found =>
    obtain ⟨root, node⟩ := found
    cases node <;> simp [Node.isDirectory]

theorem Setup.provides_iff {name : String} :
    setup.provides name = true ↔ ¬setup.environment.Lacks name := by
  unfold provides SystemEnvironment.text?
  constructor
  · intro h hlacks
    cases hlacks with
    | unset hnone => simp [hnone] at h
    | notText hbytes hinvalid => simp [hbytes, String.fromUTF8?, hinvalid] at h
    | blank hvalue hblank =>
      rw [hvalue, Option.bind_some, Text.fromUTF8?_toUTF8] at h
      simp only [Option.any_some, Text.isBlankText, List.all_eq_true.mpr hblank] at h
      cases h
  · intro h
    cases hlookup : setup.environment.bindings.lookup name with
    | none => exact absurd (.unset hlookup) h
    | some bytes =>
      rw [Option.bind_some]
      by_cases hvalid : bytes.IsValidUTF8
      · obtain ⟨value, hvalue⟩ : ∃ value, String.fromUTF8? bytes = some value :=
          ⟨_, dif_pos hvalid⟩
        rw [Text.eq_toUTF8_of_fromUTF8? hvalue] at hlookup
        rw [hvalue, Option.any_some, Bool.not_eq_true']
        rw [← Bool.not_eq_true]
        intro hblank
        exact h (.blank hlookup (List.all_eq_true.mp hblank))
      · exact absurd (.notText hlookup hvalid) h

theorem Setup.preflight_of_not_hasWorkspace (h : ¬setup.HasWorkspace fs) :
    setup.preflight fs = .error (.noWorkspace setup.workspace) := by
  have hdirectory := mt isDirectory_iff.mp h
  rw [Bool.not_eq_true] at hdirectory
  simp [preflight, hdirectory]

theorem Setup.preflight_of_misses {name : String} (h : setup.HasWorkspace fs)
    (hmisses : setup.Misses name) : setup.preflight fs = .error (.noCredentials name) := by
  have hprovides := mt provides_iff.mp (not_not_intro hmisses.2)
  simp [preflight, isDirectory_iff.mpr h, hmisses.1, hprovides]

theorem Setup.preflight_of_ready (h : setup.HasWorkspace fs) (hnone : ∀ name, ¬setup.Misses name) :
    setup.preflight fs = .ok () := by
  unfold preflight
  rw [isDirectory_iff.mpr h, if_neg (by simp)]
  cases hcredential : setup.credential with
  | none => rfl
  | some name =>
    have hprovides : setup.provides name = true :=
      provides_iff.mpr fun hlacks => hnone name ⟨hcredential, hlacks⟩
    exact if_pos hprovides

/-- A run is refused by the first check that fails. -/
theorem Setup.refuses_iff : setup.Refuses request fs e ↔ setup.preflight fs = .error e ∨
    setup.preflight fs = .ok () ∧ ∃ cause, Walker.filePattern request.fileGlob = .error cause ∧
      e = .invalidGlob request.fileGlob cause := by
  constructor
  · intro h
    cases h with
    | workspace hnot => exact .inl (preflight_of_not_hasWorkspace hnot)
    | credential h hmisses => exact .inl (preflight_of_misses h hmisses)
    | pattern h hnone hpattern => exact .inr ⟨preflight_of_ready h hnone, _, hpattern, rfl⟩
  · intro h
    by_cases hworkspace : setup.HasWorkspace fs
    · by_cases hmisses : ∃ name, setup.Misses name
      · obtain ⟨name, hmisses⟩ := hmisses
        rw [preflight_of_misses hworkspace hmisses] at h
        obtain ⟨⟨⟩⟩ | ⟨⟨⟩, -⟩ := h
        exact .credential hworkspace hmisses
      · have hnone := not_exists.mp hmisses
        rw [preflight_of_ready hworkspace hnone] at h
        obtain ⟨⟨⟩⟩ | ⟨-, cause, hpattern, rfl⟩ := h
        exact .pattern hworkspace hnone hpattern
    · rw [preflight_of_not_hasWorkspace hworkspace] at h
      obtain ⟨⟨⟩⟩ | ⟨⟨⟩, -⟩ := h
      exact .workspace hworkspace

theorem preflight_directory (h : setup.preflight fs = .ok ()) :
    ∃ root, fs.find setup.workspace = .ok (root, .directory) := by
  by_cases hworkspace : setup.HasWorkspace fs
  · exact hworkspace
  · rw [Setup.preflight_of_not_hasWorkspace hworkspace] at h
    cases h

/-! ### The files that a request selects -/

/-- The files that a request selects. -/
def Setup.Selects (setup : Setup) (request : Request) (fs : FileSystem)
    (locations : List Location) : Prop :=
  setup.walker.matching fs setup.workspace request.fileGlob setup.environment = .ok locations

theorem Setup.selects_of_toOption {fs : FileSystem} {locations : List Location}
    (h : (setup.walker.matching fs setup.workspace request.fileGlob
      setup.environment).toOption = some locations) :
    setup.Selects request fs locations := by
  unfold Selects
  cases hmatching :
      setup.walker.matching fs setup.workspace request.fileGlob setup.environment with
  | error cause =>
    rw [hmatching] at h
    cases h
  | ok found =>
    rw [hmatching] at h
    cases h
    rfl

/-- Only a pattern that cannot be read keeps a request from selecting files. -/
theorem Setup.selects_or_pattern (setup : Setup) (request : Request) (fs : FileSystem) :
    (∃ locations, setup.Selects request fs locations) ∨
      ∃ cause, Walker.filePattern request.fileGlob = .error cause := by
  unfold Selects Walker.matching
  cases Walker.filePattern request.fileGlob with
  | error cause => exact .inr ⟨cause, rfl⟩
  | ok pattern => exact .inl ⟨_, rfl⟩

/-- Enumerating the files only logs. -/
theorem enumerate_of_selects {locations : List Location}
    (h : setup.Selects request s.world.disk locations) :
    ∃ lines, enumerate setup request s = .ok (.ok (locations.map Location.text))
      (s.noted lines) := by
  unfold enumerate
  rw [log_bind, get_bind, Session.noted_world, h]
  dsimp only
  split
  all_goals
    rw [log_bind, Session.noted_noted]
    exact ⟨_, rfl⟩

theorem enumerate_of_pattern {cause : PatternError}
    (h : Walker.filePattern request.fileGlob = .error cause) :
    ∃ lines, enumerate setup request s = .ok (.error (.invalidGlob request.fileGlob cause))
      (s.noted lines) := by
  unfold enumerate
  rw [log_bind, get_bind, Session.noted_world, Walker.matching, h]
  exact ⟨[_], rfl⟩

/-! ### A run behind its preconditions -/

/-- What a run does with the files that it selects, behind its preconditions. -/
def behindChecks (setup : Setup) (request : Request) (opening : Activity σ Unit)
    (rest : List String → Activity σ (Except RunError α)) : Activity σ (Except RunError α) := do
  match setup.preflight (← get).world.disk with
  | .error e => return .error e
  | .ok () =>
    opening
    match ← enumerate setup request with
    | .error e => return .error e
    | .ok files => rest files

/-- The activity only logs. -/
def OnlyLogs (x : Activity σ Unit) : Prop := ∃ lines, ∀ s, x s = .ok () (s.noted lines)

theorem OnlyLogs.log (line : String) : OnlyLogs (σ := σ) (Migration.log line) :=
  ⟨[line], fun _ => rfl⟩

theorem OnlyLogs.pure : OnlyLogs (σ := σ) (Pure.pure ()) := ⟨[], fun s => by rw [s.noted_nil]; rfl⟩

/-- A run that is refused has only logged. -/
theorem behindChecks_of_refuses (hopening : OnlyLogs opening)
    (h : setup.Refuses request s.world.disk e) :
    ∃ lines, behindChecks setup request opening rest s = .ok (.error e) (s.noted lines) := by
  unfold behindChecks
  rw [get_bind]
  obtain hpreflight | ⟨hpreflight, cause, hpattern, rfl⟩ := Setup.refuses_iff.mp h
  · rw [hpreflight]
    exact ⟨[], by rw [s.noted_nil]; rfl⟩
  · obtain ⟨first, hopening⟩ := hopening
    have hlast : ∃ lines, enumerate setup request (s.noted first) = _ :=
      enumerate_of_pattern hpattern
    obtain ⟨lines, henumerate⟩ := hlast
    rw [hpreflight]
    dsimp only
    rw [bind_of_ok (hopening s), bind_of_ok henumerate, Session.noted_noted]
    exact ⟨_, rfl⟩

/-- A run that is not refused goes on with the files that it selects. -/
theorem behindChecks_of_selects {locations : List Location} (hopening : OnlyLogs opening)
    (hpreflight : setup.preflight s.world.disk = .ok ())
    (h : setup.Selects request s.world.disk locations) :
    ∃ lines, behindChecks setup request opening rest s =
      rest (locations.map Location.text) (s.noted lines) := by
  obtain ⟨first, hopening⟩ := hopening
  obtain ⟨lines, henumerate⟩ := enumerate_of_selects (s := s.noted first) h
  unfold behindChecks
  rw [get_bind, hpreflight]
  dsimp only
  rw [bind_of_ok (hopening s), bind_of_ok henumerate, Session.noted_noted]
  exact ⟨_, rfl⟩

/-- A run is refused, or it is not and selects files. -/
theorem Setup.refuses_or_selects (setup : Setup) (request : Request) (fs : FileSystem) :
    (∃ e, setup.Refuses request fs e) ∨
      setup.preflight fs = .ok () ∧ ∃ locations, setup.Selects request fs locations := by
  cases hpreflight : setup.preflight fs with
  | error e => exact .inl ⟨e, refuses_iff.mpr (.inl hpreflight)⟩
  | ok =>
    obtain hselects | ⟨cause, hpattern⟩ := setup.selects_or_pattern request fs
    · exact .inr ⟨rfl, hselects⟩
    · exact .inl ⟨_, refuses_iff.mpr (.inr ⟨hpreflight, cause, hpattern, rfl⟩)⟩

/-- A run that comes to a value was not refused, and came to it with the files that it selects. -/
theorem behindChecks_eq_ok {a : α} (hopening : OnlyLogs opening)
    (h : behindChecks setup request opening rest s = .ok (.ok a) s') :
    setup.preflight s.world.disk = .ok () ∧ ∃ locations lines,
      setup.Selects request s.world.disk locations ∧
      rest (locations.map Location.text) (s.noted lines) = .ok (.ok a) s' := by
  obtain ⟨e, hrefuses⟩ | ⟨hpreflight, locations, hselects⟩ :=
    setup.refuses_or_selects request s.world.disk
  · have hrun : ∃ lines, behindChecks setup request opening rest s = _ :=
      behindChecks_of_refuses hopening hrefuses
    obtain ⟨lines, hrun⟩ := hrun
    rw [hrun] at h
    cases h
  · have hrun : ∃ lines, behindChecks setup request opening rest s = _ :=
      behindChecks_of_selects hopening hpreflight hselects
    obtain ⟨lines, hrun⟩ := hrun
    rw [hrun] at h
    exact ⟨hpreflight, locations, lines, hselects, h⟩

/-- The activity refuses nothing. -/
def Absorbs (x : Activity σ (Except RunError α)) : Prop :=
  ∀ s e s', x s ≠ .ok (.error e) s'

namespace Absorbs

theorem ok (a : α) : Absorbs (σ := σ) (Pure.pure (.ok a)) := fun _ _ _ h => by cases h

/-- What comes before does not matter. -/
theorem bind {x : Activity σ β} {f : β → Activity σ (Except RunError α)}
    (h : ∀ b, Absorbs (f b)) : Absorbs (x >>= f) := by
  intro s e s' hrun
  obtain ⟨b, s₁, -, hrest⟩ := bind_eq_ok hrun
  exact h b s₁ e s' hrest

end Absorbs

/-- Behind its preconditions, a run that absorbs what goes wrong is refused by nothing else. -/
theorem refuses_of_behindChecks (hopening : OnlyLogs opening)
    (hrest : ∀ files, Absorbs (rest files))
    (h : behindChecks setup request opening rest s = .ok (.error e) s') :
    setup.Refuses request s.world.disk e := by
  obtain ⟨e', hrefuses⟩ | ⟨hpreflight, locations, hselects⟩ :=
    setup.refuses_or_selects request s.world.disk
  · have hrun : ∃ lines, behindChecks setup request opening rest s = _ :=
      behindChecks_of_refuses hopening hrefuses
    obtain ⟨lines, hrun⟩ := hrun
    rw [hrun] at h
    cases h
    exact hrefuses
  · have hrun : ∃ lines, behindChecks setup request opening rest s = _ :=
      behindChecks_of_selects hopening hpreflight hselects
    obtain ⟨lines, hrun⟩ := hrun
    rw [hrun] at h
    exact absurd h (hrest _ _ _ _)

/-! ### What stands behind the preconditions -/

/-- Counts the occurrences in files. -/
def counting (agents : Agents σ) (setup : Setup) (request : Request) (files : List String) :
    Activity σ (Except RunError CountReport) := do
  let report ← countFiles agents setup request.find {} files
  log (totalLine report)
  return .ok report

/-- Carries out a plan. -/
def carryOut (agents : Agents σ) (setup : Setup) (request : Request) :
    Plan → Activity σ (Except RunError RunReport)
  | .nothing => return .ok { remaining := ← remaining }
  | .cancelled => do
    log "Migration cancelled during the initial scan."
    return .ok { cancelled := true, remaining := ← remaining }
  | .files planned => do
    let start : RunReport := { filesTotal := planned.length }
    let report ← processFiles agents setup request planned.length start 1 planned
    let report := { report with remaining := ← remaining }
    log (closingLine report)
    return .ok report

/-- Migrates files. -/
def migrating (agents : Agents σ) (setup : Setup) (request : Request) :
    List String → Activity σ (Except RunError RunReport)
  | [] => return .ok {}
  | files => do carryOut agents setup request (← plan agents setup request files)

theorem migrating_cons (agents : Agents σ) (setup : Setup) (request : Request) (first : String)
    (rest : List String) :
    migrating agents setup request (first :: rest) =
      plan agents setup request (first :: rest) >>= carryOut agents setup request := rfl

theorem counting_absorbs (files : List String) : Absorbs (counting agents setup request files) :=
  .bind fun _ => .bind fun _ => .ok _

theorem carryOut_absorbs (plan : Plan) : Absorbs (carryOut agents setup request plan) := by
  cases plan with
  | nothing => exact .bind fun _ => .ok _
  | cancelled => exact .bind fun _ => .bind fun _ => .ok _
  | files planned => exact .bind fun _ => .bind fun _ => .bind fun _ => .ok _

theorem migrating_absorbs (files : List String) :
    Absorbs (migrating agents setup request files) := by
  cases files with
  | nil => exact .ok _
  | cons file files => exact .bind carryOut_absorbs

/-- The session in which a migration begins: without a history. -/
def Session.cleared (s : Session σ) : Session σ := { s with history := .empty }

@[simp] theorem Session.cleared_world : s.cleared.world = s.world := rfl

/-- A count stands behind its preconditions. -/
theorem countOnly_eq_behindChecks (agents : Agents σ) (setup : Setup) (request : Request) :
    countOnly agents setup request =
      behindChecks setup request (pure ()) (counting agents setup request) := by
  unfold countOnly behindChecks
  refine bind_congr fun s => ?_
  cases setup.preflight s.world.disk with
  | error e => rfl
  | ok =>
    dsimp only
    rw [pure_bind]
    refine bind_congr fun result => ?_
    cases result with
    | error e => rfl
    | ok files => rfl

/-- A migration stands behind its preconditions, but that the history has gone before them. -/
theorem migrate_eq_behindChecks (agents : Agents σ) (setup : Setup) (request : Request)
    (s : Session σ) :
    migrate agents setup request s =
      behindChecks setup request (log "Starting code migration process")
        (migrating agents setup request) s.cleared := by
  have hcleared : (modify fun s : Session σ => { s with history := .empty } : Activity σ Unit) s =
      .ok () s.cleared := rfl
  unfold migrate behindChecks
  rw [bind_of_ok hcleared, get_bind, get_bind]
  cases setup.preflight s.cleared.world.disk with
  | error e => rfl
  | ok =>
    dsimp only
    refine congrFun (bind_congr fun _ => bind_congr fun result => ?_) s.cleared
    cases result with
    | error e => rfl
    | ok files =>
      cases files with
      | nil => rfl
      | cons file files =>
        refine bind_congr fun plan => ?_
        cases plan <;> rfl

/-- A migration that passes its checks migrates the files that it selects. -/
theorem migrate_of_selects {locations : List Location} (agents : Agents σ)
    (hpreflight : setup.preflight s.world.disk = .ok ())
    (h : setup.Selects request s.world.disk locations) :
    ∃ lines, migrate agents setup request s =
      migrating agents setup request (locations.map Location.text) (s.cleared.noted lines) := by
  rw [migrate_eq_behindChecks]
  exact behindChecks_of_selects (.log _) hpreflight h

/-- A migration carries out the plan that it makes for the files that it selects. -/
theorem migrate_of_plan {files : List String} {plan : Plan}
    (hpreflight : setup.preflight s.world.disk = .ok ())
    (henumerate : enumerate setup request (s.cleared.noted ["Starting code migration process"]) =
      .ok (.ok files) s₁)
    (hne : files ≠ []) (hplan : Migration.plan agents setup request files s₁ = .ok plan s') :
    migrate agents setup request s = carryOut agents setup request plan s' := by
  rw [migrate_eq_behindChecks]
  unfold behindChecks
  rw [get_bind, show s.cleared.world = s.world from rfl, hpreflight]
  dsimp only
  rw [log_bind, bind_of_ok henumerate]
  cases files with
  | nil => exact absurd rfl hne
  | cons file files => exact bind_of_ok hplan

end Migration

end Codemod
