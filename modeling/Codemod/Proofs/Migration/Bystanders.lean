import Codemod.Proofs.Migration.Refusal
import Codemod.Proofs.Migration.Scene

/-!
# Files without occurrences do not matter

A migration of a workspace does the same when there are bystanders among the files that it selects:
it writes the same, its history is the same, and it reports the same but for the files that were
selected, skipped or left unvisited. Bystanders may lie anywhere between the other files, but they
must not change which other files are selected, as a file of ignore rules would, and must not be
further names of the other files, which a run changes under all of their names.

- `RunReport.Matches` — reports that agree
- `Scene.visitFile_parallel`, `Scene.visitFile_unnoticed` — a planned file, shared or a bystander
- `Scene.plan_parallel`, `Scene.processFiles_parallel` — the loops of a migration
- `bystanders_transparent` — whole migrations
- `not_transparent_when_hiding` — a bystander that hides another file
-/

namespace Codemod.Migration

variable {σ : Type} {agents : Agents σ} {locations locations' : List Location}
variable {report report' next : RunReport} {o : Outcome} {s s' : Session σ}

/-! ### Reports that agree -/

/-- The reports agree but for the files that were selected, skipped or left unvisited. -/
structure RunReport.Matches (report report' : RunReport) : Prop where
  processed_eq : report.processed = report'.processed
  succeeded_eq : report.succeeded = report'.succeeded
  failed_eq : report.failed = report'.failed
  patternsFixed_eq : report.patternsFixed = report'.patternsFixed
  remaining_eq : report.remaining = report'.remaining
  cancelled_eq : report.cancelled = report'.cancelled

namespace RunReport.Matches

/-- An outcome is counted the same. -/
theorem tally (h : report.Matches report') (o : Outcome) :
    (∃ e, report.tally o = .error e ∧ report'.tally o = .error e) ∨
      ∃ next next', report.tally o = .ok next ∧ report'.tally o = .ok next' ∧
        next.Matches next' := by
  unfold RunReport.tally
  by_cases hskip : o.isSkip = true
  · rw [if_pos hskip, if_pos hskip]
    exact .inr ⟨_, _, rfl, rfl, { h with }⟩
  · rw [if_neg hskip, if_neg hskip]
    dsimp only
    by_cases hdone : o.succeeded = true
    · rw [if_pos hdone, if_pos hdone, h.patternsFixed_eq]
      cases addTotals report'.patternsFixed o.fixed with
      | error e => exact .inl ⟨e, rfl, rfl⟩
      | ok sum =>
        refine .inr ⟨_, _, rfl, rfl,
          { h with processed_eq := ?_, succeeded_eq := ?_, patternsFixed_eq := rfl }⟩
        · exact congrArg (· + 1) h.processed_eq
        · exact congrArg (· + 1) h.succeeded_eq
    · rw [if_neg hdone, if_neg hdone]
      refine .inr ⟨_, _, rfl, rfl, { h with processed_eq := ?_, failed_eq := ?_ }⟩
      · exact congrArg (· + 1) h.processed_eq
      · exact congrArg (· + 1) h.failed_eq

end RunReport.Matches

namespace Scene

variable {scene : Scene} {rel : Location}

/-! ### The history -/

theorem recordInitial_parallel (agents : Agents σ) (total : UInt64) :
    Parallel scene.Beside Eq (recordInitial agents total) (recordInitial agents total) := by
  intro s s' h
  refine .ok rfl (h.of_unchanged (.refl h.found) (.refl h.found') h.clear h.clear' ?_)
  show (s.history.recordInitial _ _).points = (s'.history.recordInitial _ _).points
  rw [History.recordInitial, History.recordInitial, History.points_push, History.points_push,
    h.points_eq]
  rfl

theorem recordOutcome_parallel (agents : Agents σ) (o : Outcome) :
    Parallel scene.Beside Eq (recordOutcome agents o) (recordOutcome agents o) := by
  unfold recordOutcome
  by_cases hdone : o.succeeded = true
  · rw [if_pos hdone]
    intro s s' h
    rw [get_bind, get_bind]
    obtain ⟨e, hfix, hfix'⟩ | ⟨later, later', hfix, hfix', hpoints⟩ :=
      History.recordFix_of_points h.points_eq (agents.now s.world) (agents.now s'.world) o.file
        o.fixed
    · rw [hfix, hfix']
      exact .error h
    · rw [hfix, hfix']
      exact .ok rfl (h.of_unchanged (.refl h.found) (.refl h.found') h.clear h.clear' hpoints)
  · rw [if_neg hdone]
    exact .pure rfl

theorem remaining_parallel : Parallel (σ := σ) scene.Beside Eq remaining remaining :=
  fun _ _ h => .ok (History.currentTotal_of_points h.points_eq) h

/-! ### Visiting a planned file -/

/-- A shared file is visited the same. -/
theorem visitFile_parallel (h : scene.Admits agents) (hrel : scene.shared rel)
    (hreport : report.Matches report') (known : Option UInt64) (total total' index index' : Nat) :
    Parallel scene.Beside (fun v v' => v.1 = v'.1 ∧ v.2.Matches v'.2)
      (visitFile agents scene.setup scene.request total index report (Location.text rel, known))
      (visitFile agents scene.setup scene.request total' index' report'
        (Location.text rel, known)) := by
  unfold visitFile
  refine (log_parallel _ _).bind fun _ _ _ => ((steady h hrel).runStep known).bind ?_
  rintro o _ rfl
  refine (Parallel.checked (hreport.tally o)).bind fun next next' hnext => ?_
  refine (recordOutcome_parallel agents o).bind fun _ _ _ => ?_
  exact .pure ⟨rfl, hnext⟩

/-- A bystander is visited without anything to be seen of it. -/
theorem visitFile_unnoticed (agents : Agents σ) (hrel : rel ∈ scene.bystanders)
    (hreport : report.Matches report') (total index : Nat) :
    Unnoticed scene.Beside (fun v => v.1.state = .skipped ∧ report.Matches v.2)
      (visitFile agents scene.setup scene.request total index report'
        (Location.text rel, some 0)) := by
  unfold visitFile
  refine (log_unnoticed _).bind fun _ _ => (runStep_unnoticed agents hrel).bind ?_
  rintro o rfl
  exact .pure ⟨rfl, { hreport with }⟩

/-! ### Plans -/

/-- The path is that of a shared file. -/
def IsShared (scene : Scene) (file : String) : Prop :=
  ∃ rel, scene.shared rel ∧ Location.text rel = file

/-- The path is that of a bystander. -/
def IsBystander (scene : Scene) (file : String) : Prop :=
  ∃ rel ∈ scene.bystanders, Location.text rel = file

/-- Files of both workspaces, with bystanders between those of the second. -/
def FilesBeside (scene : Scene) : List String → List String → Prop :=
  Interspersed scene.IsShared scene.IsBystander

/-- Planned files of both workspaces, with bystanders between those of the second. -/
def PlannedBeside (scene : Scene) : List Planned → List Planned → Prop :=
  Interspersed (fun p => scene.IsShared p.1) (fun p => scene.IsBystander p.1 ∧ p.2 = some 0)

/-- Plans for both workspaces. -/
inductive PlansBeside (scene : Scene) : Plan → Plan → Prop
  | nothing : PlansBeside scene .nothing .nothing
  | files {planned planned' : List Planned} :
    scene.PlannedBeside planned planned' →
    PlansBeside scene (.files planned) (.files planned')

variable {files files' : List String} {planned planned' : List Planned} {plan plan' : Plan}

theorem countFile_parallel (h : scene.Admits agents) (hrel : scene.shared rel) :
    Parallel scene.Beside Eq
      (countFile agents scene.setup scene.request.find (Location.text rel))
      (countFile agents scene.setup scene.request.find (Location.text rel)) :=
  (steady h hrel).countFile

/-- The search for the first file with occurrences passes over bystanders. -/
theorem planFirst_parallel (h : scene.Admits agents) (hfiles : scene.FilesBeside files files') :
    Parallel scene.Beside scene.PlansBeside
      (planFirst agents scene.setup scene.request.find files)
      (planFirst agents scene.setup scene.request.find files') := by
  rw [planFirst_eq, planFirst_eq]
  refine Loop.parallel (V := fun _ _ => True) (fun s s' hrel => ⟨hrel.clear, hrel.clear'⟩) ?_ ?_ ?_
    hfiles trivial
  · exact fun _ _ _ => (log_parallel _ _).bind fun _ _ _ => .pure .nothing
  · -- a shared file has the same count in both workspaces
    rintro _ _ file rest rest' ⟨rel, hrel, rfl⟩ - -
    refine (countFile_parallel h hrel).bind ?_
    rintro known _ rfl
    dsimp only
    by_cases hzero : known.getD 0 = 0
    · rw [if_pos hzero]
      exact .pure (.both trivial)
    · rw [if_neg hzero]
      refine (log_parallel _ _).bind fun _ _ _ => (log_parallel _ _).bind fun _ _ _ => ?_
      refine (recordInitial_parallel agents _).bind fun _ _ _ => .pure (.neither ?_)
      exact .files (.common ⟨rel, hrel, rfl⟩ .nil)
  · -- a bystander has none, and the search goes on
    rintro _ _ file rest' ⟨rel, hrel, rfl⟩ -
    refine (countFile_unnoticed h hrel).bind ?_
    rintro _ rfl
    exact .pure ⟨(), rfl, trivial⟩

/-- A scan finds the same files, and bystanders between them, and the same total. -/
theorem scanAll_parallel (h : scene.Admits agents) (hfiles : scene.FilesBeside files files') :
    Parallel scene.Beside
      (fun found found' => ∃ planned planned' total, found = some (planned, total) ∧
        found' = some (planned', total) ∧ scene.PlannedBeside planned planned')
      (scanAll agents scene.setup scene.request.find [] 0 files)
      (scanAll agents scene.setup scene.request.find [] 0 files') := by
  have hstart : scene.PlannedBeside [] [] ∧ (0 : UInt64) = 0 := ⟨.nil, rfl⟩
  rw [scanAll_eq, scanAll_eq]
  refine Loop.parallel
    (V := fun found found' => scene.PlannedBeside found.1 found'.1 ∧ found.2 = found'.2)
    (fun s s' hrel => ⟨hrel.clear, hrel.clear'⟩) ?_ ?_ ?_ hfiles hstart
  · rintro ⟨planned, total⟩ ⟨planned', _⟩ ⟨hplanned, rfl⟩
    exact .pure ⟨planned, planned', total, rfl, rfl, hplanned⟩
  · rintro ⟨planned, total⟩ ⟨planned', _⟩ file rest rest' ⟨rel, hrel, rfl⟩ ⟨hplanned, rfl⟩ -
    refine (countFile_parallel h hrel).bind ?_
    rintro known _ rfl
    have hmore : scene.PlannedBeside (planned ++ [(Location.text rel, known)])
        (planned' ++ [(Location.text rel, known)]) :=
      hplanned.append (.common ⟨rel, hrel, rfl⟩ .nil)
    dsimp only
    by_cases hzero : known.getD 0 = 0
    · rw [if_pos hzero, if_pos hzero]
      exact .pure (.both ⟨hmore, rfl⟩)
    · rw [if_neg hzero, if_neg hzero]
      refine (log_parallel _ _).bind fun _ _ _ => ?_
      refine ((steady h hrel).checked (addCounts total (known.getD 0))).bind ?_
      rintro sum _ rfl
      exact .pure (.both ⟨hmore, rfl⟩)
  · -- a bystander is planned in the second workspace only, and adds nothing to the total
    rintro ⟨planned, total⟩ ⟨planned', _⟩ file rest' ⟨rel, hrel, rfl⟩ ⟨hplanned, rfl⟩
    refine (countFile_unnoticed h hrel).bind ?_
    rintro _ rfl
    have hmore : scene.PlannedBeside (planned ++ [])
        (planned' ++ [(Location.text rel, some 0)]) :=
      hplanned.append (.further ⟨⟨rel, hrel, rfl⟩, rfl⟩ .nil)
    rw [List.append_nil] at hmore
    exact .pure ⟨_, rfl, hmore, rfl⟩

theorem plan_parallel (h : scene.Admits agents) (hfiles : scene.FilesBeside files files') :
    Parallel scene.Beside scene.PlansBeside
      (Migration.plan agents scene.setup scene.request files)
      (Migration.plan agents scene.setup scene.request files') := by
  unfold Migration.plan
  by_cases hone : scene.request.action = .migrateOneFile
  · rw [if_pos hone, if_pos hone]
    exact (log_parallel _ _).bind fun _ _ _ => planFirst_parallel h hfiles
  · rw [if_neg hone, if_neg hone]
    unfold planAll
    refine (log_parallel _ _).bind fun _ _ _ => (scanAll_parallel h hfiles).bind ?_
    rintro _ _ ⟨planned, planned', total, rfl, rfl, hplanned⟩
    refine (recordInitial_parallel agents total).bind fun _ _ _ => ?_
    by_cases hzero : total = 0
    · rw [if_pos hzero, if_pos hzero]
      exact (log_parallel _ _).bind fun _ _ _ => .pure .nothing
    · rw [if_neg hzero, if_neg hzero]
      refine (log_parallel _ _).bind fun _ _ _ => (log_parallel _ _).bind fun _ _ _ => ?_
      exact .pure (.files hplanned)

/-! ### Carrying out a plan -/

/-- A policy goes on after a bystander, and after the last shared file it may stop with only
bystanders left. -/
theorem processFiles_parallel (h : scene.Admits agents)
    (hplanned : scene.PlannedBeside planned planned') (hreport : report.Matches report')
    (total total' : Nat) :
    Parallel scene.Beside RunReport.Matches
      (processFiles agents scene.setup scene.request total report 1 planned)
      (processFiles agents scene.setup scene.request total' report' 1 planned') := by
  rw [processFiles_eq, processFiles_eq]
  refine Loop.parallel (V := fun at_ at_' => at_.1.Matches at_'.1)
    (fun s s' hrel => ⟨hrel.clear, hrel.clear'⟩) ?_ ?_ ?_ hplanned hreport
  · intro at_ at_' hreport s s' hrel
    show Alike _ _ (.ok at_.1 s) (.ok at_'.1 s')
    exact .ok hreport hrel
  · rintro ⟨report, index⟩ ⟨report', index'⟩ ⟨_, known⟩ rest rest' ⟨rel, hrel, rfl⟩ hreport hrest
    refine (visitFile_parallel h hrel hreport known total total' index index').bind ?_
    rintro ⟨o, next⟩ ⟨_, next'⟩ ⟨rfl, hnext⟩
    dsimp only
    cases hstops : stopsAfter scene.request.stopPolicy o with
    | false => exact .pure (.both hnext)
    | true =>
      cases rest with
      | cons p rest =>
        cases rest' with
        | nil => cases hrest.nil_of_nil
        | cons p' rest' =>
          exact (log_parallel _ _).bind fun _ _ _ => .pure (.neither { hnext with })
      | nil =>
        cases rest' with
        | nil => exact .pure (.both hnext)
        | cons p' rest' =>
          -- only bystanders are left, and only the second run has them
          intro s s' hrel
          exact .ok (.first rfl rfl { hnext with }) (hrel.noted_second _)
  · -- a bystander is skipped, and no policy stops after that
    rintro ⟨report, index⟩ ⟨report', index'⟩ ⟨_, _⟩ rest' ⟨⟨rel, hrel, rfl⟩, rfl⟩ hreport
    refine (visitFile_unnoticed agents hrel hreport total' index').bind ?_
    rintro ⟨o, next⟩ ⟨hskipped, hnext⟩
    have hgoes : stopsAfter scene.request.stopPolicy o = false := by
      unfold stopsAfter Outcome.succeeded Outcome.isSkip
      rw [hskipped]
      cases scene.request.stopPolicy <;> rfl
    dsimp only
    rw [hgoes]
    exact .pure ⟨_, rfl, hnext⟩

/-- Both activities end in reports that agree. -/
def ReportsBeside (result result' : Except RunError RunReport) : Prop :=
  ∃ report report', result = .ok report ∧ result' = .ok report' ∧ report.Matches report'

theorem carryOut_parallel (h : scene.Admits agents) (hplan : scene.PlansBeside plan plan') :
    Parallel scene.Beside ReportsBeside (carryOut agents scene.setup scene.request plan)
      (carryOut agents scene.setup scene.request plan') := by
  cases hplan with
  | nothing =>
    refine remaining_parallel.bind ?_
    rintro left _ rfl
    exact .pure ⟨_, _, rfl, rfl, ⟨rfl, rfl, rfl, rfl, rfl, rfl⟩⟩
  | @files planned planned' hplanned =>
    have hstart : RunReport.Matches { filesTotal := planned.length }
        { filesTotal := planned'.length } := ⟨rfl, rfl, rfl, rfl, rfl, rfl⟩
    refine (processFiles_parallel h hplanned hstart planned.length planned'.length).bind ?_
    intro report report' hreport
    refine remaining_parallel.bind ?_
    rintro left _ rfl
    refine (log_parallel _ _).bind fun _ _ _ => ?_
    exact .pure ⟨_, _, rfl, rfl, { hreport with remaining_eq := rfl }⟩

theorem migrating_parallel (h : scene.Admits agents) (hfiles : scene.FilesBeside files files')
    (hne : files ≠ []) :
    Parallel scene.Beside ReportsBeside (migrating agents scene.setup scene.request files)
      (migrating agents scene.setup scene.request files') := by
  obtain ⟨first, rest, rfl⟩ := List.exists_cons_of_ne_nil hne
  cases files' with
  | nil => cases hfiles.nil_of_nil
  | cons first' rest' =>
    rw [migrating_cons, migrating_cons]
    exact (plan_parallel h hfiles).bind fun plan plan' hplan => carryOut_parallel h hplan

/-! ### Whole migrations -/

/-- Both runs are refused by the same check, or both migrate and their reports agree. -/
inductive RunsBeside (check : Except RunError Unit) :
    Except RunError Report → Except RunError Report → Prop
  | refused {e : RunError} : check = .error e → RunsBeside check (.error e) (.error e)
  | migrated {report report' : RunReport} :
    check = .ok () → report.Matches report' →
    RunsBeside check (.ok (.migrated report)) (.ok (.migrated report'))

/-- Bystanders lie between the other files that are selected. -/
theorem filesBeside_of_filter (hshared : ∀ rel ∈ locations, scene.shared rel)
    (hothers : locations'.filter (· ∉ scene.bystanders) = locations) :
    scene.FilesBeside (locations.map Location.text) (locations'.map Location.text) := by
  subst hothers
  refine .of_filter (fun rel hrel hother => ⟨rel, hshared rel ?_, rfl⟩)
    fun rel _ hbystander => ⟨rel, ?_, rfl⟩
  · exact List.mem_filter.mpr ⟨hrel, hother⟩
  · simpa using hbystander

/-- Both workspaces pass the preconditions of a run, or neither. -/
theorem Beside.preflight_eq (h : scene.Beside s s') :
    scene.setup.preflight s'.world.disk = scene.setup.preflight s.world.disk := by
  have hleft := Setup.isDirectory_iff.mpr ⟨_, h.found⟩
  have hright := Setup.isDirectory_iff.mpr ⟨_, h.found'⟩
  unfold Setup.preflight
  rw [hleft, hright]

end Scene

/-- A migration does the same beside bystanders, which may lie anywhere between the files that are
selected: the histories have the same points, the shared files are the same afterwards, and the
reports agree but for the files that were selected, skipped or left unvisited. The other files that
are selected must be the same, and no bystander a further name of one. -/
theorem bystanders_transparent {scene : Scene} (hadmits : scene.Admits agents)
    (haction : scene.request.action ≠ .countOnly) (hbeside : scene.Beside s.cleared s'.cleared)
    (hselects : scene.setup.Selects scene.request s.world.disk locations)
    (hselects' : scene.setup.Selects scene.request s'.world.disk locations')
    (hne : locations ≠ []) (hshared : ∀ rel ∈ locations, scene.shared rel)
    (hothers : locations'.filter (· ∉ scene.bystanders) = locations) :
    Alike scene.Beside (Scene.RunsBeside (scene.setup.preflight s.world.disk))
      (run agents scene.setup scene.request s) (run agents scene.setup scene.request s') := by
  have hsame := hbeside.preflight_eq
  rw [Session.cleared_world, Session.cleared_world] at hsame
  cases hcheck : scene.setup.preflight s.world.disk with
  | error e =>
    obtain ⟨lines, hrun⟩ := run_of_refuses (Setup.refuses_iff.mpr (.inl hcheck))
    obtain ⟨lines', hrun'⟩ := run_of_refuses (Setup.refuses_iff.mpr (.inl (hsame.trans hcheck)))
    rw [hrun, hrun', if_neg haction, if_neg haction]
    exact .ok (.refused rfl) (hbeside.noted lines lines')
  | ok =>
    obtain ⟨lines, hmigrate⟩ := migrate_of_selects agents hcheck hselects
    obtain ⟨lines', hmigrate'⟩ := migrate_of_selects agents (hsame.trans hcheck) hselects'
    rw [run_of_migration haction, bind_of_eq hmigrate, bind_of_eq hmigrate']
    have hfiles := Scene.filesBeside_of_filter hshared hothers
    refine (Scene.migrating_parallel hadmits hfiles (by simpa using hne)).bind ?_ _ _
      (hbeside.noted lines lines')
    rintro _ _ ⟨report, report', rfl, rfl, hreport⟩
    exact .pure (.migrated rfl hreport)

/-! ### A script that is done already -/

/-- The answers of the obliging model. -/
def obligingAnswer (prompt : String) : Except ModelError String :=
  (obliging.complete mixedSession.world prompt).value

theorem obliging_spares (base : String) : obliging.Spares base where
  complete _ _ _ hfound := ⟨hfound, fun _ _ => rfl⟩
  verify _ _ _ _ hfound := ⟨hfound, fun _ _ => rfl⟩

theorem obliging_sparesNames (base : String) : obliging.SparesNames base where
  toSpares := obliging_spares base
  complete_names _ _ _ _ _ _ := rfl
  verify_names _ _ _ _ _ _ _ := rfl

theorem obliging_determined (base : String) (shared : Location → Prop) :
    obliging.Determined base shared obligingAnswer where
  complete _ _ := rfl
  verify _ _ _ _ := rfl
  volume _ _ _ _ _ := rfl

theorem obliging_admits {scene : Scene} (hanswer : scene.answer = obligingAnswer) :
    scene.Admits obliging where
  spares := obliging_sparesNames _
  never := obliging_neverStops
  determined := hanswer ▸ obliging_determined _ _

/-- The mixed workspace without the script that is done. -/
def unmixedSession : Session Unit where
  world := {
    disk := [("b.js", ⟨#[0xFF]⟩), ("c.js", "old".toUTF8), ("d.js", "old".toUTF8)].foldl
      (fun fs script => fs.plant ["w", script.1] (.file script.2)) default
    memory := () }

/-- The mixed workspace and the one without the script that is done. -/
def mixedScene : Scene where
  setup := smallSetup
  request := smallRequest
  answer := obligingAnswer
  shared rel := rel ∈ [["b.js"], ["c.js"], ["d.js"]]
  bystanders := [["a.js"]]
  root := ["w"]
  root' := ["w"]

theorem unmixedSession_beside : mixedScene.Beside unmixedSession.cleared mixedSession.cleared where
  found := by decide +kernel
  found' := by decide +kernel
  shared rel hrel := by
    have hrel : rel ∈ [["b.js"], ["c.js"], ["d.js"]] := hrel
    simp only [List.mem_cons, List.not_mem_nil, or_false] at hrel
    obtain rfl | rfl | rfl := hrel
    all_goals exact ⟨_, .last (by decide) (by rfl), .last (by decide) (by rfl)⟩
  bystanders rel hrel := by
    obtain rfl := List.mem_singleton.mp hrel
    exact ⟨"done", .last (by decide) (by rfl), by decide, by decide +kernel⟩
  alike _ _ _ _ := rfl
  apart a ha b hb := by
    have ha : a ∈ [["b.js"], ["c.js"], ["d.js"]] := ha
    simp only [List.mem_cons, List.not_mem_nil, or_false] at ha
    obtain rfl := List.mem_singleton.mp hb
    obtain rfl | rfl | rfl := ha
    all_goals rfl
  clear := rfl
  clear' := rfl
  points_eq := rfl

theorem unmixedSession_selects : smallSetup.Selects smallRequest unmixedSession.world.disk
    [["b.js"], ["c.js"], ["d.js"]] := by
  refine Setup.selects_of_toOption ?_
  rw [Walker.matching_of_sorted (by decide +kernel)]
  decide +kernel

theorem mixedScene_admits : mixedScene.Admits obliging := obliging_admits rfl

/-- The script that is done makes no difference to a migration of the mixed workspace. -/
theorem bystanders_transparent_mixed :
    Alike mixedScene.Beside (Scene.RunsBeside (.ok ()))
      (run obliging smallSetup smallRequest unmixedSession)
      (run obliging smallSetup smallRequest mixedSession) :=
  have haction : mixedScene.request.action ≠ .countOnly := by decide
  bystanders_transparent mixedScene_admits haction unmixedSession_beside unmixedSession_selects
    mixedSession_selects (by decide) (fun _ hrel => hrel) (by decide)

/-! ### A bystander that hides a script -/

/-- The workspace with one script, and ignore rules that hide it. -/
def hidingSession : Session Unit where
  world := {
    disk := scriptSession.world.disk.set ["w", ".ignore"] (.file "a.js\n".toUTF8)
    memory := () }

/-- The workspace with one script, alone and beside ignore rules. Hidden files are selected too. -/
def hidingScene : Scene where
  setup := { smallSetup with walker := { includeHidden := true } }
  request := { smallRequest with fileGlob := "**" }
  answer := obligingAnswer
  shared rel := rel = ["a.js"]
  bystanders := [[".ignore"]]
  root := ["w"]
  root' := ["w"]

theorem hidingSession_beside : hidingScene.Beside scriptSession.cleared hidingSession.cleared where
  found := by decide +kernel
  found' := by decide +kernel
  shared rel hrel := by
    obtain rfl : rel = ["a.js"] := hrel
    exact ⟨_, .last (by decide) (by rfl), .last (by decide) (by rfl)⟩
  bystanders rel hrel := by
    obtain rfl := List.mem_singleton.mp hrel
    exact ⟨"a.js\n", .last (by decide) (by rfl), by decide, by decide +kernel⟩
  alike _ _ _ _ := rfl
  apart a ha b hb := by
    obtain rfl : a = ["a.js"] := ha
    obtain rfl := List.mem_singleton.mp hb
    rfl
  clear := rfl
  clear' := rfl
  points_eq := rfl

theorem hidingScene_admits : hidingScene.Admits obliging := obliging_admits rfl

/-- It is not enough that the bystanders are selected and nothing else is added: among them may be
ignore rules, and a script that these hide is migrated only where they are not. -/
theorem not_transparent_when_hiding :
    ¬∀ (scene : Scene) (agents : Agents Unit) (locations locations' : List Location)
      (s s' : Session Unit), scene.Admits agents → scene.request.action ≠ .countOnly →
      scene.Beside s.cleared s'.cleared →
      (∀ rel ∈ scene.bystanders, s.world.disk.get? (scene.root ++ rel) = none) →
      (∀ l, (∀ rel ∈ scene.bystanders, l ≠ scene.root' ++ rel) →
        s'.world.disk.get? l = s.world.disk.get? l) →
      scene.setup.Selects scene.request s.world.disk locations →
      scene.setup.Selects scene.request s'.world.disk locations' → locations ≠ [] →
      (∀ rel ∈ locations, scene.shared rel) → (∀ rel ∈ scene.bystanders, rel ∈ locations') →
      Alike scene.Beside (Scene.RunsBeside (scene.setup.preflight s.world.disk))
        (run agents scene.setup scene.request s) (run agents scene.setup scene.request s') := by
  intro h
  have hadded : ∀ l, (∀ rel ∈ hidingScene.bystanders, l ≠ hidingScene.root' ++ rel) →
      hidingSession.world.disk.get? l = scriptSession.world.disk.get? l := by
    intro l hl
    have hne : l ≠ ["w", ".ignore"] := hl [".ignore"] (List.mem_singleton.mpr rfl)
    exact (FileSystem.get?_set _ _ _ _ (by decide)).trans (if_neg hne)
  have hends := h hidingScene obliging [["a.js"]] [[".ignore"]] scriptSession hidingSession
    hidingScene_admits (by decide) hidingSession_beside (by decide +kernel) hadded
    (Setup.selects_of_toOption (by decide +kernel))
    (Setup.selects_of_toOption (by decide +kernel)) (by decide)
    (fun rel hrel => List.mem_singleton.mp hrel) (by decide)
  have hpoints := hends.finalSession.points_eq
  revert hpoints
  decide +kernel

end Codemod.Migration
