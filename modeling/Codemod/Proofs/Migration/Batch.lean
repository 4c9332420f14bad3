import Codemod.Proofs.Migration.Preconditions
import Codemod.Proofs.Migration.Scan
import Codemod.Proofs.Migration.Step

/-!
# How a run can go

A run that reports goes through a scan and then through a batch of steps. `Batch` has one
constructor for each way on from a planned file, and `Course` one for each kind of run; what a run
does to the files and to the history is proved by induction on the batch.

- `Taken` — a step of a run, with the sessions before and after it
- `Booked`, `recordOutcome_run` — what the history keeps of a step
- `Tallied`, `RunReport.tally_eq_ok` — what the report counts of it
- `Batch`, `processFiles_run` — the planned files, one after the other
- `Passage`, `migrate_run` — a whole migration
- `Course`, `run_course` — a whole run
-/

namespace Codemod.Migration

variable {σ : Type} {agents : Agents σ} {setup : Setup} {request : Request}
variable {files : List String} {s s₁ s₂ s' : Session σ} {report report' : RunReport} {o : Outcome}

/-- A step that a run has taken. -/
structure Taken (σ : Type) where
  file : String
  /-- The count of the scan. -/
  known : Option UInt64
  before : Session σ
  outcome : Outcome
  after : Session σ

/-- The step went as `StepRun` says. -/
def Taken.Ran (agents : Agents σ) (job : Job) (t : Taken σ) : Prop :=
  StepRun agents job t.file t.known t.before (.ok t.outcome t.after)

/-! ### The history -/

/-- What the history keeps of a step: a point when it is done, and nothing otherwise. -/
inductive Booked (agents : Agents σ) (o : Outcome) (s : Session σ) : Session σ → Prop
  | fixed {history : History} {line : String} :
    o.state = .done → s.history.recordFix (agents.now s.world) o.file o.fixed = .ok history →
    Booked agents o s ({ s with history }.noted [line])
  | passed : o.state ≠ .done → Booked agents o s s

theorem recordOutcome_run (h : recordOutcome agents o s = .ok () s') : Booked agents o s s' := by
  unfold recordOutcome at h
  split at h
  · next hdone =>
    rw [get_bind] at h
    obtain ⟨history, s₁, hrecord, h⟩ := bind_eq_ok h
    obtain ⟨hfix, rfl⟩ := checked_eq_ok hrecord
    cases h
    exact .fixed (by simpa [Outcome.succeeded] using hdone) hfix
  · next hdone =>
    cases h
    exact .passed (by simpa [Outcome.succeeded] using hdone)

/-! ### The report -/

/-- A report with one more outcome. -/
inductive Tallied (o : Outcome) (report : RunReport) : RunReport → Prop
  | skipped : o.state = .skipped → Tallied o report { report with skipped := report.skipped + 1 }
  | done {sum : Int64} :
    o.state = .done → addTotals report.patternsFixed o.fixed = .ok sum →
    Tallied o report { report with
      processed := report.processed + 1
      succeeded := report.succeeded + 1
      patternsFixed := sum }
  | failed :
    o.state ≠ .skipped → o.state ≠ .done →
    Tallied o report { report with
      processed := report.processed + 1
      failed := report.failed + 1 }

theorem RunReport.tally_eq_ok (h : report.tally o = .ok report') : Tallied o report report' := by
  unfold tally at h
  split at h
  · next hskip =>
    cases h
    exact .skipped (by simpa [Outcome.isSkip] using hskip)
  next hskip =>
  dsimp only at h
  split at h
  · next hdone =>
    cases hsum : addTotals report.patternsFixed o.fixed with
    | error e =>
      rw [hsum] at h
      cases h
    | ok sum =>
      rw [hsum] at h
      cases h
      exact .done (by simpa [Outcome.succeeded] using hdone) hsum
  · next hdone =>
    cases h
    exact .failed (by simpa [Outcome.isSkip] using hskip)
      (by simpa [Outcome.succeeded] using hdone)

namespace Tallied

theorem filesTotal_eq (h : Tallied o report report') : report'.filesTotal = report.filesTotal := by
  cases h <;> rfl

theorem flags_eq (h : Tallied o report report') :
    report'.cancelled = report.cancelled ∧ report'.stoppedEarly = report.stoppedEarly := by
  cases h <;> exact ⟨rfl, rfl⟩

/-- A file more was visited. -/
theorem visited_eq (h : Tallied o report report') :
    report'.processed + report'.skipped = report.processed + report.skipped + 1 := by
  cases h with
  | skipped => rfl
  | done | failed => exact Nat.add_right_comm _ _ _

end Tallied

/-! ### A batch -/

/-- The planned files, one after the other, until there is none left, the run is asked to stop, or
the policy stops it. -/
inductive Batch (agents : Agents σ) (setup : Setup) (request : Request) :
    List Planned → RunReport → Session σ → List (Taken σ) → RunReport → Session σ → Prop
  | finished {report : RunReport} {s : Session σ} :
    Batch agents setup request [] report s [] report s
  | cancelled {p : Planned} {rest : List Planned} {report : RunReport} {line : String}
      {s : Session σ} :
    s.cancelled = true →
    Batch agents setup request (p :: rest) report s [] { report with cancelled := true }
      (s.noted [line])
  | stopped {p : Planned} {rest : List Planned} {report report₁ : RunReport} {o : Outcome}
      {line line' : String} {s s₁ s₂ : Session σ} :
    s.cancelled = false →
    Taken.Ran agents (setup.job request) ⟨p.1, p.2, s.noted [line], o, s₁⟩ →
    report.tally o = .ok report₁ → Booked agents o s₁ s₂ →
    stopsAfter request.stopPolicy o = true → rest ≠ [] →
    Batch agents setup request (p :: rest) report s [⟨p.1, p.2, s.noted [line], o, s₁⟩]
      { report₁ with stoppedEarly := true } (s₂.noted [line'])
  | next {p : Planned} {rest : List Planned} {report report₁ report' : RunReport} {o : Outcome}
      {line : String} {steps : List (Taken σ)} {s s₁ s₂ s' : Session σ} :
    s.cancelled = false →
    Taken.Ran agents (setup.job request) ⟨p.1, p.2, s.noted [line], o, s₁⟩ →
    report.tally o = .ok report₁ → Booked agents o s₁ s₂ →
    (stopsAfter request.stopPolicy o = true → rest = []) →
    Batch agents setup request rest report₁ s₂ steps report' s' →
    Batch agents setup request (p :: rest) report s (⟨p.1, p.2, s.noted [line], o, s₁⟩ :: steps)
      report' s'

theorem processFiles_run {planned : List Planned} {total index : Nat}
    (h : processFiles agents setup request total report index planned s = .ok report' s') :
    ∃ steps, Batch agents setup request planned report s steps report' s' := by
  -- one planned file after the other; an overflow would have ended the run without a report
  induction planned generalizing report index s with
  | nil =>
    cases h
    exact ⟨[], .finished⟩
  | cons p rest ih =>
    obtain ⟨file, known⟩ := p
    unfold processFiles at h
    rw [isCancelled_bind] at h
    split at h
    · next hcancelled =>
      rw [log_bind] at h
      cases h
      exact ⟨[], .cancelled hcancelled⟩
    next hgoes =>
    rw [Bool.not_eq_true] at hgoes
    rw [log_bind] at h
    obtain ⟨o, s₁, hstep, h⟩ := bind_eq_ok h
    have hran := runStep_run agents (setup.job request) file known
      (s.noted [s!"Processing file {index}/{total}: {file}"])
    rw [hstep] at hran
    obtain ⟨report₁, s₂, hchecked, hrest⟩ := bind_eq_ok h
    obtain ⟨htally, rfl⟩ := checked_eq_ok hchecked
    obtain ⟨⟨⟩, s₃, hrecord, hafter⟩ := bind_eq_ok hrest
    have hbooked := recordOutcome_run hrecord
    split at hafter
    · next hstop =>
      rw [log_bind] at hafter
      cases hafter
      rw [Bool.and_eq_true] at hstop
      exact ⟨_, .stopped hgoes hran htally hbooked hstop.1 (by simpa using hstop.2)⟩
    · next hgo =>
      obtain ⟨steps, hbatch⟩ := ih hafter
      refine ⟨_, .next hgoes hran htally hbooked (fun hstop => ?_) hbatch⟩
      simpa [hstop] using hgo

/-- A batch leaves the number of planned files in the report. -/
theorem Batch.filesTotal_eq {planned : List Planned} {steps : List (Taken σ)}
    (h : Batch agents setup request planned report s steps report' s') :
    report'.filesTotal = report.filesTotal := by
  induction h with
  | finished | cancelled => rfl
  | stopped _ _ htally => exact (RunReport.tally_eq_ok htally).filesTotal_eq
  | next _ _ htally _ _ _ ih => exact ih.trans (RunReport.tally_eq_ok htally).filesTotal_eq

/-! ### A whole run -/

/-- The kinds of run that report, with the steps that they take. -/
inductive Course (agents : Agents σ) (setup : Setup) (request : Request) (s : Session σ) :
    Report → List (Taken σ) → Session σ → Prop
  /-- Occurrences are counted. -/
  | counted {report : CountReport} {s' : Session σ} :
    request.action = .countOnly → Quiet agents s s' →
    Course agents setup request s (.counted report) [] s'
  /-- No file matches. -/
  | unmatched {s' : Session σ} :
    request.action ≠ .countOnly → setup.Selects request s.world.disk [] →
    Quiet agents s.cleared s' → Course agents setup request s (.migrated {}) [] s'
  /-- The scan finds nothing to do. -/
  | idle {locations : List Location} {s₁ s₂ : Session σ} :
    request.action ≠ .countOnly → setup.Selects request s.world.disk locations →
    locations ≠ [] → Quiet agents s.cleared s₁ →
    Surveyed agents setup request (locations.map Location.text) s₁ .nothing s₂ →
    Course agents setup request s (.migrated { remaining := s₂.history.currentTotal }) [] s₂
  /-- The run is asked to stop during the scan. -/
  | cancelled {locations : List Location} {line : String} {s₁ s₂ : Session σ} :
    request.action ≠ .countOnly → setup.Selects request s.world.disk locations →
    locations ≠ [] → Quiet agents s.cleared s₁ →
    Surveyed agents setup request (locations.map Location.text) s₁ .cancelled s₂ →
    Course agents setup request s
      (.migrated { cancelled := true, remaining := s₂.history.currentTotal }) []
      (s₂.noted [line])
  /-- Files are migrated. -/
  | batch {locations : List Location} {planned : List Planned} {steps : List (Taken σ)}
      {report : RunReport} {line : String} {s₁ s₂ s₃ : Session σ} :
    request.action ≠ .countOnly → setup.Selects request s.world.disk locations →
    locations ≠ [] → Quiet agents s.cleared s₁ →
    Surveyed agents setup request (locations.map Location.text) s₁ (.files planned) s₂ →
    Batch agents setup request planned { filesTotal := planned.length } s₂ steps report s₃ →
    Course agents setup request s (.migrated { report with remaining := s₃.history.currentTotal })
      steps (s₃.noted [line])

/-- The kinds of migration that report: as `Course` has them, whatever the action of the request,
with the plan that was made. -/
inductive Passage (agents : Agents σ) (setup : Setup) (request : Request) (s : Session σ) :
    RunReport → List (Taken σ) → Session σ → Prop
  | unmatched {lines : List String} :
    setup.Selects request s.world.disk [] →
    Passage agents setup request s {} [] (s.cleared.noted lines)
  | idle {locations : List Location} {lines : List String} {s₂ : Session σ} :
    setup.Selects request s.world.disk locations → locations ≠ [] →
    plan agents setup request (locations.map Location.text) (s.cleared.noted lines) =
      .ok .nothing s₂ →
    Passage agents setup request s { remaining := s₂.history.currentTotal } [] s₂
  | cancelled {locations : List Location} {lines : List String} {line : String}
      {s₂ : Session σ} :
    setup.Selects request s.world.disk locations → locations ≠ [] →
    plan agents setup request (locations.map Location.text) (s.cleared.noted lines) =
      .ok .cancelled s₂ →
    Passage agents setup request s
      { cancelled := true, remaining := s₂.history.currentTotal } [] (s₂.noted [line])
  | batch {locations : List Location} {planned : List Planned} {steps : List (Taken σ)}
      {report : RunReport} {lines : List String} {line : String} {s₂ s₃ : Session σ} :
    setup.Selects request s.world.disk locations → locations ≠ [] →
    plan agents setup request (locations.map Location.text) (s.cleared.noted lines) =
      .ok (.files planned) s₂ →
    processFiles agents setup request planned.length { filesTotal := planned.length } 1 planned
      s₂ = .ok report s₃ →
    Batch agents setup request planned { filesTotal := planned.length } s₂ steps report s₃ →
    Passage agents setup request s { report with remaining := s₃.history.currentTotal } steps
      (s₃.noted [line])

theorem Passage.course {steps : List (Taken σ)} (haction : request.action ≠ .countOnly)
    (h : Passage agents setup request s report steps s') :
    Course agents setup request s (.migrated report) steps s' := by
  cases h with
  | @unmatched lines hselects => exact .unmatched haction hselects (.noted lines)
  | @idle _ lines _ hselects hne hplan =>
    exact .idle haction hselects hne (.noted lines) (plan_run hplan)
  | @cancelled _ lines _ _ hselects hne hplan =>
    exact .cancelled haction hselects hne (.noted lines) (plan_run hplan)
  | @batch _ _ _ _ lines _ _ _ hselects hne hplan _ hbatch =>
    exact .batch haction hselects hne (.noted lines) (plan_run hplan) hbatch

theorem countFiles_quiet {find : String} {report report' : CountReport}
    (h : countFiles agents setup find report files s = .ok report' s') : Quiet agents s s' := by
  induction files generalizing report s with
  | nil =>
    cases h
    exact .refl s'
  | cons file rest ih =>
    unfold countFiles at h
    rw [isCancelled_bind] at h
    obtain ⟨known, s₁, hcount, hquiet, -⟩ := countFile_run agents setup find file s
    split at h
    · rw [log_bind] at h
      cases h
      exact .noted _
    rw [bind_of_ok hcount] at h
    cases known with
    | none => exact hquiet.trans (ih h)
    | some n =>
      dsimp only at h
      split at h
      · exact hquiet.trans (ih h)
      · rw [log_bind] at h
        obtain ⟨sum, s₂, hsum, h⟩ := bind_eq_ok h
        obtain ⟨-, rfl⟩ := checked_eq_ok hsum
        exact (hquiet.trans (.noted _)).trans (ih h)

theorem countOnly_run {report : CountReport}
    (h : countOnly agents setup request s = .ok (.ok report) s') :
    setup.preflight s.world.disk = .ok () ∧ Quiet agents s s' := by
  rw [countOnly_eq_behindChecks] at h
  obtain ⟨hpreflight, locations, lines, -, hcounting⟩ := behindChecks_eq_ok .pure h
  obtain ⟨counted, s₁, hcount, hend⟩ := bind_eq_ok hcounting
  rw [log_bind] at hend
  cases hend
  exact ⟨hpreflight, ((Quiet.noted lines).trans (countFiles_quiet hcount)).trans (.noted _)⟩

theorem migrate_run {report : RunReport}
    (h : migrate agents setup request s = .ok (.ok report) s') :
    setup.preflight s.world.disk = .ok () ∧
      ∃ steps, Passage agents setup request s report steps s' := by
  rw [migrate_eq_behindChecks] at h
  obtain ⟨hpreflight, locations, lines, hselects, hmigrating⟩ := behindChecks_eq_ok (.log _) h
  refine ⟨hpreflight, ?_⟩
  cases locations with
  | nil =>
    cases hmigrating
    exact ⟨[], .unmatched hselects⟩
  | cons first rest =>
    obtain ⟨plan, s₂, hplan, hcarried⟩ := bind_eq_ok hmigrating
    cases plan with
    | nothing =>
      cases hcarried
      exact ⟨[], .idle hselects (List.cons_ne_nil _ _) hplan⟩
    | cancelled =>
      obtain ⟨⟨⟩, s₃, hlogged, hend⟩ := bind_eq_ok hcarried
      cases hlogged
      cases hend
      exact ⟨[], .cancelled (s := s) hselects (List.cons_ne_nil _ _) hplan⟩
    | files planned =>
      obtain ⟨batched, s₃, hprocessed, hrest⟩ := bind_eq_ok hcarried
      obtain ⟨steps, hbatch⟩ := processFiles_run hprocessed
      obtain ⟨left, s₄, hleft, hend⟩ := bind_eq_ok hrest
      cases hleft
      rw [log_bind] at hend
      cases hend
      exact ⟨steps, .batch hselects (List.cons_ne_nil _ _) hplan hprocessed hbatch⟩

/-- A run that reports took one of these courses. -/
theorem run_course {report : Report} (h : run agents setup request s = .ok (.ok report) s') :
    (∃ root, s.world.disk.find setup.workspace = .ok (root, .directory)) ∧
      ∃ steps, Course agents setup request s report steps s' := by
  cases haction : request.action with
  | countOnly =>
    unfold run at h
    rw [haction] at h
    obtain ⟨result, s₁, hcount, h⟩ := bind_eq_ok h
    cases result with
    | error e => cases h
    | ok counted =>
      cases h
      obtain ⟨hpreflight, hquiet⟩ := countOnly_run hcount
      exact ⟨preflight_directory hpreflight, [], .counted haction hquiet⟩
  | migrateOneFile | migrateAllFiles =>
    unfold run at h
    rw [haction] at h
    obtain ⟨result, s₁, hmigrate, h⟩ := bind_eq_ok h
    cases result with
    | error e => cases h
    | ok migrated =>
      cases h
      obtain ⟨hpreflight, steps, hpassage⟩ := migrate_run hmigrate
      exact ⟨preflight_directory hpreflight, steps, hpassage.course (by rw [haction]; nofun)⟩

end Codemod.Migration
