import Codemod.Proofs.Migration.Agreement
import Codemod.Proofs.Migration.Remaining
import Codemod.Proofs.Migration.Stopping

/-!
# Only preconditions keep a run from its end

A run is refused by its preconditions and by nothing else, and has only logged then. What goes wrong
with a file, with the model or with the verifier stays in the step of the file: once files are
planned, all of them are visited, unless the run is asked to stop, its policy stops it, or an
overflow ends it.

- `run_of_refuses`, `refuses_of_run` — a run that is refused
- `Plans` — a migration that plans files
- `Batch.complete_or_cut`, `Plans.run_eq` — the steps that are taken of them
- `run_refused_iff` — all of it together
-/

namespace Codemod.Migration

variable {σ : Type} {agents : Agents σ} {setup : Setup} {request : Request} {e : RunError}
variable {planned : List Planned} {steps : List (Taken σ)} {report report' : RunReport}
variable {s m s' : Session σ}

/-! ### A run that is refused -/

theorem run_of_count (h : request.action = .countOnly) :
    run agents setup request =
      countOnly agents setup request >>= fun result => return result.map .counted := by
  unfold run
  rw [h]

theorem run_of_migration (h : request.action ≠ .countOnly) :
    run agents setup request =
      migrate agents setup request >>= fun result => return result.map .migrated := by
  unfold run
  cases haction : request.action with
  | countOnly => exact absurd haction h
  | migrateOneFile | migrateAllFiles => rfl

/-- A refused run has only logged. A migration has forgotten the history before that. -/
theorem run_of_refuses (h : setup.Refuses request s.world.disk e) :
    ∃ lines, run agents setup request s = .ok (.error e)
      ((if request.action = .countOnly then s else s.cleared).noted lines) := by
  by_cases haction : request.action = .countOnly
  · have hrun : ∃ lines, behindChecks setup request (pure ()) (counting agents setup request) s =
        .ok (.error e) (s.noted lines) := behindChecks_of_refuses .pure h
    obtain ⟨lines, hrun⟩ := hrun
    rw [← countOnly_eq_behindChecks] at hrun
    rw [run_of_count haction, bind_of_ok hrun, if_pos haction]
    exact ⟨lines, rfl⟩
  · have hrun : ∃ lines, behindChecks setup request (log "Starting code migration process")
        (migrating agents setup request) s.cleared = .ok (.error e) (s.cleared.noted lines) :=
      behindChecks_of_refuses (.log _) h
    obtain ⟨lines, hrun⟩ := hrun
    rw [← migrate_eq_behindChecks] at hrun
    rw [run_of_migration haction, bind_of_ok hrun, if_neg haction]
    exact ⟨lines, rfl⟩

/-- Whatever goes wrong later does not refuse a run. -/
theorem refuses_of_run (h : run agents setup request s = .ok (.error e) s') :
    setup.Refuses request s.world.disk e := by
  by_cases haction : request.action = .countOnly
  · rw [run_of_count haction, countOnly_eq_behindChecks] at h
    obtain ⟨result, s₁, hcount, hend⟩ := bind_eq_ok h
    cases result with
    | ok counted => cases hend
    | error e' =>
      cases hend
      exact refuses_of_behindChecks .pure counting_absorbs hcount
  · rw [run_of_migration haction] at h
    obtain ⟨result, s₁, hmigrate, hend⟩ := bind_eq_ok h
    cases result with
    | ok migrated => cases hend
    | error e' =>
      cases hend
      rw [migrate_eq_behindChecks] at hmigrate
      exact refuses_of_behindChecks (s := s.cleared) (.log _) migrating_absorbs hmigrate

/-! ### Planned files -/

/-- The steps have visited all planned files, or the run was asked to stop, or the policy stopped it
after the last of them. -/
theorem Batch.complete_or_cut (h : Batch agents setup request planned report s steps report' s') :
    steps.map (fun t => (t.file, t.known)) = planned ∨
      (report'.cancelled = true ∧ s'.cancelled = true) ∨
      (report'.stoppedEarly = true ∧
        ∃ t, steps.getLast? = some t ∧ request.stopPolicy.Ends t.outcome) := by
  -- one planned file after the other; the way the rest of the batch ends is the way it ends
  induction h with
  | finished => exact .inl rfl
  | cancelled hset => exact .inr (.inl ⟨rfl, hset⟩)
  | stopped _ _ _ _ hstop =>
    exact .inr (.inr ⟨rfl, _, rfl, StopPolicy.stopsAfter_iff.mp hstop⟩)
  | next _ _ _ _ _ _ ih =>
    obtain hall | hcancelled | ⟨hearly, t, hlast, hends⟩ := ih
    · exact .inl (by rw [List.map_cons, hall])
    · exact .inr (.inl hcancelled)
    · refine .inr (.inr ⟨hearly, t, ?_, hends⟩)
      rw [List.getLast?_cons, hlast]
      rfl

/-- A migration that is not refused plans files, and begins to visit them in a session. -/
structure Plans (agents : Agents σ) (setup : Setup) (request : Request) (s : Session σ)
    (planned : List Planned) (m : Session σ) : Prop where
  action : request.action ≠ .countOnly
  preflight : setup.preflight s.world.disk = .ok ()
  plan : ∃ files s₁,
    enumerate setup request (s.cleared.noted ["Starting code migration process"]) =
      .ok (.ok files) s₁ ∧
    Migration.plan agents setup request files s₁ = .ok (.files planned) m

/-- Planned files are visited one after the other. An overflow may end that. -/
theorem Plans.run_eq (h : Plans agents setup request s planned m) :
    (∃ overflow s', run agents setup request s = .error overflow s') ∨
      ∃ steps report s' line,
        Batch agents setup request planned { filesTotal := planned.length } m steps report s' ∧
        run agents setup request s = .ok
          (.ok (.migrated { report with remaining := s'.history.currentTotal }))
          (s'.noted [line]) := by
  obtain ⟨files, s₁, henumerate, hplan⟩ := h.plan
  have hne : files ≠ [] := by
    -- nothing is planned of no files
    rintro rfl
    have hnone := (plan_run hplan).sublist
    exact (plan_run hplan).planned_ne_nil (List.map_eq_nil_iff.mp (List.sublist_nil.mp hnone))
  have hmigrating := migrate_of_plan h.preflight henumerate hne hplan
  rw [run_of_migration h.action]
  cases hprocessed : processFiles agents setup request planned.length
      { filesTotal := planned.length } 1 planned m with
  | error overflow s' =>
    have hcarried : migrate agents setup request s = .error overflow s' :=
      hmigrating.trans (bind_of_error hprocessed)
    exact .inl ⟨overflow, s', bind_of_error hcarried⟩
  | ok report s' =>
    obtain ⟨steps, hbatch⟩ := processFiles_run hprocessed
    have hcarried : ∃ line, migrate agents setup request s =
        .ok (.ok { report with remaining := s'.history.currentTotal }) (s'.noted [line]) :=
      ⟨_, hmigrating.trans (bind_of_ok hprocessed)⟩
    obtain ⟨line, hcarried⟩ := hcarried
    exact .inr ⟨steps, report, s', line, hbatch, bind_of_ok hcarried⟩

/-- A run is refused when the workspace is no directory, or else the credential is missing, or else
the pattern cannot be read, and for no other reason. A refused run has only logged, a migration
after it has forgotten the history. Every other run reports, unless an overflow ends it; and of
planned files every one gets its step, unless the run is asked to stop or its policy stops it. -/
theorem run_refused_iff (agents : Agents σ) (setup : Setup) (request : Request) (s : Session σ) :
    (∀ e, (∃ s', run agents setup request s = .ok (.error e) s') ↔
      setup.Refuses request s.world.disk e) ∧
    (∀ e s', run agents setup request s = .ok (.error e) s' →
      ∃ lines, s' = (if request.action = .countOnly then s else s.cleared).noted lines) ∧
    ((∀ e, ¬setup.Refuses request s.world.disk e) →
      (∃ overflow s', run agents setup request s = .error overflow s') ∨
        ∃ report s', run agents setup request s = .ok (.ok report) s') ∧
    ∀ planned m, Plans agents setup request s planned m →
      (∃ overflow s', run agents setup request s = .error overflow s') ∨
      ∃ steps report s' line,
        Batch agents setup request planned { filesTotal := planned.length } m steps report s' ∧
        run agents setup request s = .ok
          (.ok (.migrated { report with remaining := s'.history.currentTotal }))
          (s'.noted [line]) ∧
        (steps.map (fun t => (t.file, t.known)) = planned ∨
          (report.cancelled = true ∧ s'.cancelled = true) ∨
          (report.stoppedEarly = true ∧
            ∃ t, steps.getLast? = some t ∧ request.stopPolicy.Ends t.outcome)) := by
  refine ⟨fun e => ⟨?_, ?_⟩, ?_, ?_, ?_⟩
  · rintro ⟨s', h⟩
    exact refuses_of_run h
  · intro h
    obtain ⟨lines, hrun⟩ := run_of_refuses h
    exact ⟨_, hrun⟩
  · intro e s' h
    have hrun : ∃ lines, run agents setup request s = _ := run_of_refuses (refuses_of_run h)
    obtain ⟨lines, hrun⟩ := hrun
    rw [hrun] at h
    cases h
    exact ⟨lines, rfl⟩
  · intro hnone
    cases hrun : run agents setup request s with
    | error overflow s' => exact .inl ⟨overflow, s', rfl⟩
    | ok result s' =>
      cases result with
      | error e => exact absurd (refuses_of_run hrun) (hnone e)
      | ok report => exact .inr ⟨report, s', rfl⟩
  · intro planned m hplans
    obtain hoverflow | ⟨steps, report, s', line, hbatch, hrun⟩ := hplans.run_eq
    · exact .inl hoverflow
    · exact .inr ⟨steps, report, s', line, hbatch, hrun, hbatch.complete_or_cut⟩

/-! ### A run without its credential, and one that visits its file -/

/-- A setup whose credential is set, but not to a text. -/
def garbledSetup : Setup :=
  { smallSetup with credential := some "KEY", environment := ⟨[("KEY", ⟨#[0xFF]⟩)]⟩ }

/-- The session after an earlier migration. -/
def laterSession : Session Unit :=
  { scriptSession with history := History.empty.recordInitial default 1 }

theorem garbledSetup_refuses (request : Request) :
    garbledSetup.Refuses request laterSession.world.disk (.noCredentials "KEY") := by
  refine .credential ⟨["w"], rfl⟩ ⟨rfl, .notText rfl ?_⟩
  decide +kernel

theorem drafting_plans :
    ∃ m, Plans drafting smallSetup smallRequest scriptSession [("a.js", some 1)] m := by
  have h : endsIn (fun plan _ => match plan with
      | .files planned => decide (planned = [("a.js", some 1)])
      | _ => false)
      ((enumerate smallSetup smallRequest >>= fun result =>
        plan drafting smallSetup smallRequest (result.toOption.getD []))
        (scriptSession.cleared.noted ["Starting code migration process"])) = true := by
    decide +kernel
  obtain ⟨plan, m, hrun, hplanned⟩ := exists_of_endsIn h
  obtain ⟨result, s₁, henumerate, hplan⟩ := bind_eq_ok hrun
  cases result with
  | error e =>
    have hselected : ∃ lines, enumerate smallSetup smallRequest
        (scriptSession.cleared.noted ["Starting code migration process"]) = _ :=
      enumerate_of_selects smallSetup_selects
    obtain ⟨lines, hselected⟩ := hselected
    rw [henumerate] at hselected
    cases hselected
  | ok files =>
    cases plan with
    | nothing | cancelled => cases hplanned
    | files planned =>
      obtain rfl := of_decide_eq_true hplanned
      exact ⟨m, by decide, rfl, files, s₁, henumerate, hplan⟩

/-- Without its credential the setup refuses a migration, which forgets the history of the earlier
one, and a count, which does not. With nothing missing the planned script gets its step. -/
theorem run_refused_iff_small :
    (∃ s', run drafting garbledSetup smallRequest laterSession =
        .ok (.error (.noCredentials "KEY")) s' ∧ s'.history = .empty) ∧
    (∃ s', run drafting garbledSetup { smallRequest with action := .countOnly } laterSession =
        .ok (.error (.noCredentials "KEY")) s' ∧ s'.history = laterSession.history) ∧
    ∃ (steps : List (Taken Unit)) (report : RunReport) (s' : Session Unit),
      run drafting smallSetup smallRequest scriptSession = .ok (.ok (.migrated report)) s' ∧
      steps.map (fun t => (t.file, t.known)) = [("a.js", some 1)] := by
  refine ⟨?_, ?_, ?_⟩
  · obtain ⟨hiff, hclean, -⟩ := run_refused_iff drafting garbledSetup smallRequest laterSession
    obtain ⟨s', hrun⟩ := (hiff _).mpr (garbledSetup_refuses _)
    obtain ⟨lines, rfl⟩ := hclean _ _ hrun
    exact ⟨_, hrun, rfl⟩
  · obtain ⟨hiff, hclean, -⟩ := run_refused_iff drafting garbledSetup
      { smallRequest with action := .countOnly } laterSession
    obtain ⟨s', hrun⟩ := (hiff _).mpr (garbledSetup_refuses _)
    obtain ⟨lines, rfl⟩ := hclean _ _ hrun
    exact ⟨_, hrun, rfl⟩
  · obtain ⟨m, hplans⟩ := drafting_plans
    obtain ⟨report, s', hreports, hgoes, -⟩ := drafting_remaining
    obtain ⟨-, -, -, hplanned⟩ := run_refused_iff drafting smallSetup smallRequest scriptSession
    obtain ⟨overflow, s'', hoverflow⟩ | ⟨steps, last, s₁, line, -, hrun, hends⟩ :=
      hplanned _ m hplans
    · rw [hreports] at hoverflow
      cases hoverflow
    · obtain hall | ⟨hcancelled, -⟩ | ⟨-, t, -, hends⟩ := hends
      · exact ⟨steps, _, _, hrun, hall⟩
      · rw [hrun] at hreports
        cases hreports
        rw [hgoes] at hcancelled
        cases hcancelled
      · exact absurd hends id

end Codemod.Migration
