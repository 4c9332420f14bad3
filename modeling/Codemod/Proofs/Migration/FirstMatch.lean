import Codemod.Proofs.Migration.Refusal
import Codemod.Proofs.Migration.Room
import Codemod.Proofs.Migration.Survey

/-!
# A migration of one file takes the first with occurrences

A migration of one file looks at the files in order, comes to the first with occurrences, and takes
one step, on that file. Nothing else is touched, and the stop policy has no say in it.

- `Agents.mem_counts_survey` — the counts of a survey are given by the model
- `Event.Concerns`, `runStep_concerns` — what a step does concerns its file
- `concluding`, `migrateOne_found` — a run with one planned file
- `run_under_eq` — the stop policies
- `TakesFirst`, `TakesNone` — what a migration of one file does
- `migrateOne_takes_first` — and that it does
-/

namespace Codemod.Migration

variable {σ α β : Type} {agents : Agents σ} {setup : Setup} {request : Request} {job : Job}
variable {find file : String} {files : List String} {locations : List Location} {n : UInt64}
variable {w : World σ} {events more : List Event} {s s₁ m s' : Session σ}

/-! ### The counts of a survey -/

namespace Agents

theorem replay_glimpse (w : World σ) (file : String) :
    agents.replay w (agents.glimpse setup find w file).done =
      (agents.glimpse setup find w file).world := by
  cases hread : w.disk.readText (Path.join setup.workspace file) with
  | error cause =>
    rw [glimpse_of_error hread]
    rfl
  | ok content =>
    rw [glimpse_of_ok hread]
    rfl

theorem mem_counts_glimpse (h : (agents.glimpse setup find w file).known = some n) :
    n.toNat ∈ agents.counts w (agents.glimpse setup find w file).done := by
  cases hread : w.disk.readText (Path.join setup.workspace file) with
  | error cause =>
    rw [glimpse_of_error hread] at h
    cases h
  | ok content =>
    rw [glimpse_of_ok hread] at h ⊢
    cases h
    refine List.mem_cons_of_mem _ (List.mem_cons.mpr (.inl ?_))
    show _ = agents.countIn w (.asked _)
    rw [countIn, ofPrompt_count, if_pos rfl]

/-- What a survey does leads to the world that it leaves behind. -/
theorem replay_survey (w : World σ) (files : List String) :
    agents.replay w (agents.survey setup find w files).done =
      (agents.survey setup find w files).world := by
  induction files generalizing w with
  | nil => rfl
  | cons file rest ih => rw [survey_cons, replay_append, replay_glimpse, ih]

/-- The counts that a survey finds are among those that the model gives in it. -/
theorem mem_counts_survey (h : (file, some n) ∈ (agents.survey setup find w files).planned) :
    n.toNat ∈ agents.counts w (agents.survey setup find w files).done := by
  induction files generalizing w with
  | nil => cases h
  | cons first rest ih =>
    rw [survey_cons] at h ⊢
    rw [counts_append, replay_glimpse, List.mem_append]
    obtain heq | hmem := List.mem_cons.mp h
    · exact .inl (mem_counts_glimpse (Prod.mk.inj heq).2.symm)
    · exact .inr (ih hmem)

end Agents

theorem Did.gave {done : List Event} (h : Did s s' w done)
    (hreplay : agents.replay s.world done = w) : ∃ a, Gave agents s s' a := by
  obtain ⟨events, htrace, rfl⟩ := h.trace_eq
  rw [Agents.replay_effects] at hreplay
  exact ⟨_, events, htrace, h.world_eq.trans hreplay.symm, rfl⟩

theorem Did.mem_countsBetween {done : List Event} {k : Nat} (h : Did s s' w done)
    (hmem : k ∈ agents.counts s.world done) : k ∈ agents.countsBetween s s' := by
  obtain ⟨events, htrace, rfl⟩ := h.trace_eq
  rw [Agents.countsBetween_of_trace htrace]
  exact Agents.mem_counts_of_effects hmem

theorem Trail.replay_eq (h : Trail agents s events s') :
    s'.world = agents.replay s.world events := by
  induction h with
  | refl => rfl
  | cons hmove _ ih =>
    rw [ih]
    cases hmove <;> rfl

/-- The count after a change is among those that the model gives in a step. -/
theorem Rewriting.mem_counts {content transformed : String} {known : Option UInt64}
    {before after : UInt64}
    (h : Rewriting agents job file known s content before transformed after s') :
    ∃ events, Trail agents s events s' ∧ after.toNat ∈ agents.counts s.world events := by
  cases h with
  | @intro line line' lines lines' s₁ s₂ _ hcounted _ _ hs hafter =>
    have hquiet : Quiet agents s s₂ := by
      rw [hs]
      exact ((counted_quiet hcounted).trans (.noted [line'])).trans (.asked _ lines)
    obtain ⟨events, htrail, -⟩ := hquiet
    refine ⟨_, htrail.append (.asked _ lines'), ?_⟩
    rw [Agents.counts_append, ← htrail.replay_eq, List.mem_append]
    refine .inr (List.mem_cons.mpr (.inl ?_))
    rw [hafter, Agents.countIn, countPrompt, ofPrompt_count, if_pos rfl]

/-- A step on a file with a small count ends when the counts that the model gives in it are small,
and leaves a count that is small as well. -/
theorem StepRun.completes {r : EStateM.Result Overflow (Session σ) Outcome}
    (h : StepRun agents job file (some n) s r) (hn : n.toNat < 2 ^ 63)
    (hsmall : ∀ k ∈ agents.countsBetween s (finalSession r), k < 2 ^ 63) :
    ∃ o s', r = .ok o s' ∧ ∃ left : Nat, left < 2 ^ 63 ∧ o.fixed.toInt = n.toNat - left := by
  obtain ⟨o, s', hr, -, hzero⟩ | ⟨content, transformed, before, after, s₁, more, hrewriting,
    hmore, hended⟩ := h.rewriting
  · refine ⟨o, s', hr, n.toNat, hn, ?_⟩
    rw [hzero, Int.sub_self]
    rfl
  · obtain rfl : before = n := by
      cases hrewriting with
      | intro _ hcounted =>
        cases hcounted
        rfl
    obtain ⟨events, htrail, hmem⟩ := hrewriting.mem_counts
    have hafter : after.toNat < 2 ^ 63 := by
      refine hsmall _ ?_
      rw [Agents.countsBetween_of_trace (htrail.append hmore).trace_eq, Agents.counts_append]
      exact List.mem_append_left _ hmem
    obtain ⟨fixed, hsub⟩ := subTotals_of_fits (a := totalOfCount before) (b := totalOfCount after)
      (by rw [totalOfCount_toInt hn, totalOfCount_toInt hafter, fitsTotal_iff]; omega)
    obtain ⟨s', hr⟩ := hended fixed hsub
    refine ⟨_, s', hr, after.toNat, hafter, ?_⟩
    rw [subTotals_toInt hsub, totalOfCount_toInt hn, totalOfCount_toInt hafter]

/-! ### What a step does concerns its file -/

/-- The path that an event reads or writes, if it does either. -/
def Event.path? : Event → Option String
  | .read path | .wrote path _ _ => some path
  | _ => none

/-- The event has to do with a file of a job and with no other. -/
inductive Event.Concerns (job : Job) (file : String) : Event → Prop
  | log (line : String) : Event.Concerns job file (.log line)
  | read : Event.Concerns job file (.read (job.path file))
  | asked {prompt : String} : job.Asks file prompt → Event.Concerns job file (.asked prompt)
  | verified (stage : Stage) (passed : Bool) :
    Event.Concerns job file (.verified (job.command stage) job.workspace passed)
  | wrote (text : String) (succeeded : Bool) :
    Event.Concerns job file (.wrote (job.path file) text succeeded)

/-- All events of the activity concern the file. -/
def Stays (agents : Agents σ) (job : Job) (file : String) (x : Activity σ α) : Prop :=
  ∀ s, ∃ events, Trail agents s events (finalSession (x s)) ∧ ∀ e ∈ events, e.Concerns job file

namespace Stays

theorem of_move {x : Activity σ α} {e : Session σ → Event} {next : Session σ → Session σ}
    {value : Session σ → α} (hrun : ∀ s, x s = .ok (value s) (next s))
    (hmove : ∀ s, Move agents s (e s) (next s)) (hconcerns : ∀ s, (e s).Concerns job file) :
    Stays agents job file x := by
  intro s
  rw [hrun]
  refine ⟨[e s], .single (hmove s), fun e he => ?_⟩
  rw [List.mem_singleton.mp he]
  exact hconcerns s

theorem of_idle {x : Activity σ α} (h : ∀ s, finalSession (x s) = s) : Stays agents job file x := by
  intro s
  rw [h]
  exact ⟨[], .refl s, nofun⟩

theorem bind {x : Activity σ α} {f : α → Activity σ β} (hx : Stays agents job file x)
    (hf : ∀ a, Stays agents job file (f a)) : Stays agents job file (x >>= f) := by
  intro s
  obtain ⟨events, htrail, hconcerns⟩ := hx s
  cases hrun : x s with
  | ok a s₁ =>
    rw [hrun] at htrail
    obtain ⟨more, hmore, hconcerns'⟩ := hf a s₁
    rw [bind_of_ok hrun]
    exact ⟨_, htrail.append hmore, List.forall_mem_append.mpr ⟨hconcerns, hconcerns'⟩⟩
  | error e s₁ =>
    rw [hrun] at htrail
    rw [bind_of_error hrun]
    exact ⟨events, htrail, hconcerns⟩

end Stays

theorem stays_steady (agents : Agents σ) (job : Job) (file : String) :
    Steady agents agents job file fun x _ => Stays agents job file x where
  pure _ := .of_idle fun _ => rfl
  bind := .bind
  log line := .of_move (fun _ => rfl) (fun s => .log s line) fun _ => .log line
  checked x := .of_idle fun _ => by cases x <;> rfl
  ask prompt hasks := .of_move (fun _ => rfl) (fun s => .ask s prompt) fun _ => .asked hasks
  check stage := .of_move (fun _ => rfl) (fun s => .verify s _ _) fun _ => .verified stage _
  read := .of_move (fun _ => rfl) (fun s => .read s _) fun _ => .read
  write text := .of_move (fun _ => rfl) (fun s => .write s _ text) fun _ => .wrote text _

/-- A step does nothing that does not concern its file. -/
theorem runStep_concerns (agents : Agents σ) (job : Job) (file : String) (known : Option UInt64)
    (s : Session σ) :
    ∃ events, Trail agents s events (finalSession (runStep agents job file known s)) ∧
      ∀ e ∈ events, e.Concerns job file :=
  (stays_steady agents job file).runStep known s

/-! ### A run with one planned file -/

/-- One planned file is visited, unless the run was asked to stop; no policy stops the run before
the end of it. -/
theorem processFiles_single (agents : Agents σ) (setup : Setup) (request : Request)
    (total index : Nat) (report : RunReport) (p : Planned) :
    processFiles agents setup request total report index [p] = (do
      if ← isCancelled then
        log s!"Migration cancelled before {p.1}"
        return { report with cancelled := true }
      else
        let v ← visitFile agents setup request total index report p
        return v.2) := by
  rw [processFiles_cons]
  refine bind_congr fun stopped => ?_
  cases stopped with
  | true => rfl
  | false =>
    refine bind_congr fun v => ?_
    rw [List.isEmpty_nil, Bool.not_true, Bool.and_false]
    rfl

/-- What is left to do after the step on the only planned file. -/
def concluding (agents : Agents σ) (o : Outcome) : Activity σ (Except RunError Report) := do
  let report ← checked (({ filesTotal := 1 } : RunReport).tally o)
  recordOutcome agents o
  let report := { report with remaining := ← remaining }
  log (closingLine report)
  return .ok (.migrated report)

theorem concluding_idle (o : Outcome) : Idle (concluding agents o) :=
  (Idle.checked _).bind fun _ => (Idle.recordOutcome o).bind fun _ =>
    (remaining_chore.idle agents).bind fun _ => (Idle.log _).bind fun _ => .pure _

/-- What an idle continuation adds to what came before it. -/
theorem Idle.aside_bind {x : Activity σ α} {f : α → Activity σ β} (hf : ∀ a, Idle (f a))
    (s : Session σ) : Aside (finalSession (x s)) (finalSession ((x >>= f) s)) := by
  cases hx : x s with
  | ok a s₁ =>
    rw [bind_of_ok hx]
    exact hf a s₁
  | error e s₁ =>
    rw [bind_of_error hx]
    exact .refl s₁

/-- A run that plans one file takes its step, and concludes. -/
theorem run_of_single {p : Planned} (haction : request.action ≠ .countOnly)
    (hmigrate : migrate agents setup request s = carryOut agents setup request (.files [p]) m)
    (hclear : m.cancelled = false) :
    ∃ line, run agents setup request s =
      (runStep agents (setup.job request) p.1 p.2 >>= concluding agents) (m.noted [line]) := by
  have hrun : run agents setup request s =
      (carryOut agents setup request (.files [p]) >>= fun result =>
        return result.map .migrated) m := by
    rw [run_of_migration haction]
    exact bind_of_eq hmigrate
  refine ⟨s!"Processing file {1}/{1}: {p.1}", ?_⟩
  rw [hrun]
  unfold carryOut concluding
  simp only [processFiles_single, bind_assoc, List.length_singleton]
  rw [isCancelled_bind, hclear, if_neg Bool.false_ne_true]
  simp only [visitFile, bind_assoc, pure_bind]
  rw [log_bind]
  rfl

theorem concluding_run {o : Outcome} {report : RunReport}
    (htally : ({ filesTotal := 1 } : RunReport).tally o = .ok report)
    (hrecord : recordOutcome agents o s = .ok () s₁) :
    ∃ line, concluding agents o s =
      .ok (.ok (.migrated { report with remaining := s₁.history.currentTotal }))
        (s₁.noted [line]) := by
  unfold concluding
  rw [bind_of_ok (checked_of_ok htally), bind_of_ok hrecord]
  exact ⟨_, rfl⟩

/-! ### The stop policies -/

theorem carryOut_under_eq (agents : Agents σ) (setup : Setup) (request : Request)
    (policy : StopPolicy) (p : Planned) :
    carryOut agents setup (request.under policy) (.files [p]) =
      carryOut agents setup request (.files [p]) := by
  unfold carryOut
  simp only [processFiles_single]
  rfl

/-- A migration of one file does not depend on its stop policy. -/
theorem run_under_eq (haction : request.action = .migrateOneFile) (agents : Agents σ)
    (setup : Setup) (policy : StopPolicy) (s : Session σ) :
    run agents setup (request.under policy) s = run agents setup request s := by
  have hnot : request.action ≠ .countOnly := by
    rw [haction]
    nofun
  have hunder : run agents setup (request.under policy) =
      migrate agents setup (request.under policy) >>= fun result =>
        return result.map .migrated := run_of_migration hnot
  rw [hunder, run_of_migration hnot]
  refine bind_of_eq ?_
  rw [migrate_eq_behindChecks, migrate_eq_behindChecks]
  unfold behindChecks
  rw [get_bind, get_bind]
  cases setup.preflight s.cleared.world.disk with
  | error e => rfl
  | ok =>
    dsimp only
    rw [log_bind, log_bind]
    generalize s.cleared.noted _ = s₁
    -- the files and the plan are the same, and the plan has one file at most
    have henumerate : enumerate (σ := σ) setup (request.under policy) =
        enumerate setup request := by
      simp only [enumerate, Request.under]
    have hplan : ∀ files, plan agents setup (request.under policy) files =
        plan agents setup request files := fun _ => rfl
    rw [henumerate]
    cases hfiles : enumerate setup request s₁ with
    | error overflow s₂ => rw [bind_of_error hfiles, bind_of_error hfiles]
    | ok result s₂ =>
      rw [bind_of_ok hfiles, bind_of_ok hfiles]
      cases result with
      | error e => rfl
      | ok files =>
        cases files with
        | nil => rfl
        | cons first rest =>
          dsimp only
          rw [migrating_cons, migrating_cons, hplan]
          cases hplanned : plan agents setup request (first :: rest) s₂ with
          | error overflow m => rw [bind_of_error hplanned, bind_of_error hplanned]
          | ok chosen m =>
            rw [bind_of_ok hplanned, bind_of_ok hplanned]
            cases plan_run hplanned with
            | cancelled | none => rfl
            | first => rw [carryOut_under_eq]
            | empty hother | all hother => exact absurd haction hother

/-! ### The first file with occurrences -/

/-- A migration of one file takes a step on a file, the first with occurrences. -/
structure TakesFirst (agents : Agents σ) (setup : Setup) (request : Request) (s : Session σ)
    (before : List String) (file : String) (n : UInt64) (t : Taken σ) (report : RunReport)
    (s' : Session σ) : Prop where
  /-- Those before cannot be read or have no occurrences. -/
  passed : ∀ p ∈ (agents.survey setup request.find s.world before).planned, p.counts = false
  /-- This one can be read and has some. -/
  found : (agents.survey setup request.find s.world (before ++ [file])).planned =
    (agents.survey setup request.find s.world before).planned ++ [(file, some n)]
  nonzero : n ≠ 0
  /-- The step is on this file, with its count, and begins where counting ended. -/
  step : t.file = file ∧ t.known = some n ∧
    t.before.world = (agents.survey setup request.find s.world (before ++ [file])).world
  ran : t.Ran agents (setup.job request)
  /-- The report is about this step. -/
  tallied : ∃ tallied, Tallied t.outcome { filesTotal := 1 } tallied ∧
    report = { tallied with remaining := s'.history.currentTotal }
  /-- The files up to this one were counted, then the step was taken, and that was all. -/
  done_eq : doneBetween s s' =
    (agents.survey setup request.find s.world (before ++ [file])).done ++
      doneBetween t.before t.after
  concerns : ∀ e ∈ doneBetween t.before t.after, e.Concerns (setup.job request) file
  /-- The count, and what is left of it when the step is done. -/
  history_eq : s'.history.points = (none, (n.toNat : Int)) ::
    if t.outcome.state = .done then [(some file, n.toNat - report.patternsFixed.toInt)] else []

/-- A migration of one file finds none with occurrences: it has looked at all of them and done
nothing else. -/
structure TakesNone (agents : Agents σ) (setup : Setup) (request : Request) (s : Session σ)
    (files : List String) (report : RunReport) (s' : Session σ) : Prop where
  passed : ∀ p ∈ (agents.survey setup request.find s.world files).planned, p.counts = false
  done_eq : doneBetween s s' = (agents.survey setup request.find s.world files).done
  looks : ∀ e ∈ doneBetween s s', e.Looks setup request.find files
  history_eq : s'.history = .empty
  report_eq : report = {}

/-- What the history keeps of the one step. -/
theorem Booked.points_eq {o : Outcome} {report report' : RunReport} (h : Booked agents o s s')
    (hopened : s.history.points = [(none, (n.toNat : Int))])
    (htallied : Tallied o report report') (hnone : report.patternsFixed = 0)
    (hcount : s.history.currentTotal.toInt = n.toNat) :
    s'.history.points = (none, (n.toNat : Int)) ::
      if o.state = .done then [(some o.file, n.toNat - report'.patternsFixed.toInt)] else [] := by
  cases h with
  | fixed hdone hfix =>
    obtain ⟨p, rfl, hfile, hsub⟩ := History.recordFix_eq_ok hfix
    have hfixed : report'.patternsFixed.toInt = o.fixed.toInt := by
      cases htallied with
      | skipped hskip => rw [hskip] at hdone; cases hdone
      | done _ hsum =>
        rw [addTotals_toInt hsum, hnone]
        exact Int.zero_add _
      | failed _ hnot => exact absurd hdone hnot
    rw [if_pos hdone, Session.noted_history, History.points_push, hopened, hfile,
      subTotals_toInt hsub, hcount, hfixed]
    rfl
  | passed hnot =>
    rw [if_neg hnot]
    exact hopened

/-- When the counts that the model gives in a run with one planned file are small, so are the count
that was planned and those of the step. -/
theorem counts_small {r : EStateM.Result Overflow (Session σ) Outcome} {files : List String}
    (hdid : Did s s₁ (agents.survey setup find s.world files).world
      (agents.survey setup find s.world files).done)
    (hplanned : (file, some n) ∈ (agents.survey setup find s.world files).planned)
    (hopened : Aside s₁ m) (hran : StepRun agents job file (some n) m r)
    (hclosed : Aside (finalSession r) s')
    (hsmall : ∀ k ∈ agents.countsBetween s s', k < 2 ^ 63) :
    n.toNat < 2 ^ 63 ∧ ∀ k ∈ agents.countsBetween m (finalSession r), k < 2 ^ 63 := by
  obtain ⟨a, hscanned⟩ := hdid.gave (agents.replay_survey ..)
  obtain ⟨b, hstepped⟩ := hran.gave
  have hrest := hstepped.trans (.of_aside hclosed)
  rw [hscanned.countsBetween_eq ((Gave.of_aside hopened).trans hrest),
    (Gave.of_aside hopened).countsBetween_eq hrest,
    hstepped.countsBetween_eq (.of_aside hclosed)] at hsmall
  constructor
  · refine hsmall _ (List.mem_append_left _ (hdid.mem_countsBetween ?_))
    exact agents.mem_counts_survey hplanned
  · intro k hk
    exact hsmall k (List.mem_append_right _ (List.mem_append_right _ (List.mem_append_left _ hk)))

/-- A step that leaves a small count can be counted and recorded. -/
theorem concluding_fits (agents : Agents σ) {o : Outcome} {left : Nat}
    (htotal : s.history.currentTotal.toInt = n.toNat) (hn : n.toNat < 2 ^ 63)
    (hleft : left < 2 ^ 63) (hfixed : o.fixed.toInt = n.toNat - left) :
    ∃ report s₁ line, concluding agents o s =
        .ok (.ok (.migrated { report with remaining := s₁.history.currentTotal }))
          (s₁.noted [line]) ∧
      Tallied o { filesTotal := 1 } report ∧ Booked agents o s s₁ := by
  obtain ⟨report, htally⟩ : ∃ report, ({ filesTotal := 1 } : RunReport).tally o = .ok report := by
    refine RunReport.tally_of_fits ?_
    show fitsTotal (0 + o.fixed.toInt) = true
    rw [hfixed, fitsTotal_iff]
    omega
  obtain ⟨s₁, hrecord⟩ : ∃ s₁, recordOutcome agents o s = .ok () s₁ := by
    refine recordOutcome_of_fits ?_
    rw [htotal, hfixed, fitsTotal_iff]
    omega
  obtain ⟨line, hend⟩ := concluding_run htally hrecord
  exact ⟨report, s₁, line, hend, RunReport.tally_eq_ok htally, recordOutcome_run hrecord⟩

/-- Once the first file with occurrences is planned, its step is taken, when the counts that the
model gives are small. -/
theorem takesFirst_of_plan {before : List String} (hnot : request.action ≠ .countOnly)
    (hpassed : ∀ p ∈ (agents.survey setup request.find s.world before).planned, p.counts = false)
    (hfound : (agents.survey setup request.find s.world (before ++ [file])).planned =
      (agents.survey setup request.find s.world before).planned ++ [(file, some n)])
    (hnonzero : n ≠ 0) (hclear : s.cancelled = false)
    (hdid : Did s.cleared s₁ (agents.survey setup request.find s.world (before ++ [file])).world
      (agents.survey setup request.find s.world (before ++ [file])).done)
    (hmigrate : migrate agents setup request s =
      carryOut agents setup request (.files [(file, some n)]) (s₁.opened agents n))
    (hsmall : ∀ k ∈ agents.countsBetween s (finalSession (run agents setup request s)),
      k < 2 ^ 63) :
    ∃ t report s', run agents setup request s = .ok (.ok (.migrated report)) s' ∧
      TakesFirst agents setup request s before file n t report s' := by
  obtain ⟨line, hrun⟩ := run_of_single hnot hmigrate (hdid.cancelled_eq.trans hclear)
  rw [hrun] at hsmall
  generalize hbegin : (s₁.opened agents n).noted [line] = m at hrun hsmall
  have hopened : Aside s₁ m := by
    rw [← hbegin]
    exact (Aside.opened n).trans (.noted [line])
  have hworld : m.world = (agents.survey setup request.find s.world (before ++ [file])).world := by
    rw [← hbegin]
    exact hdid.world_eq
  have hhistory :
      m.history = History.empty.recordInitial (agents.now s₁.world) (totalOfCount n) := by
    rw [← hbegin, Session.noted_history, Session.opened, hdid.history_eq]
    rfl
  have hplanned : (file, some n) ∈
      (agents.survey setup request.find s.world (before ++ [file])).planned := by
    rw [hfound]
    exact List.mem_append_right _ (List.mem_singleton.mpr rfl)
  have hran := runStep_run agents (setup.job request) file (some n) m
  obtain ⟨events, htrail, hconcerns⟩ :=
    runStep_concerns agents (setup.job request) file (some n) m
  obtain ⟨hn, hstepped⟩ := counts_small hdid hplanned hopened hran
    (Idle.aside_bind concluding_idle m) hsmall
  obtain ⟨o, s₂, hr, left, hleft, hfixed⟩ := hran.completes hn hstepped
  rw [hr] at hran htrail
  have htotal : s₂.history.currentTotal.toInt = n.toNat := by
    rw [StepRun.history_eq hran, hhistory, History.currentTotal_recordInitial,
      totalOfCount_toInt hn]
  have hpoints : s₂.history.points = [(none, (n.toNat : Int))] := by
    rw [StepRun.history_eq hran, hhistory, History.recordInitial, History.points_push]
    show [(none, (totalOfCount n).toInt)] = _
    rw [totalOfCount_toInt hn]
  obtain ⟨report, s₃, line', hend, htallied, hbooked⟩ :=
    concluding_fits agents htotal hn hleft hfixed
  have hafter : Aside s₂ (s₃.noted [line']) := (Aside.of_booked hbooked).trans (.noted [line'])
  have htrace : m.trace <+: s₂.trace := ⟨events, htrail.trace_eq.symm⟩
  refine ⟨⟨file, some n, m, o, s₂⟩, _, _, hrun.trans ((bind_of_ok hr).trans hend), hpassed, hfound,
    hnonzero, ⟨rfl, rfl, hworld⟩, hran, ⟨report, htallied, rfl⟩, ?_, ?_, ?_⟩
  · show doneBetween s.cleared (s₃.noted [line']) = _ ++ doneBetween m s₂
    rw [doneBetween_trans hdid.trace_prefix
        (hopened.trace_prefix.trans (htrace.trans hafter.trace_prefix)), hdid.doneBetween_eq,
      doneBetween_trans hopened.trace_prefix (htrace.trans hafter.trace_prefix),
      doneBetween_trans htrace hafter.trace_prefix, hopened.doneBetween_eq, hafter.doneBetween_eq,
      List.nil_append, List.append_nil]
  · have hstep : doneBetween m s₂ = effects events := doneBetween_of_trace htrail.trace_eq
    show ∀ e ∈ doneBetween m s₂, _
    rw [hstep]
    exact fun e he => hconcerns e (List.mem_filter.mp he).1
  · have hkept := hbooked.points_eq hpoints htallied rfl htotal
    rwa [StepRun.file_eq hran] at hkept

/-- The paths of selected files are told apart. -/
theorem selected_paths_nodup {fs : FileSystem} (hnamed : fs.Named)
    (hready : setup.preflight fs = .ok ()) (hselects : setup.Selects request fs locations) :
    ((locations.map Location.text).map (Path.join setup.workspace)).Nodup := by
  obtain ⟨root, hfound⟩ := preflight_directory hready
  have hfile : ∀ rel ∈ locations, rel ≠ [] ∧ ∀ name ∈ rel, IsName name := by
    intro rel hrel
    obtain ⟨bytes, hfile⟩ := Walker.matching_hasFile hnamed hfound hselects hrel
    exact ⟨hfile.ne_nil, hfile.names⟩
  rw [List.map_map, List.Nodup, List.pairwise_map]
  refine (Walker.matching_nodup hnamed hfound hselects).imp_of_mem fun {a b} ha hb hne heq => hne ?_
  obtain ⟨ha, hnames⟩ := hfile a ha
  obtain ⟨hb, hnames'⟩ := hfile b hb
  refine Location.text_injective hnames hnames' ?_
  exact Path.join_injective (Location.not_isAbsolute_text hnames ha)
    (Location.not_isAbsolute_text hnames' hb) heq

/-- No file after the one with the step is read or written. -/
theorem TakesFirst.untouched {before after : List String} {t : Taken σ} {report : RunReport}
    (h : TakesFirst agents setup request s before file n t report s')
    (hnodup : ((before ++ file :: after).map (Path.join setup.workspace)).Nodup)
    {other : String} (hother : other ∈ after) :
    ∀ e ∈ doneBetween s s', e.path? ≠ some (Path.join setup.workspace other) := by
  have happart : ∀ first ∈ before ++ [file],
      Path.join setup.workspace first ≠ Path.join setup.workspace other := by
    rw [List.append_cons, List.map_append, List.nodup_append] at hnodup
    intro first hfirst
    exact hnodup.2.2 _ (List.mem_map_of_mem hfirst) _ (List.mem_map_of_mem hother)
  intro e he
  rw [h.done_eq, List.mem_append] at he
  obtain he | he := he
  · cases survey_looks s.world (before ++ [file]) e he with
    | read hmem => exact fun heq => happart _ hmem (Option.some.inj heq)
    | asked => nofun
  · cases h.concerns e he with
    | read | wrote =>
      exact fun heq => happart file (List.mem_append_right _ (List.mem_singleton.mpr rfl))
        (Option.some.inj heq)
    | log | asked | verified => nofun

/-- The plan of a migration of one file that nobody stops. -/
theorem planOne_survey (hnever : agents.NeverStops) (haction : request.action = .migrateOneFile)
    (setup : Setup) (files : List String) (s : Session σ) (hclear : s.cancelled = false) :
    ∃ result seen s₁, Sought agents setup request.find s.world files result seen ∧
      Did s s₁ (agents.survey setup request.find s.world seen).world
        (agents.survey setup request.find s.world seen).done ∧
      plan agents setup request files s =
        match result with
        | some (file, n) => .ok (.files [(file, some n)]) (s₁.opened agents n)
        | none => .ok .nothing s₁ := by
  obtain ⟨result, seen, s₁, hsought, hdid, hplanned⟩ := planFirst_survey hnever setup
    request.find files (s.noted ["Looking for the first file with patterns to migrate..."]) hclear
  refine ⟨result, seen, s₁, hsought, hdid.noted_before, ?_⟩
  unfold plan
  rw [if_pos haction]
  exact hplanned

/-- With counts of less than `2 ^ 63`, a migration of one file that nobody stops looks at the files
in order, takes a step on the first with occurrences, and touches no file after that; or it finds
none, and only looks. The stop policy makes no difference. -/
theorem migrateOne_takes_first (hnever : agents.NeverStops) (hclear : s.cancelled = false)
    (haction : request.action = .migrateOneFile)
    (hready : setup.preflight s.world.disk = .ok ())
    (hselects : setup.Selects request s.world.disk locations)
    (hsmall : ∀ k ∈ agents.countsBetween s (finalSession (run agents setup request s)),
      k < 2 ^ 63) :
    (∃ report s', run agents setup request s = .ok (.ok (.migrated report)) s' ∧
      ((∃ before file after n t, locations.map Location.text = before ++ file :: after ∧
          TakesFirst agents setup request s before file n t report s' ∧
          (s.world.disk.Named → ∀ other ∈ after, ∀ e ∈ doneBetween s s',
            e.path? ≠ some (Path.join setup.workspace other))) ∨
        TakesNone agents setup request s (locations.map Location.text) report s')) ∧
    ∀ policy, run agents setup (request.under policy) s = run agents setup request s := by
  refine ⟨?_, fun policy => run_under_eq haction agents setup policy s⟩
  have hnot : request.action ≠ .countOnly := by
    rw [haction]
    nofun
  obtain ⟨lines, hmigrate⟩ := migrate_of_selects agents hready hselects
  cases hfiles : locations.map Location.text with
  | nil =>
    rw [hfiles] at hmigrate
    have hnone : doneBetween s.cleared (s.cleared.noted lines) = [] :=
      (Aside.noted lines).doneBetween_eq
    refine ⟨{}, s.cleared.noted lines, ?_, .inr ⟨nofun, ?_, ?_, rfl, rfl⟩⟩
    · rw [run_of_migration hnot, bind_of_ok (hmigrate.trans rfl)]
      rfl
    · exact hnone
    · have hdone : doneBetween s (s.cleared.noted lines) = [] := hnone
      rw [hdone]
      nofun
  | cons first rest =>
    rw [hfiles, migrating_cons] at hmigrate
    obtain ⟨result, seen, s₁, hsought, hdid, hplan⟩ := planOne_survey hnever haction setup
      (first :: rest) (s.cleared.noted lines) hclear
    have hstart : Did s.cleared s₁ (agents.survey setup request.find s.world seen).world
        (agents.survey setup request.find s.world seen).done := hdid.noted_before
    rw [Session.noted_world, Session.cleared_world] at hsought
    cases hsought with
    | none hpassed =>
      rw [bind_of_ok hplan] at hmigrate
      have hempty : s₁.history = .empty := hstart.history_eq
      refine ⟨{}, s₁, ?_, .inr ⟨hpassed, hstart.doneBetween_eq, ?_, hempty, rfl⟩⟩
      · have hcarried : carryOut agents setup request .nothing s₁ =
            .ok (.ok { remaining := s₁.history.currentTotal }) s₁ := rfl
        rw [hempty] at hcarried
        rw [run_of_migration hnot, bind_of_ok (hmigrate.trans hcarried)]
        rfl
      · have hdone : doneBetween s s₁ = _ := hstart.doneBetween_eq
        rw [hdone]
        exact survey_looks s.world _
    | @found before after file n hsplit hpassed hfound hnonzero =>
      rw [bind_of_ok hplan] at hmigrate
      obtain ⟨t, report, s', hrun, htakes⟩ := takesFirst_of_plan hnot hpassed hfound hnonzero
        hclear hstart hmigrate hsmall
      refine ⟨report, s', hrun, .inl ⟨before, file, after, n, t, hsplit, htakes, ?_⟩⟩
      intro hnamed other hother
      have hnodup := selected_paths_nodup hnamed hready hselects
      rw [hfiles, hsplit] at hnodup
      exact htakes.untouched hnodup hother

/-! ### The first old script -/

/-- A migration of one script of the workspace. -/
def oneScriptRequest : Request := { smallRequest with action := .migrateOneFile }

theorem obliging_counts (w : World Unit) (prompt : String) :
    (Answer.counted (obliging.complete w prompt).value).toNat ≤ 1 := by
  unfold obliging
  dsimp only
  split <;> decide +kernel

/-- In the mixed workspace the run takes a step on a script with one occurrence. -/
theorem migrateOne_takes_first_mixed :
    ∃ before file after n t report s',
      run obliging smallSetup oneScriptRequest mixedSession = .ok (.ok (.migrated report)) s' ∧
      before ++ file :: after = ["a.js", "b.js", "c.js", "d.js"] ∧
      TakesFirst obliging smallSetup oneScriptRequest mixedSession before file n t report s' := by
  have haction : oneScriptRequest.action = .migrateOneFile := rfl
  obtain ⟨⟨report, s', hrun, hends⟩, -⟩ :=
    migrateOne_takes_first obliging_neverStops rfl haction rfl mixedSession_selects
      fun k hk => Nat.lt_of_le_of_lt (Agents.counts_le obliging_counts k hk) (by decide)
  obtain ⟨before, file, after, n, t, hfiles, htakes, -⟩ | hnone := hends
  · exact ⟨before, file, after, n, t, report, s', hrun, hfiles.symm, htakes⟩
  · have hcounts := hnone.passed ("c.js", some 1) (by decide +kernel)
    cases hcounts

end Codemod.Migration
