import Codemod.Proofs.Migration.Trail

/-!
# How a stage can go

A stage runs its command, and between two runs asks for a repair and applies it. The relation
`StageRun` has one constructor for each way on: what a stage does to the files, to the trace or to
the content it carries is read off it by induction.

- `attemptStage_run`, `repair_run` — one run of the command, one repair
- `StageRun`, `stageLoop_run` — a stage, which always comes to an end
- `StageRun.trail`, `StageRun.trail_passed` — its events, and the run of the command that passed
- `StagesRun`, `verifyStages_run` — stages in turn, up to the first that fails
-/

namespace Codemod.Migration

variable {σ α β : Type} {agents : Agents σ} {job : Job} {target : Target} {stage : Stage}
variable {s s₁ s₂ s' : Session σ} {left n : Nat} {current current' : String}

/-! ### One run of the command, one repair -/

/-- What a verification says about its stage. -/
def Verification.verdict (v : Verification) : Except StageFailure Unit :=
  if v.passed then .ok () else .error (.failed v.output)

/-- An attempt runs the command once, and what the command says is the result. -/
theorem attemptStage_run (agents : Agents σ) (job : Job) (stage : Stage) (n : Nat) (s : Session σ) :
    ∃ line lines, attemptStage agents job stage n s =
      .ok (agents.verify s.world (job.command stage) job.workspace).value.verdict
        (((s.noted [line]).verified agents (job.command stage) job.workspace).noted lines) := by
  unfold attemptStage Verification.verdict
  rw [log_bind, bind_of_ok (check_run ..), Session.noted_world]
  cases (agents.verify s.world (job.command stage) job.workspace).value with
  | mk passed output =>
    cases passed with
    | true => exact ⟨_, [_], rfl⟩
    | false =>
      simp only [Bool.false_eq_true, if_false]
      cases Text.isBlankText output with
      | true => exact ⟨_, [], by rw [Session.noted_nil]; rfl⟩
      | false => exact ⟨_, [_], rfl⟩

/-- The prompt for a repair of the current content. -/
def repairPrompt (job : Job) (target : Target) (stage : Stage) (current output : String) : String :=
  Prompt.fix stage target.content current target.label output job.brief

/-- A repair asks once. Without a content to apply the current one stays; otherwise the content is
written, and taken over when the write succeeds. -/
inductive Repaired (agents : Agents σ) (job : Job) (target : Target) (stage : Stage)
    (current output : String) (s : Session σ) : Except StageFailure String → Session σ → Prop
  | kept {line : String} {lines : List String} :
    Answer.proposed (agents.complete s.world (repairPrompt job target stage current output)).value
      current = none →
    Repaired agents job target stage current output s (.ok current)
      (((s.noted [line]).asked agents (repairPrompt job target stage current output)).noted lines)
  | applied {s₁ : Session σ} {fixed line : String} {lines : List String} :
    Answer.proposed (agents.complete s.world (repairPrompt job target stage current output)).value
      current = some fixed →
    s₁ = ((s.noted [line]).asked agents
      (repairPrompt job target stage current output)).noted lines →
    (agents.write s₁.world target.path fixed).value = .ok () →
    Repaired agents job target stage current output s (.ok fixed)
      (s₁.written agents target.path fixed)
  | refused {s₁ : Session σ} {fixed line : String} {lines : List String} {cause : FileError} :
    Answer.proposed (agents.complete s.world (repairPrompt job target stage current output)).value
      current = some fixed →
    s₁ = ((s.noted [line]).asked agents
      (repairPrompt job target stage current output)).noted lines →
    (agents.write s₁.world target.path fixed).value = .error cause →
    Repaired agents job target stage current output s (.error (.unwritable cause))
      (s₁.written agents target.path fixed)

theorem repair_run (agents : Agents σ) (job : Job) (target : Target) (stage : Stage) (n : Nat)
    (current output : String) (s : Session σ) :
    ∃ r s', repair agents job target stage n current (.failed output) s = .ok r s' ∧
      Repaired agents job target stage current output s r s' := by
  unfold repair
  dsimp only
  rw [log_bind]
  generalize (s!"{stage.label} failed on attempt {n}. Trying to fix..." : String) = line
  obtain ⟨lines, hask⟩ := proposeChange_run agents
    (repairPrompt job target stage current output) current target.label (s.noted [line])
  rw [bind_of_ok (x := proposeFix agents stage target.content current target.label output job.brief)
    hask, Session.noted_world]
  cases hp : Answer.proposed (agents.complete s.world
      (repairPrompt job target stage current output)).value current with
  | none =>
    dsimp only
    rw [log_bind, Session.noted_noted]
    exact ⟨_, _, rfl, .kept hp⟩
  | some fixed =>
    dsimp only
    rw [log_bind, Session.noted_noted, bind_of_ok (writeFile_run ..)]
    generalize hw : (agents.write _ target.path fixed).value = written
    cases written with
    | error cause => exact ⟨_, _, rfl, .refused hp rfl hw⟩
    | ok => exact ⟨_, _, rfl, .applied hp rfl hw⟩

/-! ### The loop of a stage -/

/-- An activity that also carries a content, before another. -/
theorem editing_bind_of_ok {x : Editing σ α} {f : α → Editing σ β} {a : α}
    (h : x current s = .ok (a, current') s₁) : (x >>= f) current s = f a current' s₁ :=
  bind_of_ok (f := fun p : α × String => f p.1 p.2) h

theorem editing_get_bind (f : String → Editing σ β) :
    (get >>= f) current s = f current current s := rfl

theorem editing_pure_bind (a : α) (f : α → Editing σ β) :
    (pure a >>= f) current s = f a current s := rfl

/-- An activity that leaves the carried content alone. -/
theorem editing_lift_run {x : Activity σ α} {a : α} (h : x s = .ok a s₁) :
    (liftM x : Editing σ α) current s = .ok (a, current) s₁ :=
  bind_of_ok h

/-- A stage from number `n` of its attempts on, with `left` more after it: the content that is on
disk before and after, and how the stage ends. -/
inductive StageRun (agents : Agents σ) (job : Job) (target : Target) (stage : Stage) :
    (left n : Nat) → (current : String) → Session σ → Except StageFailure Unit →
      (current' : String) → Session σ → Prop
  /-- The command passes. -/
  | passed {left n : Nat} {current : String} {s s' : Session σ} :
    attemptStage agents job stage n s = .ok (.ok ()) s' →
    StageRun agents job target stage left n current s (.ok ()) current s'
  /-- The command fails, and no attempt is left. -/
  | exhausted {n : Nat} {current output : String} {s s' : Session σ} :
    attemptStage agents job stage n s = .ok (.error (.failed output)) s' →
    StageRun agents job target stage 0 n current s (.error (.failed output)) current s'
  /-- The command fails, and the repair cannot be written. -/
  | unwritable {left n : Nat} {current output : String} {failure : StageFailure}
      {s s₁ s' : Session σ} :
    attemptStage agents job stage n s = .ok (.error (.failed output)) s₁ →
    Repaired agents job target stage current output s₁ (.error failure) s' →
    StageRun agents job target stage (left + 1) n current s (.error failure) current s'
  /-- The command fails, and is run again after a repair. -/
  | again {left n : Nat} {current current₁ current' output : String}
      {result : Except StageFailure Unit} {s s₁ s₂ s' : Session σ} :
    attemptStage agents job stage n s = .ok (.error (.failed output)) s₁ →
    Repaired agents job target stage current output s₁ (.ok current₁) s₂ →
    StageRun agents job target stage left (n + 1) current₁ s₂ result current' s' →
    StageRun agents job target stage (left + 1) n current s result current' s'

/-- What happens between two attempts: a repair of the carried content. -/
def repairCarried (agents : Agents σ) (job : Job) (target : Target) (stage : Stage) (n : Nat)
    (failure : StageFailure) : Editing σ (Except StageFailure Unit) := do
  match ← (repair agents job target stage n (← get) failure : Activity σ _) with
  | .ok current =>
    set current
    return .ok ()
  | .error failure => return .error failure

/-- The loop of a stage: its attempts from number `n` on, with `left` more after it. -/
def stageLoop (agents : Agents σ) (job : Job) (target : Target) (stage : Stage) (left n : Nat) :
    Editing σ (Except StageFailure Unit) :=
  job.policy.runFrom
    (fun attempt => (attemptStage agents job stage attempt : Activity σ _))
    (fun failure => return failure.isRetryable) (repairCarried agents job target stage)
    (fun _ => return ()) left n

theorem verifyStage_eq :
    verifyStage agents job target stage =
      stageLoop agents job target stage (job.policy.maxAttempts.toNat - 1) 1 := rfl

/-- An attempt passes or fails with an output. -/
theorem attemptStage_cases (agents : Agents σ) (job : Job) (stage : Stage) (n : Nat)
    (s : Session σ) :
    (∃ s₁, attemptStage agents job stage n s = .ok (.ok ()) s₁) ∨
      ∃ output s₁, attemptStage agents job stage n s = .ok (.error (.failed output)) s₁ := by
  obtain ⟨line, lines, h⟩ := attemptStage_run agents job stage n s
  rw [h, Verification.verdict]
  split
  · exact .inl ⟨_, rfl⟩
  · exact .inr ⟨_, _, rfl⟩

theorem repairCarried_of_ok {failure : StageFailure}
    (h : repair agents job target stage n current failure s = .ok (.ok current') s₁) :
    repairCarried agents job target stage n failure current s = .ok (.ok (), current') s₁ := by
  unfold repairCarried
  rw [editing_get_bind, editing_bind_of_ok (editing_lift_run h)]
  rfl

theorem repairCarried_of_error {failure failure' : StageFailure}
    (h : repair agents job target stage n current failure s = .ok (.error failure') s₁) :
    repairCarried agents job target stage n failure current s =
      .ok (.error failure', current) s₁ := by
  unfold repairCarried
  rw [editing_get_bind, editing_bind_of_ok (editing_lift_run h)]
  rfl

/-- Every stage comes to an end, and goes as `StageRun` says. -/
theorem stageLoop_run (agents : Agents σ) (job : Job) (target : Target) (stage : Stage)
    (left n : Nat) (current : String) (s : Session σ) :
    ∃ result current' s',
      stageLoop agents job target stage left n current s = .ok (result, current') s' ∧
        StageRun agents job target stage left n current s result current' s' := by
  -- on the attempts that are left; the content and the session are whatever the last repair left
  induction left generalizing n current s with
  | zero =>
    unfold stageLoop RetryPolicy.runFrom
    obtain ⟨s₁, h⟩ | ⟨output, s₁, h⟩ := attemptStage_cases agents job stage n s
    · exact ⟨_, _, _, editing_lift_run h, .passed h⟩
    · exact ⟨_, _, _, editing_lift_run h, .exhausted h⟩
  | succ left ih =>
    unfold stageLoop RetryPolicy.runFrom
    obtain ⟨s₁, h⟩ | ⟨output, s₁, h⟩ := attemptStage_cases agents job stage n s
    · rw [editing_bind_of_ok (editing_lift_run h)]
      exact ⟨_, _, _, rfl, .passed h⟩
    · rw [editing_bind_of_ok (editing_lift_run h)]
      dsimp only
      obtain ⟨r, s₂, hr, hrep⟩ := repair_run agents job target stage n current output s₁
      have hretry : (StageFailure.failed output).isRetryable = true := rfl
      rw [editing_pure_bind, if_pos hretry]
      cases r with
      | error failure =>
        rw [editing_bind_of_ok (repairCarried_of_error hr)]
        exact ⟨_, _, _, rfl, .unwritable h hrep⟩
      | ok current₁ =>
        obtain ⟨result, current', s', hloop, hrun⟩ := ih (n + 1) current₁ s₂
        refine ⟨result, current', s', ?_, .again h hrep hrun⟩
        rw [editing_bind_of_ok (repairCarried_of_ok hr), ← hloop]
        -- the pause between attempts does nothing, whatever its length
        dsimp only
        split <;> rfl

/-! ### The events of a stage -/

/-- What can be said of the events of a stage whatever way it goes. -/
structure StageEvents (job : Job) (target : Target) (stage : Stage) (events : List Event) :
    Prop where
  /-- Only the target is written. -/
  toTarget : WritesOnly target.path events
  /-- Only the stage's command is run, in the workspace. -/
  ofCommand : ∀ command directory passed, .verified command directory passed ∈ events →
    command = job.command stage ∧ directory = job.workspace
  /-- What is written was asked for. -/
  askedFor : writes events ≠ [] → ∃ prompt, .asked prompt ∈ events

namespace StageEvents

variable {events more : List Event}

theorem append (h₁ : StageEvents job target stage events)
    (h₂ : StageEvents job target stage more) : StageEvents job target stage (events ++ more) where
  toTarget := h₁.toTarget.append h₂.toTarget
  ofCommand command directory passed hmem := by
    rw [List.mem_append] at hmem
    exact hmem.elim (h₁.ofCommand _ _ _) (h₂.ofCommand _ _ _)
  askedFor hne := by
    rw [writes_append] at hne
    by_cases h : writes events = []
    · rw [h, List.nil_append] at hne
      obtain ⟨prompt, hp⟩ := h₂.askedFor hne
      exact ⟨prompt, List.mem_append_right _ hp⟩
    · obtain ⟨prompt, hp⟩ := h₁.askedFor h
      exact ⟨prompt, List.mem_append_left _ hp⟩

theorem logs (lines : List String) : StageEvents job target stage (lines.map .log) where
  toTarget := .of_nil (writes_logs lines)
  ofCommand command directory passed hmem := by simp at hmem
  askedFor hne := absurd (writes_logs lines) hne

theorem asked (prompt : String) : StageEvents job target stage [.asked prompt] where
  toTarget := .of_nil rfl
  ofCommand command directory passed hmem := by simp at hmem
  askedFor _ := ⟨prompt, List.mem_singleton_self _⟩

theorem verified (passed : Bool) :
    StageEvents job target stage [.verified (job.command stage) job.workspace passed] where
  toTarget := .of_nil rfl
  ofCommand command directory passed hmem := by
    rw [List.mem_singleton] at hmem
    cases hmem
    exact ⟨rfl, rfl⟩
  askedFor hne := absurd rfl hne

/-- A write to the target after a question. -/
theorem written (h : StageEvents job target stage events) {prompt : String}
    (hasked : .asked prompt ∈ events) (text : String) (succeeded : Bool) :
    StageEvents job target stage (events ++ [.wrote target.path text succeeded]) where
  toTarget := h.toTarget.append (.wrote text succeeded [])
  ofCommand command directory passed hmem := by
    rw [List.mem_append] at hmem
    refine hmem.elim (h.ofCommand _ _ _) fun hmem => ?_
    simp at hmem
  askedFor _ := ⟨prompt, List.mem_append_left _ hasked⟩

end StageEvents

theorem attemptStage_trail (target : Target) {result : Except StageFailure Unit}
    (h : attemptStage agents job stage n s = .ok result s') :
    ∃ events, Trail agents s events s' ∧ StageEvents job target stage events := by
  obtain ⟨line, lines, hrun⟩ := attemptStage_run agents job stage n s
  rw [hrun] at h
  injection h with hresult hs
  subst hs
  refine ⟨_, (Trail.noted [line]).append
    ((Trail.single (.verify _ (job.command stage) job.workspace)).append (.noted lines)), ?_⟩
  exact (StageEvents.logs [line]).append ((StageEvents.verified _).append (.logs lines))

theorem Repaired.trail {output : String} {result : Except StageFailure String}
    (h : Repaired agents job target stage current output s result s') :
    ∃ events, Trail agents s events s' ∧ StageEvents job target stage events := by
  -- every way on begins with the question and its log lines
  have hasked : ∀ line lines, let prompt := repairPrompt job target stage current output
      ∃ events, Trail agents s events (((s.noted [line]).asked agents prompt).noted lines) ∧
        StageEvents job target stage events ∧ .asked prompt ∈ events := by
    intro line lines prompt
    refine ⟨_, (Trail.noted [line]).append (.asked prompt lines), ?_, by simp⟩
    exact (StageEvents.logs [line]).append ((StageEvents.asked prompt).append (.logs lines))
  cases h with
  | kept hnone =>
    obtain ⟨events, htrail, hevents, -⟩ := hasked _ _
    exact ⟨events, htrail, hevents⟩
  | applied hsome hs hw =>
    obtain ⟨events, htrail, hevents, hmem⟩ := hasked _ _
    subst hs
    exact ⟨_, htrail.append (.single (.write ..)), hevents.written hmem _ _⟩
  | refused hsome hs hw =>
    obtain ⟨events, htrail, hevents, hmem⟩ := hasked _ _
    subst hs
    exact ⟨_, htrail.append (.single (.write ..)), hevents.written hmem _ _⟩

theorem StageRun.trail {result : Except StageFailure Unit}
    (h : StageRun agents job target stage left n current s result current' s') :
    ∃ events, Trail agents s events s' ∧ StageEvents job target stage events := by
  -- what can be said of the events of each round can be said of all of them
  induction h with
  | passed h => exact attemptStage_trail target h
  | exhausted h => exact attemptStage_trail target h
  | unwritable h hrep =>
    obtain ⟨events, htrail, hevents⟩ := attemptStage_trail target h
    obtain ⟨more, hmore, hevents'⟩ := hrep.trail
    exact ⟨_, htrail.append hmore, hevents.append hevents'⟩
  | again h hrep _ ih =>
    obtain ⟨events, htrail, hevents⟩ := attemptStage_trail target h
    obtain ⟨more, hmore, hevents'⟩ := hrep.trail
    obtain ⟨rest, hrest, hevents''⟩ := ih
    exact ⟨_, htrail.append (hmore.append hrest), hevents.append (hevents'.append hevents'')⟩

/-- A stage that passed ended with a run of its command that passed, and wrote nothing after it. -/
theorem StageRun.trail_passed
    (h : StageRun agents job target stage left n current s (.ok ()) current' s') :
    ∃ events lines m, Trail agents s events m ∧
      (agents.verify m.world (job.command stage) job.workspace).value.passed = true ∧
      s' = (m.verified agents (job.command stage) job.workspace).noted lines := by
  -- the result is an index of the relation, so it is named before the induction
  generalize hr : (.ok () : Except StageFailure Unit) = result at h
  induction h with
  | @passed left n current s s' h =>
    obtain ⟨line, lines, hrun⟩ := attemptStage_run agents job stage n s
    rw [hrun] at h
    injection h with hverdict hs
    refine ⟨_, lines, _, .noted [line], ?_, hs.symm⟩
    rw [Session.noted_world]
    rw [Verification.verdict] at hverdict
    split at hverdict
    · assumption
    · cases hverdict
  | exhausted | unwritable => cases hr
  | again h hrep _ ih =>
    obtain ⟨events, htrail, -⟩ := attemptStage_trail target h
    obtain ⟨more, hmore, -⟩ := hrep.trail
    obtain ⟨rest, lines, m, hrest, hpassed⟩ := ih hr
    exact ⟨_, lines, m, htrail.append (hmore.append hrest), hpassed⟩

/-! ### Stages in turn -/

/-- Stages in turn, up to the first that fails. -/
inductive StagesRun (agents : Agents σ) (job : Job) (target : Target) :
    List Stage → (current : String) → Session σ → (passed : Bool) → (current' : String) →
      Session σ → Prop
  | finished {current : String} {s : Session σ} :
    StagesRun agents job target [] current s true current s
  | failed {stage : Stage} {rest : List Stage} {current current' line : String}
      {failure : StageFailure} {s s' : Session σ} :
    StageRun agents job target stage (job.policy.maxAttempts.toNat - 1) 1 current s
      (.error failure) current' s' →
    StagesRun agents job target (stage :: rest) current s false current' (s'.noted [line])
  | next {stage : Stage} {rest : List Stage} {current current₁ current' : String}
      {passed : Bool} {s s₁ s' : Session σ} :
    StageRun agents job target stage (job.policy.maxAttempts.toNat - 1) 1 current s
      (.ok ()) current₁ s₁ →
    StagesRun agents job target rest current₁ s₁ passed current' s' →
    StagesRun agents job target (stage :: rest) current s passed current' s'

theorem verifyStages_run (agents : Agents σ) (job : Job) (target : Target) (stages : List Stage)
    (current : String) (s : Session σ) :
    ∃ passed current' s', verifyStages agents job target current stages s = .ok passed s' ∧
      StagesRun agents job target stages current s passed current' s' := by
  induction stages generalizing current s with
  | nil => exact ⟨true, current, s, rfl, .finished⟩
  | cons stage rest ih =>
    obtain ⟨result, current₁, s₁, hloop, hrun⟩ := stageLoop_run agents job target stage
      (job.policy.maxAttempts.toNat - 1) 1 current s
    unfold verifyStages
    rw [verifyStage_eq, bind_of_ok (x := (stageLoop agents job target stage _ 1).run current) hloop]
    cases result with
    | error failure => exact ⟨_, _, _, rfl, .failed hrun⟩
    | ok =>
      obtain ⟨passed, current', s', heq, hrest⟩ := ih current₁ s₁
      exact ⟨passed, current', s', heq, .next hrun hrest⟩

theorem StagesRun.trail {stages : List Stage} {passed : Bool}
    (h : StagesRun agents job target stages current s passed current' s') :
    ∃ events, Trail agents s events s' ∧ WritesOnly target.path events := by
  induction h with
  | finished => exact ⟨[], .refl _, .of_nil rfl⟩
  | failed hstage =>
    obtain ⟨events, htrail, hevents⟩ := hstage.trail
    exact ⟨_, htrail.append (.noted [_]), hevents.toTarget.append (.of_nil (writes_logs [_]))⟩
  | next hstage _ ih =>
    obtain ⟨events, htrail, hevents⟩ := hstage.trail
    obtain ⟨more, hmore, hpaths⟩ := ih
    exact ⟨_, htrail.append hmore, hevents.toTarget.append hpaths⟩

end Codemod.Migration
