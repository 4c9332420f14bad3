import Codemod.Proofs.Migration.FirstMatch

/-!
# The rounds of a step

Once its change is written, a step runs the commands of its stages, and between two runs of a
command it may ask for a repair and write that. A round is one run of a command with what follows
it. What a step does is told by its rounds, with the events before the first and after the last of
them.

- `Does` — what is done between two sessions
- `Followup`, `Round`, `accepted` — a round, and the content that the step has taken over
- `Rounds`, `StageRun.exists_rounds` — the rounds of a stage
- `Verified`, `StagesRun.exists_rounds` — the rounds of stages in turn
- `Opening`, `StepDone`, `StepRun.does` — everything that a step does
- `InRounds` — what a step does before, in and after its rounds
-/

namespace Codemod.Migration

variable {σ : Type} {agents : Agents σ} {job : Job} {target : Target} {stage : Stage}
variable {file current current' content transformed : String}
variable {known : Option UInt64} {left n : Nat} {s s₁ s' : Session σ}
variable {events more : List Event} {passed : Bool}

/-! ### What is done between two sessions -/

/-- Calls of the agents, reads and writes led from one session to another. The log is left out. -/
def Does (agents : Agents σ) (s s' : Session σ) (done : List Event) : Prop :=
  ∃ events, Trail agents s events s' ∧ effects events = done

namespace Does

theorem refl (s : Session σ) : Does agents s s [] := ⟨[], .refl s, rfl⟩

theorem trans (h₁ : Does agents s s₁ events) (h₂ : Does agents s₁ s' more) :
    Does agents s s' (events ++ more) := by
  obtain ⟨logged, htrail, rfl⟩ := h₁
  obtain ⟨later, hlater, rfl⟩ := h₂
  exact ⟨logged ++ later, htrail.append hlater, effects_append logged later⟩

/-- Log lines do not matter, after a stretch or before it. -/
theorem noted (h : Does agents s s' events) (lines : List String) :
    Does agents s (s'.noted lines) events := by
  obtain ⟨logged, htrail, rfl⟩ := h
  exact ⟨_, htrail.append (.noted lines), by rw [effects_append, effects_logs, List.append_nil]⟩

theorem of_noted {lines : List String} (h : Does agents (s.noted lines) s' events) :
    Does agents s s' events :=
  Does.trans ((Does.refl s).noted lines) h

theorem of_move {e : Event} (h : Move agents s e s') (he : e.isEffect = true) :
    Does agents s s' [e] :=
  ⟨[e], .single h, List.filter_cons_of_pos he⟩

theorem asked (s : Session σ) (prompt : String) :
    Does agents s (s.asked agents prompt) [.asked prompt] := of_move (.ask s prompt) rfl

theorem wrote (path text : String) {succeeded : Bool}
    (h : (agents.write s.world path text).value.isOk = succeeded) :
    Does agents s (s.written agents path text) [.wrote path text succeeded] := by
  rw [← h]
  exact of_move (.write s path text) rfl

/-- What is done says what becomes of the world. -/
theorem world_eq (h : Does agents s s' events) : s'.world = agents.replay s.world events := by
  obtain ⟨logged, htrail, rfl⟩ := h
  rw [htrail.replay_eq, Agents.replay_effects]

theorem doneBetween_eq (h : Does agents s s' events) : doneBetween s s' = events := by
  obtain ⟨logged, htrail, rfl⟩ := h
  exact doneBetween_of_trace htrail.trace_eq

end Does

/-! ### One round -/

/-- What follows a run of the command of a stage. -/
inductive Followup where
  /-- The stage ends. -/
  | ended
  /-- A repair is asked for, and there is none. -/
  | kept
  /-- A repair is asked for and written. -/
  | applied (text : String)
  /-- A repair is asked for and cannot be written, and the stage ends. -/
  | refused (text : String)

namespace Followup

/-- What is done with a question and a path to write to. -/
def done (prompt path : String) : Followup → List Event
  | ended => []
  | kept => [.asked prompt]
  | applied text => [.asked prompt, .wrote path text true]
  | refused text => [.asked prompt, .wrote path text false]

/-- The content that is taken over. -/
def text? : Followup → Option String
  | applied text => some text
  | _ => none

/-- The command is run again. -/
def goesOn : Followup → Bool
  | kept | applied _ => true
  | ended | refused _ => false

/-- What the model and the volume do when the command has left a world behind. -/
def Happens (agents : Agents σ) (w : World σ) (prompt path current : String) : Followup → Prop
  | ended => True
  | kept => Answer.proposed (agents.complete w prompt).value current = none
  | applied text => Answer.proposed (agents.complete w prompt).value current = some text ∧
      (agents.write (agents.complete w prompt).world path text).value.isOk = true
  | refused text => Answer.proposed (agents.complete w prompt).value current = some text ∧
      (agents.write (agents.complete w prompt).world path text).value.isOk = false

end Followup

/-- A run of the command of a stage and what follows it. -/
structure Round where
  stage : Stage
  /-- The content that the step takes for the one on disk. -/
  current : String
  /-- What the command says. -/
  verification : Verification
  followup : Followup

namespace Round

/-- The question for a repair after the command failed. -/
def prompt (job : Job) (target : Target) (r : Round) : String :=
  repairPrompt job target r.stage r.current r.verification.output

/-- What is done in a round. -/
def done (job : Job) (target : Target) (r : Round) : List Event :=
  .verified (job.command r.stage) job.workspace r.verification.passed ::
    r.followup.done (r.prompt job target) target.path

/-- The world after the command of a round. -/
def checked (agents : Agents σ) (job : Job) (r : Round) (w : World σ) : World σ :=
  (agents.verify w (job.command r.stage) job.workspace).world

/-- The agents do what the round says when it begins in a world. -/
structure Happens (agents : Agents σ) (job : Job) (target : Target) (w : World σ) (r : Round) :
    Prop where
  verified : (agents.verify w (job.command r.stage) job.workspace).value = r.verification
  followed : r.followup.Happens agents (r.checked agents job w) (r.prompt job target) target.path
    r.current

/-- The command fails and is run again. -/
def GoesOn (r : Round) : Prop := r.verification.passed = false ∧ r.followup.goesOn = true

end Round

/-- What the rounds do. -/
def doneIn (job : Job) (target : Target) (rounds : List Round) : List Event :=
  rounds.flatMap (Round.done job target)

@[simp] theorem doneIn_nil : doneIn job target [] = [] := rfl

@[simp] theorem doneIn_cons (r : Round) (rounds : List Round) :
    doneIn job target (r :: rounds) = r.done job target ++ doneIn job target rounds := rfl

theorem doneIn_singleton (r : Round) : doneIn job target [r] = r.done job target :=
  List.append_nil _

@[simp] theorem doneIn_append (early late : List Round) :
    doneIn job target (early ++ late) = doneIn job target early ++ doneIn job target late :=
  List.flatMap_append

/-- The content that a step has taken over last: that of the last repair that was written, or the
one that it began with. -/
def accepted (current : String) (rounds : List Round) : String :=
  (rounds.filterMap (·.followup.text?)).getLast?.getD current

@[simp] theorem accepted_nil (current : String) : accepted current [] = current := rfl

@[simp] theorem accepted_cons (current : String) (r : Round) (rounds : List Round) :
    accepted current (r :: rounds) = accepted (r.followup.text?.getD current) rounds := by
  unfold accepted
  cases h : r.followup.text? with
  | none => rw [List.filterMap_cons_none (f := fun r : Round => r.followup.text?) h]; rfl
  | some text =>
    rw [List.filterMap_cons_some (f := fun r : Round => r.followup.text?) h, List.getLast?_cons]
    rfl

theorem accepted_append (current : String) (early late : List Round) :
    accepted current (early ++ late) = accepted (accepted current early) late := by
  induction early generalizing current with
  | nil => rfl
  | cons r early ih => rw [List.cons_append, accepted_cons, ih, accepted_cons]

/-! ### The rounds of a stage -/

/-- The rounds of a stage from a world on, with `left` more attempts after the first, and whether
the stage passes. -/
inductive Rounds (agents : Agents σ) (job : Job) (target : Target) (stage : Stage) :
    (left : Nat) → (current : String) → World σ → List Round → (passed : Bool) → Prop
  /-- The command passes, or no attempt is left. -/
  | ended {left : Nat} {current : String} {w : World σ} {v : Verification} :
    Round.Happens agents job target w ⟨stage, current, v, .ended⟩ → v.passed = true ∨ left = 0 →
    Rounds agents job target stage left current w [⟨stage, current, v, .ended⟩] v.passed
  /-- The repair cannot be written. -/
  | refused {left : Nat} {current text : String} {w : World σ} {v : Verification} :
    Round.Happens agents job target w ⟨stage, current, v, .refused text⟩ → v.passed = false →
    Rounds agents job target stage (left + 1) current w [⟨stage, current, v, .refused text⟩] false
  /-- The command is run again. -/
  | again {left : Nat} {w : World σ} {r : Round} {rounds : List Round} {passed : Bool} :
    r.Happens agents job target w → r.GoesOn → r.stage = stage →
    Rounds agents job target stage left (accepted r.current [r])
      (agents.replay w (r.done job target)) rounds passed →
    Rounds agents job target stage (left + 1) r.current w (r :: rounds) passed

/-- An attempt runs the command and does nothing else. -/
theorem attemptStage_does {result : Except StageFailure Unit}
    (h : attemptStage agents job stage n s = .ok result s') :
    let v := (agents.verify s.world (job.command stage) job.workspace).value
    v.verdict = result ∧
      Does agents s s' [.verified (job.command stage) job.workspace v.passed] := by
  obtain ⟨line, lines, hrun⟩ := attemptStage_run agents job stage n s
  rw [hrun] at h
  injection h with hresult hs
  subst hs
  have hmove : Does agents (s.noted [line]) _ _ :=
    .of_move (.verify _ (job.command stage) job.workspace) rfl
  exact ⟨hresult, (hmove.noted lines).of_noted⟩

theorem Verification.verdict_eq_ok {v : Verification} (h : v.verdict = .ok ()) :
    v.passed = true := by
  rw [verdict] at h
  split at h
  · assumption
  · cases h

theorem Verification.verdict_eq_failed {v : Verification} {output : String}
    (h : v.verdict = .error (.failed output)) : v.passed = false ∧ v.output = output := by
  rw [verdict] at h
  split at h
  · cases h
  · next hnot =>
    cases h
    exact ⟨Bool.eq_false_iff.mpr hnot, rfl⟩

/-- A repair asks once, and writes at most once. -/
theorem Repaired.does {output : String} {result : Except StageFailure String}
    (h : Repaired agents job target stage current output s result s') :
    let prompt := repairPrompt job target stage current output
    ∃ followup, Followup.Happens agents s.world prompt target.path current followup ∧
      Does agents s s' (followup.done prompt target.path) ∧
      match result with
      | .ok current' => followup.goesOn = true ∧ current' = followup.text?.getD current
      | .error _ => ∃ text, followup = .refused text := by
  have hasked : ∀ line lines, let prompt := repairPrompt job target stage current output
      Does agents s (((s.noted [line]).asked agents prompt).noted lines) [.asked prompt] :=
    fun line lines => ((Does.asked (s.noted [line]) _).noted lines).of_noted
  cases h with
  | kept hnone => exact ⟨.kept, hnone, hasked _ _, rfl, rfl⟩
  | @applied s₁ fixed line lines hsome hs hw =>
    have hok := congrArg Except.isOk hw
    subst hs
    exact ⟨.applied fixed, ⟨hsome, hok⟩, (hasked line lines).trans (.wrote _ _ hok), rfl, rfl⟩
  | @refused s₁ fixed line lines cause hsome hs hw =>
    have hok := congrArg Except.isOk hw
    subst hs
    exact ⟨.refused fixed, ⟨hsome, hok⟩, (hasked line lines).trans (.wrote _ _ hok), fixed, rfl⟩

/-- A stage goes in rounds, and the content that it carries is the one that was taken over last. -/
theorem StageRun.exists_rounds {result : Except StageFailure Unit}
    (h : StageRun agents job target stage left n current s result current' s') :
    ∃ rounds, Does agents s s' (doneIn job target rounds) ∧
      Rounds agents job target stage left current s.world rounds result.isOk ∧
      current' = accepted current rounds := by
  -- the last run of the command ends the stage, and any other is followed by a repair
  have hlast : ∀ (left : Nat) (current : String) {s s' : Session σ} (v : Verification),
      (agents.verify s.world (job.command stage) job.workspace).value = v →
      Does agents s s' [.verified (job.command stage) job.workspace v.passed] →
      v.passed = true ∨ left = 0 →
      ∃ rounds, Does agents s s' (doneIn job target rounds) ∧
        Rounds agents job target stage left current s.world rounds v.passed ∧
        current = accepted current rounds := by
    intro left current s s' v hv hdoes hend
    exact ⟨[⟨stage, current, v, .ended⟩], hdoes, .ended ⟨hv, trivial⟩ hend, rfl⟩
  induction h with
  | @passed left n current s s' h =>
    obtain ⟨hverdict, hdoes⟩ := attemptStage_does h
    have hpassed := Verification.verdict_eq_ok hverdict
    have hrounds := hlast left current _ rfl hdoes (.inl hpassed)
    rwa [hpassed] at hrounds
  | @exhausted n current output s s' h =>
    obtain ⟨hverdict, hdoes⟩ := attemptStage_does h
    obtain ⟨hfailed, -⟩ := Verification.verdict_eq_failed hverdict
    have hrounds := hlast 0 current _ rfl hdoes (.inr rfl)
    rwa [hfailed] at hrounds
  | @unwritable left n current output failure s s₁ s' h hrep =>
    obtain ⟨hverdict, hdoes⟩ := attemptStage_does h
    obtain ⟨hfailed, rfl⟩ := Verification.verdict_eq_failed hverdict
    obtain ⟨followup, hhappens, hdone, text, rfl⟩ := hrep.does
    rw [hdoes.world_eq] at hhappens
    have hround : Round.Happens agents job target s.world ⟨stage, current, _, .refused text⟩ :=
      ⟨rfl, hhappens⟩
    have hdid : Does agents s s' (Round.done job target ⟨stage, current, _, .refused text⟩) :=
      hdoes.trans hdone
    rw [← doneIn_singleton] at hdid
    exact ⟨_, hdid, .refused hround hfailed, rfl⟩
  | @again left n current current₁ current' output result s s₁ s₂ s' h hrep _ ih =>
    obtain ⟨hverdict, hdoes⟩ := attemptStage_does h
    obtain ⟨hfailed, rfl⟩ := Verification.verdict_eq_failed hverdict
    obtain ⟨followup, hhappens, hdone, hgoesOn, rfl⟩ := hrep.does
    rw [hdoes.world_eq] at hhappens
    obtain ⟨rounds, hmore, hrounds, rfl⟩ := ih
    have hround : Round.Happens agents job target s.world ⟨stage, current, _, followup⟩ :=
      ⟨rfl, hhappens⟩
    have hdid : Does agents s s₂ (Round.done job target ⟨stage, current, _, followup⟩) :=
      hdoes.trans hdone
    rw [hdid.world_eq] at hrounds
    refine ⟨⟨stage, current, _, followup⟩ :: rounds, hdid.trans hmore,
      .again hround ⟨hfailed, hgoesOn⟩ rfl ?_, ?_⟩
    · rw [accepted_cons, accepted_nil]
      exact hrounds
    · rw [accepted_cons]

/-! ### Stages in turn -/

/-- The rounds of stages in turn, up to the first stage that does not pass, and whether all pass. -/
inductive Verified (agents : Agents σ) (job : Job) (target : Target) :
    List Stage → (current : String) → World σ → List Round → (passed : Bool) → Prop
  | finished {current : String} {w : World σ} : Verified agents job target [] current w [] true
  | failed {stage : Stage} {rest : List Stage} {current : String} {w : World σ}
      {rounds : List Round} :
    Rounds agents job target stage (job.policy.maxAttempts.toNat - 1) current w rounds false →
    Verified agents job target (stage :: rest) current w rounds false
  | next {stage : Stage} {rest : List Stage} {current : String} {w : World σ}
      {rounds more : List Round} {passed : Bool} :
    Rounds agents job target stage (job.policy.maxAttempts.toNat - 1) current w rounds true →
    Verified agents job target rest (accepted current rounds)
      (agents.replay w (doneIn job target rounds)) more passed →
    Verified agents job target (stage :: rest) current w (rounds ++ more) passed

theorem StagesRun.exists_rounds {stages : List Stage}
    (h : StagesRun agents job target stages current s passed current' s') :
    ∃ rounds, Does agents s s' (doneIn job target rounds) ∧
      Verified agents job target stages current s.world rounds passed := by
  induction h with
  | finished => exact ⟨[], .refl _, .finished⟩
  | failed hstage =>
    obtain ⟨rounds, hdoes, hrounds, -⟩ := hstage.exists_rounds
    exact ⟨rounds, hdoes.noted _, .failed hrounds⟩
  | next hstage _ ih =>
    obtain ⟨rounds, hdoes, hrounds, rfl⟩ := hstage.exists_rounds
    obtain ⟨more, hmore, hverified⟩ := ih
    rw [hdoes.world_eq] at hverified
    exact ⟨rounds ++ more, by simpa using hdoes.trans hmore, .next hrounds hverified⟩

/-! ### Everything that a step does -/

/-- The event is a read or a question. -/
def Event.isLook : Event → Bool
  | .read _ | .asked _ => true
  | _ => false

/-- The event is a question. -/
def Event.isQuestion : Event → Bool
  | .asked _ => true
  | _ => false

/-- How many questions are among events. -/
def questions (events : List Event) : Nat := events.countP Event.isQuestion

/-- What stands before the transformation of a file: it is read, and counted unless the count is
known. -/
inductive Looked (job : Job) (file content : String) : List Event → Prop
  | known : Looked job file content [.read (job.path file)]
  | counted : Looked job file content [.read (job.path file), .asked (countPrompt job file content)]

/-- What a step does before its first write: it looks at the file, asks for the transformation, and
for the count after it. -/
structure Opening (agents : Agents σ) (job : Job) (file : String) (s : Session σ)
    (content transformed : String) (events : List Event) : Prop where
  read : s.world.disk.readText (job.path file) = .ok content
  asked : ∃ looked, Looked job file content looked ∧
    events = looked ++ [.asked (Prompt.transform content file job.brief),
      .asked (countPrompt job file transformed)] ∧
    Answer.proposed (agents.complete (agents.replay s.world looked)
      (Prompt.transform content file job.brief)).value content = some transformed

/-- What a step does, by how it ends. -/
inductive StepDone (agents : Agents σ) (job : Job) (file : String) (s : Session σ) :
    EStateM.Result Overflow (Session σ) Outcome → List Event → Prop
  /-- Nothing is written or verified. -/
  | idle {result : EStateM.Result Overflow (Session σ) Outcome} {events : List Event} :
    (∀ e ∈ events, e.isLook = true) → questions events ≤ 3 →
    (∀ o s', result = .ok o s' → o.state = .skipped ∨ o.state = .failed) →
    StepDone agents job file s result events
  /-- The change cannot be written. -/
  | unwritten {content transformed : String} {events : List Event} {restored : Bool} {o : Outcome}
      {s' : Session σ} :
    Opening agents job file s content transformed events →
    (agents.write (agents.replay s.world events) (job.path file) transformed).value.isOk = false →
    o.state = .failed →
    StepDone agents job file s (.ok o s') (events ++
      [.wrote (job.path file) transformed false, .wrote (job.path file) content restored])
  /-- The change is written, and a stage fails. -/
  | reverted {content transformed : String} {events : List Event} {rounds : List Round}
      {restored : Bool} {o : Outcome} {s' : Session σ} :
    Opening agents job file s content transformed events →
    (agents.write (agents.replay s.world events) (job.path file) transformed).value.isOk = true →
    Verified agents job (job.target file content) stages transformed
      (agents.replay s.world (events ++ [.wrote (job.path file) transformed true])) rounds false →
    o.state = .reverted →
    StepDone agents job file s (.ok o s') (events ++ .wrote (job.path file) transformed true ::
      (doneIn job (job.target file content) rounds ++ [.wrote (job.path file) content restored]))
  /-- The change is written, and all stages pass. -/
  | done {content transformed : String} {events : List Event} {rounds : List Round} {o : Outcome}
      {s' : Session σ} :
    Opening agents job file s content transformed events →
    (agents.write (agents.replay s.world events) (job.path file) transformed).value.isOk = true →
    Verified agents job (job.target file content) stages transformed
      (agents.replay s.world (events ++ [.wrote (job.path file) transformed true])) rounds true →
    o.state = .done →
    StepDone agents job file s (.ok o s') (events ++ .wrote (job.path file) transformed true ::
      doneIn job (job.target file content) rounds)

theorem Looked.isLook (h : Looked job file content events) : ∀ e ∈ events, e.isLook = true := by
  cases h <;> simp [Event.isLook]

theorem Looked.questions_le (h : Looked job file content events) : questions events ≤ 1 := by
  cases h with
  | known => exact Nat.zero_le 1
  | counted => exact Nat.le_refl 1

theorem questions_append (events more : List Event) :
    questions (events ++ more) = questions events + questions more :=
  List.countP_append

theorem Opening.isLook (h : Opening agents job file s content transformed events) :
    ∀ e ∈ events, e.isLook = true := by
  obtain ⟨looked, hlooked, rfl, -⟩ := h.asked
  rw [List.forall_mem_append]
  exact ⟨hlooked.isLook, by simp [Event.isLook]⟩

theorem Opening.questions_le (h : Opening agents job file s content transformed events) :
    questions events ≤ 3 := by
  obtain ⟨looked, hlooked, rfl, -⟩ := h.asked
  rw [questions_append]
  exact Nat.add_le_add hlooked.questions_le (Nat.le_refl 2)

theorem Counted.does {line : String} {before : UInt64}
    (h : Counted agents job file content ((s.noted [line]).looked (job.path file)) known before
      s') :
    ∃ looked, Looked job file content looked ∧ Does agents s s' looked := by
  have hread : Does agents s ((s.noted [line]).looked (job.path file)) [.read (job.path file)] :=
    (Does.of_move (.read (s.noted [line]) (job.path file)) rfl).of_noted
  cases h with
  | known => exact ⟨_, .known, hread⟩
  | asked => exact ⟨_, .counted, (hread.trans (.asked _ _)).noted _⟩

theorem Rewriting.does {before after : UInt64}
    (h : Rewriting agents job file known s content before transformed after s') :
    ∃ events, Does agents s s' events ∧ Opening agents job file s content transformed events := by
  cases h with
  | @intro line line' lines lines' s₁ s₂ hread hcounted _ hproposed hs _ =>
    obtain ⟨looked, hlooked, hdoes⟩ := hcounted.does
    rw [hdoes.world_eq] at hproposed
    have hasked : Does agents s s₂
        (looked ++ [.asked (Prompt.transform content file job.brief)]) := by
      rw [hs]
      exact (((hdoes.noted [line']).trans (.asked _ _)).noted lines)
    have hall := (hasked.trans (.asked s₂ (countPrompt job file transformed))).noted lines'
    rw [List.append_assoc] at hall
    exact ⟨_, hall, hread, looked, hlooked, rfl, hproposed⟩

/-- A change that was written, and its verification. -/
theorem Rewriting.verified {before after : UInt64} {lines : List String}
    (h : Rewriting agents job file known s content before transformed after s₁)
    (hw : (agents.write s₁.world (job.path file) transformed).value = .ok ())
    (hstages : StagesRun agents job (job.target file content) stages transformed
      ((s₁.noted lines).written agents (job.path file) transformed) passed current s') :
    ∃ events rounds, Opening agents job file s content transformed events ∧
      (agents.write (agents.replay s.world events) (job.path file) transformed).value.isOk = true ∧
      Verified agents job (job.target file content) stages transformed
        (agents.replay s.world (events ++ [.wrote (job.path file) transformed true])) rounds
        passed ∧
      Does agents s s' (events ++ .wrote (job.path file) transformed true ::
        doneIn job (job.target file content) rounds) := by
  obtain ⟨events, hdoes, hopening⟩ := h.does
  have hok := congrArg Except.isOk hw
  have hstart := (hdoes.noted lines).trans (.wrote (s := s₁.noted lines) _ _ hok)
  obtain ⟨rounds, hrounds, hverified⟩ := hstages.exists_rounds
  rw [hstart.world_eq] at hverified
  have hall := hstart.trans hrounds
  rw [List.append_assoc] at hall
  rw [hdoes.world_eq] at hok
  exact ⟨events, rounds, hopening, hok, hverified, hall⟩

/-- A step does what `StepDone` says. -/
theorem StepRun.does {result : EStateM.Result Overflow (Session σ) Outcome}
    (h : StepRun agents job file known s result) :
    ∃ events, Does agents s (finalSession result) events ∧
      StepDone agents job file s result events := by
  cases h with
  | @unreadable cause line line' hread =>
    have hlooked : Does agents (s.noted [line]) _ [.read (job.path file)] :=
      .of_move (.read _ (job.path file)) rfl
    exact ⟨_, hlooked.of_noted.noted [line'], .idle (by simp [Event.isLook]) (Nat.zero_le 3)
      (by rintro _ _ ⟨⟩; exact .inr rfl)⟩
  | empty hread hcounted =>
    obtain ⟨looked, hlooked, hdoes⟩ := hcounted.does
    exact ⟨_, hdoes.noted _, .idle hlooked.isLook (Nat.le_trans hlooked.questions_le (by decide))
      (by rintro _ _ ⟨⟩; exact .inl rfl)⟩
  | unchanged hread hcounted hzero hnone =>
    obtain ⟨looked, hlooked, hdoes⟩ := hcounted.does
    refine ⟨_, ((hdoes.noted _).trans (.asked _ _)).noted _, .idle ?_ ?_ ?_⟩
    · rw [List.forall_mem_append]
      exact ⟨hlooked.isLook, by simp [Event.isLook]⟩
    · rw [questions_append]
      exact Nat.add_le_add hlooked.questions_le (show 1 ≤ 2 by decide)
    · rintro _ _ ⟨⟩
      exact .inl rfl
  | overflow hrewriting hsub =>
    obtain ⟨events, hdoes, hopening⟩ := hrewriting.does
    exact ⟨events, hdoes, .idle hopening.isLook hopening.questions_le nofun⟩
  | @unwritten content transformed line lines lines' _ _ _ cause s₁ hrewriting hsub hw =>
    obtain ⟨events, hdoes, hopening⟩ := hrewriting.does
    have hnot := congrArg Except.isOk hw
    have hrefused : Does agents (s₁.noted lines) _ [.wrote (job.path file) transformed false] :=
      .wrote _ _ hnot
    rw [hdoes.world_eq] at hnot
    have hall := (((hdoes.noted lines).trans hrefused).noted [line]).trans
      (.wrote (job.path file) content rfl)
    rw [List.append_assoc] at hall
    exact ⟨_, hall.noted lines', .unwritten hopening hnot rfl⟩
  | @reverted content transformed _ lines lines' _ _ _ s₁ s₂ hrewriting hsub hw hstages =>
    obtain ⟨events, rounds, hopening, hok, hverified, hdoes⟩ := hrewriting.verified hw hstages
    have hall := hdoes.trans (.wrote (job.path file) content rfl)
    rw [List.append_assoc] at hall
    exact ⟨_, hall.noted lines', .reverted hopening hok hverified rfl⟩
  | @done content transformed _ line lines _ _ _ s₁ s₂ hrewriting hsub hw hstages =>
    obtain ⟨events, rounds, hopening, hok, hverified, hdoes⟩ := hrewriting.verified hw hstages
    exact ⟨_, hdoes.noted [line], .done hopening hok hverified rfl⟩

/-! ### A step in rounds -/

/-- The event is a run of a command. -/
def Event.isRun : Event → Bool
  | .verified _ _ _ => true
  | _ => false

theorem isRun_of_isLook {e : Event} (h : e.isLook = true) : e.isRun = false := by
  cases e with
  | verified => cases h
  | log | read | asked | wrote => rfl

/-- What a step does before, in and after its rounds. -/
structure InRounds (agents : Agents σ) (job : Job) (file : String) (s : Session σ)
    (result : EStateM.Result Overflow (Session σ) Outcome) (content transformed : String)
    (before : List Event) (rounds : List Round) (after : List Event) : Prop where
  done_eq : doneBetween s (finalSession result) =
    before ++ doneIn job (job.target file content) rounds ++ after
  /-- No command is run but in the rounds. -/
  notRun : ∀ e ∈ before ++ after, e.isRun = false
  /-- The change that the model was asked for is written before the first round. -/
  written : rounds ≠ [] → ∃ opening, Opening agents job file s content transformed opening ∧
    before = opening ++ [.wrote (job.path file) transformed true]

theorem InRounds.of_no_round {result : EStateM.Result Overflow (Session σ) Outcome}
    {before after : List Event} (hdone : doneBetween s (finalSession result) = before ++ after)
    (hruns : ∀ e ∈ before ++ after, e.isRun = false) :
    InRounds agents job file s result content transformed before [] after where
  done_eq := by rw [hdone, doneIn_nil, List.append_nil]
  notRun := hruns
  written h := absurd rfl h

/-- No command is run before the first write, nor with it. -/
theorem Opening.notRun {after : List Event} {succeeded : Bool}
    (h : Opening agents job file s content transformed events)
    (hafter : ∀ e ∈ after, e.isRun = false) :
    ∀ e ∈ events ++ [.wrote (job.path file) transformed succeeded] ++ after, e.isRun = false := by
  intro e he
  rw [List.mem_append, List.mem_append, List.mem_singleton] at he
  obtain (he | rfl) | he := he
  · exact isRun_of_isLook (h.isLook e he)
  · rfl
  · exact hafter e he

theorem InRounds.of_opening {o : Outcome} {rounds : List Round} {after : List Event}
    (hopening : Opening agents job file s content transformed events)
    (hdone : doneBetween s s' = events ++ .wrote (job.path file) transformed true ::
      (doneIn job (job.target file content) rounds ++ after))
    (hafter : ∀ e ∈ after, e.isRun = false) :
    InRounds agents job file s (.ok o s') content transformed
      (events ++ [.wrote (job.path file) transformed true]) rounds after where
  done_eq := by
    rw [finalSession, hdone]
    simp
  notRun := hopening.notRun hafter
  written _ := ⟨events, hopening, rfl⟩

end Codemod.Migration
