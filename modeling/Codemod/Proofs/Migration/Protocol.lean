import Codemod.Proofs.Migration.Rounds

/-!
# The protocol of the repair loop

A stage that is started runs its command at least once and no more often than its cap allows. It
ends with the first run that passes, with the last run that is allowed, or with a repair that cannot
be written, and it asks for a repair after every other run. Lint comes before the tests, which are
run only when lint has passed, and nothing is run before the change is written.

- `repairsAsked`, `passes` — the repairs that are asked for, and how a stage ended
- `Rounds.split`, `EndsBy`, `StageRules`, `Rounds.rules` — a stage
- `StepRules`, `StepDone.rules` — a step
- `runStep_protocol` — every step
-/

namespace Codemod.Migration

variable {σ : Type} {agents : Agents σ} {job : Job} {target : Target} {stage : Stage}
variable {file content transformed current : String} {left : Nat}
variable {w : World σ} {s : Session σ} {events : List Event}
variable {rounds early lint test : List Round} {passed : Bool}

/-! ### A stage -/

/-- A repair is asked for. -/
def Followup.asks : Followup → Bool
  | .ended => false
  | .kept | .applied _ | .refused _ => true

/-- How many repairs rounds ask for. -/
def repairsAsked (rounds : List Round) : Nat := rounds.countP (·.followup.asks)

/-- The last run of the command passes. -/
def passes (rounds : List Round) : Bool := rounds.getLast?.any (·.verification.passed)

theorem Followup.asks_of_goesOn {f : Followup} (h : f.goesOn = true) : f.asks = true := by
  cases f with
  | kept | applied => rfl
  | ended | refused => cases h

/-- There is one question in a round that asks for a repair, and none in any other. -/
theorem questions_doneIn (rounds : List Round) :
    questions (doneIn job target rounds) = repairsAsked rounds := by
  induction rounds with
  | nil => rfl
  | cons r rounds ih =>
    rw [doneIn_cons, questions_append, ih, repairsAsked, repairsAsked, List.countP_cons,
      Nat.add_comm]
    obtain ⟨stage, current, v, followup⟩ := r
    cases followup <;> rfl

/-- A stage goes on until its last round, and what is left of its attempts limits its rounds. -/
theorem Rounds.split (h : Rounds agents job target stage left current w rounds passed) :
    ∃ early last, rounds = early ++ [last] ∧ (∀ r ∈ early, r.GoesOn) ∧
      (∀ r ∈ rounds, r.stage = stage) ∧ last.verification.passed = passed ∧
      early.length ≤ left ∧
      (last.followup = .ended ∧ (passed = true ∨ early.length = left) ∨
        passed = false ∧ early.length < left ∧ ∃ text, last.followup = .refused text) := by
  induction h with
  | @ended left current w v _ hend =>
    refine ⟨[], _, rfl, nofun, by simp, rfl, Nat.zero_le _, .inl ⟨rfl, ?_⟩⟩
    exact hend.imp_right Eq.symm
  | @refused left current text w v _ hfailed =>
    exact ⟨[], _, rfl, nofun, by simp, hfailed, Nat.zero_le _,
      .inr ⟨rfl, Nat.succ_pos left, text, rfl⟩⟩
  | @again left w r rounds passed _ hgoesOn hstage _ ih =>
    obtain ⟨early, last, rfl, hearly, hstages, hpassed, hlength, hend⟩ := ih
    refine ⟨r :: early, last, rfl, List.forall_mem_cons.mpr ⟨hgoesOn, hearly⟩,
      List.forall_mem_cons.mpr ⟨hstage, hstages⟩, hpassed, Nat.succ_le_succ hlength, ?_⟩
    obtain ⟨hended, hleft⟩ | ⟨hfailed, hleft, hrefused⟩ := hend
    · exact .inl ⟨hended, hleft.imp_right (congrArg Nat.succ)⟩
    · exact .inr ⟨hfailed, Nat.succ_lt_succ hleft, hrefused⟩

/-- The three ways in which a stage with a cap of `m` attempts ends, and how many repairs it has
asked for then. -/
inductive EndsBy (m : Nat) (rounds : List Round) (last : Round) : Prop
  /-- With a run that passes. -/
  | passing : last.verification.passed = true → last.followup = .ended →
    repairsAsked rounds + 1 = rounds.length → EndsBy m rounds last
  /-- With the last run that is allowed. -/
  | exhausted : last.verification.passed = false → last.followup = .ended → rounds.length = m →
    repairsAsked rounds + 1 = rounds.length → EndsBy m rounds last
  /-- With a repair that cannot be written. -/
  | refused (text : String) : last.verification.passed = false → last.followup = .refused text →
    repairsAsked rounds = rounds.length → EndsBy m rounds last

/-- The rules for the rounds of a stage, of which there are none when it was not started. -/
structure StageRules (m : Nat) (stage : Stage) (rounds : List Round) : Prop where
  ofStage : ∀ r ∈ rounds, r.stage = stage
  runs_le : rounds.length ≤ m
  repairs_le : repairsAsked rounds ≤ m - 1
  /-- In every round but the last the command fails, a repair is asked for, and what is proposed is
  written. -/
  goesOn : ∀ early last, rounds = early ++ [last] → ∀ r ∈ early, r.GoesOn
  ends : ∀ early last, rounds = early ++ [last] → EndsBy m rounds last

theorem StageRules.not_started (m : Nat) (stage : Stage) : StageRules m stage [] where
  ofStage := nofun
  runs_le := Nat.zero_le m
  repairs_le := Nat.zero_le _
  goesOn early last h := by simp at h
  ends early last h := by simp at h

theorem repairsAsked_concat (last : Round) (hearly : ∀ r ∈ early, r.GoesOn) :
    repairsAsked (early ++ [last]) = early.length + if last.followup.asks then 1 else 0 := by
  have hall : early.countP (·.followup.asks) = early.length :=
    List.countP_eq_length.mpr fun r hr => Followup.asks_of_goesOn (hearly r hr).2
  rw [repairsAsked, List.countP_append, hall, List.countP_singleton]

/-- A stage that is started has rounds, which obey the rules. -/
theorem Rounds.rules (h : Rounds agents job target stage left current w rounds passed) :
    StageRules (left + 1) stage rounds ∧ rounds ≠ [] ∧ passes rounds = passed := by
  obtain ⟨early, last, rfl, hearly, hstages, hpassed, hlength, hend⟩ := h.split
  have hruns : (early ++ [last]).length = early.length + 1 := List.length_append
  have hrepairs := repairsAsked_concat last hearly
  have hends : EndsBy (left + 1) (early ++ [last]) last := by
    obtain ⟨hended, hleft⟩ | ⟨rfl, -, text, hrefused⟩ := hend
    · rw [hended] at hrepairs
      have hasked : repairsAsked (early ++ [last]) + 1 = (early ++ [last]).length := by
        rw [hruns, hrepairs]
        rfl
      cases hpass : passed with
      | true => exact .passing (hpassed.trans hpass) hended hasked
      | false =>
        have hall := hleft.resolve_left (by rw [hpass]; exact Bool.false_ne_true)
        exact .exhausted (hpassed.trans hpass) hended (by rw [hruns, hall]) hasked
    · rw [hrefused] at hrepairs
      exact .refused text hpassed hrefused (hrepairs.trans hruns.symm)
  have hcap : repairsAsked (early ++ [last]) ≤ left := by
    obtain ⟨hended, -⟩ | ⟨-, hlt, text, hrefused⟩ := hend
    · rw [hrepairs, hended]
      exact hlength
    · rw [hrepairs, hrefused]
      exact hlt
  refine ⟨⟨hstages, hruns ▸ Nat.succ_le_succ hlength, hcap, ?_, ?_⟩, by simp, ?_⟩
  · intro early' last' heq
    rw [(List.append_inj_left' heq rfl).symm]
    exact hearly
  · intro early' last' heq
    have hlast := List.append_inj_right' heq rfl
    rw [← List.singleton_inj.mp hlast]
    exact hends
  · rw [passes, List.getLast?_concat]
    exact hpassed

/-! ### A step -/

/-- The cap on the attempts of a stage. -/
def Job.cap (job : Job) : Nat := max job.maxFixAttempts.toNat 1

theorem Job.cap_eq (job : Job) : job.policy.maxAttempts.toNat - 1 + 1 = job.cap := by
  unfold cap policy RetryPolicy.attempts
  dsimp only
  by_cases hzero : job.maxFixAttempts = 0
  · rw [if_pos hzero, hzero]
    rfl
  · rw [if_neg hzero]
    have hne : job.maxFixAttempts.toNat ≠ 0 := fun h => hzero (UInt32.toNat_inj.mp h)
    omega

/-- The rules for a step, in which the rounds of the tests come after those of lint. -/
structure StepRules (agents : Agents σ) (job : Job) (file : String) (s : Session σ)
    (result : EStateM.Result Overflow (Session σ) Outcome) (content transformed : String)
    (before : List Event) (lint test : List Round) (after : List Event) : Prop extends
    InRounds agents job file s result content transformed before (lint ++ test) after where
  lintRules : StageRules job.cap .lint lint
  testRules : StageRules job.cap .test test
  /-- The tests are run only after a run of lint that passed. -/
  linted : test ≠ [] → passes lint = true
  done_iff : ∀ o s', result = .ok o s' →
    (o.state = .done ↔ passes lint = true ∧ passes test = true)
  reverted_iff : ∀ o s', result = .ok o s' → (o.state = .reverted ↔
    lint ≠ [] ∧ passes lint = false ∨ test ≠ [] ∧ passes test = false)
  /-- An overflow comes before all runs. -/
  overflow : ∀ e s', result = .error e s' → lint ++ test = []
  questions_le : questions (doneBetween s (finalSession result)) ≤ 2 * job.cap + 1

/-- A step that starts no stage. -/
theorem StepRules.of_no_stage {result : EStateM.Result Overflow (Session σ) Outcome}
    {before after : List Event}
    (hin : InRounds agents job file s result content transformed before [] after)
    (hquestions : questions (before ++ after) ≤ 3)
    (hstate : ∀ o s', result = .ok o s' → o.state = .skipped ∨ o.state = .failed) :
    StepRules agents job file s result content transformed before [] [] after where
  toInRounds := hin
  lintRules := .not_started _ _
  testRules := .not_started _ _
  linted h := absurd rfl h
  done_iff o s' hr := by
    obtain h | h := hstate o s' hr <;> simp [h, passes]
  reverted_iff o s' hr := by
    obtain h | h := hstate o s' hr <;> simp [h]
  overflow _ _ _ := rfl
  questions_le := by
    rw [hin.done_eq, doneIn_nil, List.append_nil]
    have hcap : 1 ≤ job.cap := Nat.le_max_right _ 1
    omega

/-- A step that has written its change and starts lint, and the tests if lint passes. -/
theorem StepRules.of_stages {o : Outcome} {s' : Session σ} {after : List Event}
    (hopening : Opening agents job file s content transformed events)
    (hdone : doneBetween s s' = events ++ .wrote (job.path file) transformed true ::
      (doneIn job (job.target file content) (lint ++ test) ++ after))
    (hafter : ∀ e ∈ after, e.isRun = false ∧ e.isQuestion = false)
    (hlint : StageRules job.cap .lint lint) (htest : StageRules job.cap .test test)
    (hlinted : test ≠ [] → passes lint = true)
    (hstate : o.state = .done ∧ passes lint = true ∧ passes test = true ∨
      o.state = .reverted ∧
        (lint ≠ [] ∧ passes lint = false ∨ test ≠ [] ∧ passes test = false)) :
    StepRules agents job file s (.ok o s') content transformed
      (events ++ [.wrote (job.path file) transformed true]) lint test after where
  toInRounds := .of_opening hopening hdone fun e he => (hafter e he).1
  lintRules := hlint
  testRules := htest
  linted := hlinted
  done_iff := by
    rintro _ _ ⟨⟩
    obtain ⟨hdone, hboth⟩ | ⟨hreverted, hfailed⟩ := hstate
    · exact ⟨fun _ => hboth, fun _ => hdone⟩
    · rw [hreverted]
      refine ⟨nofun, fun ⟨hl, ht⟩ => ?_⟩
      simp [hl, ht] at hfailed
  reverted_iff := by
    rintro _ _ ⟨⟩
    obtain ⟨hdone, hl, ht⟩ | ⟨hreverted, hfailed⟩ := hstate
    · rw [hdone, hl, ht]
      simp
    · exact ⟨fun _ => hfailed, fun _ => hreverted⟩
  overflow := nofun
  questions_le := by
    have hnone : questions after = 0 :=
      List.countP_eq_zero.mpr fun e he => by rw [(hafter e he).2]; exact Bool.false_ne_true
    have hwrite : questions [.wrote (job.path file) transformed true] = 0 := rfl
    rw [finalSession, hdone, ← List.singleton_append, questions_append, questions_append,
      questions_append, doneIn_append, questions_append, questions_doneIn, questions_doneIn, hnone,
      hwrite]
    -- three questions at most before the stages, and one less than the cap in each of them
    have hbefore := hopening.questions_le
    have hcap : 1 ≤ job.cap := Nat.le_max_right _ 1
    have hlintAsks := hlint.repairs_le
    have htestAsks := htest.repairs_le
    omega

/-- What a step does obeys the rules. -/
theorem StepDone.rules {result : EStateM.Result Overflow (Session σ) Outcome}
    (h : StepDone agents job file s result events)
    (hdone : doneBetween s (finalSession result) = events) :
    ∃ content transformed before lint test after,
      StepRules agents job file s result content transformed before lint test after := by
  have hback : ∀ content restored, ∀ e ∈ [Event.wrote (job.path file) content restored],
      e.isRun = false ∧ e.isQuestion = false := by simp [Event.isRun, Event.isQuestion]
  cases h with
  | idle hlook hquestions hstate =>
    rw [← List.append_nil events] at hdone hlook hquestions
    exact ⟨"", "", events, [], [], [],
      .of_no_stage (.of_no_round hdone fun e he => isRun_of_isLook (hlook e he)) hquestions hstate⟩
  | @unwritten content transformed opening restored o s' hopening _ hfailed =>
    rw [List.append_cons] at hdone
    refine ⟨content, transformed, _, [], [], _,
      .of_no_stage (.of_no_round hdone (hopening.notRun (by simp [Event.isRun]))) ?_ ?_⟩
    · rw [← List.append_cons, questions_append]
      exact hopening.questions_le
    · rintro _ _ ⟨⟩
      exact .inr hfailed
  | @reverted content transformed opening rounds restored o s' hopening _ hverified hstate =>
    cases hverified with
    | failed hlint =>
      obtain ⟨hrules, hne, hfailed⟩ := hlint.rules
      rw [job.cap_eq] at hrules
      refine ⟨_, _, _, rounds, [], _, .of_stages hopening ?_ (hback content restored) hrules
        (.not_started _ _) (fun h => absurd rfl h) (.inr ⟨hstate, .inl ⟨hne, hfailed⟩⟩)⟩
      rw [List.append_nil]
      exact hdone
    | next hlint hrest =>
      obtain ⟨hrules, -, hlinted⟩ := hlint.rules
      rw [job.cap_eq] at hrules
      cases hrest with
      | failed htest =>
        obtain ⟨hrules', hne, hfailed⟩ := htest.rules
        rw [job.cap_eq] at hrules'
        exact ⟨_, _, _, _, _, _, .of_stages hopening hdone (hback content restored) hrules hrules'
          (fun _ => hlinted) (.inr ⟨hstate, .inr ⟨hne, hfailed⟩⟩)⟩
      | next _ hfinished => cases hfinished
  | @done content transformed opening rounds o s' hopening _ hverified hstate =>
    cases hverified with
    | next hlint hrest =>
    cases hrest with
    | next htest hfinished =>
    cases hfinished with
    | finished =>
      obtain ⟨hrules, -, hlinted⟩ := hlint.rules
      obtain ⟨hrules', -, htested⟩ := htest.rules
      rw [job.cap_eq] at hrules hrules'
      rw [List.append_nil] at hdone
      refine ⟨_, _, _, _, _, [], .of_stages hopening ?_ nofun hrules hrules' (fun _ => hlinted)
        (.inl ⟨hstate, hlinted, htested⟩)⟩
      rw [List.append_nil]
      exact hdone

/-- Every step obeys the rules, whatever the model answers, the verifier says and the volume
does. -/
theorem runStep_protocol (agents : Agents σ) (job : Job) (file : String) (known : Option UInt64)
    (s : Session σ) :
    ∃ content transformed before lint test after,
      StepRules agents job file s (runStep agents job file known s) content transformed before lint
        test after := by
  obtain ⟨events, hdoes, hdone⟩ := (runStep_run agents job file known s).does
  exact hdone.rules hdoes.doneBetween_eq

end Codemod.Migration
