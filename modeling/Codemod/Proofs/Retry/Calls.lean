import Codemod.Retry

/-!
# What the retry loop calls

The loop is given an operation, a question, a hook and a way to pause, all of which may remember
what happened before. Every call is recorded with what came back from it, and the record says it
all: failed attempts, each followed by the question, the hook and a pause, and then one of four
endings.

- `Call`, `Callbacks`, `Callbacks.recorded` — the calls, and callbacks that record them
- `Ending`, `round`, `calls` — how a loop ends, and the record of a whole loop
- `loop_of_ok`, `loop_of_error`, `loop_of_refused`, `loop_of_aborted`, `loop_of_mended` — what the
  loop does after one attempt
- `loop_step`, `loop_calls`, `run_calls` — what is recorded of one attempt and of all
-/

namespace Codemod.RetryPolicy

variable {σ ε α β : Type}

/-! ### Calls and their record -/

/-- One call of the loop, with what came back. -/
inductive Call (ε α : Type) where
  /-- The operation, with the number of the attempt. -/
  | attempt (number : Nat) (result : Except ε α)
  /-- Whether another attempt may mend a failure. -/
  | question (cause : ε) (answer : Bool)
  /-- The hook, with the number of the failed attempt and its failure. -/
  | hook (number : Nat) (cause : ε) (result : Except ε Unit)
  /-- A pause. -/
  | pause (delay : Duration)

/-- The number of the attempt, if the call is one. -/
def Call.attempt? : Call ε α → Option Nat
  | attempt number _ => some number
  | _ => none

/-- What the loop calls, with a memory that the callbacks share. -/
structure Callbacks (σ ε α : Type) where
  operation : Nat → StateM σ (Except ε α)
  retryable : ε → StateM σ Bool
  onRetry : Nat → ε → StateM σ (Except ε Unit)
  pause : Duration → StateM σ Unit

/-- The attempts with these callbacks. -/
def attemptAll (p : RetryPolicy) (c : Callbacks σ ε α) : StateM σ (Except ε α) :=
  p.run c.operation c.retryable c.onRetry c.pause

/-- Makes a call and adds it to the record. -/
def recording (x : StateM σ β) (call : β → Call ε α) : StateM (σ × List (Call ε α)) β := do
  let (s, record) ← get
  let (b, s') := x.run s
  set (s', record ++ [call b])
  return b

/-- The same callbacks, recording their calls. -/
def Callbacks.recorded (c : Callbacks σ ε α) : Callbacks (σ × List (Call ε α)) ε α where
  operation number := recording (c.operation number) (.attempt number)
  retryable cause := recording (c.retryable cause) (.question cause)
  onRetry number cause := recording (c.onRetry number cause) (.hook number cause)
  pause delay := recording (c.pause delay) fun _ => .pause delay

variable {p : RetryPolicy} {c : Callbacks σ ε α} {left number : Nat} {s s₁ s₂ s₃ s' : σ}
  {cause failure : ε} {value : α}

theorem recording_run {x : StateM σ β} {b : β} (record : List (Call ε α)) (call : β → Call ε α)
    (h : x.run s = (b, s')) :
    (recording x call).run (s, record) = (b, s', record ++ [call b]) := by
  show ((x.run s).1, (x.run s).2, record ++ [call (x.run s).1]) = _
  rw [h]

/-! ### How a loop ends -/

/-- How a loop ends. -/
inductive Ending (ε α : Type) where
  /-- An attempt succeeds. -/
  | succeeded (value : α)
  /-- The last attempt that is allowed fails. -/
  | exhausted (cause : ε)
  /-- An attempt fails in a way that another one would not mend. -/
  | refused (cause : ε)
  /-- The hook fails after a failed attempt. -/
  | aborted (cause failure : ε)

namespace Ending

/-- What the loop gives. -/
def result : Ending ε α → Except ε α
  | succeeded value => .ok value
  | exhausted cause | refused cause => .error cause
  | aborted _ failure => .error failure

/-- The calls of the last attempt. -/
def calls (number : Nat) : Ending ε α → List (Call ε α)
  | succeeded value => [.attempt number (.ok value)]
  | exhausted cause => [.attempt number (.error cause)]
  | refused cause => [.attempt number (.error cause), .question cause false]
  | aborted cause failure =>
    [.attempt number (.error cause), .question cause true, .hook number cause (.error failure)]

/-- The ending is possible after so many attempts of those that are allowed. -/
def Fits (cap attempts : Nat) : Ending ε α → Prop
  | succeeded _ => attempts ≤ cap
  | exhausted _ => attempts = cap
  | refused _ | aborted _ _ => attempts < cap

theorem Fits.le {cap attempts : Nat} {ending : Ending ε α} (h : ending.Fits cap attempts) :
    attempts ≤ cap := by
  cases ending with
  | succeeded => exact h
  | exhausted => exact Nat.le_of_eq h
  | refused | aborted => exact Nat.le_of_lt h

theorem Fits.succ {cap attempts : Nat} {ending : Ending ε α} (h : ending.Fits cap attempts) :
    ending.Fits (cap + 1) (attempts + 1) := by
  cases ending with
  | succeeded => exact Nat.succ_le_succ h
  | exhausted => exact congrArg Nat.succ h
  | refused | aborted => exact Nat.succ_lt_succ h

end Ending

/-- The pause before a retry, unless it is empty. -/
def pauses (delay : Duration) : List (Call ε α) := if delay.isZero then [] else [.pause delay]

/-- The calls of a failed attempt that another one follows. -/
def round (p : RetryPolicy) (number : Nat) (cause : ε) : List (Call ε α) :=
  .attempt number (.error cause) :: .question cause true :: .hook number cause (.ok ()) ::
    pauses (p.backoff (number - 1).toUInt32)

/-- The calls of a loop whose attempts fail with these causes, the first of them with that number,
before it ends. -/
def calls (p : RetryPolicy) (ending : Ending ε α) : Nat → List ε → List (Call ε α)
  | number, [] => ending.calls number
  | number, cause :: causes => p.round number cause ++ calls p ending (number + 1) causes

theorem attempt?_calls (p : RetryPolicy) (ending : Ending ε α) (number : Nat) (causes : List ε) :
    (p.calls ending number causes).filterMap Call.attempt? =
      List.range' number (causes.length + 1) := by
  have hpauses (delay : Duration) :
      (pauses delay : List (Call ε α)).filterMap Call.attempt? = [] := by
    unfold pauses
    split <;> rfl
  induction causes generalizing number with
  | nil => cases ending <;> rfl
  | cons cause causes ih =>
    rw [calls, List.filterMap_append, ih, round]
    simp only [List.filterMap_cons, Call.attempt?, hpauses, List.singleton_append]
    rfl

/-! ### One attempt -/

/-- The loop from one attempt on. -/
def loop (p : RetryPolicy) (c : Callbacks σ ε α) (left number : Nat) : StateM σ (Except ε α) :=
  p.runFrom c.operation c.retryable c.onRetry c.pause left number

/-- What a pause leaves behind. -/
def paused (c : Callbacks σ ε α) (delay : Duration) (s : σ) : σ :=
  if delay.isZero then s else ((c.pause delay).run s).2

theorem loop_of_ok (h : (c.operation number).run s = (.ok value, s')) :
    (loop p c left number).run s = (.ok value, s') := by
  cases left with
  | zero => exact h
  | succ left =>
    rw [loop, runFrom, StateT.run_bind, h]
    rfl

theorem loop_of_error (h : (c.operation number).run s = (.error cause, s')) :
    (loop p c 0 number).run s = (.error cause, s') :=
  h

theorem loop_of_refused (hfailed : (c.operation number).run s = (.error cause, s₁))
    (hno : (c.retryable cause).run s₁ = (false, s₂)) :
    (loop p c (left + 1) number).run s = (.error cause, s₂) := by
  rw [loop, runFrom, StateT.run_bind, hfailed]
  show (c.retryable cause >>= _).run s₁ = _
  rw [StateT.run_bind, hno]
  rfl

theorem loop_of_aborted (hfailed : (c.operation number).run s = (.error cause, s₁))
    (hyes : (c.retryable cause).run s₁ = (true, s₂))
    (hhook : (c.onRetry number cause).run s₂ = (.error failure, s₃)) :
    (loop p c (left + 1) number).run s = (.error failure, s₃) := by
  rw [loop, runFrom, StateT.run_bind, hfailed]
  show (c.retryable cause >>= _).run s₁ = _
  rw [StateT.run_bind, hyes]
  show (c.onRetry number cause >>= _).run s₂ = _
  rw [StateT.run_bind, hhook]
  rfl

theorem loop_of_mended (hfailed : (c.operation number).run s = (.error cause, s₁))
    (hyes : (c.retryable cause).run s₁ = (true, s₂))
    (hhook : (c.onRetry number cause).run s₂ = (.ok (), s₃)) :
    (loop p c (left + 1) number).run s =
      (loop p c left (number + 1)).run (paused c (p.backoff (number - 1).toUInt32) s₃) := by
  rw [loop, runFrom, StateT.run_bind, hfailed]
  show (c.retryable cause >>= _).run s₁ = _
  rw [StateT.run_bind, hyes]
  show (c.onRetry number cause >>= _).run s₂ = _
  rw [StateT.run_bind, hhook]
  unfold paused
  show (if (!(p.backoff (number - 1).toUInt32).isZero) = true then _ else _ : StateM σ _).run s₃ = _
  cases (p.backoff (number - 1).toUInt32).isZero <;> rfl

theorem paused_recorded (c : Callbacks σ ε α) (delay : Duration) (s : σ)
    (record : List (Call ε α)) :
    paused c.recorded delay (s, record) = (paused c delay s, record ++ pauses delay) := by
  unfold paused pauses
  split
  · rw [List.append_nil]
  · rfl

/-- An attempt ends the loop, or it fails and the loop goes on with the next. -/
theorem loop_step (p : RetryPolicy) (c : Callbacks σ ε α) (left number : Nat) (s : σ)
    (record : List (Call ε α)) :
    (∃ (ending : Ending ε α) (s' : σ), (loop p c.recorded (left + 1) number).run (s, record) =
        (ending.result, s', record ++ ending.calls number) ∧
      (loop p c (left + 1) number).run s = (ending.result, s') ∧ ending.Fits (left + 2) 1) ∨
    ∃ cause s', (loop p c.recorded (left + 1) number).run (s, record) =
        (loop p c.recorded left (number + 1)).run (s', record ++ p.round number cause) ∧
      (loop p c (left + 1) number).run s = (loop p c left (number + 1)).run s' := by
  -- each call twice, as it is and, with a prime, as it is recorded
  rcases hran : (c.operation number).run s with ⟨outcome, s₁⟩
  have hran' := recording_run record (.attempt number) hran
  cases outcome with
  | ok value =>
    exact .inl ⟨.succeeded value, s₁, loop_of_ok hran', loop_of_ok hran, Nat.le_add_left ..⟩
  | error cause =>
  rcases hasked : (c.retryable cause).run s₁ with ⟨yes, s₂⟩
  have hasked' :=
    recording_run (record ++ [.attempt number (.error cause)]) (.question cause) hasked
  cases yes with
  | false =>
    refine .inl ⟨.refused cause, s₂, ?_, loop_of_refused hran hasked, Nat.le_add_left ..⟩
    rw [loop_of_refused hran' hasked', List.append_assoc]
    rfl
  | true =>
  rcases hhooked : (c.onRetry number cause).run s₂ with ⟨result, s₃⟩
  have hhooked' :=
    recording_run (record ++ [.attempt number (.error cause)] ++ [.question cause true])
      (.hook number cause) hhooked
  cases result with
  | error failure =>
    refine .inl ⟨.aborted cause failure, s₃, ?_, loop_of_aborted hran hasked hhooked,
      Nat.le_add_left ..⟩
    rw [loop_of_aborted hran' hasked' hhooked', List.append_assoc, List.append_assoc]
    rfl
  | ok u =>
    refine .inr ⟨cause, _, ?_, loop_of_mended hran hasked hhooked⟩
    rw [loop_of_mended hran' hasked' hhooked', paused_recorded, List.append_assoc,
      List.append_assoc, List.append_assoc]
    rfl

/-! ### All attempts -/

/-- The record of a loop, from any attempt on and after any record. -/
theorem loop_calls (p : RetryPolicy) (c : Callbacks σ ε α) (left number : Nat) (s : σ)
    (record : List (Call ε α)) : ∃ causes ending s',
      (loop p c.recorded left number).run (s, record) =
        (ending.result, s', record ++ p.calls ending number causes) ∧
      (loop p c left number).run s = (ending.result, s') ∧
      ending.Fits (left + 1) (causes.length + 1) := by
  -- on the attempts that are left, with the record so far left open
  induction left generalizing number s record with
  | zero =>
    rcases hran : (c.operation number).run s with ⟨outcome, s₁⟩
    have hran' := recording_run record (.attempt number) hran
    cases outcome with
    | ok value =>
      exact ⟨[], .succeeded value, s₁, loop_of_ok hran', loop_of_ok hran, Nat.le_refl 1⟩
    | error cause =>
      exact ⟨[], .exhausted cause, s₁, loop_of_error hran', loop_of_error hran, rfl⟩
  | succ left ih =>
    obtain ⟨ending, s', hends', hends, hfits⟩ | ⟨cause, s', hgoes', hgoes⟩ :=
      loop_step p c left number s record
    · exact ⟨[], ending, s', hends', hends, hfits⟩
    · obtain ⟨causes, ending, s'', hrest', hrest, hfits⟩ :=
        ih (number + 1) s' (record ++ p.round number cause)
      refine ⟨cause :: causes, ending, s'', ?_, hgoes.trans hrest, hfits.succ⟩
      rw [hgoes', hrest', calls, List.append_assoc]

/-- The loop terminates whatever its callbacks do, and this is all that it calls: the operation with
the numbers from one on, and between two attempts the question, the hook and the pause. It ends with
the first attempt that succeeds, is not retryable or is the last that is allowed, or with the first
hook that fails. -/
theorem run_calls (p : RetryPolicy) (c : Callbacks σ ε α) (s : σ) : ∃ causes ending s',
    (p.attemptAll c.recorded).run (s, []) = (ending.result, s', p.calls ending 1 causes) ∧
      (p.attemptAll c).run s = (ending.result, s') ∧
      (p.calls ending 1 causes).filterMap Call.attempt? = List.range' 1 (causes.length + 1) ∧
      causes.length + 1 ≤ max p.maxAttempts.toNat 1 ∧
      ending.Fits (max p.maxAttempts.toNat 1) (causes.length + 1) := by
  obtain ⟨causes, ending, s', hrecorded, hran, hfits⟩ :=
    loop_calls p c (p.maxAttempts.toNat - 1) 1 s []
  have hcap : p.maxAttempts.toNat - 1 + 1 = max p.maxAttempts.toNat 1 := by omega
  rw [hcap] at hfits
  exact ⟨causes, ending, s', hrecorded, hran, attempt?_calls p ending 1 causes, hfits.le, hfits⟩

end Codemod.RetryPolicy
