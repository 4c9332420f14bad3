import Codemod.Duration

/-!
# Bounded retries

An operation is attempted until it succeeds, fails in a way that another attempt would not mend, or
has used up its attempts. Between two attempts a hook runs, which may end the loop, and then a pause
of exponentially growing length.

- `RetryPolicy` — how many attempts and how long the pauses
- `RetryPolicy.backoff` — the pause before a retry
- `RetryPolicy.run` — the loop, over any monad
-/

namespace Codemod

/-- How often and at what pace to retry. -/
structure RetryPolicy where
  /-- Attempts in all, the first one included; zero counts as one. -/
  maxAttempts : UInt32
  /-- The pause before the second attempt; none when zero. -/
  initialBackoff : Duration
  /-- By how much each further pause grows; zero counts as one. -/
  multiplier : UInt32

namespace RetryPolicy

/-- The longest pause. -/
def maxBackoff : Duration := ⟨30 * 10 ^ 9, by decide⟩

/-- At least one attempt, no pauses. -/
def attempts (n : UInt32) : RetryPolicy where
  maxAttempts := if n = 0 then 1 else n
  initialBackoff := .zero
  multiplier := 2

/-- A single attempt. -/
def once : RetryPolicy := attempts 1

/-- The same policy with pauses. -/
def withBackoff (p : RetryPolicy) (initial : Duration) : RetryPolicy :=
  { p with initialBackoff := initial }

/-- `base ^ exponent`, or the largest 32-bit number when the power is larger. -/
def saturatingPow (base : UInt32) (exponent : UInt32) : Nat :=
  if base.toNat ≤ 1 then base.toNat ^ (exponent.toNat.min 1)
  else if 32 ≤ exponent.toNat then 2 ^ 32 - 1
  else (base.toNat ^ exponent.toNat).min (2 ^ 32 - 1)

/-- The pause before a retry, the first retry being number zero. -/
def backoff (p : RetryPolicy) (retry : UInt32) : Duration :=
  if p.initialBackoff.isZero then .zero
  else
    let base := if p.multiplier = 0 then 1 else p.multiplier
    match p.initialBackoff.times? (saturatingPow base retry) with
    | some d => d.min maxBackoff
    | none => maxBackoff

variable {m : Type → Type} [Monad m] {ε α : Type}

/-- The attempts from number `attempt` on, with `left` more after it. -/
def runFrom (p : RetryPolicy) (op : Nat → m (Except ε α)) (retryable : ε → m Bool)
    (onRetry : Nat → ε → m (Except ε Unit)) (pause : Duration → m Unit) :
    (left attempt : Nat) → m (Except ε α)
  | 0, attempt => op attempt
  | left + 1, attempt => do
    match ← op attempt with
    | .ok value => return .ok value
    | .error cause =>
      if ← retryable cause then
        match ← onRetry attempt cause with
        | .error cause => return .error cause
        | .ok () =>
          let delay := p.backoff (attempt - 1).toUInt32
          if !delay.isZero then pause delay
          runFrom p op retryable onRetry pause left (attempt + 1)
      else return .error cause

/-- Attempts `op` until it succeeds, fails for good, or has used up its attempts, numbered from one.
Before another attempt the hook runs, and its error ends the loop. Whether an error is retryable is
only asked when an attempt is left. -/
def run (p : RetryPolicy) (op : Nat → m (Except ε α)) (retryable : ε → m Bool)
    (onRetry : Nat → ε → m (Except ε Unit)) (pause : Duration → m Unit) : m (Except ε α) :=
  runFrom p op retryable onRetry pause (p.maxAttempts.toNat - 1) 1

end RetryPolicy

end Codemod
