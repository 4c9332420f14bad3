import Codemod.Client.Launch
import Codemod.Proofs.FileSystem.Scratch
import Codemod.Proofs.Retry.Calls

/-!
# The launches of one call

A call makes one launch after the other, up to the first that succeeds, and each finds what the one
before has left.

- `Launch`, `Attempts` — one launch, and those of a call
- `callbacks`, `launchFrom_failed`, `launchAll_attempts` — the loop, what follows a failure, and all
  that follows
- `Launcher.NeverScratch`, `Launcher.Spares` — what is asked of a launcher
- `Attempts.length_le`, `Attempts.failed`, `Attempts.last` — how many there are and how they end
- `Attempts.holds` — what stands on the disk meanwhile
-/

namespace Codemod.Client

open Codemod.Stream (Transcript)

variable {σ : Type} {launcher : Launcher σ} {options : ClientOptions} {promptFile : String}
  {args : List String}

/-- One launch: what it found, how it went, and what it left. -/
structure Launch (σ : Type) where
  before : Desk σ
  outcome : Except ModelError (List UInt8)
  after : Desk σ

/-- Two desks with the same files and the same memory. -/
structure Desk.Like (d d' : Desk σ) : Prop where
  disk : d.disk = d'.disk
  memory : d.memory = d'.memory

/-- The launcher was started on a desk with these arguments. -/
structure Launch.From (l : Launch σ) (launcher : Launcher σ) (arguments : List String)
    (d : Desk σ) : Prop where
  start : d.Like l.before
  run : (launcher arguments).run l.before = (l.outcome, l.after)

theorem Desk.Like.trans {d d' d'' : Desk σ} (h : d.Like d') (h' : d'.Like d'') : d.Like d'' :=
  ⟨h.disk.trans h'.disk, h.memory.trans h'.memory⟩

theorem Launch.From.of_like {l : Launch σ} {d d' : Desk σ} (h : l.From launcher args d')
    (hlike : d.Like d') : l.From launcher args d :=
  ⟨hlike.trans h.start, h.run⟩

/-- The launches of a call with `left` attempts after the first: up to the first that succeeds, or
until none is left. -/
inductive Attempts (launcher : Launcher σ) (arguments : List String) :
    Nat → Desk σ → List (Launch σ) → Except ModelError String × Desk σ → Prop
  | answered {left : Nat} {d : Desk σ} {l : Launch σ} {output : List UInt8} :
    l.From launcher arguments d → l.outcome = .ok output →
    Attempts launcher arguments left d [l] (.ok (Transcript.ofBytes output).finish, l.after)
  | exhausted {d : Desk σ} {l : Launch σ} {cause : ModelError} :
    l.From launcher arguments d → l.outcome = .error cause →
    Attempts launcher arguments 0 d [l] (.error cause, l.after)
  | again {left : Nat} {d : Desk σ} {l : Launch σ} {ls : List (Launch σ)} {cause : ModelError}
    {ended : Except ModelError String × Desk σ} :
    l.From launcher arguments d → l.outcome = .error cause →
    Attempts launcher arguments left l.after ls ended →
    Attempts launcher arguments (left + 1) d (l :: ls) ended

variable {left number : Nat} {d d' : Desk σ} {launches : List (Launch σ)}
  {ended : Except ModelError String × Desk σ}

theorem Attempts.of_like (h : Attempts launcher args left d' launches ended) (hlike : d.Like d') :
    Attempts launcher args left d launches ended := by
  cases h with
  | answered hfrom hok => exact .answered (hfrom.of_like hlike) hok
  | exhausted hfrom herror => exact .exhausted (hfrom.of_like hlike) herror
  | again hfrom herror hmore => exact .again (hfrom.of_like hlike) herror hmore

/-! ### The loop -/

/-- The launches of a call from one number on. -/
def launchFrom (launcher : Launcher σ) (options : ClientOptions) (promptFile : String)
    (left number : Nat) : StateM (Desk σ) (Except ModelError String) :=
  options.retry.runFrom (attempt launcher options promptFile)
    (fun cause => return cause.isRetryable) (announceRetry options) (fun _ => return ()) left number

/-- What the loop of launches calls. -/
def callbacks (launcher : Launcher σ) (options : ClientOptions) (promptFile : String) :
    RetryPolicy.Callbacks (Desk σ) ModelError String where
  operation := attempt launcher options promptFile
  retryable cause := return cause.isRetryable
  onRetry := announceRetry options
  pause _ := return ()

theorem attempt_eq (launcher : Launcher σ) (options : ClientOptions) (promptFile : String)
    (number : Nat) (d : Desk σ) :
    ∃ l : Launch σ, l.From launcher (arguments options promptFile) d ∧
      (attempt launcher options promptFile number).run d =
        (l.outcome.map fun output => (Transcript.ofBytes output).finish, l.after) := by
  let line := s!"Running {options.program} (attempt {number}/{options.retry.maxAttempts.toNat})"
  let before : Desk σ := { d with log := d.log.add line }
  rw [attempt, StateT.run_bind]
  show ∃ l : Launch σ, _ ∧ StateT.run (launcher (arguments options promptFile) >>= _) before = _
  rw [StateT.run_bind]
  generalize hran : (launcher (arguments options promptFile)).run before = ran
  refine ⟨⟨before, ran.1, ran.2⟩, ⟨⟨rfl, rfl⟩, hran⟩, ?_⟩
  obtain ⟨outcome, after⟩ := ran
  cases outcome with
  | ok output => rfl
  | error cause => rfl

theorem launchFrom_zero : launchFrom launcher options promptFile 0 number =
    attempt launcher options promptFile number :=
  rfl

theorem launchFrom_answered {text : String}
    (h : (attempt launcher options promptFile number).run d = (.ok text, d')) :
    (launchFrom launcher options promptFile left number).run d = (.ok text, d') :=
  RetryPolicy.loop_of_ok (c := callbacks launcher options promptFile) h

/-- After a failure that may mend, the next launch finds what the failed one has left. -/
theorem launchFrom_failed (left : Nat) {cause : ModelError}
    (h : (attempt launcher options promptFile number).run d = (.error cause, d'))
    (hretry : cause.isRetryable = true) : ∃ d'', d'.Like d'' ∧
      (launchFrom launcher options promptFile (left + 1) number).run d =
        (launchFrom launcher options promptFile left (number + 1)).run d'' := by
  let c := callbacks launcher options promptFile
  have hyes : (c.retryable cause).run d' = (true, d') := congrArg (·, d') hretry
  refine ⟨_, ?_, RetryPolicy.loop_of_mended (c := c) h hyes rfl⟩
  -- there is a pause or there is none, and neither changes anything
  unfold RetryPolicy.paused
  split <;> exact ⟨rfl, rfl⟩

/-- A launch that fails says nothing about the prompt's file. -/
def Launcher.NeverScratch (launcher : Launcher σ) : Prop :=
  ∀ arguments d cause, ((launcher arguments).run d).1 ≠ .error (.scratch cause)

theorem Launcher.NeverScratch.isRetryable (h : launcher.NeverScratch) {cause : ModelError}
    (herror : ((launcher args).run d).1 = .error cause) : cause.isRetryable = true := by
  cases cause with
  | scratch cause => exact absurd herror (h args d cause)
  | spawn | io | timeout | exit => rfl

theorem judge_never_scratch (options : ClientOptions) (ran : Shell.Ran) (cause : SystemError) :
    (judge options ran).2 ≠ .error (.scratch cause) := by
  unfold judge
  dsimp only
  split
  · nofun
  split
  · nofun
  repeat' split
  all_goals nofun

/-- The launcher that runs programs is such a launcher. -/
theorem launch_neverScratch (env : Environment) (options : ClientOptions) :
    (launch env options : Launcher σ).NeverScratch := by
  intro arguments d cause
  simp only [launch, StateT.run_bind, StateT.run_get, pure_bind]
  cases Shell.Program.launch env d.disk (options.workingDirectory.getD ".") options.program
      arguments (some options.timeout.nanoseconds) with
  | error cause =>
    dsimp only
    split <;> nofun
  | ok ran => exact judge_never_scratch options ran cause

theorem launchFrom_attempts (hnever : launcher.NeverScratch) (left number : Nat) (d : Desk σ) :
    ∃ launches, Attempts launcher (arguments options promptFile) left d launches
      ((launchFrom launcher options promptFile left number).run d) := by
  induction left generalizing number d with
  | zero =>
    obtain ⟨l, hl, heq⟩ := attempt_eq launcher options promptFile number d
    refine ⟨[l], ?_⟩
    rw [launchFrom_zero, heq]
    cases hout : l.outcome with
    | ok output => exact .answered hl hout
    | error cause => exact .exhausted hl hout
  | succ left ih =>
    obtain ⟨l, hl, heq⟩ := attempt_eq launcher options promptFile number d
    cases hout : l.outcome with
    | ok output =>
      rw [hout] at heq
      rw [launchFrom_answered heq]
      exact ⟨[l], .answered hl hout⟩
    | error cause =>
      rw [hout] at heq
      have hretry : cause.isRetryable = true :=
        hnever.isRetryable (by rw [hl.run, hout])
      obtain ⟨d', hlike, hnext⟩ := launchFrom_failed left heq hretry
      obtain ⟨launches, hmore⟩ := ih (number + 1) d'
      rw [hnext]
      exact ⟨l :: launches, .again hl hout (hmore.of_like hlike)⟩

theorem launchAll_attempts (hnever : launcher.NeverScratch) (d : Desk σ) :
    ∃ launches, Attempts launcher (arguments options promptFile)
      (options.retry.maxAttempts.toNat - 1) d launches
      ((launchAll launcher options promptFile).run d) :=
  launchFrom_attempts hnever _ 1 d

/-! ### What the launches of a call come to -/

/-- A call makes one launch at least. -/
theorem Attempts.ne_nil (h : Attempts launcher args left d launches ended) : launches ≠ [] := by
  cases h <;> exact List.cons_ne_nil _ _

theorem Attempts.length_le (h : Attempts launcher args left d launches ended) :
    launches.length ≤ left + 1 := by
  induction h with
  | answered => exact Nat.le_add_left ..
  | exhausted => exact Nat.le_refl _
  | again _ _ _ ih => exact Nat.succ_le_succ ih

/-- Every launch before the last failed. -/
theorem Attempts.failed (h : Attempts launcher args left d launches ended) :
    ∀ l ∈ launches.dropLast, ∃ cause, l.outcome = .error cause := by
  induction h with
  | answered | exhausted => nofun
  | again _ herror hmore ih =>
    rw [List.dropLast_cons_of_ne_nil hmore.ne_nil, List.forall_mem_cons]
    exact ⟨⟨_, herror⟩, ih⟩

/-- The last launch decides: the answer is what it printed, or its failure once no attempt is
left. -/
theorem Attempts.last (h : Attempts launcher args left d launches ended) :
    ∃ l, launches.getLast? = some l ∧ l.after = ended.2 ∧
      match l.outcome with
      | .ok output => ended.1 = .ok (Transcript.ofBytes output).finish
      | .error cause => ended.1 = .error cause ∧ launches.length = left + 1 := by
  induction h with
  | answered _ hok => exact ⟨_, List.getLast?_singleton, rfl, by rw [hok]⟩
  | exhausted _ herror =>
    refine ⟨_, List.getLast?_singleton, rfl, ?_⟩
    rw [herror]
    exact ⟨rfl, rfl⟩
  | again _ _ hmore ih =>
    obtain ⟨l, hlast, hafter, hends⟩ := ih
    refine ⟨l, by rw [List.getLast?_cons, hlast]; rfl, hafter, ?_⟩
    cases hout : l.outcome with
    | ok output =>
      rw [hout] at hends
      exact hends
    | error cause =>
      rw [hout] at hends
      exact ⟨hends.1, congrArg Nat.succ hends.2⟩

/-- The launcher leaves a file alone. -/
def Launcher.Spares (launcher : Launcher σ) (path : String) (bytes : ByteArray) : Prop :=
  ∀ arguments d, d.disk.Holds path bytes → ((launcher arguments).run d).2.disk.Holds path bytes

theorem Launch.From.holds {l : Launch σ} {path : String} {bytes : ByteArray}
    (h : l.From launcher args d) (hspares : launcher.Spares path bytes)
    (hstart : d.disk.Holds path bytes) :
    l.before.disk.Holds path bytes ∧ l.after.disk.Holds path bytes := by
  have hbefore : l.before.disk.Holds path bytes := h.start.disk ▸ hstart
  have hafter := hspares args l.before hbefore
  rw [h.run] at hafter
  exact ⟨hbefore, hafter⟩

/-- A file that the launcher leaves alone is there during every launch, and afterwards. -/
theorem Attempts.holds {path : String} {bytes : ByteArray} (hspares : launcher.Spares path bytes)
    (h : Attempts launcher args left d launches ended) (hstart : d.disk.Holds path bytes) :
    (∀ l ∈ launches, l.before.disk.Holds path bytes ∧ l.after.disk.Holds path bytes) ∧
      ended.2.disk.Holds path bytes := by
  induction h with
  | answered hfrom | exhausted hfrom =>
    have hfile := hfrom.holds hspares hstart
    exact ⟨List.forall_mem_singleton.mpr hfile, hfile.2⟩
  | again hfrom _ _ ih =>
    have hfile := hfrom.holds hspares hstart
    obtain ⟨hlater, hend⟩ := ih hfile.2
    exact ⟨List.forall_mem_cons.mpr ⟨hfile, hlater⟩, hend⟩

end Codemod.Client
