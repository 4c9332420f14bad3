import Codemod.Proofs.Migration.Legs
import Codemod.Proofs.Migration.Steady

/-!
# The cancellation flag inside a leg

Nothing that a leg does depends on the cancellation flag: with the flag clear and agents that never
raise it, it goes the same way, event by event.

- `Session.unflagged`, `Agents.unflagged`, `unflag` — without the flag
- `Heedless` — an activity that does not look at the flag, beside the same one without it
- `heedless_steady`, `runStep_heedless`, `countFile_heedless` — steps and counts
- `Legs.unflagged` — legs without the flag
-/

namespace Codemod.Migration

variable {σ α β : Type} {agents : Agents σ} {setup : Setup} {request : Request} {job : Job}
variable {s s' : Session σ}

/-- The session with the flag clear. -/
def Session.unflagged (s : Session σ) : Session σ := { s with cancelled := false }

@[simp] theorem Session.unflagged_world : s.unflagged.world = s.world := rfl

/-- The same agents, which never ask a run to stop. -/
def Agents.unflagged (agents : Agents σ) : Agents σ :=
  { agents with
    complete := fun w prompt => { agents.complete w prompt with cancels := false }
    verify := fun w command directory =>
      { agents.verify w command directory with cancels := false } }

/-- The same end with the flag clear. -/
def unflag : EStateM.Result Overflow (Session σ) α → EStateM.Result Overflow (Session σ) α
  | .ok a s => .ok a s.unflagged
  | .error e s => .error e s.unflagged

/-- The first activity does not look at the flag: the second, which begins with the flag clear, ends
in the same way. -/
def Heedless (x y : Activity σ α) : Prop := ∀ s, y s.unflagged = unflag (x s)

/-- A write asks nobody to stop. -/
theorem Agents.write_cancels (agents : Agents σ) (w : World σ) (path text : String) :
    (agents.write w path text).cancels = false := by
  unfold Agents.write
  cases w.disk.writeText path text with
  | error => rfl
  | ok =>
    dsimp only
    cases (agents.volume w path text).1 <;> rfl

namespace Heedless

theorem pure (a : α) : Heedless (σ := σ) (Pure.pure a) (Pure.pure a) := fun _ => rfl

theorem bind {x y : Activity σ α} {f g : α → Activity σ β} (hx : Heedless x y)
    (hf : ∀ a, Heedless (f a) (g a)) : Heedless (x >>= f) (y >>= g) := by
  intro s
  cases h : x s with
  | ok a s₁ =>
    have h' : y s.unflagged = .ok a s₁.unflagged := by rw [hx s, h, unflag]
    rw [bind_of_ok h, bind_of_ok h', hf a s₁]
  | error e s₁ =>
    have h' : y s.unflagged = .error e s₁.unflagged := by rw [hx s, h, unflag]
    rw [bind_of_error h, bind_of_error h', unflag]

theorem log (line : String) : Heedless (σ := σ) (Migration.log line) (Migration.log line) :=
  fun _ => rfl

theorem ask (prompt : String) :
    Heedless (Migration.ask agents prompt) (Migration.ask agents.unflagged prompt) := fun _ => rfl

theorem check (command directory : String) :
    Heedless (Migration.check agents command directory)
      (Migration.check agents.unflagged command directory) := fun _ => rfl

theorem readFile (path : String) :
    Heedless (σ := σ) (Migration.readFile path) (Migration.readFile path) := fun _ => rfl

theorem writeFile (path text : String) :
    Heedless (Migration.writeFile agents path text)
      (Migration.writeFile agents.unflagged path text) := by
  intro s
  have hsame : agents.unflagged.write = agents.write := rfl
  have hclear := agents.write_cancels s.world path text
  simp [writeFile_run, unflag, Session.written, Session.unflagged, Session.record, Session.absorb,
    hsame, hclear]

theorem checked (x : Except Overflow α) :
    Heedless (σ := σ) (Migration.checked x) (Migration.checked x) := by
  intro s
  cases x <;> rfl

end Heedless

/-! ### A step, a count -/

/-- The primitives of a step do not look at the flag. -/
theorem heedless_steady (agents : Agents σ) (job : Job) (file : String) :
    Steady agents agents.unflagged job file Heedless where
  pure := Heedless.pure
  bind := Heedless.bind
  log := Heedless.log
  checked := Heedless.checked
  ask prompt _ := Heedless.ask prompt
  check stage := Heedless.check (job.command stage) job.workspace
  read := Heedless.readFile (job.path file)
  write text := Heedless.writeFile (job.path file) text

/-- A step does not look at the flag. -/
theorem runStep_heedless (file : String) (known : Option UInt64) :
    Heedless (runStep agents job file known) (runStep agents.unflagged job file known) :=
  (heedless_steady agents job file).runStep known

/-- A count does not look at the flag. -/
theorem countFile_heedless (file : String) :
    Heedless (countFile agents setup request.find file)
      (countFile agents.unflagged setup request.find file) :=
  (heedless_steady agents (setup.job request) file).countFile

theorem recordOutcome_heedless (o : Outcome) :
    Heedless (recordOutcome agents o) (recordOutcome agents.unflagged o) := by
  intro s
  have hsame :
      s.unflagged.history.recordFix (agents.unflagged.now s.unflagged.world) o.file o.fixed =
        s.history.recordFix (agents.now s.world) o.file o.fixed := rfl
  unfold recordOutcome
  cases o.succeeded with
  | false => rfl
  | true =>
    rw [if_pos rfl, if_pos rfl, get_bind, get_bind, hsame]
    cases s.history.recordFix (agents.now s.world) o.file o.fixed with
    | error e => rfl
    | ok history => rfl

/-! ### Legs -/

theorem Aside.unflagged (h : Aside s s') : Aside s.unflagged s'.unflagged := by
  obtain ⟨lines, points, rfl⟩ := h
  exact ⟨lines, points, rfl⟩

theorem Leg.Runs.unflagged {leg : Leg} (h : Leg.Runs agents setup request s leg s') :
    Leg.Runs agents.unflagged setup request s.unflagged leg s'.unflagged := by
  cases h with
  | @count file known _ _ hcount htrace =>
    have hcount' : countFile agents.unflagged setup request.find file s.unflagged =
        .ok known s'.unflagged := by
      rw [countFile_heedless file s, hcount, unflag]
    exact .count hcount' htrace
  | @step file known o _ _ hrun htrace =>
    have hrun' : runStep agents.unflagged (setup.job request) file known s.unflagged =
        .ok o s'.unflagged := by
      rw [runStep_heedless file known s, hrun, unflag]
    exact .step hrun' htrace
  | @overflow file known e _ _ hrun htrace =>
    have hrun' : runStep agents.unflagged (setup.job request) file known s.unflagged =
        .error e s'.unflagged := by
      rw [runStep_heedless file known s, hrun, unflag]
    exact .overflow hrun' htrace

/-- Without the flag, the legs are the same. -/
theorem Legs.unflagged {legs : List Leg} (h : Legs agents setup request s legs s') :
    Legs agents.unflagged setup request s.unflagged legs s'.unflagged := by
  induction h with
  | aside h => exact .aside h.unflagged
  | cons h _ hleg _ ih => exact .cons h.unflagged rfl hleg.unflagged ih

end Codemod.Migration
