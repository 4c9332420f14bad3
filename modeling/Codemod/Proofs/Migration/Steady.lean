import Codemod.Migration.Run
import Codemod.Proofs.Migration.Step

/-!
# What the primitives of a step keep, a step keeps

A step is put together from a few primitives: it reads and writes its file, asks the model about it,
runs the commands of its stages, and logs. A relation between activities that these keep, and that
goes through when activities follow each other, relates whole steps.

- `Job.Asks` — the prompts of a step
- `Steady` — a relation that the primitives of a step keep
- `stepFrom`, `runStep_eq` — a step, once it has counted
- `Steady.runStep`, `Steady.countFile` — steps and counts
-/

namespace Codemod.Migration

variable {σ α β : Type} {agents agents' : Agents σ} {job : Job} {file : String}
variable {Q : ∀ {α : Type}, Activity σ α → Activity σ α → Prop}

/-- The prompts with which a job asks about a file. -/
inductive Job.Asks (job : Job) (file : String) : String → Prop
  | count (content : String) : Job.Asks job file (countPrompt job file content)
  | transform (content : String) :
    Job.Asks job file (Prompt.transform content file job.brief)
  | fix (stage : Stage) (initial attempted output : String) :
    Job.Asks job file (Prompt.fix stage initial attempted file output job.brief)

/-- A relation between activities with two sets of agents that the primitives of a step keep. -/
structure Steady (agents agents' : Agents σ) (job : Job) (file : String)
    (Q : ∀ {α : Type}, Activity σ α → Activity σ α → Prop) : Prop where
  pure : ∀ {α : Type} (a : α), Q (Pure.pure a) (Pure.pure a)
  bind : ∀ {α β : Type} {x y : Activity σ α} {f g : α → Activity σ β},
    Q x y → (∀ a, Q (f a) (g a)) → Q (x >>= f) (y >>= g)
  log : ∀ line, Q (Migration.log line) (Migration.log line)
  checked : ∀ {α : Type} (x : Except Overflow α), Q (Migration.checked x) (Migration.checked x)
  ask : ∀ prompt, job.Asks file prompt →
    Q (Migration.ask agents prompt) (Migration.ask agents' prompt)
  check : ∀ stage, Q (Migration.check agents (job.command stage) job.workspace)
    (Migration.check agents' (job.command stage) job.workspace)
  read : Q (readFile (job.path file)) (readFile (job.path file))
  write : ∀ text, Q (writeFile agents (job.path file) text) (writeFile agents' (job.path file) text)

/-- The relation holds of activities that carry a content, whatever the content. -/
def Carried (Q : ∀ {α : Type}, Activity σ α → Activity σ α → Prop) (x y : Editing σ α) : Prop :=
  ∀ current, Q (x current) (y current)

namespace Steady

/-! ### Consulting the model -/

theorem countOccurrences (h : Steady agents agents' job file Q) (content : String) :
    Q (Migration.countOccurrences agents content job.request.find file job.context)
      (Migration.countOccurrences agents' content job.request.find file job.context) := by
  unfold Migration.countOccurrences
  refine h.bind (h.ask _ (.count content)) fun answer => ?_
  cases answer with
  | error cause => exact h.bind (h.log _) fun _ => h.pure _
  | ok answer =>
    dsimp only
    cases Answer.count? answer with
    | some n => exact h.pure n
    | none => exact h.bind (h.log _) fun _ => h.pure _

theorem proposeChange (h : Steady agents agents' job file Q) {prompt : String}
    (hasks : job.Asks file prompt) (input : String) :
    Q (Migration.proposeChange agents prompt input file)
      (Migration.proposeChange agents' prompt input file) := by
  unfold Migration.proposeChange
  refine h.bind (h.ask _ hasks) fun answer => ?_
  cases answer with
  | error cause => exact h.bind (h.log _) fun _ => h.pure _
  | ok answer => exact h.pure _

/-! ### A stage -/

theorem attemptStage (h : Steady agents agents' job file Q) (stage : Stage) (n : Nat) :
    Q (Migration.attemptStage agents job stage n) (Migration.attemptStage agents' job stage n) := by
  unfold Migration.attemptStage
  refine h.bind (h.log _) fun _ => h.bind (h.check stage) fun result => ?_
  cases result.passed with
  | true => exact h.bind (h.log _) fun _ => h.pure _
  | false =>
    cases Text.isBlankText result.output with
    | true => exact h.pure _
    | false => exact h.bind (h.log _) fun _ => h.pure _

theorem repair (h : Steady agents agents' job file Q) (content : String) (stage : Stage) (n : Nat)
    (current : String) (failure : StageFailure) :
    Q (Migration.repair agents job (job.target file content) stage n current failure)
      (Migration.repair agents' job (job.target file content) stage n current failure) := by
  unfold Migration.repair
  cases failure with
  | unwritable cause => exact h.pure _
  | failed output =>
    refine h.bind (h.log _) fun _ =>
      h.bind (h.proposeChange (.fix stage content current output) current) fun fixed? => ?_
    cases fixed? with
    | none => exact h.bind (h.log _) fun _ => h.pure _
    | some fixed =>
      refine h.bind (h.log _) fun _ => h.bind (h.write fixed) fun written => ?_
      cases written with
      | error cause => exact h.pure _
      | ok => exact h.pure _

theorem carried_pure (h : Steady agents agents' job file Q) (a : α) :
    Carried Q (Pure.pure a) (Pure.pure a) :=
  fun _ => h.pure _

theorem carried_bind (h : Steady agents agents' job file Q) {x y : Editing σ α}
    {f g : α → Editing σ β} (hx : Carried Q x y) (hf : ∀ a, Carried Q (f a) (g a)) :
    Carried Q (x >>= f) (y >>= g) :=
  fun current => h.bind (hx current) fun p => hf p.1 p.2

theorem carried_lift (h : Steady agents agents' job file Q) {x y : Activity σ α} (hx : Q x y) :
    Carried Q (liftM x : Editing σ α) (liftM y : Editing σ α) :=
  fun _ => h.bind hx fun _ => h.pure _

theorem repairCarried (h : Steady agents agents' job file Q) (content : String) (stage : Stage)
    (n : Nat) (failure : StageFailure) :
    Carried Q (Migration.repairCarried agents job (job.target file content) stage n failure)
      (Migration.repairCarried agents' job (job.target file content) stage n failure) := by
  unfold Migration.repairCarried
  refine h.carried_bind (fun _ => h.pure _) fun current =>
    h.carried_bind (h.carried_lift (h.repair content stage n current failure)) fun repaired => ?_
  cases repaired with
  | error failure => exact h.carried_pure _
  | ok current => exact h.carried_bind (fun _ => h.pure _) fun _ => h.carried_pure _

/-- The rounds of a stage, whatever the content that they begin with. -/
theorem stageLoop (h : Steady agents agents' job file Q) (content : String) (stage : Stage)
    (left n : Nat) :
    Carried Q (Migration.stageLoop agents job (job.target file content) stage left n)
      (Migration.stageLoop agents' job (job.target file content) stage left n) := by
  -- the rounds that are left are those that the loop recurses on
  induction left generalizing n with
  | zero => exact h.carried_lift (h.attemptStage stage n)
  | succ left ih =>
    unfold Migration.stageLoop RetryPolicy.runFrom
    refine h.carried_bind (h.carried_lift (h.attemptStage stage n)) fun attempt => ?_
    cases attempt with
    | ok => exact h.carried_pure _
    | error failure =>
      refine h.carried_bind (h.carried_pure _) fun retry => ?_
      cases retry with
      | false => exact h.carried_pure _
      | true =>
        refine h.carried_bind (h.repairCarried content stage n failure) fun repaired => ?_
        cases repaired with
        | error failure => exact h.carried_pure _
        | ok =>
          dsimp only
          split
          · exact h.carried_bind (h.carried_pure _) fun _ => ih (n + 1)
          · exact ih (n + 1)

theorem verifyStages (h : Steady agents agents' job file Q) (content current : String)
    (stages : List Stage) :
    Q (Migration.verifyStages agents job (job.target file content) current stages)
      (Migration.verifyStages agents' job (job.target file content) current stages) := by
  induction stages generalizing current with
  | nil => exact h.pure _
  | cons stage rest ih =>
    unfold Migration.verifyStages
    rw [verifyStage_eq, verifyStage_eq]
    refine h.bind (h.stageLoop content stage _ 1 current) fun ended => ?_
    obtain ⟨result, current'⟩ := ended
    cases result with
    | error failure => exact h.bind (h.log _) fun _ => h.pure _
    | ok => exact ih current'

/-! ### A step, a count -/

theorem revert (h : Steady agents agents' job file Q) (content : String) :
    Q (Migration.revert agents (job.target file content))
      (Migration.revert agents' (job.target file content)) := by
  unfold Migration.revert
  refine h.bind (h.write content) fun written => ?_
  cases written with
  | error cause => exact h.log _
  | ok => exact h.pure _

theorem applyTransformation (h : Steady agents agents' job file Q) (content : String)
    (before : UInt64) (transformed : String) :
    Q (Migration.applyTransformation agents job (job.target file content) before transformed)
      (Migration.applyTransformation agents' job (job.target file content) before
        transformed) := by
  unfold Migration.applyTransformation
  refine h.bind (h.countOccurrences transformed) fun after =>
    h.bind (h.checked _) fun fixed =>
    h.bind (h.log _) fun _ => h.bind (h.log _) fun _ =>
    h.bind (h.write transformed) fun written => ?_
  cases written with
  | error cause =>
    exact h.bind (h.log _) fun _ => h.bind (h.revert content) fun _ => h.pure _
  | ok =>
    refine h.bind (h.verifyStages content transformed _) fun passed => ?_
    cases passed with
    | true => exact h.bind (h.log _) fun _ => h.pure _
    | false => exact h.bind (h.revert content) fun _ => h.pure _

theorem initialCount (h : Steady agents agents' job file Q) (content : String)
    (known : Option UInt64) :
    Q (Migration.initialCount agents job (job.target file content) known)
      (Migration.initialCount agents' job (job.target file content) known) := by
  unfold Migration.initialCount
  cases known with
  | some n => exact h.pure n
  | none =>
    exact h.bind (h.countOccurrences content) fun _ => h.bind (h.log _) fun _ => h.pure _

end Steady

/-- A step, from the count on. -/
def stepFrom (agents : Agents σ) (job : Job) (file content : String) (before : UInt64) :
    Activity σ Outcome := do
  if before = 0 then
    log s!"Skipping file {file} - no patterns found"
    return { file, state := .skipped }
  else
    log s!"Processing {file} with LLM..."
    match ← proposeTransformation agents content file job.brief with
    | none =>
      log s!"No changes made by LLM for {file}"
      return { file, state := .skipped }
    | some transformed =>
      let (state, fixed) ←
        applyTransformation agents job (job.target file content) before transformed
      return { file, state, fixed }

/-- A step reads its file and counts. -/
theorem runStep_eq (known : Option UInt64) :
    runStep agents job file known = (do
      log s!"Processing file: {file}"
      match ← readFile (job.path file) with
      | .error cause =>
        log s!"Could not read {file}: {cause.report}"
        return { file, state := .failed }
      | .ok content =>
        initialCount agents job (job.target file content) known >>=
          stepFrom agents job file content) := rfl

namespace Steady

theorem stepFrom (h : Steady agents agents' job file Q) (content : String) (before : UInt64) :
    Q (Migration.stepFrom agents job file content before)
      (Migration.stepFrom agents' job file content before) := by
  unfold Migration.stepFrom
  by_cases hzero : before = 0
  · rw [if_pos hzero, if_pos hzero]
    exact h.bind (h.log _) fun _ => h.pure _
  · rw [if_neg hzero, if_neg hzero]
    refine h.bind (h.log _) fun _ =>
      h.bind (h.proposeChange (.transform content) content) fun proposed => ?_
    cases proposed with
    | none => exact h.bind (h.log _) fun _ => h.pure _
    | some transformed =>
      exact h.bind (h.applyTransformation content before transformed) fun _ => h.pure _

/-- A relation that the primitives keep relates steps. -/
theorem runStep (h : Steady agents agents' job file Q) (known : Option UInt64) :
    Q (Migration.runStep agents job file known) (Migration.runStep agents' job file known) := by
  rw [runStep_eq, runStep_eq]
  refine h.bind (h.log _) fun _ => h.bind h.read fun content => ?_
  cases content with
  | error cause => exact h.bind (h.log _) fun _ => h.pure _
  | ok content => exact h.bind (h.initialCount content known) (h.stepFrom content)

/-- A relation that the primitives keep relates counts in a file. -/
theorem countFile {setup : Setup} {request : Request}
    (h : Steady agents agents' (setup.job request) file Q) :
    Q (Migration.countFile agents setup request.find file)
      (Migration.countFile agents' setup request.find file) := by
  unfold Migration.countFile
  refine h.bind h.read fun content => ?_
  cases content with
  | error cause => exact h.bind (h.log _) fun _ => h.pure _
  | ok content => exact h.bind (h.countOccurrences content) fun _ => h.pure _

end Steady

end Codemod.Migration
