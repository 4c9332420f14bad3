import Codemod.Migration.World
import Codemod.Model.Answer
import Codemod.Model.Prompt
import Codemod.Request.Basic
import Codemod.Retry
import Codemod.Text.Search

/-!
# Consulting the model about a file

- `countOccurrences` — how often a pattern occurs; zero when the model does not say
- `proposeTransformation`, `proposeFix` — new content; none when there is nothing to apply
-/

namespace Codemod.Migration

variable {σ : Type}

/-- Asks how often the pattern occurs in a content. A failure of the model and an answer without a
number both count as zero, and are logged. -/
def countOccurrences (agents : Agents σ) (content find label context : String) :
    Activity σ UInt64 := do
  match ← ask agents (Prompt.count content find label context) with
  | .error cause =>
    log s!"Counting failed for {label}: {cause.message}. Assuming 0 occurrences"
    return 0
  | .ok answer =>
    match Answer.count? answer with
    | some n => return n
    | none =>
      log s!"Could not read a count for {label}, defaulting to 0"
      return 0

/-- Asks for a changed content. -/
def proposeChange (agents : Agents σ) (prompt input label : String) :
    Activity σ (Option String) := do
  match ← ask agents prompt with
  | .error cause =>
    log s!"LLM processing failed for {label}: {cause.message}"
    return none
  | .ok answer => return Answer.change? answer input

/-- Asks for a content transformed as the brief says. -/
def proposeTransformation (agents : Agents σ) (content label : String) (brief : Brief) :
    Activity σ (Option String) :=
  proposeChange agents (Prompt.transform content label brief) content label

/-- Asks for a repair of the attempted content after a stage failed with the given output. -/
def proposeFix (agents : Agents σ) (stage : Stage) (initial attempted label output : String)
    (brief : Brief) : Activity σ (Option String) :=
  proposeChange agents (Prompt.fix stage initial attempted label output brief) attempted label

end Codemod.Migration

/-!
## Migrating one file

A step counts the occurrences in a file, has it transformed, and verifies the result with the lint
and test commands, each under a loop of bounded repairs. When a stage cannot be made to pass, the
file gets back the content that it had when the step began. A file without occurrences, or one that
the model leaves as it is, is never written.

- `Job` — what is the same for all files of a run
- `Outcome` — how a step ended
- `verifyStage` — one stage under the repair loop
- `runStep` — the step
-/

namespace Codemod.Migration

/-- What is the same for all files of a run. -/
structure Job where
  workspace : String
  request : Request
  /-- The project's documentation. -/
  context : String := ""
  /-- Attempts per stage; zero counts as one. -/
  maxFixAttempts : UInt32 := 5

namespace Job

/-- The retries of the repair loop: without pauses. -/
def policy (job : Job) : RetryPolicy := .attempts job.maxFixAttempts

/-- The texts that the prompts of the job repeat. -/
def brief (job : Job) : Brief := ⟨job.request.find, job.request.replace, job.context⟩

/-- The command of a stage. -/
def command (job : Job) : Stage → String
  | .lint => job.request.lintCommand
  | .test => job.request.testCommand

end Job

/-- How a step ended. -/
inductive StepEnd where
  | done
  /-- A stage could not be made to pass. -/
  | reverted
  /-- There was nothing to do. -/
  | skipped
  /-- The file could not be read or written. -/
  | failed
deriving DecidableEq, Inhabited

/-- The name of an end. -/
def StepEnd.name : StepEnd → String
  | done => "done"
  | reverted => "reverted"
  | skipped => "skipped"
  | failed => "failed"

/-- The result of a step. -/
structure Outcome where
  file : String
  state : StepEnd
  /-- Occurrences before less those after the change; zero unless the step is done. -/
  fixed : Int64 := 0
deriving DecidableEq

namespace Outcome

/-- The file was changed and verified. -/
def succeeded (o : Outcome) : Bool := o.state == .done

/-- There was nothing to do. -/
def isSkip (o : Outcome) : Bool := o.state == .skipped

end Outcome

/-- Why a stage gave up. -/
inductive StageFailure where
  /-- The command failed with this output. -/
  | failed (output : String)
  /-- A repair could not be written. -/
  | unwritable (cause : FileError)

/-- Another repair may help, unless repairs cannot be written. -/
def StageFailure.isRetryable : StageFailure → Bool
  | failed _ => true
  | unwritable _ => false

/-- Longest command output in the log, in bytes. -/
def logOutputLimit : Nat := 500

/-- A file being migrated. -/
structure Target where
  label : String
  path : String
  /-- The content when the step began. -/
  content : String

variable {σ : Type}

/-- An activity that also carries the content that is on disk. -/
abbrev Editing (σ : Type) := StateT String (Activity σ)

/-- Runs the command of a stage once. -/
def attemptStage (agents : Agents σ) (job : Job) (stage : Stage) (attempt : Nat) :
    Activity σ (Except StageFailure Unit) := do
  log s!"Running {stage.activity} (attempt {attempt}/{job.policy.maxAttempts}): {job.command stage}"
  let result ← check agents (job.command stage) job.workspace
  if result.passed then
    log s!"{stage.label} passed on attempt {attempt}"
    return .ok ()
  else
    if !Text.isBlankText result.output then
      let shown := Text.truncate (Text.trimmedEnd result.output) logOutputLimit
      log s!"{stage.label} output: {shown}"
    return .error (.failed result.output)

/-- Asks for a repair of the current content after a failed attempt and applies it. The result is
the content that is then on disk. -/
def repair (agents : Agents σ) (job : Job) (target : Target) (stage : Stage) (attempt : Nat)
    (current : String) : StageFailure → Activity σ (Except StageFailure String)
  | .unwritable _ => return .ok current
  | .failed output => do
    log s!"{stage.label} failed on attempt {attempt}. Trying to fix..."
    match ← proposeFix agents stage target.content current target.label output job.brief with
    | none =>
      log s!"LLM couldn't suggest fixes for {stage.name} issues. Trying again with current changes..."
      return .ok current
    | some fixed =>
      log s!"LLM suggested fixes for {stage.name} issues. Applying changes..."
      match ← writeFile agents target.path fixed with
      | .error cause => return .error (.unwritable cause)
      | .ok () => return .ok fixed

/-- Runs a stage until it passes or its attempts are used up, with a repair between attempts. -/
def verifyStage (agents : Agents σ) (job : Job) (target : Target) (stage : Stage) :
    Editing σ (Except StageFailure Unit) :=
  job.policy.run
    (fun attempt => (attemptStage agents job stage attempt : Activity σ _))
    (fun failure => return failure.isRetryable)
    (fun attempt failure => do
      match ← (repair agents job target stage attempt (← get) failure : Activity σ _) with
      | .ok current =>
        set current
        return .ok ()
      | .error failure => return .error failure)
    (fun _ => return ())

/-- Gives the file back the content that it had when the step began. -/
def revert (agents : Agents σ) (target : Target) : Activity σ Unit := do
  match ← writeFile agents target.path target.content with
  | .ok () => return ()
  | .error cause => log s!"Failed to restore original content of {target.label}: {cause.report}"

/-- The line that a failed stage leaves in the log. -/
def StageFailure.verdict (failure : StageFailure) (job : Job) (target : Target) (stage : Stage) :
    String :=
  match failure with
  | failed _ =>
    s!"{stage.label} failed after {job.policy.maxAttempts} attempts. Reverting changes."
  | unwritable cause =>
    s!"Could not apply {stage.name} fix to {target.label}: {cause.report}. Reverting changes."

/-- Runs the stages in turn on the current content, up to the first that cannot be made to pass. -/
def verifyStages (agents : Agents σ) (job : Job) (target : Target) (current : String) :
    List Stage → Activity σ Bool
  | [] => return true
  | stage :: rest => do
    match ← (verifyStage agents job target stage).run current with
    | (.ok (), current) => verifyStages agents job target current rest
    | (.error failure, _) =>
      log (failure.verdict job target stage)
      return false

/-- The change, its verification, and the way back. -/
def applyTransformation (agents : Agents σ) (job : Job) (target : Target) (before : UInt64)
    (transformed : String) : Activity σ (StepEnd × Int64) := do
  let label := target.label
  let after ← countOccurrences agents transformed job.request.find label job.context
  let fixed ← checked (subTotals (totalOfCount before) (totalOfCount after))
  log s!"LLM fixed {fixed} pattern occurrences in {label}"
  log s!"Writing updated content to {label}"
  match ← writeFile agents target.path transformed with
  | .error cause =>
    log s!"Could not write {label}: {cause.report}"
    revert agents target
    return (.failed, 0)
  | .ok () =>
    if ← verifyStages agents job target transformed [.lint, .test] then
      log s!"Tests passed for {label}"
      return (.done, fixed)
    else
      revert agents target
      return (.reverted, 0)

/-- The count that is known, or the one that the model gives. -/
def initialCount (agents : Agents σ) (job : Job) (target : Target) :
    Option UInt64 → Activity σ UInt64
  | some n => return n
  | none => do
    let n ← countOccurrences agents target.content job.request.find target.label job.context
    log s!"Found {n} pattern occurrences in {target.label}"
    return n

/-- Migrates one file, given by its path from the workspace. A known count saves the question. -/
def runStep (agents : Agents σ) (job : Job) (file : String) (known : Option UInt64) :
    Activity σ Outcome := do
  let path := Path.join job.workspace file
  log s!"Processing file: {file}"
  match ← readFile path with
  | .error cause =>
    log s!"Could not read {file}: {cause.report}"
    return { file, state := .failed }
  | .ok content =>
    let target : Target := { label := file, path, content }
    let before ← initialCount agents job target known
    if before = 0 then
      log s!"Skipping file {file} - no patterns found"
      return { file, state := .skipped }
    else
      log s!"Processing {file} with LLM..."
      match ← proposeTransformation agents content file job.brief with
      | none =>
        log s!"No changes made by LLM for {file}"
        return { file, state := .skipped }
      | some transformed =>
        let (state, fixed) ← applyTransformation agents job target before transformed
        return { file, state, fixed }

end Codemod.Migration
