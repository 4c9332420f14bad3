import Codemod.Proofs.Migration.Stage

/-!
# How a step can go

A step reads its file, counts, has the content transformed, counts again, writes, and verifies. The
relation `StepRun` has one constructor for each of its exits; what a step does is proved by cases on
it, and from it what a run does.

- `Job.path`, `Job.target` — the file of a step
- `Counted`, `Rewriting` — a step up to its first write
- `StepRun`, `runStep_run` — the seven exits, and that there are no others
- `Rewriting.quiet` — nothing is written before that
-/

namespace Codemod.Migration

variable {σ : Type} {agents : Agents σ} {job : Job} {file : String}
variable {known : Option UInt64} {s s₁ s' : Session σ}

/-- The path of a file of the workspace. -/
abbrev Job.path (job : Job) (file : String) : String := Path.join job.workspace file

/-- A file with the content it has when its step begins. -/
abbrev Job.target (job : Job) (file content : String) : Target where
  label := file
  path := job.path file
  content := content

/-! ### Up to the first write -/

/-- The prompt for the count of a content. -/
def countPrompt (job : Job) (file content : String) : String :=
  Prompt.count content job.request.find file job.context

/-- The count before the change: known from the scan, or asked for. -/
inductive Counted (agents : Agents σ) (job : Job) (file content : String) (s : Session σ) :
    Option UInt64 → UInt64 → Session σ → Prop
  | known {n : UInt64} : Counted agents job file content s (some n) n s
  | asked {lines : List String} :
    Counted agents job file content s none
      (Answer.counted (agents.complete s.world (countPrompt job file content)).value)
      ((s.asked agents (countPrompt job file content)).noted lines)

theorem initialCount_run (agents : Agents σ) (job : Job) (file content : String)
    (known : Option UInt64) (s : Session σ) :
    ∃ n s', initialCount agents job (job.target file content) known s = .ok n s' ∧
      Counted agents job file content s known n s' := by
  unfold initialCount
  cases known with
  | some n => exact ⟨n, s, rfl, .known⟩
  | none =>
    obtain ⟨lines, h⟩ := countOccurrences_run agents content job.request.find file
      job.context s
    dsimp only [Job.target]
    rw [bind_of_ok h, log_bind, Session.noted_noted]
    exact ⟨_, _, rfl, .asked⟩

/-- A step up to its first write: the content it read, the count before, the transformed content,
and the count after. -/
inductive Rewriting (agents : Agents σ) (job : Job) (file : String) (known : Option UInt64)
    (s : Session σ) (content : String) (before : UInt64) (transformed : String)
    (after : UInt64) : Session σ → Prop
  | intro {line line' : String} {lines lines' : List String} {s₁ s₂ : Session σ} :
    s.world.disk.readText (job.path file) = .ok content →
    Counted agents job file content ((s.noted [line]).looked (job.path file)) known before s₁ →
    before ≠ 0 →
    Answer.proposed
      (agents.complete s₁.world (Prompt.transform content file job.brief)).value content =
        some transformed →
    s₂ = ((s₁.noted [line']).asked agents (Prompt.transform content file job.brief)).noted lines →
    after = Answer.counted (agents.complete s₂.world (countPrompt job file transformed)).value →
    Rewriting agents job file known s content before transformed after
      ((s₂.asked agents (countPrompt job file transformed)).noted lines')

/-! ### The exits -/

/-- The stages that a change goes through. -/
abbrev stages : List Stage := [.lint, .test]

/-- The exits of a step. -/
inductive StepRun (agents : Agents σ) (job : Job) (file : String) (known : Option UInt64)
    (s : Session σ) : EStateM.Result Overflow (Session σ) Outcome → Prop
  /-- The file cannot be read. -/
  | unreadable {cause : FileError} {line line' : String} :
    s.world.disk.readText (job.path file) = .error cause →
    StepRun agents job file known s
      (.ok { file, state := .failed } (((s.noted [line]).looked (job.path file)).noted [line']))
  /-- There are no occurrences. -/
  | empty {content line line' : String} {s₁ : Session σ} :
    s.world.disk.readText (job.path file) = .ok content →
    Counted agents job file content ((s.noted [line]).looked (job.path file)) known 0 s₁ →
    StepRun agents job file known s (.ok { file, state := .skipped } (s₁.noted [line']))
  /-- The model leaves the content as it is. -/
  | unchanged {content line line' : String} {lines : List String} {before : UInt64}
      {s₁ : Session σ} :
    s.world.disk.readText (job.path file) = .ok content →
    Counted agents job file content ((s.noted [line]).looked (job.path file)) known before s₁ →
    before ≠ 0 →
    Answer.proposed
      (agents.complete s₁.world (Prompt.transform content file job.brief)).value content = none →
    StepRun agents job file known s
      (.ok { file, state := .skipped }
        (((s₁.noted [line']).asked agents (Prompt.transform content file job.brief)).noted lines))
  /-- The difference of the counts does not fit. -/
  | overflow {content transformed : String} {before after : UInt64} {overflow : Overflow}
      {s₁ : Session σ} :
    Rewriting agents job file known s content before transformed after s₁ →
    subTotals (totalOfCount before) (totalOfCount after) = .error overflow →
    StepRun agents job file known s (.error overflow s₁)
  /-- The transformed content cannot be written. -/
  | unwritten {content transformed line : String} {lines lines' : List String}
      {before after : UInt64} {fixed : Int64} {cause : FileError} {s₁ : Session σ} :
    Rewriting agents job file known s content before transformed after s₁ →
    subTotals (totalOfCount before) (totalOfCount after) = .ok fixed →
    (agents.write s₁.world (job.path file) transformed).value = .error cause →
    StepRun agents job file known s
      (.ok { file, state := .failed }
        (((((s₁.noted lines).written agents (job.path file) transformed).noted [line]).written
          agents (job.path file) content).noted lines'))
  /-- A stage fails for good. -/
  | reverted {content transformed current : String} {lines lines' : List String}
      {before after : UInt64} {fixed : Int64} {s₁ s₂ : Session σ} :
    Rewriting agents job file known s content before transformed after s₁ →
    subTotals (totalOfCount before) (totalOfCount after) = .ok fixed →
    (agents.write s₁.world (job.path file) transformed).value = .ok () →
    StagesRun agents job (job.target file content) stages transformed
      ((s₁.noted lines).written agents (job.path file) transformed) false current s₂ →
    StepRun agents job file known s
      (.ok { file, state := .reverted } ((s₂.written agents (job.path file) content).noted lines'))
  /-- All stages pass. -/
  | done {content transformed current line : String} {lines : List String}
      {before after : UInt64} {fixed : Int64} {s₁ s₂ : Session σ} :
    Rewriting agents job file known s content before transformed after s₁ →
    subTotals (totalOfCount before) (totalOfCount after) = .ok fixed →
    (agents.write s₁.world (job.path file) transformed).value = .ok () →
    StagesRun agents job (job.target file content) stages transformed
      ((s₁.noted lines).written agents (job.path file) transformed) true current s₂ →
    StepRun agents job file known s (.ok { file, state := .done, fixed } (s₂.noted [line]))

theorem revert_run (agents : Agents σ) (target : Target) (s : Session σ) :
    ∃ lines, revert agents target s =
      .ok () ((s.written agents target.path target.content).noted lines) := by
  unfold revert
  rw [bind_of_ok (writeFile_run ..)]
  cases (agents.write s.world target.path target.content).value with
  | error cause => exact ⟨[_], rfl⟩
  | ok => exact ⟨[], by rw [Session.noted_nil]; rfl⟩

/-- The rest of a step, from the count of the new content on. -/
theorem applyTransformation_run {content transformed : String} {before after : UInt64}
    {s₁ s₂ : Session σ}
    (hrewriting : Rewriting agents job file known s content before transformed after s₂)
    (hcount : countOccurrences agents transformed job.request.find file job.context s₁ =
      .ok after s₂) :
    StepRun agents job file known s
      ((applyTransformation agents job (job.target file content) before transformed >>=
        fun p => return { file, state := p.1, fixed := p.2 }) s₁) := by
  unfold applyTransformation
  dsimp only
  rw [bind_assoc, bind_of_ok hcount]
  cases hsub : subTotals (totalOfCount before) (totalOfCount after) with
  | error overflow =>
    rw [bind_assoc, bind_of_error (checked_of_error rfl)]
    exact .overflow hrewriting hsub
  | ok fixed =>
    rw [bind_assoc, bind_of_ok (checked_of_ok rfl), bind_assoc, log_bind, bind_assoc, log_bind,
      Session.noted_noted, bind_assoc, bind_of_ok (writeFile_run ..), Session.noted_world]
    -- what is logged does not matter from here on
    generalize ([_] ++ [_] : List String) = lines
    cases hwrite : (agents.write s₂.world (job.path file) transformed).value with
    | error cause =>
      dsimp only
      rw [bind_assoc, log_bind, bind_assoc]
      generalize (s!"Could not write {file}: {cause.report}" : String) = line
      obtain ⟨lines', hrevert⟩ := revert_run agents (job.target file content)
        (((s₂.noted lines).written agents (job.path file) transformed).noted [line])
      rw [bind_of_ok hrevert]
      exact .unwritten hrewriting hsub hwrite
    | ok =>
      dsimp only
      obtain ⟨passed, current, s₃, hstages, hrun⟩ := verifyStages_run agents job
        (job.target file content) stages transformed
        ((s₂.noted lines).written agents (job.path file) transformed)
      rw [bind_assoc, bind_of_ok (x := verifyStages agents job _ transformed stages) hstages]
      cases passed with
      | true => exact .done hrewriting hsub hwrite hrun
      | false =>
        obtain ⟨lines', hrevert⟩ := revert_run agents (job.target file content) s₃
        rw [if_neg Bool.false_ne_true, bind_assoc, bind_of_ok hrevert]
        exact .reverted hrewriting hsub hwrite hrun

/-- A step goes as `StepRun` says. -/
theorem runStep_run (agents : Agents σ) (job : Job) (file : String) (known : Option UInt64)
    (s : Session σ) :
    StepRun agents job file known s (runStep agents job file known s) := by
  unfold runStep
  dsimp only
  rw [log_bind, bind_of_ok (readFile_run ..), Session.noted_world]
  cases hread : s.world.disk.readText (Path.join job.workspace file) with
  | error cause => exact .unreadable hread
  | ok content =>
    obtain ⟨before, s₁, hcount, hcounted⟩ := initialCount_run agents job file
      content known
      ((s.noted [s!"Processing file: {file}"]).looked (job.path file))
    dsimp only
    rw [bind_of_ok (x := initialCount agents job (job.target file content) known) hcount]
    by_cases hzero : before = 0
    · rw [if_pos hzero]
      rw [hzero] at hcounted
      exact .empty hread hcounted
    rw [if_neg hzero, log_bind]
    obtain ⟨lines, hpropose⟩ := proposeChange_run agents
      (Prompt.transform content file job.brief) content file
      (s₁.noted [s!"Processing {file} with LLM..."])
    rw [bind_of_ok (x := proposeTransformation agents content file job.brief) hpropose,
      Session.noted_world]
    cases hp : Answer.proposed
        (agents.complete s₁.world (Prompt.transform content file job.brief)).value content with
    | none =>
      dsimp only
      rw [log_bind, Session.noted_noted]
      exact .unchanged hread hcounted hzero hp
    | some transformed =>
      obtain ⟨lines', hcount'⟩ := countOccurrences_run agents transformed
        job.request.find file job.context
        (((s₁.noted [s!"Processing {file} with LLM..."]).asked agents
          (Prompt.transform content file job.brief)).noted lines)
      exact applyTransformation_run (.intro hread hcounted hzero hp rfl rfl) hcount'

/-! ### The events of a step -/

theorem Counted.quiet {content : String} {n : UInt64}
    (h : Counted agents job file content s known n s') : Quiet agents s s' := by
  cases h with
  | known => exact .refl s
  | asked => exact .asked _ _

/-- Reading and counting come before everything else and write nothing. -/
theorem counted_quiet {content line : String} {n : UInt64}
    (h : Counted agents job file content ((s.noted [line]).looked (job.path file)) known n s') :
    Quiet agents s s' :=
  ((Quiet.noted [line]).trans (.looked _)).trans h.quiet

theorem Rewriting.quiet {content transformed : String} {before after : UInt64}
    (h : Rewriting agents job file known s content before transformed after s') :
    Quiet agents s s' := by
  cases h with
  | @intro line line' lines lines' s₁ s₂ hread hcounted hzero hp hs hafter =>
    refine (((counted_quiet hcounted).trans (.noted [line'])).trans ?_).trans (.asked _ lines')
    rw [hs]
    exact .asked _ lines

/-- The content that a rewriting starts from is what was read. -/
theorem Rewriting.read {content transformed : String} {before after : UInt64}
    (h : Rewriting agents job file known s content before transformed after s') :
    s.world.disk.readText (job.path file) = .ok content := by
  cases h with
  | intro hread => exact hread

end Codemod.Migration
