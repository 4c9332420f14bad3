import Codemod.Proofs.Migration.Restoration

/-!
# What a step keeps is verified

The command of each stage passes on the content that is on disk when the stage ends. Repairs of the
test stage come after the last run of the lint command, which is not run again: what a step leaves
behind passes the tests, but passes lint for certain only when the test stage wrote nothing.

- `Agents.Judges` — a verifier that judges the content of one file and leaves it alone
- `Trail.readBytes_eq` — without a write, the content stays
- `StageRun.passes` — the content at the end of a stage that passed
- `runStep_done_verified` — the two verdicts on a change that is kept
-/

namespace Codemod.Migration

variable {σ : Type} {agents : Agents σ} {job : Job} {target : Target} {stage : Stage}
variable {file path directory current current' : String} {known : Option UInt64} {left n : Nat}
variable {s s' : Session σ} {events : List Event}
variable {verdict : String → Except SystemError ByteArray → Bool}

/-- What a path holds in the files of a session. -/
abbrev Session.bytes (s : Session σ) (path : String) : Except SystemError ByteArray :=
  s.world.disk.readBytes path

/-- In the directory, the verdict on a command is a function of what the path holds, which the
command leaves as it is. -/
structure Agents.Judges (agents : Agents σ) (directory path : String)
    (verdict : String → Except SystemError ByteArray → Bool) : Prop where
  verdict_eq : ∀ w command, (agents.verify w command directory).value.passed =
    verdict command (w.disk.readBytes path)
  spares : ∀ w command, (agents.verify w command directory).world.disk.readBytes path =
    w.disk.readBytes path

/-- Without a write, and with questions that leave the file alone, a file keeps its content. -/
theorem Trail.readBytes_eq (hjudges : agents.Judges directory path verdict)
    (h : Trail agents s events s') (hwrites : writes events = [])
    (hasked : ∀ prompt, .asked prompt ∈ events → ∀ w,
      (agents.complete w prompt).world.disk.readBytes path = w.disk.readBytes path)
    (hverified : ∀ command place passed, .verified command place passed ∈ events →
      place = directory) :
    s'.bytes path = s.bytes path := by
  induction h with
  | refl => rfl
  | @cons s s₁ s' e events hmove htrail ih =>
    have hfirst : s₁.bytes path = s.bytes path := by
      cases hmove with
      | log | read => rfl
      | ask prompt => exact hasked prompt List.mem_cons_self s.world
      | verify command place =>
        obtain rfl := hverified _ _ _ List.mem_cons_self
        exact hjudges.spares s.world command
      | write => cases hwrites
    rw [← hfirst]
    exact ih (writes_cons_eq_nil hwrites).2
      (fun prompt hmem => hasked prompt (List.mem_cons_of_mem _ hmem))
      fun command place passed hmem => hverified _ _ _ (List.mem_cons_of_mem _ hmem)

/-- What is on disk at the end of a stage that passed passes the command of the stage. -/
theorem StageRun.passes (hjudges : agents.Judges job.workspace path verdict)
    (h : StageRun agents job target stage left n current s (.ok ()) current' s') :
    verdict (job.command stage) (s'.bytes path) = true := by
  obtain ⟨events, lines, m, -, hpassed, rfl⟩ := h.trail_passed
  have hspared : (m.verified agents (job.command stage) job.workspace).bytes path = m.bytes path :=
    hjudges.spares m.world (job.command stage)
  rw [Session.bytes, Session.noted_world, ← Session.bytes, hspared, ← hjudges.verdict_eq]
  exact hpassed

/-- A change that is kept passes the tests. `middle` is the session at the end of the lint stage,
right after the last run of the lint command, which has passed: what was on disk then passes lint,
and what follows is the test stage only. If the test stage asked for no repair, or applied none and
the model leaves the file alone, lint passes as well on what is kept. -/
theorem runStep_done_verified {o : Outcome}
    (hjudges : agents.Judges job.workspace (job.path file) verdict)
    (hrun : runStep agents job file known s = .ok o s') (hdone : o.state = .done) :
    ∃ middle before after, Trail agents s before middle ∧ Trail agents middle after s' ∧
      verdict job.request.testCommand (s'.bytes (job.path file)) = true ∧
      verdict job.request.lintCommand (middle.bytes (job.path file)) = true ∧
      (∃ earlier, ∃ lines : List String, before = earlier ++
        .verified job.request.lintCommand job.workspace true :: lines.map Event.log) ∧
      (∀ command place passed, .verified command place passed ∈ after →
        command = job.request.testCommand) ∧
      ((∀ prompt, .asked prompt ∉ after) →
        verdict job.request.lintCommand (s'.bytes (job.path file)) = true) ∧
      ((∀ w prompt, (agents.complete w prompt).world.disk.readBytes (job.path file) =
          w.disk.readBytes (job.path file)) → writes after = [] →
        verdict job.request.lintCommand (s'.bytes (job.path file)) = true) := by
  have hstep := runStep_run agents job file known s
  rw [hrun] at hstep
  cases hstep with
  | unreadable | empty | unchanged | unwritten | reverted => cases hdone
  | @done content transformed _ line lines _ _ _ s₁ s₂ hrewriting hsub hw hstages =>
  cases hstages with
  | next hlint hrest =>
  cases hrest with
  | next htest hfinished =>
  cases hfinished with
  | finished =>
  rename_i current₁ middle
  obtain ⟨events, htrail, -⟩ := hrewriting.quiet
  obtain ⟨early, lines', m, hearly, hpassed, hmiddle⟩ := hlint.trail_passed
  have hended : Trail agents m
      (.verified job.request.lintCommand job.workspace true :: lines'.map Event.log) middle := by
    have hverify : Move agents m _ _ := .verify m job.request.lintCommand job.workspace
    rw [hmiddle, ← hpassed]
    exact .cons hverify (.noted lines')
  obtain ⟨late, hlate, hevents⟩ := htest.trail
  have hlinted := hlint.passes hjudges
  -- what the test stage leaves alone still passes lint
  have hkept : writes late = [] → (∀ prompt, .asked prompt ∈ late → ∀ w,
      (agents.complete w prompt).world.disk.readBytes (job.path file) =
        w.disk.readBytes (job.path file)) →
      verdict job.request.lintCommand (s₂.bytes (job.path file)) = true := by
    intro hwrites hasked
    rw [hlate.readBytes_eq hjudges hwrites hasked fun command place passed hmem =>
      (hevents.ofCommand command place passed hmem).2]
    exact hlinted
  refine ⟨middle, _, late ++ [Event.log line], (((htrail.append (.noted lines)).append
    (.single (.write _ (job.path file) transformed))).append hearly).append hended,
    hlate.append (.noted [line]), htest.passes hjudges, hlinted, ⟨_, lines', rfl⟩, ?_, ?_, ?_⟩
  · intro command place passed hmem
    rw [List.mem_append] at hmem
    obtain hmem | hmem := hmem
    · exact (hevents.ofCommand command place passed hmem).1
    · simp at hmem
  · intro hasked
    have hunasked : ∀ prompt, .asked prompt ∉ late := fun prompt hmem =>
      hasked prompt (List.mem_append_left _ hmem)
    refine hkept ?_ fun prompt hmem => absurd hmem (hunasked prompt)
    by_cases hwrites : writes late = []
    · exact hwrites
    · obtain ⟨prompt, hmem⟩ := hevents.askedFor hwrites
      exact absurd hmem (hunasked prompt)
  · intro hspares hwrites
    rw [writes_append] at hwrites
    exact hkept (List.append_eq_nil_iff.mp hwrites).1 fun prompt _ w => hspares w prompt

/-! ### A repair of the test stage that lint would not pass -/

/-- A model that recites what it remembers, and a verifier that judges one file. -/
def reciting (path : String) (verdict : String → Except SystemError ByteArray → Bool) :
    Agents (List String) where
  complete w _ := { value := .ok (w.memory.headD ""), world := { w with memory := w.memory.tail } }
  verify w command _ := { value := ⟨verdict command (w.disk.readBytes path), ""⟩, world := w }
  now _ := default

/-- Tests pass on the content `final` only, and lint on everything else. -/
def finalOnlyTests (command : String) (content : Except SystemError ByteArray) : Bool :=
  match content with
  | .ok bytes => (command == "test") == (bytes == "final".toUTF8)
  | .error _ => false

/-- A job on a workspace, with the commands `lint` and `test`. -/
def smallJob : Job where
  workspace := "/w"
  request := { (default : Request) with lintCommand := "lint", testCommand := "test" }

/-- A workspace with one file, and a model that drafts a change and then repairs it. -/
def draftSession : Session (List String) where
  world := {
    disk := (default : FileSystem).plant ["w", "a.js"] (.file "old".toUTF8)
    memory := ["1", "draft", "0", "final"] }

theorem reciting_judges : (reciting path verdict).Judges directory path verdict where
  verdict_eq _ _ := rfl
  spares _ _ := rfl

theorem draft_run :
    ∃ o s', runStep (reciting (smallJob.path "a.js") finalOnlyTests) smallJob "a.js" none
        draftSession = .ok o s' ∧
      (o.state == .done && !finalOnlyTests "lint" (s'.bytes (smallJob.path "a.js"))) = true := by
  have h : endsIn (fun (o : Outcome) s' =>
      o.state == .done && !finalOnlyTests "lint" (s'.bytes (smallJob.path "a.js")))
      (runStep (reciting (smallJob.path "a.js") finalOnlyTests) smallJob "a.js" none
        draftSession) = true := by
    decide +kernel
  exact exists_of_endsIn h

/-- A change can be kept that does not pass lint. -/
theorem not_done_passes_both :
    ¬∀ (σ : Type) (agents : Agents σ) (job : Job) (file : String) (known : Option UInt64)
      (verdict : String → Except SystemError ByteArray → Bool) (s s' : Session σ) (o : Outcome),
      agents.Judges job.workspace (job.path file) verdict →
      runStep agents job file known s = .ok o s' → o.state = .done →
      verdict job.request.lintCommand (s'.bytes (job.path file)) = true ∧
        verdict job.request.testCommand (s'.bytes (job.path file)) = true := by
  intro h
  obtain ⟨o, s', hrun, hlint⟩ := draft_run
  rw [Bool.and_eq_true, Bool.not_eq_true', beq_iff_eq] at hlint
  have hboth := h _ _ smallJob "a.js" none finalOnlyTests draftSession s' o reciting_judges hrun
    hlint.1
  exact Bool.false_ne_true (hlint.2.symm.trans hboth.1)

/-- The theorem on what is kept applies to this step, in which the test stage repaired a draft. -/
theorem runStep_done_verified_draft :
    ∃ o s', runStep (reciting (smallJob.path "a.js") finalOnlyTests) smallJob "a.js" none
        draftSession = .ok o s' ∧ o.state = .done ∧
      ∃ middle before after,
        Trail (reciting (smallJob.path "a.js") finalOnlyTests) draftSession before middle ∧
        Trail (reciting (smallJob.path "a.js") finalOnlyTests) middle after s' ∧
        finalOnlyTests "test" (s'.bytes (smallJob.path "a.js")) = true ∧
        finalOnlyTests "lint" (middle.bytes (smallJob.path "a.js")) = true ∧
        ∃ earlier, ∃ lines : List String,
          before = earlier ++ .verified "lint" "/w" true :: lines.map Event.log := by
  obtain ⟨o, s', hrun, hlint⟩ := draft_run
  rw [Bool.and_eq_true, beq_iff_eq] at hlint
  obtain ⟨middle, before, after, hbefore, hafter, htested, hlinted, hended, -⟩ :=
    runStep_done_verified reciting_judges hrun hlint.1
  exact ⟨o, s', hrun, hlint.1, middle, before, after, hbefore, hafter, htested, hlinted, hended⟩

end Codemod.Migration
