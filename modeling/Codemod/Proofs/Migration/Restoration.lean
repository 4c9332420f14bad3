import Codemod.Proofs.FileSystem.Overwriting
import Codemod.Proofs.Migration.Step

/-!
# What a step writes

A step writes its own file only. If it does not succeed, it has written nothing at all or its last
write gives the file back what was read from it, whatever the model and the verifier did to the file
in between.

- `Agents.write_disk`, `Agents.write_of_isOk` — a write and the disk after it
- `Restores` — the last write is the way back
- `StepEvents`, `StepRun.stepEvents` — the writes of a step by how it ended
- `runStep_restores` — the guarantee of one step
-/

namespace Codemod.Migration

variable {σ α : Type} {agents : Agents σ} {job : Job} {file path text content : String}
variable {known : Option UInt64} {w : World σ} {s s₁ s₂ s' : Session σ} {events : List Event}

/-! ### A write and the disk -/

/-- A write changes nothing, or puts a file where the path leads, under all names of that file. -/
theorem Agents.write_disk (agents : Agents σ) (w : World σ) (path text : String) :
    (agents.write w path text).world.disk = w.disk ∨
      ∃ loc bytes, w.disk.writeTarget path = .ok loc ∧
        (agents.write w path text).world.disk = w.disk.overwrite loc bytes := by
  unfold Agents.write
  cases htext : w.disk.writeText path text with
  | error cause => exact .inl rfl
  | ok disk =>
    have hbytes := FileSystem.writeBytes_of_writeText htext
    obtain ⟨loc, htarget, hdisk⟩ := FileSystem.writeBytes_eq_ok hbytes
    cases hfault : agents.volume w path text with
    | mk fault? memory =>
      cases fault? with
      | none => exact .inr ⟨loc, _, htarget, hdisk⟩
      | some fault => exact w.disk.writePart_cases text fault

/-- A write that succeeded has put the text on disk. -/
theorem Agents.write_of_isOk (h : (agents.write w path text).value.isOk = true) :
    w.disk.writeText path text = .ok (agents.write w path text).world.disk := by
  unfold Agents.write at h ⊢
  cases htext : w.disk.writeText path text with
  | error cause =>
    rw [htext] at h
    cases h
  | ok disk =>
    rw [htext] at h
    cases hfault : agents.volume w path text with
    | mk fault? memory =>
      rw [hfault] at h
      cases fault? with
      | none => rfl
      | some fault => cases h

/-- A file holds the text of a write that succeeded. -/
theorem Agents.readBytes_write (h : (agents.write w path text).value.isOk = true) :
    (agents.write w path text).world.disk.readBytes path = .ok text.toUTF8 :=
  FileSystem.readBytes_writeBytes (FileSystem.writeBytes_of_writeText (write_of_isOk h))

/-! ### The writes of a step -/

/-- The session that an activity leaves behind, however it ends. -/
def finalSession : EStateM.Result Overflow (Session σ) α → Session σ
  | .ok _ s | .error _ s => s

/-- The last of the writes gives a file the text that was read from it, and the file is then, byte
for byte, what it was if this write succeeds. -/
def Restores (path : String) (s s' : Session σ) (ws : List Write) : Prop :=
  ∃ content earlier succeeded, s.world.disk.readText path = .ok content ∧
    ws = earlier ++ [⟨path, content, succeeded⟩] ∧
    (succeeded = true → s'.world.disk.readBytes path = s.world.disk.readBytes path)

/-- The events of a step from a session, by how it ended. -/
structure StepEvents (agents : Agents σ) (job : Job) (file : String) (s : Session σ)
    (r : EStateM.Result Overflow (Session σ) Outcome) (events : List Event) : Prop where
  trail : Trail agents s events (finalSession r)
  /-- Only the file of the step is written. -/
  toTarget : WritesOnly (job.path file) events
  /-- An overflow comes before the first write. -/
  stopped : ∀ overflow s', r = .error overflow s' → writes events = []
  /-- A file without anything to do is not written. -/
  skipped : ∀ o s', r = .ok o s' → o.state = .skipped → writes events = []
  /-- A file that cannot be read is not written; one that cannot be written is given back. -/
  failed : ∀ o s', r = .ok o s' → o.state = .failed →
    match s.world.disk.readText (job.path file) with
    | .error _ => writes events = []
    | .ok _ => Restores (job.path file) s s' (writes events)
  /-- A file that cannot be verified is given back. -/
  reverted : ∀ o s', r = .ok o s' → o.state = .reverted →
    Restores (job.path file) s s' (writes events)

/-- The way back after any other events. -/
theorem Trail.restores (h : Trail agents s events s₁)
    (hread : s.world.disk.readText path = .ok content) (lines : List String) :
    ∃ more, Trail agents s (events ++ more) ((s₁.written agents path content).noted lines) ∧
      WritesOnly path more ∧
      Restores path s ((s₁.written agents path content).noted lines) (writes (events ++ more)) := by
  refine ⟨_, h.append (.cons (.write s₁ path content) (.noted lines)), .wrote _ _ _, content,
    writes events, (agents.write s₁.world path content).value.isOk, hread, ?_, ?_⟩
  · rw [writes_append]
    exact congrArg (fun ws => writes events ++ _ :: ws) (writes_logs lines)
  · intro hok
    rw [FileSystem.readBytes_of_readText hread]
    exact Agents.readBytes_write hok

/-- A step that writes nothing does what every step may do, unless it changed its file. -/
theorem StepEvents.of_quiet {r : EStateM.Result Overflow (Session σ) Outcome}
    (hquiet : Quiet agents s (finalSession r))
    (hreverted : ∀ o s', r = .ok o s' → o.state ≠ .reverted)
    (hfailed : ∀ o s', r = .ok o s' → o.state = .failed →
      ∃ cause, s.world.disk.readText (job.path file) = .error cause) :
    ∃ events, StepEvents agents job file s r events := by
  obtain ⟨events, htrail, hwrites⟩ := hquiet
  refine ⟨events, htrail, .of_nil hwrites, fun _ _ _ => hwrites, fun _ _ _ _ => hwrites, ?_, ?_⟩
  · intro o s' hr hstate
    obtain ⟨cause, hread⟩ := hfailed o s' hr hstate
    rw [hread]
    exact hwrites
  · intro o s' hr hstate
    exact absurd hstate (hreverted o s' hr)

/-- A step that ends with the way back does what every step may do. -/
theorem StepEvents.of_restores {o : Outcome}
    (hread : s.world.disk.readText (job.path file) = .ok content)
    (htrail : Trail agents s events s') (htarget : WritesOnly (job.path file) events)
    (hrestores : Restores (job.path file) s s' (writes events)) (hskipped : o.state ≠ .skipped) :
    StepEvents agents job file s (.ok o s') events where
  trail := htrail
  toTarget := htarget
  stopped _ _ hr := by cases hr
  skipped _ _ hr hstate := by
    cases hr
    exact absurd hstate hskipped
  failed _ _ hr _ := by
    cases hr
    rw [hread]
    exact hrestores
  reverted _ _ hr _ := by
    cases hr
    exact hrestores

theorem StepRun.stepEvents {r : EStateM.Result Overflow (Session σ) Outcome}
    (h : StepRun agents job file known s r) : ∃ events, StepEvents agents job file s r events := by
  -- four exits come before the first write, two end with the way back, and the last is done
  cases h with
  | @unreadable cause line line' hread =>
    refine StepEvents.of_quiet
      (((Quiet.noted [line]).trans (.looked _)).trans (.noted [line'])) ?_ ?_
    · rintro o s' ⟨⟩ hstate
      cases hstate
    · rintro o s' ⟨⟩ -
      exact ⟨cause, hread⟩
  | @empty content line line' s₁ hread hcounted =>
    refine StepEvents.of_quiet ((counted_quiet hcounted).trans (.noted [line'])) ?_ ?_
    all_goals
      rintro o s' ⟨⟩ hstate
      cases hstate
  | @unchanged content line line' lines before s₁ hread hcounted hzero hp =>
    refine StepEvents.of_quiet
      (((counted_quiet hcounted).trans (.noted [line'])).trans (.asked _ lines)) ?_ ?_
    all_goals
      rintro o s' ⟨⟩ hstate
      cases hstate
  | overflow hrewriting hsub =>
    refine StepEvents.of_quiet hrewriting.quiet ?_ ?_
    all_goals
      rintro o s' ⟨⟩
  | @unwritten content transformed line lines lines' _ _ _ _ s₁ hrewriting hsub hw =>
    obtain ⟨events, htrail, hwrites⟩ := hrewriting.quiet
    have hwritten := (htrail.append (.noted lines)).append
      (.cons (.write _ (job.path file) transformed) (.noted [line]))
    obtain ⟨more, hmore, htarget, hrestores⟩ := hwritten.restores hrewriting.read lines'
    have hbefore : WritesOnly (job.path file) (events ++ lines.map .log) :=
      (WritesOnly.of_nil hwrites).append (.of_nil (writes_logs lines))
    exact ⟨_, .of_restores hrewriting.read hmore
      ((hbefore.append (.wrote _ _ [line])).append htarget) hrestores nofun⟩
  | @reverted content transformed _ lines lines' _ _ _ s₁ s₂ hrewriting hsub hw hstages =>
    -- whatever the stages wrote, what is given back is what was read before the first write
    obtain ⟨events, htrail, hwrites⟩ := hrewriting.quiet
    obtain ⟨attempts, hattempts, honly⟩ := hstages.trail
    have hwritten := ((htrail.append (.noted lines)).append
      (.single (.write _ (job.path file) transformed))).append hattempts
    obtain ⟨more, hmore, htarget, hrestores⟩ := hwritten.restores hrewriting.read lines'
    have hbefore : WritesOnly (job.path file) (events ++ lines.map .log) :=
      (WritesOnly.of_nil hwrites).append (.of_nil (writes_logs lines))
    exact ⟨_, .of_restores hrewriting.read hmore
      (((hbefore.append (.wrote _ _ [])).append honly).append htarget) hrestores nofun⟩
  | @done content transformed _ line lines _ _ _ s₁ s₂ hrewriting hsub hw hstages =>
    obtain ⟨events, htrail, hwrites⟩ := hrewriting.quiet
    obtain ⟨attempts, hattempts, honly⟩ := hstages.trail
    have hwritten := ((htrail.append (.noted lines)).append
      (.single (.write _ (job.path file) transformed))).append (hattempts.append (.noted [line]))
    have hbefore : WritesOnly (job.path file) (events ++ lines.map .log) :=
      (WritesOnly.of_nil hwrites).append (.of_nil (writes_logs lines))
    refine ⟨_, hwritten, ?_, ?_, ?_, ?_, ?_⟩
    · exact (hbefore.append (.wrote _ _ [])).append (honly.append (.of_nil (writes_logs [line])))
    · rintro overflow s' ⟨⟩
    all_goals
      rintro o s' ⟨⟩ hstate
      cases hstate

/-- A step that is done has first written what the model made of the file, and has fixed the
difference between the counts of the two. -/
theorem StepRun.done_trail {o : Outcome} (h : StepRun agents job file known s (.ok o s'))
    (hdone : o.state = .done) :
    ∃ content transformed before after s₁ events more,
      Rewriting agents job file known s content before transformed after s₁ ∧
      subTotals (totalOfCount before) (totalOfCount after) = .ok o.fixed ∧
      Trail agents s events s' ∧ WritesOnly (job.path file) events ∧
      writes events = ⟨job.path file, transformed, true⟩ :: more := by
  cases h with
  | unreadable | empty | unchanged | unwritten | reverted => cases hdone
  | @done content transformed _ line lines before after _ s₁ s₂ hrewriting hsub hw hstages =>
    obtain ⟨events, htrail, hwrites⟩ := hrewriting.quiet
    obtain ⟨attempts, hattempts, honly⟩ := hstages.trail
    have hwritten := (htrail.append (.noted lines)).append
      ((Trail.single (.write _ (job.path file) transformed)).append
        (hattempts.append (.noted [line])))
    refine ⟨content, transformed, before, after, s₁, _, writes attempts, hrewriting, hsub, hwritten,
      ?_, ?_⟩
    · exact ((WritesOnly.of_nil hwrites).append (.of_nil (writes_logs lines))).append
        ((WritesOnly.wrote _ _ []).append (honly.append (.of_nil (writes_logs [line]))))
    · rw [Session.noted_world, hw]
      simp only [writes_append, writes_logs, hwrites, List.nil_append, List.append_nil]
      rfl

/-- A step writes its own file only. Stopped by an overflow, with nothing to do, or without a
readable file it writes nothing; when the change cannot be written or verified, its last write gives
back the text that it read, and if that write succeeds the file is what it was. -/
theorem runStep_restores (agents : Agents σ) (job : Job) (file : String) (known : Option UInt64)
    (s : Session σ) :
    ∃ events, (finalSession (runStep agents job file known s)).trace = s.trace ++ events ∧
      (∀ w ∈ writes events, w.path = job.path file) ∧
      match runStep agents job file known s with
      | .error _ _ => writes events = []
      | .ok o s' =>
        match o.state, s.world.disk.readText (job.path file) with
        | .done, _ => True
        | .skipped, _ => writes events = []
        | .failed, .error _ => writes events = []
        | .failed, .ok _ => Restores (job.path file) s s' (writes events)
        | .reverted, _ => Restores (job.path file) s s' (writes events) := by
  obtain ⟨events, hevents⟩ := (runStep_run agents job file known s).stepEvents
  refine ⟨events, hevents.trail.trace_eq, hevents.toTarget, ?_⟩
  cases hr : runStep agents job file known s with
  | error overflow s' => exact hevents.stopped overflow s' hr
  | ok o s' =>
    dsimp only
    cases hstate : o.state with
    | done => trivial
    | skipped => exact hevents.skipped o s' hr hstate
    | reverted => exact hevents.reverted o s' hr hstate
    | failed =>
      have hfailed := hevents.failed o s' hr hstate
      cases hread : s.world.disk.readText (job.path file) with
      | error cause => simpa only [hread] using hfailed
      | ok content => simpa only [hread] using hfailed

end Codemod.Migration
