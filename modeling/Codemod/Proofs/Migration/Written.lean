import Codemod.Proofs.Migration.Batch
import Codemod.Proofs.Migration.Restoration

/-!
# The writes of a run are those of its steps

Scanning, counting and booking write nothing, so what a run writes is what its steps write, one
after the other.

- `Wrote` — the writes that led from one session to another
- `Batch.wrote`, `Course.writesBetween_eq` — the writes of a batch and of a run
-/

namespace Codemod.Migration

variable {σ : Type} {agents : Agents σ} {setup : Setup} {request : Request} {files : List String}
variable {planned : List Planned} {plan : Plan} {steps : List (Taken σ)} {t : Taken σ}
variable {report report' : RunReport} {o : Outcome} {s s₁ s' : Session σ} {ws more : List Write}

/-- Events with these writes were added to the trace. -/
def Wrote (s s' : Session σ) (ws : List Write) : Prop :=
  ∃ events, s'.trace = s.trace ++ events ∧ writes events = ws

namespace Wrote

theorem refl (s : Session σ) : Wrote s s [] := ⟨[], (List.append_nil _).symm, rfl⟩

theorem trans (h₁ : Wrote s s₁ ws) (h₂ : Wrote s₁ s' more) : Wrote s s' (ws ++ more) := by
  obtain ⟨events, htrace, rfl⟩ := h₁
  obtain ⟨later, htrace', rfl⟩ := h₂
  refine ⟨events ++ later, ?_, writes_append events later⟩
  rw [htrace', htrace, List.append_assoc]

theorem noted (lines : List String) : Wrote s (s.noted lines) [] := ⟨_, rfl, writes_logs lines⟩

theorem opened (total : UInt64) : Wrote s (s.opened agents total) [] :=
  ⟨[], (List.append_nil _).symm, rfl⟩

theorem of_quiet (h : Quiet agents s s') : Wrote s s' [] := by
  obtain ⟨events, htrail, hwrites⟩ := h
  exact ⟨events, htrail.trace_eq, hwrites⟩

theorem writesBetween_eq (h : Wrote s s' ws) : writesBetween s s' = ws := by
  obtain ⟨events, htrace, rfl⟩ := h
  rw [writesBetween, htrace, List.drop_left]

end Wrote

theorem Taken.wrote {job : Job} (h : t.Ran agents job) :
    Wrote t.before t.after (writesBetween t.before t.after) := by
  obtain ⟨events, hevents⟩ := StepRun.stepEvents h
  exact ⟨events, hevents.trail.trace_eq, hevents.trail.writesBetween_eq.symm⟩

theorem Booked.wrote (h : Booked agents o s s') : Wrote s s' [] := by
  cases h with
  | fixed => exact .noted (s := { s with history := _ }) [_]
  | passed => exact .refl s

/-- The writes of steps, in order. -/
def writesOf (steps : List (Taken σ)) : List Write :=
  steps.flatMap fun t => writesBetween t.before t.after

theorem mem_writesOf {w : Write} (ht : t ∈ steps) (hw : w ∈ writesBetween t.before t.after) :
    w ∈ writesOf steps :=
  List.mem_flatMap.mpr ⟨t, ht, hw⟩

/-- A batch writes what its steps write. -/
theorem Batch.wrote (h : Batch agents setup request planned report s steps report' s') :
    Wrote s s' (writesOf steps) := by
  induction h with
  | finished => exact .refl _
  | cancelled => exact .noted _
  | @stopped _ _ _ _ _ line line' _ _ _ _ hran _ hbooked _ _ =>
    have hstep := (Wrote.noted [line]).trans (Taken.wrote hran)
    have hafter := hbooked.wrote.trans (.noted [line'])
    simpa [writesOf] using hstep.trans hafter
  | @next _ _ _ _ _ _ line _ _ _ _ _ _ hran _ hbooked _ _ ih =>
    have hstep := (Wrote.noted [line]).trans (Taken.wrote hran)
    simpa [writesOf] using hstep.trans (hbooked.wrote.trans ih)

/-- A scan writes nothing. -/
theorem Surveyed.wrote (h : Surveyed agents setup request files s plan s') : Wrote s s' [] := by
  cases h with
  | cancelled hquiet => exact .of_quiet hquiet
  | none _ hquiet => exact .of_quiet hquiet
  | first _ _ _ _ hquiet => exact (Wrote.of_quiet hquiet).trans (.opened _)
  | empty _ _ _ hquiet => exact (Wrote.of_quiet hquiet).trans ((Wrote.opened _).trans (.noted _))
  | all _ _ _ _ hquiet => exact (Wrote.of_quiet hquiet).trans ((Wrote.opened _).trans (.noted _))

/-- A run writes what its steps write. -/
theorem Course.writesBetween_eq {result : Report}
    (h : Course agents setup request s result steps s') :
    writesBetween s s' = writesOf steps := by
  -- clearing the history leaves the trace as it is
  have hcleared : Wrote s s.cleared [] := ⟨[], (List.append_nil _).symm, rfl⟩
  refine Wrote.writesBetween_eq ?_
  cases h with
  | counted _ hquiet => exact .of_quiet hquiet
  | unmatched _ _ hquiet => exact hcleared.trans (.of_quiet hquiet)
  | idle _ _ _ hquiet hsurveyed =>
    exact hcleared.trans ((Wrote.of_quiet hquiet).trans hsurveyed.wrote)
  | cancelled _ _ _ hquiet hsurveyed =>
    exact (hcleared.trans ((Wrote.of_quiet hquiet).trans hsurveyed.wrote)).trans (.noted [_])
  | @batch _ _ _ _ line _ _ _ _ _ _ hquiet hsurveyed hbatch =>
    have hstart := hcleared.trans ((Wrote.of_quiet hquiet).trans hsurveyed.wrote)
    have hend := hbatch.wrote.trans (.noted [line])
    simpa using hstart.trans hend

end Codemod.Migration
