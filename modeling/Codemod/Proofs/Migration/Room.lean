import Codemod.Proofs.Migration.Frame
import Codemod.Proofs.Migration.Given

/-!
# Room for the sums of a batch

A step takes the difference of two counts, the report adds what steps have fixed, and the history
takes it from its last total. None of this overflows while there is room: what has been fixed, what
is left, and what the planned files and the model still count stay below `2 ^ 63` together.

- `Rewriting.gave`, `StepRun.fits` — what a step counts, and that it ends
- `Room`, `Room.step` — the room of a batch, and what a step takes from it
- `visitFile_fits`, `processFiles_fits` — a batch with room ends
- `Batch.gave` — its steps fix the exact differences
-/

namespace Codemod.Migration

variable {σ : Type} {agents : Agents σ} {setup : Setup} {request : Request} {job : Job}
variable {file : String} {known : Option UInt64} {o : Outcome} {planned : List Planned}
variable {steps : List (Taken σ)} {t : Taken σ} {report report' : RunReport} {s s' : Session σ}
variable {n m : Nat}

/-! ### One step -/

theorem Counted.gave {content : String} {before : UInt64}
    (h : Counted agents job file content s known before s') :
    ∃ n, Gave agents s s' n ∧ before.toNat ≤ (known.getD 0).toNat + n := by
  cases h with
  | known => exact ⟨0, .refl s, Nat.le_refl _⟩
  | asked => exact ⟨_, .counted .., Nat.le_add_left _ _⟩

/-- Both counts of a rewriting were given in it, but for the one that was known. -/
theorem Rewriting.gave {content transformed : String} {before after : UInt64}
    (h : Rewriting agents job file known s content before transformed after s') :
    ∃ n, Gave agents s s' n ∧ after.toNat ≤ n ∧
      before.toNat + after.toNat ≤ (known.getD 0).toNat + n := by
  cases h with
  | @intro line line' lines lines' s₁ s₂ _ hcounted _ _ hs hafter =>
    obtain ⟨n, hn, hbefore⟩ := hcounted.gave
    have hlooked : Gave agents (s.noted [line]) ((s.noted [line]).looked (job.path file)) 0 :=
      .of_move (.read _ _)
    obtain ⟨m, hasked⟩ : ∃ m, Gave agents (s₁.noted [line']) s₂ m := by
      rw [hs]
      exact ⟨_, (Gave.of_move (.ask _ _)).trans (.noted lines)⟩
    have hrest : Gave agents s₂ _ _ :=
      .counted transformed job.request.find file job.context lines'
    rw [← countPrompt, ← hafter] at hrest
    refine ⟨_, ((((Gave.noted [line]).trans hlooked).trans hn).trans (.noted [line'])).trans
      (hasked.trans hrest), ?_, ?_⟩
    all_goals omega

/-- A step that is not done fixes nothing; any other has got as far as a rewriting. -/
theorem StepRun.rewriting {r : EStateM.Result Overflow (Session σ) Outcome}
    (h : StepRun agents job file known s r) :
    (∃ o s', r = .ok o s' ∧ o.state ≠ .done ∧ o.fixed = 0) ∨
    ∃ content transformed before after s₁ more,
      Rewriting agents job file known s content before transformed after s₁ ∧
      Trail agents s₁ more (finalSession r) ∧
      ∀ fixed, subTotals (totalOfCount before) (totalOfCount after) = .ok fixed →
        ∃ s', r = .ok { file, state := .done, fixed } s' := by
  cases h with
  | unreadable | empty | unchanged | unwritten | reverted => exact .inl ⟨_, _, rfl, nofun, rfl⟩
  | overflow hrewriting hsub =>
    refine .inr ⟨_, _, _, _, _, [], hrewriting, .refl _, fun fixed h => ?_⟩
    rw [hsub] at h
    cases h
  | @done content transformed _ line lines _ _ fixed s₁ s₂ hrewriting hsub hwrite hstages =>
    obtain ⟨attempts, hattempts, -⟩ := hstages.trail
    refine .inr ⟨_, _, _, _, _, _, hrewriting, ((Trail.noted lines).append
      (.single (.write _ (job.path file) transformed))).append (hattempts.append (.noted [line])),
      fun fixed' h => ?_⟩
    rw [hsub] at h
    cases h
    exact ⟨_, rfl⟩

/-- The difference of two counts that a step has seen. -/
def Differs (agents : Agents σ) (job : Job) (t : Taken σ) : Prop :=
  ∃ content transformed before after m,
    Rewriting agents job t.file t.known t.before content before transformed after m ∧
      t.outcome.fixed.toInt = before.toNat - after.toNat

/-- A step whose counts are small ends, and what it fixes is the exact difference. -/
theorem StepRun.fits {r : EStateM.Result Overflow (Session σ) Outcome}
    (h : StepRun agents job file known s r) (hgave : Gave agents s (finalSession r) n)
    (hsmall : (known.getD 0).toNat + n < 2 ^ 63) :
    ∃ o s', r = .ok o s' ∧ -(n : Int) ≤ o.fixed.toInt ∧
      o.fixed.toInt ≤ (known.getD 0).toNat + n ∧ (o.state ≠ .done → o.fixed = 0) ∧
      (o.state = .done → Differs agents job ⟨file, known, s, o, s'⟩) := by
  obtain ⟨o, s', hr, hnot, hzero⟩ | ⟨content, transformed, before, after, s₁, more, hrewriting,
    hmore, hended⟩ := h.rewriting
  · refine ⟨o, s', hr, ?_, ?_, fun _ => hzero, fun hdone => absurd hdone hnot⟩
    · rw [hzero]
      exact Int.neg_nonpos_of_nonneg (Int.natCast_nonneg n)
    · rw [hzero]
      exact Int.add_nonneg (Int.natCast_nonneg _) (Int.natCast_nonneg n)
  · obtain ⟨n₁, hn₁, hlast, hcounts⟩ := hrewriting.gave
    obtain ⟨n₂, hn₂⟩ := Gave.of_trail hmore
    obtain rfl := hgave.unique (hn₁.trans hn₂)
    have hbefore := totalOfCount_toInt (n := before) (by omega)
    have hafter := totalOfCount_toInt (n := after) (by omega)
    obtain ⟨fixed, hsub⟩ := subTotals_of_fits (a := totalOfCount before) (b := totalOfCount after)
      (by rw [fitsTotal_iff]; omega)
    have hfixed := subTotals_toInt hsub
    rw [hbefore, hafter] at hfixed
    obtain ⟨s', hr⟩ := hended fixed hsub
    refine ⟨_, s', hr, ?_, ?_, fun hnot => absurd rfl hnot, fun _ =>
      ⟨content, transformed, before, after, s₁, hrewriting, hfixed⟩⟩
    all_goals
      dsimp only
      omega

theorem StepRun.gave {r : EStateM.Result Overflow (Session σ) Outcome}
    (h : StepRun agents job file known s r) : ∃ n, Gave agents s (finalSession r) n := by
  obtain ⟨events, hevents⟩ := h.stepEvents
  exact Gave.of_trail hevents.trail

/-! ### The planned files -/

theorem RunReport.tally_of_fits
    (h : fitsTotal (report.patternsFixed.toInt + o.fixed.toInt) = true) :
    ∃ report', report.tally o = .ok report' := by
  obtain ⟨sum, hsum⟩ := addTotals_of_fits h
  unfold tally
  split
  · exact ⟨_, rfl⟩
  · dsimp only
    split
    · exact ⟨_, by rw [hsum]; rfl⟩
    · exact ⟨_, rfl⟩

theorem recordOutcome_of_fits
    (h : fitsTotal (s.history.currentTotal.toInt - o.fixed.toInt) = true) :
    ∃ s', recordOutcome agents o s = .ok () s' := by
  obtain ⟨count, hcount⟩ := subTotals_of_fits h
  have hfix : ∃ history, s.history.recordFix (agents.now s.world) o.file o.fixed = .ok history := by
    unfold History.recordFix History.fixSnapshot
    rw [hcount]
    exact ⟨_, rfl⟩
  obtain ⟨history, hfix⟩ := hfix
  unfold recordOutcome
  split
  · rw [get_bind, bind_of_ok (checked_of_ok hfix)]
    exact ⟨_, rfl⟩
  · exact ⟨_, rfl⟩

theorem Tallied.patternsFixed_eq (h : Tallied o report report')
    (hzero : o.state ≠ .done → o.fixed = 0) :
    report'.patternsFixed.toInt = report.patternsFixed.toInt + o.fixed.toInt := by
  cases h with
  | skipped hskip =>
    rw [hzero (by simp [hskip])]
    exact (Int.add_zero _).symm
  | done _ hsum => exact addTotals_toInt hsum
  | failed _ hnot =>
    rw [hzero hnot]
    exact (Int.add_zero _).symm

theorem Booked.currentTotal_eq (h : Booked agents o s s')
    (hzero : o.state ≠ .done → o.fixed = 0) :
    s'.history.currentTotal.toInt = s.history.currentTotal.toInt - o.fixed.toInt := by
  cases h with
  | fixed _ hfix =>
    obtain ⟨p, rfl, -, hcount⟩ := History.recordFix_eq_ok hfix
    rw [Session.noted_history, History.currentTotal_push]
    exact subTotals_toInt hcount
  | passed hnot =>
    rw [hzero hnot]
    exact (Int.sub_zero _).symm

/-- There is room for the sums of a run that has fixed and left so much, when the planned files
count so much and the model is still to give counts of `n`. -/
structure Room (fixed left : Int) (planned n : Nat) : Prop where
  fixed_lt : fixed.natAbs + planned + n < 2 ^ 63
  left_lt : left + n < 2 ^ 63
  planned_lt : planned - left + n < 2 ^ 63

/-- A step takes from the room what its file counts and what the model gives in it. -/
theorem Room.step {fixed left change : Int} {planned n₁ n₂ count : Nat}
    (h : Room fixed left (count + planned) (n₁ + n₂)) (hlow : -(n₁ : Int) ≤ change)
    (hhigh : change ≤ count + n₁) :
    fitsTotal (fixed + change) = true ∧ fitsTotal (left - change) = true ∧
      Room (fixed + change) (left - change) planned n₂ := by
  obtain ⟨hfixed, hleft, hplanned⟩ := h
  refine ⟨?_, ?_, ?_, ?_, ?_⟩
  · rw [fitsTotal_iff]
    omega
  · rw [fitsTotal_iff]
    omega
  all_goals omega

theorem Room.mono {fixed left : Int} {planned n m : Nat} (h : Room fixed left planned n)
    (hle : m ≤ n) : Room fixed left planned m := by
  obtain ⟨hfixed, hleft, hplanned⟩ := h
  constructor <;> omega

/-- With room for its sums, a visit ends, and takes from the room what its file counts and what the
model gives in it. -/
theorem visitFile_fits {total index : Nat} {p : Planned} {count : Nat}
    (hgave : Gave agents s (finalSession (visitFile agents setup request total index report p s))
      n)
    (hroom : Room report.patternsFixed.toInt s.history.currentTotal.toInt
      ((p.2.getD 0).toNat + count) (n + m)) :
    ∃ o report' s', visitFile agents setup request total index report p s = .ok (o, report') s' ∧
      Room report'.patternsFixed.toInt s'.history.currentTotal.toInt count m := by
  unfold visitFile at hgave ⊢
  rw [log_bind] at hgave ⊢
  generalize hstart : s.noted [_] = s₁ at hgave ⊢
  have haside : Aside s s₁ := by
    rw [← hstart]
    exact .noted _
  have hhistory : s₁.history = s.history := by
    rw [← hstart]
    rfl
  have hran := runStep_run agents (setup.job request) p.1 p.2 s₁
  obtain ⟨n₁, hn₁⟩ := hran.gave
  have hstep : Gave agents s (finalSession (runStep agents (setup.job request) p.1 p.2 s₁)) n₁ := by
    simpa using (Gave.of_aside haside).trans hn₁
  have hrest : ∀ o, OnLegs agents setup request (fun leg => leg.isCount = false) (do
      let report ← checked (report.tally o)
      recordOutcome agents o
      return (o, report)) := fun o =>
    ((Idle.checked _).bind fun _ => (Idle.recordOutcome o).bind fun _ => .pure _).onLegs
  obtain ⟨n₂, rfl, -⟩ := hstep.split _ hgave hrest
  -- the step, its place in the report, and its point in the history
  obtain ⟨o, s₂, hrun, hlow, hhigh, hzero, -⟩ := hran.fits hn₁ <| by
    have hfits := hroom.fixed_lt
    omega
  rw [Nat.add_assoc] at hroom
  obtain ⟨hsum, hdifference, hroom⟩ := hroom.step hlow hhigh
  have hsame : s₂.history = s.history := by
    rw [hrun] at hran
    rw [StepRun.history_eq hran, hhistory]
  obtain ⟨report₁, htally⟩ := RunReport.tally_of_fits hsum
  obtain ⟨s₃, hrecord⟩ : ∃ s₃, recordOutcome agents o s₂ = .ok () s₃ :=
    recordOutcome_of_fits (by rwa [hsame])
  rw [← hsame, ← (RunReport.tally_eq_ok htally).patternsFixed_eq hzero,
    ← (recordOutcome_run hrecord).currentTotal_eq hzero] at hroom
  rw [bind_of_ok hrun, bind_of_ok (checked_of_ok htally), bind_of_ok hrecord]
  exact ⟨o, report₁, s₃, rfl, hroom.mono (Nat.le_add_left _ _)⟩

/-- With room for its sums, a batch ends in a report. -/
theorem processFiles_fits {total index : Nat}
    (hgave : Gave agents s
      (finalSession (processFiles agents setup request total report index planned s)) n)
    (hroom : Room report.patternsFixed.toInt s.history.currentTotal.toInt (plannedTotal planned)
      n) :
    ∃ report' s', processFiles agents setup request total report index planned s =
      .ok report' s' := by
  induction planned generalizing report index s n with
  | nil => exact ⟨_, _, rfl⟩
  | cons p rest ih =>
    rw [processFiles_cons] at hgave ⊢
    rw [isCancelled_bind] at hgave ⊢
    split at hgave
    · next hflag =>
      rw [if_pos hflag]
      exact ⟨_, _, rfl⟩
    next hflag =>
    rw [if_neg hflag]
    have hone : OneLeg setup request false fun agents : Agents σ =>
        visitFile agents setup request total index report p :=
      visitFile_oneLeg total index report p
    obtain ⟨leg, -, hleg⟩ := hone.legs agents s (Bool.eq_false_iff.mpr hflag)
    obtain ⟨n₁, hn₁⟩ := Gave.of_legs hleg
    obtain ⟨n₂, rfl, hn₂⟩ := hn₁.split (fun leg => leg.isCount = false) hgave fun v =>
      .ite ((Idle.log _).bind fun _ => .pure _).onLegs
        (processFiles_onLegs agents setup request total (index + 1) v.2 rest)
    rw [plannedTotal, List.map_cons, List.sum_cons, ← plannedTotal] at hroom
    obtain ⟨o, report₁, s₁, hvisit, hroom⟩ := visitFile_fits hn₁ hroom
    have hafter := hn₂ _ _ hvisit
    rw [bind_of_ok hvisit]
    split
    · exact ⟨_, _, rfl⟩
    · next hstop =>
      rw [if_neg hstop] at hafter
      exact ih hafter hroom
/-- In a batch whose counts are small, every step that is done fixes the exact difference. -/
theorem Batch.gave (h : Batch agents setup request planned report s steps report' s') :
    ∃ n, Gave agents s s' n ∧ (plannedTotal planned + n < 2 ^ 63 →
      ∀ t ∈ steps, t.outcome.state = .done → Differs agents (setup.job request) t) := by
  have hstep : ∀ {t : Taken σ}, t.Ran agents (setup.job request) →
      ∃ n, Gave agents t.before t.after n ∧ ((t.known.getD 0).toNat + n < 2 ^ 63 →
        t.outcome.state = .done → Differs agents (setup.job request) t) := by
    intro t hran
    obtain ⟨n, hn⟩ := StepRun.gave hran
    refine ⟨n, hn, fun hsmall => ?_⟩
    obtain ⟨o, s', hr, -, -, -, hdiffers⟩ := StepRun.fits hran hn hsmall
    cases hr
    exact hdiffers
  induction h with
  | finished => exact ⟨0, .refl _, fun _ => nofun⟩
  | cancelled => exact ⟨0, .noted [_], fun _ => nofun⟩
  | @stopped p rest _ _ _ line line' _ _ _ _ hran _ hbooked =>
    obtain ⟨n, hn, hdiffers⟩ := hstep hran
    refine ⟨_, (((Gave.noted [line]).trans hn).trans (.of_aside (.of_booked hbooked))).trans
      (.noted [line']), fun hsmall t ht => ?_⟩
    rw [List.mem_singleton] at ht
    rw [ht]
    rw [plannedTotal, List.map_cons, List.sum_cons] at hsmall
    exact hdiffers (by dsimp only; omega)
  | @next p rest _ _ _ _ line _ _ _ _ _ _ hran _ hbooked _ _ ih =>
    obtain ⟨n₁, hn₁, hdiffers⟩ := hstep hran
    obtain ⟨n₂, hn₂, hrest⟩ := ih
    refine ⟨_, (((Gave.noted [line]).trans hn₁).trans (.of_aside (.of_booked hbooked))).trans hn₂,
      fun hsmall t ht => ?_⟩
    rw [plannedTotal, List.map_cons, List.sum_cons, ← plannedTotal] at hsmall
    obtain rfl | ht := List.mem_cons.mp ht
    · exact hdiffers (by dsimp only; omega)
    · exact hrest (by omega) t ht

end Codemod.Migration
