import Mathlib.Data.List.Nodup
import Codemod.Proofs.Migration.Frame

/-!
# The report and the history agree

A migration counts what its steps came to in a report, and adds a point to the history for each one
that is done. Both are accounts of the same steps.

- `fixedOutcomes`, `totalFixed` — the outcomes that count, and the sum of what they fixed
- `Counts` — what steps add to a report
- `Descends` — what steps add to a history
- `Batch.ending` — how a batch ends
- `Passage.agrees`, `migrate_agrees` — a whole migration
-/

namespace Codemod.Migration

variable {σ : Type} {agents : Agents σ} {setup : Setup} {request : Request} {job : Job}
variable {planned : List Planned} {plan : Plan} {files : List String} {t : Taken σ}
variable {steps more : List (Taken σ)} {s s₁ s' : Session σ} {o : Outcome} {os os' : List Outcome}
variable {report report₁ report' : RunReport} {history history₁ history' : History}

/-- The outcomes of the steps that are done, in order. -/
def fixedOutcomes (steps : List (Taken σ)) : List Outcome :=
  (steps.map Taken.outcome).filter Outcome.succeeded

/-- The sum of what the steps that are done have fixed. -/
def totalFixed (steps : List (Taken σ)) : Int :=
  ((fixedOutcomes steps).map fun o => o.fixed.toInt).sum

@[simp] theorem fixedOutcomes_append :
    fixedOutcomes (steps ++ more) = fixedOutcomes steps ++ fixedOutcomes more := by
  simp [fixedOutcomes]

@[simp] theorem totalFixed_append :
    totalFixed (steps ++ more) = totalFixed steps + totalFixed more := by
  simp [totalFixed]

theorem fixedOutcomes_of_done (h : t.outcome.state = .done) : fixedOutcomes [t] = [t.outcome] := by
  simp [fixedOutcomes, Outcome.succeeded, h]

theorem fixedOutcomes_of_not_done (h : t.outcome.state ≠ .done) : fixedOutcomes [t] = [] := by
  simp [fixedOutcomes, Outcome.succeeded, h]

/-- The done steps of files are among the steps of files, in order. -/
theorem fixedOutcomes_files (h : ∀ t ∈ steps, t.outcome.file = t.file) :
    ((fixedOutcomes steps).map Outcome.file).Sublist (steps.map Taken.file) := by
  rw [← List.map_congr_left h, ← Function.comp_def, ← List.map_map]
  exact List.filter_sublist.map _

/-! ### The report -/

/-- What steps add to a report. -/
structure Counts (steps : List (Taken σ)) (report report' : RunReport) : Prop where
  visited : report'.processed + report'.skipped = report.processed + report.skipped + steps.length
  skipped : report'.skipped = report.skipped + steps.countP fun t => t.outcome.isSkip
  succeeded : report'.succeeded = report.succeeded + (fixedOutcomes steps).length
  /-- Every file that was not skipped has succeeded or failed. -/
  processed : report'.processed + (report.succeeded + report.failed) =
    report.processed + (report'.succeeded + report'.failed)
  fixed : report'.patternsFixed.toInt = report.patternsFixed.toInt + totalFixed steps

namespace Counts

theorem refl (report : RunReport) : Counts (σ := σ) [] report report :=
  ⟨rfl, rfl, rfl, rfl, (Int.add_zero _).symm⟩

theorem of_tallied (h : Tallied t.outcome report report') : Counts [t] report report' where
  visited := h.visited_eq
  skipped := by
    cases h with
    | skipped hskip => simp [Outcome.isSkip, hskip]
    | done hdone => simp [Outcome.isSkip, hdone]
    | failed hskip => simp [Outcome.isSkip, hskip]
  succeeded := by
    cases h with
    | skipped hskip => rw [fixedOutcomes_of_not_done (by simp [hskip])]; rfl
    | done hdone => rw [fixedOutcomes_of_done hdone]; rfl
    | failed _ hnot => rw [fixedOutcomes_of_not_done hnot]; rfl
  processed := by
    cases h with
    | skipped => rfl
    | done | failed => dsimp only; omega
  fixed := by
    cases h with
    | skipped hskip => simp [totalFixed, fixedOutcomes_of_not_done (t := t) (by simp [hskip])]
    | done hdone hsum => simp [totalFixed, fixedOutcomes_of_done hdone, addTotals_toInt hsum]
    | failed _ hnot => simp [totalFixed, fixedOutcomes_of_not_done hnot]

theorem trans (h₁ : Counts steps report report₁) (h₂ : Counts more report₁ report') :
    Counts (steps ++ more) report report' where
  visited := by rw [h₂.visited, h₁.visited, List.length_append]; omega
  skipped := by rw [h₂.skipped, h₁.skipped, List.countP_append]; omega
  succeeded := by
    rw [h₂.succeeded, h₁.succeeded, fixedOutcomes_append, List.length_append]
    omega
  processed := by
    have hfirst := h₁.processed
    have hsecond := h₂.processed
    omega
  fixed := by rw [h₂.fixed, h₁.fixed, totalFixed_append, Int.add_assoc]

end Counts

theorem Batch.counts (h : Batch agents setup request planned report s steps report' s') :
    Counts steps report report' := by
  induction h with
  | finished => exact .refl _
  | cancelled => exact { Counts.refl _ with }
  | @stopped _ _ _ _ o _ _ _ _ _ _ _ htally =>
    exact { Counts.of_tallied (t := ⟨_, _, _, o, _⟩) (RunReport.tally_eq_ok htally) with }
  | next _ _ htally _ _ _ ih =>
    exact (Counts.of_tallied (t := ⟨_, _, _, _, _⟩) (RunReport.tally_eq_ok htally)).trans ih

/-! ### The history -/

/-- One point more for each outcome, which names its file and takes what it fixed from the last
total. -/
inductive Descends : History → List Outcome → History → Prop
  | refl (history : History) : Descends history [] history
  | cons {history history' : History} {p : Snapshot} {o : Outcome} {os : List Outcome} :
    p.file = some o.file → p.count.toInt = history.currentTotal.toInt - o.fixed.toInt →
    Descends (history.push p) os history' → Descends history (o :: os) history'

namespace Descends

theorem trans (h₁ : Descends history os history₁) (h₂ : Descends history₁ os' history') :
    Descends history (os ++ os') history' := by
  induction h₁ with
  | refl => exact h₂
  | cons hfile hcount _ ih => exact .cons hfile hcount (ih h₂)

theorem of_booked (h : Booked agents t.outcome s s') :
    Descends s.history (fixedOutcomes [t]) s'.history := by
  cases h with
  | fixed hdone hfix =>
    obtain ⟨p, rfl, hfile, hcount⟩ := History.recordFix_eq_ok hfix
    rw [fixedOutcomes_of_done hdone]
    exact .cons hfile (subTotals_toInt hcount) (.refl _)
  | passed hnot =>
    rw [fixedOutcomes_of_not_done hnot]
    exact .refl _

/-- The points that are added, in order. -/
theorem snapshots_eq (h : Descends history os history') :
    ∃ fixes, history'.snapshots = history.snapshots ++ fixes ∧
      fixes.map Snapshot.file = os.map fun o => some o.file := by
  induction h with
  | refl => exact ⟨[], (List.append_nil _).symm, rfl⟩
  | @cons history history' p o os hfile _ _ ih =>
    obtain ⟨fixes, hsnapshots, hfiles⟩ := ih
    refine ⟨p :: fixes, ?_, by rw [List.map_cons, List.map_cons, hfile, hfiles]⟩
    rw [hsnapshots, History.push, List.append_assoc, List.singleton_append]

/-- The last total is the first one less what was fixed. -/
theorem currentTotal_eq (h : Descends history os history') :
    history'.currentTotal.toInt =
      history.currentTotal.toInt - (os.map fun o => o.fixed.toInt).sum := by
  induction h with
  | refl => simp
  | cons _ hcount _ ih =>
    rw [ih, History.currentTotal_push, hcount, List.map_cons, List.sum_cons]
    omega

end Descends

/-- A step leaves the history as it is, and what is booked of it is at most one point. -/
theorem Taken.descends (hran : t.Ran agents job) (hbooked : Booked agents t.outcome t.after s') :
    Descends t.before.history (fixedOutcomes [t]) s'.history := by
  have hstep := Descends.of_booked hbooked
  rwa [StepRun.history_eq hran] at hstep

theorem Batch.descends (h : Batch agents setup request planned report s steps report' s') :
    Descends s.history (fixedOutcomes steps) s'.history := by
  induction h with
  | finished | cancelled => exact .refl _
  | stopped _ hran _ hbooked =>
    have hstep := Taken.descends hran hbooked
    exact hstep
  | next _ hran _ hbooked _ _ ih =>
    rw [← List.singleton_append, fixedOutcomes_append]
    exact (Taken.descends hran hbooked).trans ih

/-! ### How a batch ends -/

/-- A batch visits all planned files unless it is asked to stop or the policy stops it, and says
which of the two it was. -/
theorem Batch.ending (h : Batch agents setup request planned report s steps report' s')
    (hgoes : report.cancelled = false) (hearly : report.stoppedEarly = false) :
    ¬(report'.cancelled = true ∧ report'.stoppedEarly = true) ∧
      (steps.length = planned.length ↔
        report'.cancelled = false ∧ report'.stoppedEarly = false) := by
  induction h with
  | finished => simp [hgoes, hearly]
  | cancelled => simp [hearly]
  | stopped _ _ htally _ _ hrest =>
    have hflags := (RunReport.tally_eq_ok htally).flags_eq
    simp [hflags.1, hgoes, hrest]
  | next _ _ htally _ _ _ ih =>
    have hflags := (RunReport.tally_eq_ok htally).flags_eq
    simpa using ih (hflags.1.trans hgoes) (hflags.2.trans hearly)

/-! ### A whole migration -/

/-- The history goes on with a point that names no file. -/
def Opened (history history' : History) : Prop := ∃ p, p.file = none ∧ history' = history.push p

/-- A scan adds at most one point to the history, and does so when it plans files. -/
theorem Surveyed.history_eq (h : Surveyed agents setup request files s plan s') :
    (s'.history = s.history ∧ ∀ planned, plan ≠ .files planned) ∨
      Opened s.history s'.history := by
  have hopened : ∀ {s₁ : Session σ} (total : UInt64), Quiet agents s s₁ →
      Opened s.history (s₁.opened agents total).history := by
    intro s₁ total hq
    rw [← hq.history_eq]
    exact ⟨_, rfl, rfl⟩
  cases h with
  | cancelled hq => exact .inl ⟨hq.history_eq, nofun⟩
  | none _ hq => exact .inl ⟨hq.history_eq, nofun⟩
  | first _ _ _ _ hq => exact .inr (hopened _ hq)
  | empty _ _ _ hq => exact .inr (hopened _ hq)
  | all _ _ _ _ hq => exact .inr (hopened _ hq)

/-- What is planned is in the order of the files. -/
theorem Surveyed.sublist (h : Surveyed agents setup request files s (.files planned) s') :
    (planned.map Prod.fst).Sublist files := by
  cases h with
  | first _ hmem => exact List.singleton_sublist.mpr hmem
  | all _ htally =>
    rw [htally.files_eq]

/-- The report and the history of a migration are accounts of the same steps. -/
structure Agrees (report : RunReport) (history : History) (steps : List (Taken σ))
    (files : List String) : Prop where
  processed_eq : report.processed = report.succeeded + report.failed
  succeeded_eq : report.succeeded = (fixedOutcomes steps).length
  skipped_eq : report.skipped = steps.countP fun t => t.outcome.isSkip
  /-- Every step is of another file, and they come in the order of the files. -/
  sublist : (steps.map Taken.file).Sublist files
  nodup : (steps.map Taken.file).Nodup
  visited_eq : report.processed + report.skipped = steps.length
  visited_le : report.processed + report.skipped ≤ report.filesTotal
  /-- With files to visit, all of them are visited unless the report says why not. -/
  visited_all_iff : report.filesTotal ≠ 0 →
    (report.processed + report.skipped = report.filesTotal ↔
      report.cancelled = false ∧ report.stoppedEarly = false)
  one_reason : ¬(report.cancelled = true ∧ report.stoppedEarly = true)
  /-- The history is empty, or goes on from a point without a file by one point for each step that
  is done. -/
  points : history.snapshots = [] ∧ steps = [] ∨
    ∃ first fixes, history.snapshots = first :: fixes ∧ first.file = none ∧
      fixes.length = report.succeeded ∧
      fixes.map Snapshot.file = (fixedOutcomes steps).map (fun o => some o.file) ∧
      Descends ⟨[first]⟩ (fixedOutcomes steps) history
  /-- The points of done steps are of different files, in the order of the files. -/
  names_sublist : ((fixedOutcomes steps).map Outcome.file).Sublist files
  names_nodup : ((fixedOutcomes steps).map Outcome.file).Nodup
  /-- No other step has a point. -/
  unnamed : ∀ t ∈ steps, t.outcome.state ≠ .done → ∀ p ∈ history.snapshots, p.file ≠ some t.file
  patternsFixed_eq : report.patternsFixed.toInt = totalFixed steps
  remaining_eq : report.remaining = history.currentTotal
  remaining_toInt : ∀ first ∈ history.snapshots.head?,
    report.remaining.toInt = first.count.toInt - report.patternsFixed.toInt

/-- A migration without a step. -/
theorem Agrees.of_unvisited {cancelled : Bool} (h : history = .empty ∨ Opened .empty history) :
    Agrees (σ := σ) { cancelled, remaining := history.currentTotal } history [] files where
  processed_eq := rfl
  succeeded_eq := rfl
  skipped_eq := rfl
  sublist := List.nil_sublist _
  nodup := .nil
  visited_eq := rfl
  visited_le := Nat.le_refl _
  visited_all_iff h := absurd rfl h
  one_reason h := Bool.false_ne_true h.2
  points := by
    obtain rfl | ⟨first, hfile, rfl⟩ := h
    · exact .inl ⟨rfl, rfl⟩
    · exact .inr ⟨first, [], rfl, hfile, rfl, rfl, .refl _⟩
  names_sublist := List.nil_sublist _
  names_nodup := .nil
  unnamed := nofun
  patternsFixed_eq := rfl
  remaining_eq := rfl
  remaining_toInt := by
    obtain rfl | ⟨first, -, rfl⟩ := h
    · exact nofun
    · rintro _ ⟨⟩
      rw [History.currentTotal_push]
      exact (Int.sub_zero _).symm

/-- A point names a file that is not done only if it was there before the steps. -/
theorem unnamed_of_nodup {fixes : List Snapshot} (hnodup : (steps.map Taken.file).Nodup)
    (hfile : ∀ t ∈ steps, t.outcome.file = t.file)
    (hfixes : fixes.map Snapshot.file = (fixedOutcomes steps).map fun o => some o.file)
    (ht : t ∈ steps) (hnot : t.outcome.state ≠ .done) : ∀ p ∈ fixes, p.file ≠ some t.file := by
  intro p hp hname
  have hmem := List.mem_map_of_mem (f := Snapshot.file) hp
  rw [hfixes, hname, List.mem_map] at hmem
  obtain ⟨o, ho, hsame⟩ := hmem
  obtain ⟨hos, hdone⟩ := List.mem_filter.mp ho
  obtain ⟨u, hu, rfl⟩ := List.mem_map.mp hos
  rw [hfile u hu] at hsame
  obtain rfl := List.inj_on_of_nodup_map hnodup hu ht (Option.some.inj hsame)
  exact hnot (by simpa [Outcome.succeeded] using hdone)

theorem Batch.agrees (hopened : Opened .empty s.history)
    (hsublist : (planned.map Prod.fst).Sublist files) (hnodup : (planned.map Prod.fst).Nodup)
    (h : Batch agents setup request planned { filesTotal := planned.length } s steps report s') :
    Agrees { report with remaining := s'.history.currentTotal } s'.history steps files := by
  obtain ⟨first, hfirst, hhistory⟩ := hopened
  have hcounts := h.counts
  have htotal : report.filesTotal = planned.length := h.filesTotal_eq
  have hending := h.ending rfl rfl
  have hdescends := h.descends
  rw [hhistory] at hdescends
  obtain ⟨fixes, hpoints, hfiles⟩ := hdescends.snapshots_eq
  have hfile : ∀ t ∈ steps, t.outcome.file = t.file := fun t ht => StepRun.file_eq (h.ran t ht)
  have hprefix : steps.map Taken.file <+: planned.map Prod.fst := by
    have hsteps := h.steps_prefix.map Prod.fst
    rwa [List.map_map] at hsteps
  have hvisited : report.processed + report.skipped = steps.length := by
    simpa using hcounts.visited
  have hsteps : steps.length ≤ planned.length := by
    simpa using hprefix.length_le
  have hsucceeded : report.succeeded = (fixedOutcomes steps).length := by
    simpa using hcounts.succeeded
  have hfixed : report.patternsFixed.toInt = totalFixed steps := by
    simpa using hcounts.fixed
  have hnames := fixedOutcomes_files hfile
  exact {
    processed_eq := by simpa using hcounts.processed
    succeeded_eq := hsucceeded
    skipped_eq := by simpa using hcounts.skipped
    sublist := hprefix.sublist.trans hsublist
    nodup := hnodup.sublist hprefix.sublist
    visited_eq := hvisited
    visited_le := by
      show report.processed + report.skipped ≤ report.filesTotal
      omega
    visited_all_iff := fun _ => by
      show report.processed + report.skipped = report.filesTotal ↔ _
      rw [hvisited, htotal]
      exact hending.2
    one_reason := hending.1
    points := .inr ⟨first, fixes, hpoints, hfirst, by
      rw [hsucceeded, ← List.length_map Snapshot.file, hfiles, List.length_map], hfiles, hdescends⟩
    names_sublist := (hnames.trans hprefix.sublist).trans hsublist
    names_nodup := hnodup.sublist (hnames.trans hprefix.sublist)
    unnamed := fun t ht hnot p hp => by
      rw [hpoints] at hp
      obtain hp | hp := List.mem_cons.mp hp
      · rw [hp, hfirst]
        exact nofun
      · exact unnamed_of_nodup (hnodup.sublist hprefix.sublist) hfile hfiles ht hnot p hp
    patternsFixed_eq := hfixed
    remaining_eq := rfl
    remaining_toInt := by
      rw [hpoints]
      rintro _ ⟨⟩
      show s'.history.currentTotal.toInt = first.count.toInt - report.patternsFixed.toInt
      rw [hdescends.currentTotal_eq, History.currentTotal_push, hfixed, totalFixed] }

/-- Whatever way a migration takes, its report and its history are accounts of the steps on it. -/
theorem Passage.agrees {root : Location} (hnamed : s.world.disk.Named)
    (hfound : s.world.disk.find setup.workspace = .ok (root, .directory))
    (h : Passage agents setup request s report steps s') :
    ∃ locations, setup.Selects request s.world.disk locations ∧
      (∀ t ∈ steps, t.Ran agents (setup.job request)) ∧
      Agrees report s'.history steps (locations.map Location.text) := by
  cases h with
  | unmatched hselects =>
    exact ⟨[], hselects, nofun, .of_unvisited (.inl rfl)⟩
  | idle hselects _ hplan =>
    exact ⟨_, hselects, nofun, .of_unvisited ((plan_run hplan).history_eq.imp_left And.left)⟩
  | cancelled hselects _ hplan =>
    exact ⟨_, hselects, nofun, .of_unvisited ((plan_run hplan).history_eq.imp_left And.left)⟩
  | batch hselects _ hplan _ hbatch =>
    have hsurveyed := plan_run hplan
    have hopened := hsurveyed.history_eq.resolve_left fun h => h.2 _ rfl
    have hnodup := hsurveyed.nodup (text_nodup (fun rel hrel => ?_)
      (Walker.matching_nodup hnamed hfound hselects))
    · exact ⟨_, hselects, hbatch.ran, hbatch.agrees hopened hsurveyed.sublist hnodup⟩
    · obtain ⟨bytes, hfile⟩ := Walker.matching_hasFile hnamed hfound hselects hrel
      exact hfile.names

/-- Whatever the request, the agents and the moment of cancellation, a migration that reports takes
steps, each one from the session that the one before has left, and its report and its history are
accounts of these very steps. -/
theorem migrate_agrees (hnamed : s.world.disk.Named)
    (hrun : migrate agents setup request s = .ok (.ok report) s') :
    ∃ locations steps, setup.Selects request s.world.disk locations ∧
      Passage agents setup request s report steps s' ∧
      (∀ t ∈ steps, t.Ran agents (setup.job request)) ∧
      Agrees report s'.history steps (locations.map Location.text) := by
  obtain ⟨hpreflight, steps, hpassage⟩ := migrate_run hrun
  obtain ⟨root, hfound⟩ := preflight_directory hpreflight
  obtain ⟨locations, hselects, hran, hagrees⟩ := hpassage.agrees hnamed hfound
  exact ⟨locations, steps, hselects, hpassage, hran, hagrees⟩

/-- The report and the history agree on the run that repairs a draft, in which a step is done. -/
theorem migrate_agrees_drafting : ∃ report s' locations, ∃ steps : List (Taken Unit),
    migrate drafting smallSetup smallRequest scriptSession = .ok (.ok report) s' ∧
      smallSetup.Selects smallRequest scriptSession.world.disk locations ∧
      Passage drafting smallSetup smallRequest scriptSession report steps s' ∧
      Agrees report s'.history steps (locations.map Location.text) ∧ report.succeeded = 1 := by
  have h : endsIn (fun result _ => match result with
      | .ok report => decide (report.succeeded = 1)
      | .error _ => false) (migrate drafting smallSetup smallRequest scriptSession) = true := by
    decide +kernel
  obtain ⟨result, s', hrun, hchecked⟩ := exists_of_endsIn h
  cases result with
  | error e => cases hchecked
  | ok report =>
    obtain ⟨locations, steps, hselects, hpassage, -, hagrees⟩ :=
      migrate_agrees scriptSession_named hrun
    exact ⟨report, s', locations, steps, hrun, hselects, hpassage, hagrees,
      of_decide_eq_true hchecked⟩

end Codemod.Migration
