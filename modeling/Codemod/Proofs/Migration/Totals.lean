import Codemod.Proofs.Migration.Refusal
import Codemod.Proofs.Migration.Survey

/-!
# A count and a migration find the same total

A count reports what it sees of the files; a migration of all files records the total of what it
sees before it changes anything. With a model that answers by the prompt both see the same, whatever
else the model does, and whether or not the counts come from one run after the other.

- `ReadsAlike`, `Agents.AnswersBy` — workspaces that read alike, and a model that answers by the
  prompt
- `survey_alike` — what is seen of workspaces that read alike
- `countOnly_survey` — what a count reports
- `migrate_opens` — what a migration of all files records first
- `count_agrees_with_migration` — the two beside each other
-/

namespace Codemod.Migration

variable {σ : Type} {agents : Agents σ} {setup : Setup} {request : Request} {find base : String}
variable {files : List String} {locations : List Location} {planned : List Planned}
variable {w w' : World σ} {s s₁ s' t : Session σ} {answer : String → Except ModelError String}

/-! ### Workspaces that read alike -/

/-- All files of a workspace read alike on two volumes. -/
def ReadsAlike (base : String) (fs fs' : FileSystem) : Prop :=
  ∀ file, (fs.readText (Path.join base file)).toOption =
    (fs'.readText (Path.join base file)).toOption

/-- The model's answer is a function of the prompt. Whatever else the model does, workspaces that
read alike do so afterwards. -/
structure Agents.AnswersBy (agents : Agents σ) (base : String)
    (answer : String → Except ModelError String) : Prop where
  value : ∀ w prompt, (agents.complete w prompt).value = answer prompt
  alike : ∀ w w' prompt, ReadsAlike base w.disk w'.disk →
    ReadsAlike base (agents.complete w prompt).world.disk (agents.complete w' prompt).world.disk

/-- The same is seen of a file that reads alike, and the same is done for it. -/
theorem glimpse_alike (hanswers : agents.AnswersBy setup.workspace answer)
    (halike : ReadsAlike setup.workspace w.disk w'.disk) (find file : String) :
    (agents.glimpse setup find w file).known = (agents.glimpse setup find w' file).known ∧
      (agents.glimpse setup find w file).done = (agents.glimpse setup find w' file).done ∧
      ReadsAlike setup.workspace (agents.glimpse setup find w file).world.disk
        (agents.glimpse setup find w' file).world.disk := by
  have hsame := halike file
  cases hread : w.disk.readText (Path.join setup.workspace file) with
  | error cause =>
    cases hread' : w'.disk.readText (Path.join setup.workspace file) with
    | ok content =>
      rw [hread, hread'] at hsame
      cases hsame
    | error cause' =>
      rw [glimpse_of_error hread, glimpse_of_error hread']
      exact ⟨rfl, rfl, halike⟩
  | ok content =>
    cases hread' : w'.disk.readText (Path.join setup.workspace file) with
    | error cause =>
      rw [hread, hread'] at hsame
      cases hsame
    | ok content' =>
      rw [hread, hread'] at hsame
      cases hsame
      rw [glimpse_of_ok hread, glimpse_of_ok hread']
      refine ⟨?_, rfl, hanswers.alike w w' _ halike⟩
      dsimp only
      rw [hanswers.value, hanswers.value]

theorem survey_alike (hanswers : agents.AnswersBy setup.workspace answer)
    (halike : ReadsAlike setup.workspace w.disk w'.disk) (find : String) (files : List String) :
    (agents.survey setup find w files).planned = (agents.survey setup find w' files).planned ∧
      (agents.survey setup find w files).done = (agents.survey setup find w' files).done := by
  induction files generalizing w w' with
  | nil => exact ⟨rfl, rfl⟩
  | cons file rest ih =>
    obtain ⟨hknown, hdone, hworld⟩ := glimpse_alike hanswers halike find file
    obtain ⟨hplanned, hmore⟩ := ih hworld
    rw [survey_cons, survey_cons, hknown, hdone, hplanned, hmore]
    exact ⟨rfl, rfl⟩

/-! ### Files that can be read -/

/-- The file can be read. -/
def readable (fs : FileSystem) (base file : String) : Bool :=
  (fs.readText (Path.join base file)).toOption.isSome

/-- The event is a question to the model. -/
def Event.isAsked : Event → Bool
  | .asked _ => true
  | _ => false

/-- The model is asked once about each file that was read. -/
theorem survey_asks (w : World σ) (files : List String) :
    (agents.survey setup find w files).done.countP Event.isAsked =
      (agents.survey setup find w files).planned.countP fun p => p.2.isSome := by
  induction files generalizing w with
  | nil => rfl
  | cons file rest ih =>
    rw [survey_cons, List.countP_append, ih, List.countP_cons]
    cases hread : w.disk.readText (Path.join setup.workspace file) with
    | error cause =>
      rw [glimpse_of_error hread]
      simp [Event.isAsked]
    | ok content =>
      rw [glimpse_of_ok hread]
      simp [Event.isAsked, Nat.add_comm]

/-- With a model that leaves all files as they read, the files that were read are those that could
be read at the start. -/
theorem survey_readable
    (hleaves : ∀ w prompt, ReadsAlike setup.workspace (agents.complete w prompt).world.disk w.disk)
    (w : World σ) (files : List String) :
    ((agents.survey setup find w files).planned.countP fun p => p.2.isSome) =
      files.countP (readable w.disk setup.workspace) := by
  have hsame : ∀ w' : World σ, ReadsAlike setup.workspace w'.disk w.disk →
      ((agents.survey setup find w' files).planned.countP fun p => p.2.isSome) =
        files.countP (readable w.disk setup.workspace) := by
    induction files with
    | nil => exact fun _ _ => rfl
    | cons file rest ih =>
      intro w' halike
      rw [survey_cons, List.countP_cons, List.countP_cons]
      have hread := halike file
      cases hread' : w'.disk.readText (Path.join setup.workspace file) with
      | error cause =>
        have hreadable : readable w.disk setup.workspace file = false := by
          rw [readable, ← hread, hread']
          rfl
        rw [glimpse_of_error hread', ih w' halike, hreadable]
        rfl
      | ok content =>
        have hreadable : readable w.disk setup.workspace file = true := by
          rw [readable, ← hread, hread']
          rfl
        rw [glimpse_of_ok hread', ih _ fun other => (hleaves w' _ other).trans (halike other),
          hreadable]
        rfl
  exact hsame w fun _ => rfl

/-! ### The count -/

/-- What is seen of the files at locations. -/
abbrev Session.survey (s : Session σ) (agents : Agents σ) (setup : Setup) (request : Request)
    (locations : List Location) : Survey σ :=
  agents.survey setup request.find s.world (locations.map Location.text)

/-- A count that nobody stops reports what a survey sees, and does what a survey does. -/
theorem countOnly_survey (hnever : agents.NeverStops) (hclear : s.cancelled = false)
    (hready : setup.preflight s.world.disk = .ok ())
    (hselects : setup.Selects request s.world.disk locations)
    (hsum : plannedTotal (s.survey agents setup request locations).planned < 2 ^ 64) :
    ∃ report s', countOnly agents setup request s = .ok (.ok report) s' ∧
      TakesIn {} (s.survey agents setup request locations).planned report ∧
      Did s s' (s.survey agents setup request locations).world
        (s.survey agents setup request locations).done := by
  have hrun : ∃ lines, behindChecks setup request (pure ()) (counting agents setup request) s =
      counting agents setup request (locations.map Location.text) (s.noted lines) :=
    behindChecks_of_selects .pure hready hselects
  obtain ⟨lines, hrun⟩ := hrun
  obtain ⟨report, s₁, hcount, htaken, hdid⟩ := countFiles_survey hnever setup request.find {}
    (locations.map Location.text) (s.noted lines) hclear (by simpa using hsum)
  rw [countOnly_eq_behindChecks, hrun]
  unfold counting
  rw [bind_of_ok hcount, log_bind]
  exact ⟨report, _, rfl, htaken, hdid.noted_before.noted_after _⟩

/-! ### The migration -/

/-- Carrying out a plan adds to the history. -/
theorem carryOut_history_prefix (agents : Agents σ) (setup : Setup) (request : Request)
    (plan : Plan) (m : Session σ) :
    m.history.snapshots <+:
      (finalSession (carryOut agents setup request plan m)).history.snapshots := by
  cases plan with
  | nothing => exact List.prefix_refl _
  | cancelled => exact List.prefix_refl _
  | files planned =>
    obtain ⟨legs, -, hlegs⟩ := processFiles_onLegs agents setup request planned.length 1
      { filesTotal := planned.length } planned m
    have hends : ∀ report : RunReport, Idle (σ := σ) (do
        let report := { report with remaining := ← remaining }
        log (closingLine report)
        return (.ok report : Except RunError RunReport)) := fun report =>
      (remaining_chore.idle agents).bind fun _ => (Idle.log _).bind fun _ => .pure _
    have hall := hlegs.bind_idle hends
    exact hall.history_prefix

/-- A migration of all files that nobody stops records the sum of the counts first, and plans all
files unless the sum is zero. -/
theorem migrate_opens (request : Request) (hnever : agents.NeverStops)
    (hclear : s.cancelled = false) (hready : setup.preflight s.world.disk = .ok ())
    (hselects : setup.Selects request s.world.disk locations) (hne : locations ≠ [])
    (haction : request.action = .migrateAllFiles)
    (hsum : plannedTotal (s.survey agents setup request locations).planned < 2 ^ 63) :
    (∃ first later, (finalSession (migrate agents setup request s)).history.snapshots =
        first :: later ∧ first.file = none ∧
      first.count.toInt = plannedTotal (s.survey agents setup request locations).planned) ∧
    (plannedTotal (s.survey agents setup request locations).planned ≠ 0 →
      ∃ m, Plans agents setup request s (s.survey agents setup request locations).planned m) := by
  have hfiles : locations.map Location.text ≠ [] := mt List.map_eq_nil_iff.mp hne
  obtain ⟨lines, henumerate⟩ := enumerate_of_selects
    (s := s.cleared.noted ["Starting code migration process"]) hselects
  generalize hstart : (s.cleared.noted ["Starting code migration process"]).noted lines = s₀
    at henumerate
  have hworld : s₀.world = s.world := by
    rw [← hstart]
    rfl
  have hempty : s₀.history = .empty := by
    rw [← hstart]
    rfl
  have hclear₀ : s₀.cancelled = false := by
    rw [← hstart]
    exact hclear
  have hscan := planAll_survey hnever setup request.find (locations.map Location.text) s₀ hclear₀
  rw [hworld] at hscan
  obtain ⟨total, s₁, htotal, hdid, more, hplanAll⟩ := hscan (Nat.lt_trans hsum (by decide))
  have hplan : plan agents setup request (locations.map Location.text) s₀ =
      .ok (if total = 0 then .nothing
        else .files (s.survey agents setup request locations).planned)
        ((s₁.opened agents total).noted more) := by
    unfold plan
    rw [if_neg (by rw [haction]; decide)]
    exact hplanAll
  constructor
  · -- the point of the total is the first of the history, and what follows only adds to it
    obtain ⟨later, hlater⟩ := carryOut_history_prefix agents setup request
      (if total = 0 then .nothing else .files (s.survey agents setup request locations).planned)
      ((s₁.opened agents total).noted more)
    rw [migrate_of_plan hready henumerate hfiles hplan, ← hlater]
    refine ⟨⟨s₁.history.nextTime (agents.now s₁.world), totalOfCount total, none⟩, later, ?_, rfl,
      ?_⟩
    · rw [Session.noted_history, Session.opened, hdid.history_eq, hempty]
      rfl
    · rw [← htotal]
      exact totalOfCount_toInt (htotal ▸ hsum)
  · intro hsome
    have hzero : total ≠ 0 := by
      rintro rfl
      exact hsome htotal.symm
    rw [if_neg hzero] at hplan
    exact ⟨_, by rw [haction]; decide, hready, _, _, henumerate, hplan⟩

/-! ### Both together -/

/-- When the sum of the counts is zero, all counts are. -/
theorem counts_of_plannedTotal (h : plannedTotal planned = 0) :
    planned.countP Planned.counts = 0 := by
  induction planned with
  | nil => rfl
  | cons p planned ih =>
    rw [plannedTotal_cons] at h
    obtain ⟨hfirst, hrest⟩ := Nat.add_eq_zero_iff.mp h
    have hzero : p.2.getD 0 = 0 := (UInt64.toNat_inj (b := 0)).mp hfirst
    rw [List.countP_cons, ih hrest]
    simp [Planned.counts, hzero]

/-- With a model that answers by the prompt, and counts whose sum is less than `2 ^ 63`, a count and
a migration of all files of workspaces that read alike find the same total: the one reports it, the
other records it before anything else. The count reports how many of the planned files have
occurrences and how many can be read, asks the model once about each of these, and does nothing
else. -/
theorem count_agrees_with_migration (hanswers : agents.AnswersBy setup.workspace answer)
    (hnever : agents.NeverStops) (hs : s.cancelled = false) (ht : t.cancelled = false)
    (halike : ReadsAlike setup.workspace s.world.disk t.world.disk)
    (hready : setup.preflight s.world.disk = .ok ())
    (hready' : setup.preflight t.world.disk = .ok ())
    (hselects : setup.Selects request s.world.disk locations)
    (hselects' : setup.Selects request t.world.disk locations) (hne : locations ≠ [])
    (hsum : plannedTotal (s.survey agents setup request locations).planned < 2 ^ 63) :
    ∃ report s', countOnly agents setup request s = .ok (.ok report) s' ∧
      report.cancelled = false ∧
      -- the total
      (∃ first later, (finalSession (migrate agents setup
          { request with action := .migrateAllFiles } t)).history.snapshots = first :: later ∧
        first.file = none ∧ first.count.toInt = report.total.toNat) ∧
      -- the files with occurrences
      (report.total = 0 ∧ report.filesWithPatterns = 0 ∨
        ∃ planned m, Plans agents setup { request with action := .migrateAllFiles } t planned m ∧
          report.filesWithPatterns = planned.countP Planned.counts) ∧
      -- the files that can be read
      report.filesScanned =
        ((s.survey agents setup request locations).planned.countP fun p => p.2.isSome) ∧
      ((∀ w prompt, ReadsAlike setup.workspace (agents.complete w prompt).world.disk w.disk) →
        report.filesScanned =
          (locations.map Location.text).countP (readable s.world.disk setup.workspace)) ∧
      -- what the count does
      doneBetween s s' = (s.survey agents setup request locations).done ∧
      (∀ e ∈ doneBetween s s', e.Looks setup request.find (locations.map Location.text)) ∧
      (doneBetween s s').countP Event.isAsked = report.filesScanned ∧
      s'.history = s.history := by
  obtain ⟨report, s', hrun, htaken, hdid⟩ := countOnly_survey hnever hs hready hselects
    (Nat.lt_trans hsum (by decide))
  obtain ⟨hplanned, -⟩ := survey_alike hanswers halike request.find (locations.map Location.text)
  have hsame :
      (t.survey agents setup { request with action := .migrateAllFiles } locations).planned =
      (s.survey agents setup request locations).planned := hplanned.symm
  obtain ⟨⟨first, later, hhistory, hfile, hcount⟩, hplans⟩ :=
    migrate_opens { request with action := .migrateAllFiles } hnever ht hready' hselects' hne rfl
      (hsame.symm ▸ hsum)
  rw [hsame] at hcount hplans
  have htotal : report.total.toNat =
      plannedTotal (s.survey agents setup request locations).planned := by
    rw [htaken.total]
    exact Nat.zero_add _
  have hscanned : report.filesScanned =
      ((s.survey agents setup request locations).planned.countP fun p => p.2.isSome) := by
    rw [htaken.scanned]
    exact Nat.zero_add _
  have hwith : report.filesWithPatterns =
      (s.survey agents setup request locations).planned.countP Planned.counts := by
    rw [htaken.withPatterns]
    exact Nat.zero_add _
  have hdone := hdid.doneBetween_eq
  refine ⟨report, s', hrun, htaken.cancelled, ⟨first, later, hhistory, hfile, ?_⟩, ?_, hscanned,
    ?_, hdone, ?_, ?_, hdid.history_eq⟩
  · rw [hcount, htotal]
  · by_cases hzero : plannedTotal (s.survey agents setup request locations).planned = 0
    · refine .inl ⟨UInt64.toNat_inj.mp (htotal.trans hzero), ?_⟩
      rw [hwith, counts_of_plannedTotal hzero]
    · obtain ⟨m, hplanned⟩ := hplans hzero
      exact .inr ⟨_, m, hplanned, hwith⟩
  · intro hleaves
    rw [hscanned]
    exact survey_readable hleaves s.world (locations.map Location.text)
  · rw [hdone]
    exact survey_looks s.world (locations.map Location.text)
  · rw [hdone, hscanned]
    exact survey_asks s.world (locations.map Location.text)

theorem obliging_answersBy (base : String) :
    obliging.AnswersBy base fun prompt => (obliging.complete mixedSession.world prompt).value where
  value _ _ := rfl
  alike _ _ _ h := h

/-- The count of the mixed workspace scans the three scripts that can be read; it finds the total
that a migration records. -/
theorem count_agrees_with_migration_mixed :
    ∃ report s', countOnly obliging smallSetup smallRequest mixedSession = .ok (.ok report) s' ∧
      report.filesScanned = 3 ∧
      ∃ first later, (finalSession
          (migrate obliging smallSetup smallRequest mixedSession)).history.snapshots =
        first :: later ∧ first.count.toInt = report.total.toNat := by
  obtain ⟨report, s', hrun, -, ⟨first, later, hhistory, -, hcount⟩, -, hscanned, -⟩ :=
    count_agrees_with_migration (s := mixedSession) (t := mixedSession)
      (obliging_answersBy smallSetup.workspace) obliging_neverStops rfl rfl (fun _ => rfl) rfl rfl
      mixedSession_selects mixedSession_selects (List.cons_ne_nil _ _) (by decide +kernel)
  refine ⟨report, s', hrun, ?_, first, later, hhistory, hcount⟩
  rw [hscanned]
  decide +kernel

end Codemod.Migration
