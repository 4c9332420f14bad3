import Codemod.Proofs.Migration.Frame
import Codemod.Proofs.Migration.Legs

/-!
# Surveys

A scan and a count both look at one file after the other. When nobody asks the run to stop, what
they see and what they do is the same: each file is read, and the model is asked once about each
that can be read. A survey is that, for any list of files, with the world that it leaves behind.

- `Agents.NeverStops` — agents that never ask a run to stop
- `Agents.glimpse`, `Agents.survey` — what is seen of one file, and of several
- `Did` — what was done between two sessions
- `countFile_glimpse`, `countFiles_survey`, `planAll_survey`, `planFirst_survey` — counts and scans
-/

namespace Codemod.Migration

variable {σ α : Type} {agents : Agents σ} {setup : Setup} {request : Request} {find file : String}
variable {files : List String} {planned : List Planned} {w w' : World σ} {s s₁ s' : Session σ}
variable {done more : List Event}

/-- The agents never ask a run to stop. -/
structure Agents.NeverStops (agents : Agents σ) : Prop where
  complete : ∀ w prompt, (agents.complete w prompt).cancels = false
  verify : ∀ w command directory, (agents.verify w command directory).cancels = false

/-! ### What is seen of files -/

/-- What is seen of a file. -/
structure Glimpse (σ : Type) where
  /-- The count; none when the file cannot be read. -/
  known : Option UInt64
  /-- The world after that. -/
  world : World σ
  /-- What was done for it. -/
  done : List Event

/-- Looks at a file: reads it, and asks the model when that succeeds. -/
def Agents.glimpse (agents : Agents σ) (setup : Setup) (find : String) (w : World σ)
    (file : String) : Glimpse σ :=
  let path := Path.join setup.workspace file
  match w.disk.readText path with
  | .error _ => ⟨none, w, [.read path]⟩
  | .ok content =>
    let prompt := Prompt.count content find file setup.context
    let reply := agents.complete w prompt
    ⟨some (Answer.counted reply.value), reply.world, [.read path, .asked prompt]⟩

theorem glimpse_of_error {cause : FileError}
    (h : w.disk.readText (Path.join setup.workspace file) = .error cause) :
    agents.glimpse setup find w file = ⟨none, w, [.read (Path.join setup.workspace file)]⟩ := by
  unfold Agents.glimpse
  dsimp only
  rw [h]

theorem glimpse_of_ok {content : String}
    (h : w.disk.readText (Path.join setup.workspace file) = .ok content) :
    agents.glimpse setup find w file =
      let prompt := Prompt.count content find file setup.context
      ⟨some (Answer.counted (agents.complete w prompt).value), (agents.complete w prompt).world,
        [.read (Path.join setup.workspace file), .asked prompt]⟩ := by
  unfold Agents.glimpse
  dsimp only
  rw [h]

/-- What is seen of files. -/
structure Survey (σ : Type) where
  planned : List Planned
  /-- The world after the last of them. -/
  world : World σ
  /-- What was done for them. -/
  done : List Event

/-- Looks at one file after the other. -/
def Agents.survey (agents : Agents σ) (setup : Setup) (find : String) :
    World σ → List String → Survey σ
  | w, [] => ⟨[], w, []⟩
  | w, file :: rest =>
    let first := agents.glimpse setup find w file
    let later := agents.survey setup find first.world rest
    ⟨(file, first.known) :: later.planned, later.world, first.done ++ later.done⟩

theorem survey_cons (w : World σ) (file : String) (rest : List String) :
    agents.survey setup find w (file :: rest) =
      ⟨(file, (agents.glimpse setup find w file).known) ::
          (agents.survey setup find (agents.glimpse setup find w file).world rest).planned,
        (agents.survey setup find (agents.glimpse setup find w file).world rest).world,
        (agents.glimpse setup find w file).done ++
          (agents.survey setup find (agents.glimpse setup find w file).world rest).done⟩ := rfl

/-- A survey does nothing but to read files and to ask for the counts in them. -/
inductive Event.Looks (setup : Setup) (find : String) (files : List String) : Event → Prop
  | read {file : String} :
    file ∈ files → Event.Looks setup find files (.read (Path.join setup.workspace file))
  | asked {file content : String} :
    file ∈ files →
    Event.Looks setup find files (.asked (Prompt.count content find file setup.context))

theorem survey_looks (w : World σ) (files : List String) :
    ∀ e ∈ (agents.survey setup find w files).done, e.Looks setup find files := by
  have hmono : ∀ {e : Event} {files more : List String}, files ⊆ more →
      e.Looks setup find files → e.Looks setup find more := by
    intro e files more hsub h
    cases h with
    | read hmem => exact .read (hsub hmem)
    | asked hmem => exact .asked (hsub hmem)
  induction files generalizing w with
  | nil => exact nofun
  | cons file rest ih =>
    intro e he
    obtain he | he := List.mem_append.mp he
    · cases hread : w.disk.readText (Path.join setup.workspace file) with
      | error cause =>
        rw [glimpse_of_error hread] at he
        obtain rfl := List.mem_singleton.mp he
        exact .read List.mem_cons_self
      | ok content =>
        rw [glimpse_of_ok hread] at he
        obtain rfl | he := List.mem_cons.mp he
        · exact .read List.mem_cons_self
        · obtain rfl := List.mem_singleton.mp he
          exact .asked List.mem_cons_self
    · exact hmono (List.subset_cons_self file rest) (ih _ e he)

/-! ### What is done between sessions -/

/-- What was done from one session to a later one, and the world that it left behind. The flag and
the history are as they were. -/
structure Did (s s' : Session σ) (w : World σ) (done : List Event) : Prop where
  world_eq : s'.world = w
  cancelled_eq : s'.cancelled = s.cancelled
  history_eq : s'.history = s.history
  trace_eq : ∃ events, s'.trace = s.trace ++ events ∧ effects events = done

namespace Did

theorem refl (s : Session σ) : Did s s s.world [] where
  world_eq := rfl
  cancelled_eq := rfl
  history_eq := rfl
  trace_eq := ⟨[], by simp, rfl⟩

theorem noted (lines : List String) : Did s (s.noted lines) s.world [] where
  world_eq := rfl
  cancelled_eq := rfl
  history_eq := rfl
  trace_eq := ⟨lines.map .log, rfl, effects_logs lines⟩

theorem trans (h₁ : Did s s₁ w done) (h₂ : Did s₁ s' w' more) : Did s s' w' (done ++ more) where
  world_eq := h₂.world_eq
  cancelled_eq := h₂.cancelled_eq.trans h₁.cancelled_eq
  history_eq := h₂.history_eq.trans h₁.history_eq
  trace_eq := by
    obtain ⟨events, htrace, rfl⟩ := h₁.trace_eq
    obtain ⟨later, htrace', rfl⟩ := h₂.trace_eq
    exact ⟨events ++ later, by rw [htrace', htrace, List.append_assoc], effects_append events later⟩

/-- Log lines do not matter. -/
theorem noted_after (h : Did s s' w done) (lines : List String) :
    Did s (s'.noted lines) w done := by
  have hall := h.trans (.noted lines)
  rwa [h.world_eq, List.append_nil] at hall

theorem noted_before {lines : List String} (h : Did (s.noted lines) s' w done) : Did s s' w done :=
  Did.trans (.noted lines) h

end Did

/-- What was done between two sessions. -/
def doneBetween (s s' : Session σ) : List Event := effects (s'.trace.drop s.trace.length)

theorem doneBetween_of_trace {events : List Event} (h : s'.trace = s.trace ++ events) :
    doneBetween s s' = effects events := by
  rw [doneBetween, h, List.drop_left]

theorem doneBetween_trans (h₁ : s.trace <+: s₁.trace) (h₂ : s₁.trace <+: s'.trace) :
    doneBetween s s' = doneBetween s s₁ ++ doneBetween s₁ s' := by
  obtain ⟨events, h₁⟩ := h₁
  obtain ⟨more, h₂⟩ := h₂
  rw [doneBetween_of_trace h₁.symm, doneBetween_of_trace h₂.symm, ← effects_append]
  rw [← h₁, List.append_assoc] at h₂
  exact doneBetween_of_trace h₂.symm

theorem Aside.trace_prefix (h : Aside s s') : s.trace <+: s'.trace := by
  obtain ⟨lines, points, rfl⟩ := h
  exact List.prefix_append _ _

/-- Nothing is done between legs. -/
theorem Aside.doneBetween_eq (h : Aside s s') : doneBetween s s' = [] := by
  obtain ⟨lines, points, rfl⟩ := h
  exact (doneBetween_of_trace rfl).trans (effects_logs lines)

theorem Did.trace_prefix (h : Did s s' w done) : s.trace <+: s'.trace := by
  obtain ⟨events, htrace, -⟩ := h.trace_eq
  exact ⟨events, htrace.symm⟩

theorem Did.doneBetween_eq (h : Did s s' w done) : doneBetween s s' = done := by
  obtain ⟨events, htrace, rfl⟩ := h.trace_eq
  exact doneBetween_of_trace htrace

/-! ### Counting in one file -/

theorem countFile_glimpse (hnever : agents.NeverStops) (setup : Setup) (find file : String)
    (s : Session σ) :
    ∃ s',
      countFile agents setup find file s = .ok (agents.glimpse setup find s.world file).known s' ∧
      Did s s' (agents.glimpse setup find s.world file).world
        (agents.glimpse setup find s.world file).done := by
  unfold countFile
  rw [bind_of_ok (readFile_run ..)]
  have hlooked : Did s (s.looked (Path.join setup.workspace file)) s.world
      [.read (Path.join setup.workspace file)] := ⟨rfl, rfl, rfl, [_], rfl, rfl⟩
  cases hread : s.world.disk.readText (Path.join setup.workspace file) with
  | error cause =>
    rw [glimpse_of_error hread]
    exact ⟨_, rfl, hlooked.noted_after [_]⟩
  | ok content =>
    obtain ⟨lines, hcount⟩ := countOccurrences_run agents content find file setup.context
      (s.looked (Path.join setup.workspace file))
    have hasked : Did (s.looked (Path.join setup.workspace file))
        ((s.looked (Path.join setup.workspace file)).asked agents
          (Prompt.count content find file setup.context))
        (agents.complete s.world (Prompt.count content find file setup.context)).world
        [.asked (Prompt.count content find file setup.context)] := by
      refine ⟨rfl, ?_, rfl, [_], rfl, rfl⟩
      -- the flag is what it was, since the model does not ask to stop
      show (_ || _) = _
      rw [hnever.complete, Bool.or_false]
      rfl
    rw [glimpse_of_ok hread]
    dsimp only
    rw [bind_of_ok hcount]
    exact ⟨_, rfl, (hlooked.trans hasked).noted_after lines⟩

/-! ### Counting for a report -/

/-- The file has occurrences. -/
def Planned.counts (p : Planned) : Bool := p.2.getD 0 ≠ 0

/-- A report that takes in what was seen of files. -/
structure TakesIn (report : CountReport) (planned : List Planned) (report' : CountReport) :
    Prop where
  scanned : report'.filesScanned = report.filesScanned + planned.countP fun p => p.2.isSome
  withPatterns :
    report'.filesWithPatterns = report.filesWithPatterns + planned.countP Planned.counts
  total : report'.total.toNat = report.total.toNat + plannedTotal planned
  cancelled : report'.cancelled = report.cancelled

/-- A sum of counts that fits is found. -/
theorem addCounts_of_fits {a b : UInt64} (h : a.toNat + b.toNat < 2 ^ 64) :
    ∃ c, addCounts a b = .ok c ∧ c.toNat = a.toNat + b.toNat := by
  cases hsum : addCounts a b with
  | error e => exact absurd h (Nat.not_lt.mpr (addCounts_eq_error hsum))
  | ok c => exact ⟨c, rfl, addCounts_eq_ok hsum⟩

theorem plannedTotal_cons (p : Planned) (planned : List Planned) :
    plannedTotal (p :: planned) = (p.2.getD 0).toNat + plannedTotal planned := by
  rw [plannedTotal, List.map_cons, List.sum_cons, plannedTotal]

namespace TakesIn

variable {report report₁ report' : CountReport} {n total : UInt64}

theorem cons {p : Planned} (h₁ : TakesIn report [p] report₁)
    (h₂ : TakesIn report₁ planned report') : TakesIn report (p :: planned) report' where
  scanned := by
    rw [h₂.scanned, h₁.scanned, List.countP_cons (l := planned), List.countP_singleton]
    omega
  withPatterns := by
    rw [h₂.withPatterns, h₁.withPatterns, List.countP_cons (l := planned), List.countP_singleton]
    omega
  total := by
    rw [h₂.total, h₁.total, plannedTotal_cons, plannedTotal_cons]
    exact Nat.add_assoc _ _ _
  cancelled := h₂.cancelled.trans h₁.cancelled

theorem unreadable : TakesIn report [(file, none)] report :=
  ⟨rfl, rfl, rfl, rfl⟩

theorem empty : TakesIn report [(file, some 0)]
    { report with filesScanned := report.filesScanned + 1 } :=
  ⟨rfl, rfl, rfl, rfl⟩

theorem counted (hne : n ≠ 0) (htotal : total.toNat = report.total.toNat + n.toNat) :
    TakesIn report [(file, some n)] { report with
      filesScanned := report.filesScanned + 1
      filesWithPatterns := report.filesWithPatterns + 1
      total } where
  scanned := rfl
  withPatterns := by
    rw [List.countP_singleton, if_pos]
    simpa [Planned.counts] using hne
  total := htotal
  cancelled := rfl

end TakesIn

/-- A count that nobody stops sees and does what a survey does, and takes it all in. -/
theorem countFiles_survey (hnever : agents.NeverStops) (setup : Setup) (find : String)
    (report : CountReport) (files : List String) (s : Session σ) (hclear : s.cancelled = false)
    (hsum : report.total.toNat + plannedTotal (agents.survey setup find s.world files).planned <
      2 ^ 64) :
    ∃ report' s', countFiles agents setup find report files s = .ok report' s' ∧
      TakesIn report (agents.survey setup find s.world files).planned report' ∧
      Did s s' (agents.survey setup find s.world files).world
        (agents.survey setup find s.world files).done := by
  induction files generalizing report s with
  | nil => exact ⟨report, s, rfl, ⟨rfl, rfl, rfl, rfl⟩, .refl s⟩
  | cons file rest ih =>
    obtain ⟨s₁, hcount, hdid⟩ := countFile_glimpse hnever setup find file s
    unfold countFiles
    rw [isCancelled_bind, hclear, if_neg Bool.false_ne_true, bind_of_ok hcount]
    rw [survey_cons, ← hdid.world_eq] at hsum ⊢
    generalize (agents.glimpse setup find s.world file).known = known at hsum ⊢
    dsimp only at hsum ⊢
    rw [plannedTotal_cons] at hsum
    have hclear₁ := hdid.cancelled_eq.trans hclear
    cases known with
    | none =>
      obtain ⟨report', s', hrun, htaken, hrest⟩ := ih report s₁ hclear₁ (by simpa using hsum)
      exact ⟨report', s', hrun, .cons .unreadable htaken, hdid.trans hrest⟩
    | some n =>
      by_cases hzero : n = 0
      · subst hzero
        obtain ⟨report', s', hrun, htaken, hrest⟩ :=
          ih { report with filesScanned := report.filesScanned + 1 } s₁ hclear₁
            (by simpa using hsum)
        exact ⟨report', s', hrun, .cons .empty htaken, hdid.trans hrest⟩
      · rw [Option.getD_some] at hsum
        obtain ⟨total, hadd, htotal⟩ := addCounts_of_fits (a := report.total) (b := n) (by omega)
        have hnoted := hdid.noted_after [foundLine n file]
        obtain ⟨report', s', hrun, htaken, hrest⟩ := ih { report with
          filesScanned := report.filesScanned + 1
          filesWithPatterns := report.filesWithPatterns + 1
          total } (s₁.noted [foundLine n file]) hclear₁ (by
            show total.toNat + _ < _
            rw [htotal, Nat.add_assoc]
            exact hsum)
        refine ⟨report', s', ?_, .cons (.counted hzero htotal) htaken, ?_⟩
        · dsimp only
          rw [if_neg hzero, log_bind, bind_of_ok (checked_of_ok hadd)]
          exact hrun
        · exact hnoted.trans hrest

/-! ### Scanning for a plan -/

/-- A scan that nobody stops sees and does what a survey does, and finds the sum of the counts. -/
theorem scanAll_survey (hnever : agents.NeverStops) (setup : Setup) (find : String)
    (planned : List Planned) (total : UInt64) (files : List String) (s : Session σ)
    (hclear : s.cancelled = false)
    (hsum : total.toNat + plannedTotal (agents.survey setup find s.world files).planned < 2 ^ 64) :
    ∃ total' s', scanAll agents setup find planned total files s =
        .ok (some (planned ++ (agents.survey setup find s.world files).planned, total')) s' ∧
      total'.toNat = total.toNat + plannedTotal (agents.survey setup find s.world files).planned ∧
      Did s s' (agents.survey setup find s.world files).world
        (agents.survey setup find s.world files).done := by
  induction files generalizing planned total s with
  | nil => exact ⟨total, s, by rw [Agents.survey, List.append_nil]; rfl, rfl, .refl s⟩
  | cons file rest ih =>
    obtain ⟨s₁, hcount, hdid⟩ := countFile_glimpse hnever setup find file s
    unfold scanAll
    rw [isCancelled_bind, hclear, if_neg Bool.false_ne_true, bind_of_ok hcount]
    rw [survey_cons, ← hdid.world_eq] at hsum ⊢
    generalize (agents.glimpse setup find s.world file).known = known at hsum ⊢
    dsimp only at hsum ⊢
    rw [plannedTotal_cons] at hsum ⊢
    dsimp only at hsum ⊢
    have hclear₁ := hdid.cancelled_eq.trans hclear
    by_cases hzero : known.getD 0 = 0
    · obtain ⟨total', s', hrun, htotal, hrest⟩ := ih (planned ++ [(file, known)]) total s₁ hclear₁
        (by simpa [hzero] using hsum)
      rw [List.append_assoc, List.singleton_append] at hrun
      refine ⟨total', s', ?_, ?_, hdid.trans hrest⟩
      · rw [if_pos hzero]
        exact hrun
      · rw [htotal, hzero]
        simp
    · obtain ⟨sum, hadd, hsum'⟩ := addCounts_of_fits (a := total) (b := known.getD 0) (by omega)
      have hnoted := hdid.noted_after [foundLine (known.getD 0) file]
      obtain ⟨total', s', hrun, htotal, hrest⟩ := ih (planned ++ [(file, known)]) sum
        (s₁.noted [foundLine (known.getD 0) file]) hclear₁ (by
          rw [hsum', Nat.add_assoc]
          exact hsum)
      rw [List.append_assoc, List.singleton_append] at hrun
      refine ⟨total', s', ?_, ?_, hnoted.trans hrest⟩
      · rw [if_neg hzero, log_bind, bind_of_ok (checked_of_ok hadd)]
        exact hrun
      · rw [htotal, hsum', Nat.add_assoc]
        rfl

/-- A plan for all files records the sum of the counts before it is made. -/
theorem planAll_survey (hnever : agents.NeverStops) (setup : Setup) (find : String)
    (files : List String) (s : Session σ) (hclear : s.cancelled = false)
    (hsum : plannedTotal (agents.survey setup find s.world files).planned < 2 ^ 64) :
    ∃ total s₁, total.toNat = plannedTotal (agents.survey setup find s.world files).planned ∧
      Did s s₁ (agents.survey setup find s.world files).world
        (agents.survey setup find s.world files).done ∧
      ∃ lines, planAll agents setup find files s =
        .ok (if total = 0 then .nothing
          else .files (agents.survey setup find s.world files).planned)
          ((s₁.opened agents total).noted lines) := by
  obtain ⟨total, s₁, hscan, htotal, hdid⟩ := scanAll_survey hnever setup find [] 0 files
    (s.noted ["Scanning files for initial pattern count..."]) hclear (by simpa using hsum)
  rw [show (0 : UInt64).toNat = 0 from rfl, Nat.zero_add] at htotal
  unfold planAll
  rw [log_bind, bind_of_ok hscan]
  dsimp only
  rw [recordInitial_bind]
  refine ⟨total, s₁, htotal, hdid.noted_before, ?_⟩
  by_cases hzero : total = 0
  · rw [if_pos hzero, if_pos hzero]
    exact ⟨[_], rfl⟩
  · rw [if_neg hzero, if_neg hzero, log_bind, log_bind, Session.noted_noted]
    exact ⟨_, rfl⟩

/-! ### Looking for the first file with occurrences -/

/-- How a search over files goes: to the first that has occurrences, or to the end. -/
inductive Sought (agents : Agents σ) (setup : Setup) (find : String) (w : World σ)
    (files : List String) : Option (String × UInt64) → List String → Prop
  | found {before after : List String} {file : String} {n : UInt64} :
    files = before ++ file :: after →
    (∀ p ∈ (agents.survey setup find w before).planned, p.counts = false) →
    (agents.survey setup find w (before ++ [file])).planned =
      (agents.survey setup find w before).planned ++ [(file, some n)] →
    n ≠ 0 →
    Sought agents setup find w files (some (file, n)) (before ++ [file])
  | none :
    (∀ p ∈ (agents.survey setup find w files).planned, p.counts = false) →
    Sought agents setup find w files none files

/-- A file without occurrences is passed over. -/
theorem Sought.cons {result : Option (String × UInt64)} {seen : List String}
    (hzero : (agents.glimpse setup find w file).known.getD 0 = 0)
    (h : Sought agents setup find (agents.glimpse setup find w file).world files result seen) :
    Sought agents setup find w (file :: files) result (file :: seen) := by
  have hpassed : ∀ more, (∀ p ∈ (agents.survey setup find
      (agents.glimpse setup find w file).world more).planned, p.counts = false) →
      ∀ p ∈ (agents.survey setup find w (file :: more)).planned, p.counts = false := by
    intro more hmore p hp
    rw [survey_cons, List.mem_cons] at hp
    obtain rfl | hp := hp
    · simp [Planned.counts, hzero]
    · exact hmore p hp
  cases h with
  | @found before after first n hfiles hbefore hlast hne =>
    have hsplit : file :: files = (file :: before) ++ first :: after := by rw [hfiles]; rfl
    refine .found hsplit (hpassed _ hbefore) ?_ hne
    rw [List.cons_append, survey_cons, survey_cons, hlast]
    rfl
  | none hnone => exact .none (hpassed _ hnone)

/-- A search that nobody stops sees and does what a survey does of the files that it comes to. The
first file with occurrences is planned, and its count is recorded. -/
theorem planFirst_survey (hnever : agents.NeverStops) (setup : Setup) (find : String)
    (files : List String) (s : Session σ) (hclear : s.cancelled = false) :
    ∃ result seen s₁, Sought agents setup find s.world files result seen ∧
      Did s s₁ (agents.survey setup find s.world seen).world
        (agents.survey setup find s.world seen).done ∧
      planFirst agents setup find files s =
        match result with
        | some (file, n) => .ok (.files [(file, some n)]) (s₁.opened agents n)
        | none => .ok .nothing s₁ := by
  induction files generalizing s with
  | nil => exact ⟨none, [], _, .none nofun, .noted [_], rfl⟩
  | cons file rest ih =>
    obtain ⟨s₁, hcount, hdid⟩ := countFile_glimpse hnever setup find file s
    unfold planFirst
    rw [isCancelled_bind, hclear, if_neg Bool.false_ne_true, bind_of_ok hcount]
    by_cases hzero : (agents.glimpse setup find s.world file).known.getD 0 = 0
    · obtain ⟨result, seen, s₂, hsought, hrest, hrun⟩ := ih s₁ (hdid.cancelled_eq.trans hclear)
      rw [hdid.world_eq] at hsought hrest
      refine ⟨result, file :: seen, s₂, hsought.cons hzero, hdid.trans hrest, ?_⟩
      rw [if_pos hzero]
      exact hrun
    · -- this is the first file with occurrences
      have hknown : (agents.glimpse setup find s.world file).known =
          some ((agents.glimpse setup find s.world file).known.getD 0) := by
        cases hk : (agents.glimpse setup find s.world file).known with
        | none => exact absurd (by rw [hk]; rfl) hzero
        | some n => rfl
      rw [if_neg hzero, log_bind, log_bind, recordInitial_bind, Session.noted_noted]
      generalize hn : (agents.glimpse setup find s.world file).known.getD 0 = n at hknown hzero ⊢
      refine ⟨some (file, n), [file], _, .found (List.nil_append _).symm nofun ?_ hzero, ?_, rfl⟩
      · rw [List.nil_append, survey_cons, hknown]
        rfl
      · have hseen : agents.survey setup find s.world [file] =
            ⟨[(file, some n)], (agents.glimpse setup find s.world file).world,
              (agents.glimpse setup find s.world file).done⟩ := by
          rw [survey_cons, hknown]
          simp [Agents.survey]
        rw [hseen]
        exact hdid.noted_after _

/-! ### A workspace with all kinds of files -/

/-- A model that finds one occurrence in an old script and writes a new one, and a verifier that
accepts everything. -/
def obliging : Agents Unit where
  complete w prompt :=
    let old := ["a.js", "b.js", "c.js", "d.js"].any fun file =>
      prompt == Prompt.count "old" smallRequest.find file smallSetup.context
    { value := .ok (if old then "1" else "0"), world := w }
  verify w _ _ := { value := ⟨true, ""⟩, world := w }
  now _ := default

/-- A workspace with a script that is done, one that cannot be read and two that are old. -/
def mixedSession : Session Unit where
  world := {
    disk := [("a.js", "done".toUTF8), ("b.js", ⟨#[0xFF]⟩), ("c.js", "old".toUTF8),
        ("d.js", "old".toUTF8)].foldl
      (fun fs script => fs.plant ["w", script.1] (.file script.2)) default
    memory := () }

theorem obliging_neverStops : obliging.NeverStops where
  complete _ _ := rfl
  verify _ _ _ := rfl

theorem mixedSession_selects : smallSetup.Selects smallRequest mixedSession.world.disk
    [["a.js"], ["b.js"], ["c.js"], ["d.js"]] := by
  refine Setup.selects_of_toOption ?_
  rw [Walker.matching_of_sorted (by decide +kernel)]
  decide +kernel

end Codemod.Migration
