import Codemod.Proofs.Migration.Frame

/-!
# What is left after a run

A change is counted once, right after the model made it; repairs that replace it before it is kept
are not counted again. So the last total of a run is the sum of the counts of what is on disk, off
by what the repairs of done steps made of the counts.

- `textAt`, `leftIn` — the sum of the counts of what is on disk
- `Taken.drift` — what the repairs of a step made of the count
- `Taken.balance`, `Batch.balance` — the total moves with the files, off by the drift
- `run_remaining` — the last total of a run
-/

namespace Codemod.Migration

open FileSystem (ChangedOnly tooLong)

variable {σ : Type} {agents : Agents σ} {setup : Setup} {request : Request}
variable {root rel : Location} {locations : List Location} {planned : List Planned}
variable {steps : List (Taken σ)} {t : Taken σ} {report report' : RunReport} {base : String}
variable {s s₁ s₂ s' : Session σ} {fs fs' : FileSystem} {c : String → UInt64}
variable {content content' : String} {P : Location → Prop}

/-! ### Counts of what is on disk -/

/-- The text at a path; empty when it cannot be read. -/
def textAt (fs : FileSystem) (path : String) : String := (fs.readText path).toOption.getD ""

/-- The count of the file at a relative location. -/
def countAt (c : String → UInt64) (fs : FileSystem) (base : String) (rel : Location) : Nat :=
  (c (textAt fs (Path.join base (Location.text rel)))).toNat

/-- The sum of the counts of files. -/
def leftIn (c : String → UInt64) (fs : FileSystem) (base : String) (locations : List Location) :
    Nat :=
  (locations.map (countAt c fs base)).sum

/-- The file at a relative location can be read, and holds a text. -/
def Legible (fs : FileSystem) (base : String) (root rel : Location) (content : String) : Prop :=
  fs.HasFile root rel content.toUTF8 ∧ ¬tooLong base rel

namespace Legible

theorem textAt_eq (hfound : fs.find base = .ok (root, .directory))
    (h : Legible fs base root rel content) :
    textAt fs (Path.join base (Location.text rel)) = content := by
  rw [textAt, (h.1.readText_join_iff hfound).mpr ⟨h.2, rfl⟩]
  rfl

theorem countAt_eq (hfound : fs.find base = .ok (root, .directory))
    (h : Legible fs base root rel content) : countAt c fs base rel = (c content).toNat := by
  rw [countAt, h.textAt_eq hfound]

theorem of_read {bytes : ByteArray} (hfound : fs.find base = .ok (root, .directory))
    (hfile : fs.HasFile root rel bytes)
    (hread : fs.readText (Path.join base (Location.text rel)) = .ok content) :
    Legible fs base root rel content := by
  obtain ⟨hshort, rfl⟩ := (hfile.readText_join_iff hfound).mp hread
  exact ⟨hfile, hshort⟩

theorem of_changedOnly (hchanged : ChangedOnly base root P fs fs') (hrel : ¬P rel)
    (h : Legible fs base root rel content) : Legible fs' base root rel content := by
  obtain ⟨bytes, hfile, heq⟩ := hchanged.files h.1
  rw [heq hrel] at hfile
  exact ⟨hfile, h.2⟩

end Legible

/-- No two of the locations below a directory are names of one file. -/
def Apart (fs : FileSystem) (root : Location) (locations : List Location) : Prop :=
  ∀ a ∈ locations, ∀ b ∈ locations, fs.sharesFile (root ++ a) (root ++ b) = true → a = b

/-- The workspace is there, and its files can be read and are different ones. -/
structure InOrder (fs : FileSystem) (base : String) (root : Location)
    (locations : List Location) : Prop where
  found : fs.find base = .ok (root, .directory)
  legible : ∀ rel ∈ locations, ∃ content, Legible fs base root rel content
  apart : Apart fs root locations

theorem InOrder.of_changedOnly (h : InOrder fs base root locations)
    (hchanged : ChangedOnly base root P fs fs')
    (hlegible : ∀ rel ∈ locations, P rel → ∃ content, Legible fs' base root rel content) :
    InOrder fs' base root locations where
  found := hchanged.found
  legible rel hrel := by
    by_cases hP : P rel
    · exact hlegible rel hrel hP
    · obtain ⟨content, hbefore⟩ := h.legible rel hrel
      exact ⟨content, hbefore.of_changedOnly hchanged hP⟩
  apart a ha b hb hshares := h.apart a ha b hb ((hchanged.names a b).symm.trans hshares)

/-- A sum changes by what one of its terms changes. -/
theorem sum_map_change {α : Type} {f g : α → Nat} {a : α} {l : List α} (hnodup : l.Nodup)
    (ha : a ∈ l) (h : ∀ b ∈ l, b ≠ a → g b = f b) :
    (l.map g).sum + f a = (l.map f).sum + g a := by
  induction l with
  | nil => cases ha
  | cons b rest ih =>
    rw [List.nodup_cons] at hnodup
    simp only [List.map_cons, List.sum_cons]
    rw [List.mem_cons] at ha
    by_cases hab : a = b
    · subst hab
      have hrest : rest.map g = rest.map f := List.map_congr_left fun b hb =>
        h b (List.mem_cons_of_mem _ hb) (by rintro rfl; exact hnodup.1 hb)
      rw [hrest]
      omega
    · have hmem : a ∈ rest := ha.resolve_left hab
      have hsum := ih hnodup.2 hmem fun b hb => h b (List.mem_cons_of_mem _ hb)
      have hhead := h b List.mem_cons_self (Ne.symm hab)
      omega

/-- When one file changes, the sum changes by what its count changes. -/
theorem leftIn_changed (hnodup : locations.Nodup) (hrel : rel ∈ locations)
    (horder : InOrder fs base root locations)
    (hchanged : ChangedOnly base root (Names fs root rel) fs fs')
    (h : Legible fs base root rel content) (h' : Legible fs' base root rel content') :
    InOrder fs' base root locations ∧
      leftIn c fs' base locations + (c content).toNat =
        leftIn c fs base locations + (c content').toNat := by
  -- none of the other files is a name of this one
  have hself : ∀ other ∈ locations, Names fs root rel other → rel = other :=
    fun other hother hnames => horder.apart rel hrel other hother hnames
  refine ⟨horder.of_changedOnly hchanged fun other hother hnames => ?_, ?_⟩
  · exact ⟨content', hself other hother hnames ▸ h'⟩
  · rw [← h.countAt_eq horder.found, ← h'.countAt_eq hchanged.found]
    refine sum_map_change hnodup hrel fun other hother hne => ?_
    obtain ⟨text, hlegible⟩ := horder.legible other hother
    have hlater := hlegible.of_changedOnly hchanged fun hnames =>
      hne (hself other hother hnames).symm
    rw [hlegible.countAt_eq horder.found, hlater.countAt_eq hchanged.found]

/-- When nothing changes, the sum does not either. -/
theorem leftIn_unchanged (horder : InOrder fs base root locations)
    (hchanged : ChangedOnly base root (fun _ => False) fs fs') :
    InOrder fs' base root locations ∧
      leftIn c fs' base locations = leftIn c fs base locations := by
  refine ⟨horder.of_changedOnly hchanged nofun, ?_⟩
  refine congrArg List.sum (List.map_congr_left fun other hother => ?_)
  obtain ⟨text, hlegible⟩ := horder.legible other hother
  rw [hlegible.countAt_eq horder.found,
    (hlegible.of_changedOnly hchanged id).countAt_eq hchanged.found]

/-! ### One step -/

/-- What the repairs of a done step made of the count: the count of the change that was made first,
less the count of what was kept. -/
def Taken.drift (c : String → UInt64) (t : Taken σ) : Int :=
  match t.outcome.state, (writesBetween t.before t.after).head?,
    (writesBetween t.before t.after).getLast? with
  | .done, some first, some last => (c first.text).toNat - (c last.text).toNat
  | _, _, _ => 0

/-- The parsed answer to a question for the count of one of the files is a function of the
content. -/
def Agents.CountsBy (agents : Agents σ) (setup : Setup) (request : Request)
    (locations : List Location) (c : String → UInt64) : Prop :=
  ∀ rel ∈ locations, ∀ w content, Answer.counted (agents.complete w
    (Prompt.count content request.find (Location.text rel) setup.context)).value = c content

theorem Taken.drift_of_not_done (h : t.outcome.state ≠ .done) : t.drift c = 0 := by
  unfold drift
  split
  · next hstate _ _ => exact absurd hstate h
  · rfl

/-- What a step counts: the count before is the one that is known, and the count after is what the
model says of the transformed content. -/
theorem Rewriting.counts {job : Job} {file transformed : String} {n before after : UInt64}
    (h : Rewriting agents job file (some n) s content before transformed after s₁) :
    before = n ∧ ∃ w, after = Answer.counted (agents.complete w
      (Prompt.count transformed job.request.find file job.context)).value := by
  cases h with
  | intro _ hcounted _ _ _ hafter =>
    cases hcounted with
    | known => exact ⟨rfl, _, hafter⟩

/-- A done step: the count of its file, what it fixed, and what it leaves. -/
theorem Taken.done_counts (hspares : agents.SparesNames setup.workspace)
    (hcounts : agents.CountsBy setup request locations c)
    (hran : t.Ran agents (setup.job request)) (hdone : t.outcome.state = .done)
    (hname : t.file = Location.text rel) (hrel : rel ∈ locations)
    (hfound : t.before.world.disk.find setup.workspace = .ok (root, .directory))
    (hlegible : Legible t.before.world.disk setup.workspace root rel content)
    (hknown : t.known = some (c content))
    (hsucceeded : ∀ w ∈ writesBetween t.before t.after, w.succeeded = true) :
    ∃ transformed kept,
      t.outcome.fixed = Int64.ofInt ((c content).toNat - (c transformed).toNat) ∧
      t.drift c = (c transformed).toNat - (c kept).toNat ∧
      Legible t.after.world.disk setup.workspace root rel kept := by
  obtain ⟨content', transformed, before, after, s₁, events, more, hrewriting, hsub, htrail, honly,
    hwrites⟩ := StepRun.done_trail hran hdone
  rw [hknown] at hrewriting
  rw [hname] at hrewriting honly
  obtain ⟨rfl, w, hafter⟩ := hrewriting.counts
  have htransformed : after = c transformed := by
    rw [hafter]
    exact hcounts rel hrel w transformed
  have hbetween := htrail.writesBetween_eq
  rw [hwrites] at hbetween
  obtain ⟨last, hlast⟩ : ∃ last, (writesBetween t.before t.after).getLast? = some last := by
    rw [hbetween]
    exact ⟨_, List.getLast?_eq_some_getLast (List.cons_ne_nil _ _)⟩
  refine ⟨transformed, last.text, ?_, ?_, ?_⟩
  · rw [subTotals_eq_ok hsub, totalOfCount_eq, totalOfCount_eq, htransformed, Int64.ofInt_sub]
  · unfold drift
    rw [hdone, hlast, hbetween]
    rfl
  · rw [htrail.writesBetween_eq] at hlast hsucceeded
    have hfile := htrail.hasFile_lastWritten hspares honly hsucceeded hfound hlegible.1
    rw [lastWritten, hlast] at hfile
    exact ⟨hfile, hlegible.2⟩

/-- Over a step and its booking, the total moves with what is on disk, off by the drift. -/
theorem Taken.balance (hspares : agents.SparesNames setup.workspace)
    (hcounts : agents.CountsBy setup request locations c) (hnodup : locations.Nodup)
    (hran : t.Ran agents (setup.job request)) (hbooked : Booked agents t.outcome t.after s₂)
    (hname : t.file = Location.text rel) (hrel : rel ∈ locations)
    (horder : InOrder t.before.world.disk setup.workspace root locations)
    (hknown : t.known = some (c (textAt t.before.world.disk (Path.join setup.workspace t.file))))
    (hsucceeded : ∀ w ∈ writesBetween t.before t.after, w.succeeded = true) :
    InOrder s₂.world.disk setup.workspace root locations ∧
      s₂.history.currentTotal = t.before.history.currentTotal +
        Int64.ofInt ((leftIn c s₂.world.disk setup.workspace locations : Int) -
          leftIn c t.before.world.disk setup.workspace locations + t.drift c) := by
  obtain ⟨content, hlegible⟩ := horder.legible rel hrel
  have honly := Taken.changedOnly (setup.job request) hspares hran hname horder.found hlegible.1
  have hhistory := StepRun.history_eq hran
  rw [hbooked.world_eq]
  by_cases hdone : t.outcome.state = .done
  -- what is booked is the change that was made first, and what is on disk is what was kept
  · rw [hname, hlegible.textAt_eq horder.found] at hknown
    obtain ⟨transformed, kept, hfixed, hdrift, hkept⟩ := Taken.done_counts hspares hcounts hran
      hdone hname hrel horder.found hlegible hknown hsucceeded
    obtain ⟨hafter, hleft⟩ := leftIn_changed (c := c) hnodup hrel horder honly hlegible hkept
    refine ⟨hafter, ?_⟩
    cases hbooked with
    | passed hnot => exact absurd hdone hnot
    | fixed _ hfix =>
      rw [Session.noted_history, History.currentTotal_recordFix hfix, hhistory, hfixed, hdrift,
        Int64.sub_eq_add_neg, ← Int64.ofInt_neg]
      congr 2
      omega
  -- nothing is booked, and the file has been given back
  · have hlast : t.LastWriteSucceeded := fun w hw => hsucceeded w (List.mem_of_getLast? hw)
    have hkept := Taken.hasFile_of_not_done (setup.job request) hspares hran hname horder.found
      hlegible.1 hdone hlast
    obtain ⟨hafter, hleft⟩ := leftIn_changed (c := c) hnodup hrel horder honly hlegible
      ⟨hkept, hlegible.2⟩
    refine ⟨hafter, ?_⟩
    cases hbooked with
    | fixed hdone' => exact absurd hdone' hdone
    | passed =>
      rw [hhistory, Nat.add_right_cancel hleft, Taken.drift_of_not_done hdone, Int.sub_self,
        Int.add_zero]
      exact (Int64.add_zero _).symm

/-! ### A batch -/

/-- The counts of planned files are those of what they hold. -/
def Exact (c : String → UInt64) (fs : FileSystem) (base : String) (planned : List Planned) : Prop :=
  ∀ p ∈ planned, p.2 = some (c (textAt fs (Path.join base p.1)))

/-- Counts of files that did not change stay exact. -/
theorem Exact.of_changedOnly (hexact : Exact c fs base planned)
    (horder : InOrder fs base root locations) (hchanged : ChangedOnly base root P fs fs')
    (hother : ∀ p ∈ planned, ∃ rel ∈ locations, p.1 = Location.text rel ∧ ¬P rel) :
    Exact c fs' base planned := by
  intro p hp
  obtain ⟨rel, hrel, hname, hnot⟩ := hother p hp
  obtain ⟨content, hlegible⟩ := horder.legible rel hrel
  rw [hexact p hp, hname, hlegible.textAt_eq horder.found,
    (hlegible.of_changedOnly hchanged hnot).textAt_eq hchanged.found]

/-- Over a batch, the total moves with what is on disk, off by the drifts of its steps. -/
theorem Batch.balance (hspares : agents.SparesNames setup.workspace)
    (hcounts : agents.CountsBy setup request locations c) (hnodup : locations.Nodup)
    (h : Batch agents setup request planned report s steps report' s')
    (hplanned : (planned.map Prod.fst).Nodup)
    (hselected : ∀ p ∈ planned, ∃ rel ∈ locations, p.1 = Location.text rel)
    (horder : InOrder s.world.disk setup.workspace root locations)
    (hexact : Exact c s.world.disk setup.workspace planned)
    (hsucceeded : ∀ w ∈ writesOf steps, w.succeeded = true) :
    InOrder s'.world.disk setup.workspace root locations ∧
      s'.history.currentTotal = s.history.currentTotal +
        Int64.ofInt ((leftIn c s'.world.disk setup.workspace locations : Int) -
          leftIn c s.world.disk setup.workspace locations + (steps.map (Taken.drift c)).sum) := by
  -- over the steps; that the counts ahead are exact is what a step needs and hands on
  induction h with
  | finished | cancelled =>
    refine ⟨horder, ?_⟩
    simp only [Session.noted_world, Session.noted_history, Int.sub_self]
    exact (Int64.add_zero _).symm
  | @stopped p rest report report₁ o line line' s s₁ s₂ _ hran _ hbooked =>
    obtain ⟨rel, hrel, hname⟩ := hselected p List.mem_cons_self
    have hfirst := Taken.balance (t := ⟨p.1, p.2, s.noted [line], o, s₁⟩) hspares hcounts hnodup
      hran hbooked hname hrel horder (hexact p List.mem_cons_self) fun w hw =>
        hsucceeded w (mem_writesOf List.mem_cons_self hw)
    simpa using hfirst
  | @next p rest report report₁ report' o line steps s s₁ s₂ s' _ hran _ hbooked _ _ ih =>
    obtain ⟨rel, hrel, hname⟩ := hselected p List.mem_cons_self
    obtain ⟨content, hlegible⟩ := horder.legible rel hrel
    obtain ⟨horder₂, hfirst⟩ := Taken.balance (t := ⟨p.1, p.2, s.noted [line], o, s₁⟩) hspares
      hcounts hnodup hran hbooked hname hrel horder (hexact p List.mem_cons_self) fun w hw =>
        hsucceeded w (mem_writesOf List.mem_cons_self hw)
    have hchanged := Taken.changedOnly (setup.job request) (t := ⟨p.1, p.2, s.noted [line], o, s₁⟩)
      hspares hran hname horder.found hlegible.1
    -- the other planned files have not changed, so their counts are still exact
    rw [List.map_cons, List.nodup_cons, hname] at hplanned
    have hrest : ∀ q ∈ rest, ∃ rel ∈ locations, q.1 = Location.text rel := fun q hq =>
      hselected q (List.mem_cons_of_mem _ hq)
    have hexact₁ := Exact.of_changedOnly (fun q hq => hexact q (List.mem_cons_of_mem _ hq)) horder
      hchanged fun q hq => by
        obtain ⟨rel', hrel', hname'⟩ := hrest q hq
        refine ⟨rel', hrel', hname', fun hnames => ?_⟩
        obtain rfl := horder.apart rel hrel rel' hrel' hnames
        exact hplanned.1 (List.mem_map.mpr ⟨q, hq, hname'⟩)
    rw [← hbooked.world_eq] at hexact₁
    obtain ⟨horder', hlater⟩ := ih hplanned.2 hrest horder₂ hexact₁ fun w hw =>
      hsucceeded w (by
        rw [writesOf, List.flatMap_cons, List.mem_append]
        exact .inr hw)
    refine ⟨horder', ?_⟩
    rw [hlater, hfirst, Int64.add_assoc, ← Int64.ofInt_add, List.map_cons, List.sum_cons]
    congr 2
    simp only [Session.noted_world]
    omega

/-! ### A whole run -/

/-- The scan counts a file that can be read as what it holds. -/
theorem Sighted.exact (hspares : agents.SparesNames setup.workspace)
    (hcounts : agents.CountsBy setup request locations c) (hrel : rel ∈ locations)
    (hfound : s.world.disk.find setup.workspace = .ok (root, .directory))
    (hlegible : Legible s.world.disk setup.workspace root rel content) {known : Option UInt64}
    (h : Sighted agents setup request.find s (Location.text rel) known) :
    known = some (c content) := by
  have hread : ∀ s₁, Quiet agents s s₁ →
      s₁.world.disk.readText (Path.join setup.workspace (Location.text rel)) = .ok content := by
    intro s₁ hquiet
    have hsame := hquiet.changedOnly (P := fun _ => False) hspares hfound
    have hlater := hlegible.of_changedOnly hsame id
    exact (hlater.1.readText_join_iff hsame.found).mpr ⟨hlater.2, rfl⟩
  cases h with
  | unreadable hquiet hunread =>
    rw [hread _ hquiet] at hunread
    cases hunread
  | @counted s₁ content' hquiet hread' =>
    rw [hread _ hquiet] at hread'
    injection hread' with hcontent
    rw [← hcontent, hcounts rel hrel s₁.world content]

theorem Tally.exact (hspares : agents.SparesNames setup.workspace)
    (hcounts : agents.CountsBy setup request locations c)
    (horder : InOrder s.world.disk setup.workspace root locations)
    (h : Tally agents setup request.find s (locations.map Location.text) planned) :
    Exact c s.world.disk setup.workspace planned := by
  intro p hp
  have hfile : p.1 ∈ locations.map Location.text := by
    rw [← h.files_eq]
    exact List.mem_map.mpr ⟨p, hp, rfl⟩
  obtain ⟨rel, hrel, hname⟩ := List.mem_map.mp hfile
  obtain ⟨content, hlegible⟩ := horder.legible rel hrel
  have hsighted := h.sighted p hp
  rw [← hname] at hsighted
  rw [hsighted.exact hspares hcounts hrel horder.found hlegible, ← hname,
    hlegible.textAt_eq horder.found]

/-- The sum of exact counts is the sum of what is on disk. -/
theorem Exact.plannedTotal_eq (hexact : Exact c fs base planned)
    (hfiles : planned.map Prod.fst = locations.map Location.text) :
    plannedTotal planned = leftIn c fs base locations := by
  have hcounts : planned.map (fun p => (p.2.getD 0).toNat) =
      (planned.map Prod.fst).map fun file => (c (textAt fs (Path.join base file))).toNat := by
    rw [List.map_map]
    exact List.map_congr_left fun p hp => by rw [hexact p hp]; rfl
  rw [plannedTotal, hcounts, hfiles, List.map_map]
  rfl

/-- The total that a scan of all files records is the sum of what is on disk. -/
theorem Surveyed.opening (hspares : agents.SparesNames setup.workspace)
    (hcounts : agents.CountsBy setup request locations c)
    (haction : request.action = .migrateAllFiles)
    (horder : InOrder s.world.disk setup.workspace root locations) {plan : Plan}
    (h : Surveyed agents setup request (locations.map Location.text) s plan s')
    (hplan : plan ≠ .cancelled) :
    s'.history.currentTotal = Int64.ofInt (leftIn c s'.world.disk setup.workspace locations) ∧
      ∀ planned, plan = .files planned → Exact c s'.world.disk setup.workspace planned := by
  have hsame := h.changedOnly (P := fun _ => False) hspares horder.found
  rw [(leftIn_unchanged horder hsame).2]
  cases h with
  | cancelled => exact absurd rfl hplan
  | none hone | first hone =>
    rw [haction] at hone
    cases hone
  | empty _ htally htotal =>
    rw [(htally.exact hspares hcounts horder).plannedTotal_eq htally.files_eq] at htotal
    rw [htotal]
    exact ⟨History.currentTotal_recordInitial .., nofun⟩
  | @all planned total _ _ _ htally htotal =>
    have hexact := htally.exact hspares hcounts horder
    rw [hexact.plannedTotal_eq htally.files_eq] at htotal
    constructor
    · rw [← htotal, ← totalOfCount_eq]
      exact History.currentTotal_recordInitial ..
    · rintro planned' ⟨⟩
      refine hexact.of_changedOnly horder hsame fun p hp => ?_
      have hfile : p.1 ∈ locations.map Location.text := by
        rw [← htally.files_eq]
        exact List.mem_map.mpr ⟨p, hp, rfl⟩
      obtain ⟨rel, hrel, hname⟩ := List.mem_map.mp hfile
      exact ⟨rel, hrel, hname.symm, id⟩

/-- The last total of a migration of all files that was not cancelled. -/
theorem Course.balance (hnamed : s.world.disk.Named)
    (hspares : agents.SparesNames setup.workspace)
    (hcounts : agents.CountsBy setup request locations c)
    (haction : request.action = .migrateAllFiles)
    (hselects : setup.Selects request s.world.disk locations)
    (horder : InOrder s.world.disk setup.workspace root locations)
    (h : Course agents setup request s (.migrated report) steps s')
    (hgoes : report.cancelled = false)
    (hsucceeded : ∀ w ∈ writesOf steps, w.succeeded = true) :
    InOrder s'.world.disk setup.workspace root locations ∧
      report.remaining = s'.history.currentTotal ∧
      report.remaining = Int64.ofInt (leftIn c s'.world.disk setup.workspace locations +
        (steps.map (Taken.drift c)).sum) := by
  -- the files of the course are the files of the hypotheses
  have honly : ∀ locations', setup.Selects request s.world.disk locations' →
      locations' = locations := fun locations' h' => Except.ok.inj (h'.symm.trans hselects)
  have hcleared : ∀ {s₁}, Quiet agents s.cleared s₁ →
      InOrder s₁.world.disk setup.workspace root locations := fun hquiet =>
    (leftIn_unchanged (c := c) horder
      (hquiet.changedOnly (s := s.cleared) hspares horder.found)).1
  cases h with
  | unmatched _ hnone hquiet =>
    obtain rfl := honly _ hnone
    have hafter := hcleared hquiet
    obtain ⟨events, htrail, -⟩ := hquiet
    refine ⟨hafter, ?_, rfl⟩
    rw [htrail.history_eq]
    rfl
  | cancelled => cases hgoes
  | @idle locations' s₁ _ _ hselected _ hquiet hsurveyed =>
    obtain rfl := honly _ hselected
    have horder₁ := hcleared hquiet
    obtain ⟨hopened, -⟩ := hsurveyed.opening hspares hcounts haction horder₁ nofun
    obtain ⟨horder', -⟩ := leftIn_unchanged (c := c) horder₁
      (hsurveyed.changedOnly hspares horder₁.found)
    refine ⟨horder', rfl, ?_⟩
    dsimp only
    rw [hopened]
    exact congrArg Int64.ofInt (Int.add_zero _).symm
  | @batch locations' planned _ report line s₁ s₂ s₃ _ hselected _ hquiet hsurveyed hbatch =>
    obtain rfl := honly _ hselected
    have horder₁ := hcleared hquiet
    obtain ⟨horder₂, -⟩ := leftIn_unchanged (c := c) horder₁
      (hsurveyed.changedOnly hspares horder₁.found)
    -- the scan records what is on disk, and the batch moves the total with it
    obtain ⟨hopened, hexact⟩ := hsurveyed.opening hspares hcounts haction horder₁ nofun
    obtain ⟨hplanned, hfiles⟩ := hsurveyed.selected hnamed horder.found hselects
    have hother : ∀ p ∈ planned, ∃ rel ∈ locations', p.1 = Location.text rel := fun p hp => by
      obtain ⟨rel, hrel, -, hname, -⟩ := hfiles p hp
      exact ⟨rel, hrel, hname⟩
    obtain ⟨horder', htotal⟩ := hbatch.balance hspares hcounts
      (Walker.matching_nodup hnamed horder.found hselects) hplanned hother horder₂
      (hexact planned rfl) hsucceeded
    rw [Session.noted_world, Session.noted_history]
    refine ⟨horder', rfl, ?_⟩
    rw [htotal, hopened, ← Int64.ofInt_add]
    refine congrArg Int64.ofInt ?_
    omega

/-- When the agents leave the workspace alone, the model counts by the content, the selected files
can be read and no two of them are names of one file, and all writes succeed, a migration of all
files that is not cancelled reports, as what is left, the sum of the counts of what is on disk, off
by what the repairs of done steps made of the counts. -/
theorem run_remaining (hnamed : s.world.disk.Named) (hspares : agents.SparesNames setup.workspace)
    (hcounts : agents.CountsBy setup request locations c)
    (haction : request.action = .migrateAllFiles)
    (hselects : setup.Selects request s.world.disk locations)
    (hreadable : ∀ rel ∈ locations, ∃ content,
      s.world.disk.readText (Path.join setup.workspace (Location.text rel)) = .ok content)
    (hapart : ∀ root, s.world.disk.find setup.workspace = .ok (root, .directory) →
      Apart s.world.disk root locations)
    (hrun : run agents setup request s = .ok (.ok (.migrated report)) s')
    (hgoes : report.cancelled = false)
    (hsucceeded : ∀ w ∈ writesBetween s s', w.succeeded = true) :
    ∃ steps, Course agents setup request s (.migrated report) steps s' ∧
      (∀ rel ∈ locations, ∃ content,
        s'.world.disk.readText (Path.join setup.workspace (Location.text rel)) = .ok content) ∧
      report.remaining = s'.history.currentTotal ∧
      report.remaining = Int64.ofInt (leftIn c s'.world.disk setup.workspace locations +
        (steps.map (Taken.drift c)).sum) ∧
      (fitsTotal (leftIn c s'.world.disk setup.workspace locations +
          (steps.map (Taken.drift c)).sum) = true →
        report.remaining.toInt = leftIn c s'.world.disk setup.workspace locations +
          (steps.map (Taken.drift c)).sum) := by
  obtain ⟨⟨root, hfound⟩, steps, hcourse⟩ := run_course hrun
  have horder : InOrder s.world.disk setup.workspace root locations := by
    refine ⟨hfound, fun rel hrel => ?_, hapart root hfound⟩
    obtain ⟨bytes, hfile⟩ := Walker.matching_hasFile hnamed hfound hselects hrel
    obtain ⟨content, hread⟩ := hreadable rel hrel
    exact ⟨content, .of_read hfound hfile hread⟩
  rw [hcourse.writesBetween_eq] at hsucceeded
  obtain ⟨horder', htotal, hremaining⟩ := hcourse.balance hnamed hspares hcounts haction hselects
    horder hgoes hsucceeded
  refine ⟨steps, hcourse, fun rel hrel => ?_, htotal, hremaining, fun hfits => ?_⟩
  · obtain ⟨content, hfile, hshort⟩ := horder'.legible rel hrel
    exact ⟨content, (hfile.readText_join_iff horder'.found).mpr ⟨hshort, rfl⟩⟩
  · rw [hremaining]
    exact toInt_ofInt_of_fits hfits

/-! ### A repair that is not counted -/

/-- The occurrences that the drafting model counts. -/
def draftCount (content : String) : UInt64 := if content = "old" ∨ content = "draft" then 1 else 0

theorem drafting_countsBy : drafting.CountsBy smallSetup smallRequest [["a.js"]] draftCount := by
  intro rel hrel w content
  obtain rfl := List.mem_singleton.mp hrel
  have hcounts : ∀ other, (Prompt.count content smallRequest.find "a.js" smallSetup.context ==
      Prompt.count other smallRequest.find "a.js" smallSetup.context) =
        decide (content = other) := by
    intro other
    by_cases heq : content = other
    · simp [heq]
    · rw [decide_eq_false heq, beq_eq_false_iff_ne]
      exact fun h => heq (Prompt.count_injective h)
  show Answer.counted (drafting.complete w
    (Prompt.count content smallRequest.find "a.js" smallSetup.context)).value = _
  simp only [drafting, hcounts, draftCount, Bool.or_eq_true, decide_eq_true_eq]
  by_cases hone : content = "old" ∨ content = "draft"
  · rw [if_pos hone, if_pos hone]
    decide +kernel
  · rw [if_neg hone, if_neg hone]
    split <;> decide +kernel

theorem smallSetup_selects :
    smallSetup.Selects smallRequest scriptSession.world.disk [["a.js"]] :=
  Setup.selects_of_toOption (by decide +kernel)

theorem scriptSession_readable : ∀ rel ∈ ([["a.js"]] : List Location), ∃ content,
    scriptSession.world.disk.readText (Path.join smallSetup.workspace (Location.text rel)) =
      .ok content := by
  intro rel hrel
  obtain rfl := List.mem_singleton.mp hrel
  exact ⟨"old", rfl⟩

theorem drafting_remaining : ∃ report s',
    run drafting smallSetup smallRequest scriptSession = .ok (.ok (.migrated report)) s' ∧
      report.cancelled = false ∧ (∀ w ∈ writesBetween scriptSession s', w.succeeded = true) ∧
      report.remaining = 1 ∧
      leftIn draftCount s'.world.disk smallSetup.workspace [["a.js"]] = 0 := by
  have h : endsIn (reported fun report s' => decide (report.cancelled = false ∧
      (∀ w ∈ writesBetween scriptSession s', w.succeeded = true) ∧ report.remaining = 1 ∧
      leftIn draftCount s'.world.disk smallSetup.workspace [["a.js"]] = 0))
      (run drafting smallSetup smallRequest scriptSession) = true := by
    decide +kernel
  obtain ⟨report, s', hrun, hchecked⟩ := exists_of_reported h
  exact ⟨report, s', hrun, of_decide_eq_true hchecked⟩

/-- The last total is not always the sum of what is on disk. -/
theorem not_remaining_eq_leftIn :
    ¬∀ (σ : Type) (agents : Agents σ) (setup : Setup) (request : Request) (c : String → UInt64)
      (locations : List Location) (report : RunReport) (s s' : Session σ),
      s.world.disk.Named → agents.Spares setup.workspace →
      agents.CountsBy setup request locations c →
      request.action = .migrateAllFiles → request.stopPolicy = .whenComplete →
      setup.Selects request s.world.disk locations → locations ≠ [] →
      (∀ rel ∈ locations, ∃ content,
        s.world.disk.readText (Path.join setup.workspace (Location.text rel)) = .ok content) →
      run agents setup request s = .ok (.ok (.migrated report)) s' → report.cancelled = false →
      (∀ w ∈ writesBetween s s', w.succeeded = true) →
      report.remaining.toInt = leftIn c s'.world.disk setup.workspace locations := by
  intro h
  obtain ⟨report, s', hrun, hgoes, hsucceeded, hremaining, hleft⟩ := drafting_remaining
  have heq := h _ drafting smallSetup smallRequest draftCount [["a.js"]] report scriptSession s'
    scriptSession_named (drafting_spares _) drafting_countsBy rfl rfl smallSetup_selects
    (List.cons_ne_nil _ _) scriptSession_readable hrun hgoes hsucceeded
  rw [hremaining, hleft] at heq
  exact absurd heq (by decide)

theorem scriptSession_apart (root : Location)
    (_ : scriptSession.world.disk.find smallSetup.workspace = .ok (root, .directory)) :
    Apart scriptSession.world.disk root [["a.js"]] := by
  intro a ha b hb _
  rw [List.mem_singleton] at ha hb
  rw [ha, hb]

/-- The theorem on what is left applies to this run, whose draft was counted before its repair. -/
theorem run_remaining_drafting : ∃ report s' steps,
    run drafting smallSetup smallRequest scriptSession = .ok (.ok (.migrated report)) s' ∧
      Course drafting smallSetup smallRequest scriptSession (.migrated report) steps s' ∧
      report.remaining = 1 ∧
      report.remaining = Int64.ofInt
        (leftIn draftCount s'.world.disk smallSetup.workspace [["a.js"]] +
          (steps.map (Taken.drift draftCount)).sum) := by
  obtain ⟨report, s', hrun, hgoes, hsucceeded, hremaining, -⟩ := drafting_remaining
  obtain ⟨steps, hcourse, -, -, hbalance, -⟩ := run_remaining scriptSession_named
    (drafting_sparesNames _) drafting_countsBy rfl smallSetup_selects scriptSession_readable
    scriptSession_apart hrun hgoes hsucceeded
  exact ⟨report, s', steps, hrun, hcourse, hremaining, hbalance⟩

end Codemod.Migration
