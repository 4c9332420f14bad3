import Codemod.FileSystem.Record
import Codemod.Proofs.Migration.Sparing
import Codemod.Proofs.Migration.Verification
import Codemod.Proofs.Migration.Written
import Codemod.Proofs.Walk

/-!
# A run changes only the files that it reports

The files that a batch leaves changed are those of its done steps, provided that every step that
gave its file back could do so; the history names each of them. Together with the scan, which writes
nothing, this bounds what a whole run changes. A file that has further names changes under these,
too, whether or not the run has selected them.

- `Batch.steps_prefix`, `Batch.ran` — the steps of a batch
- `Batch.changedOnly`, `Batch.unread_before` — the files over a batch
- `Batch.named` — the history over a batch
- `run_changes_only_done` — the files over a run
-/

namespace Codemod.Migration

open FileSystem (ChangedOnly tooLong)

variable {σ : Type} {agents : Agents σ} {setup : Setup} {request : Request}
variable {root rel : Location} {planned : List Planned} {steps : List (Taken σ)} {t : Taken σ}
variable {report report' : RunReport} {s s₁ s' : Session σ} {o : Outcome} {bytes : ByteArray}

/-! ### The steps of a batch -/

/-- The steps are those of the first planned files. -/
theorem Batch.steps_prefix (h : Batch agents setup request planned report s steps report' s') :
    steps.map (fun t => (t.file, t.known)) <+: planned := by
  induction h with
  | finished => exact List.nil_prefix
  | cancelled => exact List.nil_prefix
  | stopped => exact List.prefix_append [_] _
  | next _ _ _ _ _ _ ih => exact List.cons_prefix_cons.mpr ⟨rfl, ih⟩

theorem Batch.ran (h : Batch agents setup request planned report s steps report' s') :
    ∀ t ∈ steps, t.Ran agents (setup.job request) := by
  induction h with
  | finished | cancelled => exact nofun
  | stopped _ hran =>
    intro t ht
    rw [List.mem_singleton] at ht
    rw [ht]
    exact hran
  | next _ hran _ _ _ _ ih =>
    intro t ht
    rw [List.mem_cons] at ht
    obtain rfl | ht := ht
    · exact hran
    · exact ih t ht

theorem Booked.world_eq (h : Booked agents o s s') : s'.world = s.world := by
  cases h <;> rfl

/-! ### The files over a batch -/

/-- The planned files are there. -/
def Present (fs : FileSystem) (root : Location) (planned : List Planned) : Prop :=
  ∀ p ∈ planned, ∃ rel bytes, p.1 = Location.text rel ∧ fs.HasFile root rel bytes

theorem Present.of_changedOnly {fs fs' : FileSystem} {base : String} {P : Location → Prop}
    (h : Present fs root planned) (hchanged : ChangedOnly base root P fs fs') :
    Present fs' root planned := by
  intro p hp
  obtain ⟨rel, bytes, hname, hfile⟩ := h p hp
  obtain ⟨bytes', hfile', -⟩ := hchanged.files hfile
  exact ⟨rel, bytes', hname, hfile'⟩

/-- A step of the file at a relative location is done, whichever of its names the step went by. -/
def DoneIn (fs : FileSystem) (root : Location) (steps : List (Taken σ)) (loc : Location) : Prop :=
  ∃ rel, (∀ name ∈ rel, IsName name) ∧ Names fs root rel loc ∧
    ∃ t ∈ steps, t.file = Location.text rel ∧ t.outcome.state = .done

/-- One step changes its file when it is done, and nothing otherwise. -/
theorem Taken.changedOnly_done (hspares : agents.SparesNames setup.workspace)
    (hran : t.Ran agents (setup.job request)) (hname : t.file = Location.text rel)
    (hfound : t.before.world.disk.find setup.workspace = .ok (root, .directory))
    (hcoherent : t.before.world.disk.Coherent root)
    (hfile : t.before.world.disk.HasFile root rel bytes)
    (hlast : t.outcome.state ≠ .done → t.LastWriteSucceeded) (ht : t ∈ steps) :
    ChangedOnly setup.workspace root (DoneIn t.before.world.disk root steps) t.before.world.disk
      t.after.world.disk := by
  by_cases hdone : t.outcome.state = .done
  · refine (Taken.changedOnly (setup.job request) hspares hran hname hfound hfile).mono ?_
    exact fun loc hloc => ⟨rel, hfile.names, hloc, t, ht, hname, hdone⟩
  · exact Taken.changedOnly_of_not_done (setup.job request) hspares hran hname hfound hcoherent
      hfile hdone (hlast hdone)

/-- A batch changes the files of its done steps only. -/
theorem Batch.changedOnly (hspares : agents.SparesNames setup.workspace)
    (h : Batch agents setup request planned report s steps report' s')
    (hfound : s.world.disk.find setup.workspace = .ok (root, .directory))
    (hcoherent : s.world.disk.Coherent root) (hpresent : Present s.world.disk root planned)
    (hlast : ∀ t ∈ steps, t.outcome.state ≠ .done → t.LastWriteSucceeded) :
    ChangedOnly setup.workspace root (DoneIn s.world.disk root steps) s.world.disk
      s'.world.disk := by
  -- every step keeps the planned files in place, so the next one finds its file there
  induction h with
  | finished => exact .refl hfound
  | cancelled => exact .refl hfound
  | @stopped p rest report report₁ o line line' s s₁ s₂ _ hran _ hbooked =>
    obtain ⟨rel, bytes, hname, hfile⟩ := hpresent p List.mem_cons_self
    have hmem := List.mem_singleton_self (⟨p.1, p.2, s.noted [line], o, s₁⟩ : Taken σ)
    rw [Session.noted_world, hbooked.world_eq]
    exact Taken.changedOnly_done hspares hran hname hfound hcoherent hfile (hlast _ hmem) hmem
  | @next p rest report report₁ report' o line steps s s₁ s₂ s' _ hran _ hbooked _ _ ih =>
    obtain ⟨rel, bytes, hname, hfile⟩ := hpresent p List.mem_cons_self
    have hmem : (⟨p.1, p.2, s.noted [line], o, s₁⟩ : Taken σ) ∈ _ :: steps := List.mem_cons_self
    have hfirst := Taken.changedOnly_done hspares hran hname hfound hcoherent hfile (hlast _ hmem)
      hmem
    -- the rest of the batch begins with the files that this step left
    rw [hbooked.world_eq] at ih
    refine hfirst.trans ((ih hfirst.found (hfirst.coherent hcoherent) ?_ ?_).mono ?_)
    · exact Present.of_changedOnly (fun q hq => hpresent q (List.mem_cons_of_mem _ hq)) hfirst
    · exact fun t ht => hlast t (List.mem_cons_of_mem _ ht)
    · rintro loc ⟨rel', hnames, hshares, t, ht, hdone⟩
      exact ⟨rel', hnames, (hfirst.names rel' loc).symm.trans hshares, t,
        List.mem_cons_of_mem _ ht, hdone⟩

theorem StepRun.history_eq {job : Job} {file : String} {known : Option UInt64}
    (h : StepRun agents job file known s (.ok o s')) : s'.history = s.history := by
  obtain ⟨events, hevents⟩ := h.stepEvents
  exact hevents.trail.history_eq

theorem Booked.snapshots_prefix (h : Booked agents o s s') :
    s.history.snapshots <+: s'.history.snapshots := by
  cases h with
  | fixed _ hfix =>
    obtain ⟨p, hp, -, -⟩ := History.recordFix_eq_ok hfix
    rw [Session.noted_history, hp]
    exact List.prefix_append _ [p]
  | passed => exact List.prefix_refl _

theorem Booked.named (h : Booked agents o s s') (hdone : o.state = .done) :
    ∃ p ∈ s'.history.snapshots, p.file = some o.file := by
  cases h with
  | fixed _ hfix =>
    obtain ⟨p, hp, hfile, -⟩ := History.recordFix_eq_ok hfix
    rw [Session.noted_history, hp]
    exact ⟨p, List.mem_append_right _ (List.mem_singleton_self p), hfile⟩
  | passed hnot => exact absurd hdone hnot

theorem Batch.snapshots_prefix (h : Batch agents setup request planned report s steps report' s') :
    s.history.snapshots <+: s'.history.snapshots := by
  induction h with
  | finished => exact List.prefix_refl _
  | cancelled => exact List.prefix_refl _
  | stopped _ hran _ hbooked =>
    have hstep := StepRun.history_eq hran
    have hprefix := hbooked.snapshots_prefix
    rw [hstep] at hprefix
    exact hprefix
  | next _ hran _ hbooked _ _ ih =>
    have hstep := StepRun.history_eq hran
    have hprefix := hbooked.snapshots_prefix
    rw [hstep] at hprefix
    exact hprefix.trans ih

/-- The history names the file of every done step. -/
theorem Batch.named (h : Batch agents setup request planned report s steps report' s')
    (ht : t ∈ steps) (hdone : t.outcome.state = .done) :
    ∃ p ∈ s'.history.snapshots, p.file = some t.file := by
  induction h with
  | finished | cancelled => cases ht
  | stopped _ hran _ hbooked =>
    rw [List.mem_singleton] at ht
    subst ht
    have hnamed := hbooked.named hdone
    rw [StepRun.file_eq hran] at hnamed
    exact hnamed
  | next _ hran _ hbooked _ hbatch ih =>
    rw [List.mem_cons] at ht
    obtain rfl | ht := ht
    · obtain ⟨p, hp, hfile⟩ := hbooked.named hdone
      rw [StepRun.file_eq hran] at hfile
      exact ⟨p, hbatch.snapshots_prefix.subset hp, hfile⟩
    · exact ih ht

/-! ### A whole run -/

variable {plan : Plan} {files : List String} {locations : List Location}

theorem Surveyed.quiet (h : Surveyed agents setup request files s plan s') :
    ∃ s₁, Quiet agents s s₁ ∧ s'.world = s₁.world := by
  cases h with
  | cancelled hquiet => exact ⟨s', hquiet, rfl⟩
  | none _ hquiet => exact ⟨s', hquiet, rfl⟩
  | first _ _ _ _ hquiet => exact ⟨_, hquiet, rfl⟩
  | empty _ _ _ hquiet => exact ⟨_, hquiet, rfl⟩
  | all _ _ _ _ hquiet => exact ⟨_, hquiet, rfl⟩

/-- What is planned are files of the run as the scan has seen them. -/
theorem Surveyed.sighted (h : Surveyed agents setup request files s (.files planned) s') :
    ∀ p ∈ planned, p.1 ∈ files ∧ Sighted agents setup request.find s p.1 p.2 := by
  intro p hp
  cases h with
  | first _ hmem _ hsighted =>
    rw [List.mem_singleton] at hp
    rw [hp]
    exact ⟨hmem, hsighted⟩
  | all _ htally =>
    refine ⟨?_, htally.sighted p hp⟩
    rw [← htally.files_eq]
    exact List.mem_map.mpr ⟨p, hp, rfl⟩

theorem Surveyed.nodup (h : Surveyed agents setup request files s (.files planned) s')
    (hnodup : files.Nodup) : (planned.map Prod.fst).Nodup := by
  cases h with
  | first => exact List.pairwise_singleton _ _
  | all _ htally =>
    rw [htally.files_eq]
    exact hnodup

theorem text_nodup (hnamed : ∀ rel ∈ locations, ∀ name ∈ rel, IsName name)
    (hnodup : locations.Nodup) : (locations.map Location.text).Nodup := by
  rw [List.Nodup, List.pairwise_map]
  refine hnodup.imp_of_mem fun {a b} ha hb hne heq => hne ?_
  exact Location.text_injective (hnamed a ha) (hnamed b hb) heq

/-- A scan changes nothing. -/
theorem Surveyed.changedOnly {P : Location → Prop} (hspares : agents.SparesNames setup.workspace)
    (h : Surveyed agents setup request files s plan s')
    (hfound : s.world.disk.find setup.workspace = .ok (root, .directory)) :
    ChangedOnly setup.workspace root P s.world.disk s'.world.disk := by
  obtain ⟨s₁, hquiet, hworld⟩ := h.quiet
  rw [hworld]
  exact hquiet.changedOnly hspares hfound

/-- Up to the first step a run changes nothing. -/
theorem Surveyed.changedOnly_start {P : Location → Prop}
    (hspares : agents.SparesNames setup.workspace)
    (h : Surveyed agents setup request files s₁ plan s') (hquiet : Quiet agents s.cleared s₁)
    (hfound : s.world.disk.find setup.workspace = .ok (root, .directory)) :
    ChangedOnly setup.workspace root P s.world.disk s'.world.disk := by
  have hcleared := hquiet.changedOnly (P := P) (s := s.cleared) hspares hfound
  exact hcleared.trans (h.changedOnly hspares hcleared.found)

/-- What is planned are selected files, each of them once. -/
theorem Surveyed.selected (h : Surveyed agents setup request (locations.map Location.text) s₁
      (.files planned) s') (hnamed : s.world.disk.Named)
    (hfound : s.world.disk.find setup.workspace = .ok (root, .directory))
    (hselects : setup.Selects request s.world.disk locations) :
    (planned.map Prod.fst).Nodup ∧ ∀ p ∈ planned, ∃ rel ∈ locations, ∃ bytes,
      p.1 = Location.text rel ∧ s.world.disk.HasFile root rel bytes := by
  have hfiles : ∀ rel ∈ locations, ∃ bytes, s.world.disk.HasFile root rel bytes := fun rel hrel =>
    Walker.matching_hasFile hnamed hfound hselects hrel
  constructor
  · refine h.nodup (text_nodup (fun rel hrel => ?_) (Walker.matching_nodup hnamed hfound hselects))
    obtain ⟨bytes, hfile⟩ := hfiles rel hrel
    exact hfile.names
  · intro p hp
    obtain ⟨rel, hrel, hname⟩ := List.mem_map.mp (h.sighted p hp).1
    obtain ⟨bytes, hfile⟩ := hfiles rel hrel
    exact ⟨rel, hrel, bytes, hname.symm, hfile⟩

theorem Surveyed.present (h : Surveyed agents setup request (locations.map Location.text) s₁
      (.files planned) s') (hnamed : s.world.disk.Named)
    (hfound : s.world.disk.find setup.workspace = .ok (root, .directory))
    (hselects : setup.Selects request s.world.disk locations) :
    Present s.world.disk root planned := by
  intro p hp
  obtain ⟨rel, -, bytes, hname, hfile⟩ := (h.selected hnamed hfound hselects).2 p hp
  exact ⟨rel, bytes, hname, hfile⟩

/-- What a run changes are the files of its done steps. -/
theorem Course.changedOnly {result : Report} (hnamed : s.world.disk.Named)
    (hspares : agents.SparesNames setup.workspace)
    (hfound : s.world.disk.find setup.workspace = .ok (root, .directory))
    (hcoherent : s.world.disk.Coherent root)
    (h : Course agents setup request s result steps s')
    (hlast : ∀ t ∈ steps, t.outcome.state ≠ .done → t.LastWriteSucceeded) :
    ChangedOnly setup.workspace root (DoneIn s.world.disk root steps) s.world.disk
      s'.world.disk := by
  cases h with
  | counted _ hquiet => exact hquiet.changedOnly hspares hfound
  | unmatched _ _ hquiet => exact hquiet.changedOnly (s := s.cleared) hspares hfound
  | idle _ _ _ hquiet hsurveyed => exact hsurveyed.changedOnly_start hspares hquiet hfound
  | cancelled _ _ _ hquiet hsurveyed =>
    rw [Session.noted_world]
    exact hsurveyed.changedOnly_start hspares hquiet hfound
  | batch _ hselects _ hquiet hsurveyed hbatch =>
    rw [Session.noted_world]
    have hstart := hsurveyed.changedOnly_start (P := DoneIn s.world.disk root steps) hspares hquiet
      hfound
    have hpresent := (hsurveyed.present hnamed hfound hselects).of_changedOnly hstart
    have hbatch' := hbatch.changedOnly hspares hstart.found (hstart.coherent hcoherent) hpresent
      hlast
    refine hstart.trans (hbatch'.mono ?_)
    rintro loc ⟨rel, hnames, hshares, hdone⟩
    exact ⟨rel, hnames, (hstart.names rel loc).symm.trans hshares, hdone⟩

/-- A workspace without documentation. -/
def smallSetup : Setup where
  workspace := "/w"

/-- A migration of all scripts of the workspace. -/
def smallRequest : Request :=
  { smallJob.request with
    fileGlob := "*.js"
    action := .migrateAllFiles
    stopPolicy := .whenComplete }

/-- A model that makes a draft of a script, repairs it, and counts one occurrence in the script and
in the draft, with the verifier that accepts what is final. -/
def drafting : Agents Unit where
  complete w prompt :=
    let counts content := prompt == Prompt.count content smallRequest.find "a.js" smallSetup.context
    let fresh := (w.disk.readText "/w/a.js").toOption == some "old"
    let answer :=
      if counts "old" || counts "draft" then "1" else if fresh then "draft" else "final"
    { value := .ok answer, world := w }
  verify w command _ :=
    { value := ⟨finalOnlyTests command (w.disk.readBytes "/w/a.js"), ""⟩, world := w }
  now _ := default

/-- A workspace with one script. -/
def scriptSession : Session Unit where
  world := {
    disk := (default : FileSystem).plant ["w", "a.js"] (.file "old".toUTF8)
    memory := () }

theorem drafting_spares (base : String) : drafting.Spares base where
  complete _ _ _ hfound := ⟨hfound, fun _ _ => rfl⟩
  verify _ _ _ _ hfound := ⟨hfound, fun _ _ => rfl⟩

theorem drafting_sparesNames (base : String) : drafting.SparesNames base where
  toSpares := drafting_spares base
  complete_names _ _ _ _ _ _ := rfl
  verify_names _ _ _ _ _ _ _ := rfl

theorem scriptSession_named : scriptSession.world.disk.Named :=
  FileSystem.named_of_entries (by decide +kernel)

/-- What is checked of a run that reports on a migration. -/
def reported (p : RunReport → Session σ → Bool) : Except RunError Report → Session σ → Bool
  | .ok (.migrated report), s => p report s
  | _, _ => false

theorem exists_of_reported {p : RunReport → Session σ → Bool}
    {r : EStateM.Result Overflow (Session σ) (Except RunError Report)}
    (h : endsIn (reported p) r = true) :
    ∃ report s, r = .ok (.ok (.migrated report)) s ∧ p report s = true := by
  obtain ⟨result, s, rfl, hp⟩ := exists_of_endsIn h
  cases result with
  | error => cases hp
  | ok result =>
    cases result with
    | counted => cases hp
    | migrated report => exact ⟨report, s, rfl, hp⟩

end Codemod.Migration
