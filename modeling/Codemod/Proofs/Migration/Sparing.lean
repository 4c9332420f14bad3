import Codemod.Proofs.FileSystem.Workspace
import Codemod.Proofs.Migration.Batch
import Codemod.Proofs.Migration.Restoration

/-!
# Runs whose agents leave the workspace alone

When the model and the verifier write nothing into a workspace, what changes there is what the run
writes: nothing as long as it is quiet, one file in a step, and nothing at all in a step that gives
its file back. A file may have several names, and changes under all of them.

- `Agents.Spares`, `Agents.SparesNames` — agents that leave a workspace alone
- `Quiet.changedOnly`, `Trail.changedOnly` — what changes over a trail
- `Taken.changedOnly`, `Taken.hasFile_of_not_done` — what changes over a step
-/

namespace Codemod.Migration

open FileSystem (ChangedOnly)

variable {σ : Type} {agents : Agents σ} {job : Job} {base : String} {root rel : Location}
variable {s s₁ s' : Session σ} {events : List Event} {bytes : ByteArray} {P : Location → Prop}

/-- The agents leave a workspace alone: its path leads to the same directory as before, and what is
below that stays. -/
structure Agents.Spares (agents : Agents σ) (base : String) : Prop where
  complete : ∀ w prompt root, w.disk.find base = .ok (root, .directory) →
    (agents.complete w prompt).world.disk.find base = .ok (root, .directory) ∧
      ∀ l, root <+: l → (agents.complete w prompt).world.disk.get? l = w.disk.get? l
  verify : ∀ w command directory root, w.disk.find base = .ok (root, .directory) →
    (agents.verify w command directory).world.disk.find base = .ok (root, .directory) ∧
      ∀ l, root <+: l → (agents.verify w command directory).world.disk.get? l = w.disk.get? l

/-- They also leave alone which locations of the workspace are names of one file. -/
structure Agents.SparesNames (agents : Agents σ) (base : String) : Prop
    extends agents.Spares base where
  complete_names : ∀ w prompt root, w.disk.find base = .ok (root, .directory) → ∀ a b,
    (agents.complete w prompt).world.disk.sharesFile (root ++ a) (root ++ b) =
      w.disk.sharesFile (root ++ a) (root ++ b)
  verify_names : ∀ w command directory root, w.disk.find base = .ok (root, .directory) → ∀ a b,
    (agents.verify w command directory).world.disk.sharesFile (root ++ a) (root ++ b) =
      w.disk.sharesFile (root ++ a) (root ++ b)

/-- The locations below a directory that are names of one file. -/
def Names (fs : FileSystem) (root rel : Location) : Location → Prop :=
  fun other => fs.sharesFile (root ++ rel) (root ++ other) = true

theorem Move.changedOnly (hspares : agents.SparesNames base) {e : Event} (h : Move agents s e s')
    (hwrite : e.write? = none) (hfound : s.world.disk.find base = .ok (root, .directory)) :
    ChangedOnly base root P s.world.disk s'.world.disk := by
  cases h with
  | log | read => exact .refl hfound
  | ask prompt =>
    obtain ⟨hfound', hsame⟩ := hspares.complete s.world prompt root hfound
    exact .of_same hfound' (fun rel => hsame _ (List.prefix_append root rel))
      (hspares.complete_names s.world prompt root hfound)
  | verify command directory =>
    obtain ⟨hfound', hsame⟩ := hspares.verify s.world command directory root hfound
    exact .of_same hfound' (fun rel => hsame _ (List.prefix_append root rel))
      (hspares.verify_names s.world command directory root hfound)
  | write => cases hwrite

/-- A write to the path of a file changes that file at most, under its names. -/
theorem changedOnly_written (agents : Agents σ) (s : Session σ) (text : String)
    (hfound : s.world.disk.find base = .ok (root, .directory))
    (hfile : s.world.disk.HasFile root rel bytes) :
    ChangedOnly base root (Names s.world.disk root rel) s.world.disk
      (s.written agents (Path.join base (Location.text rel)) text).world.disk := by
  rw [Session.written_world]
  obtain hdisk | ⟨loc, new, htarget, hdisk⟩ := agents.write_disk s.world
    (Path.join base (Location.text rel)) text
  · rw [hdisk]
    exact .refl hfound
  · rw [hdisk]
    obtain rfl := hfile.writeTarget_join hfound htarget
    exact .overwrite new hfound hfile

/-- Nothing changes without a write. -/
theorem Quiet.changedOnly (hspares : agents.SparesNames base) (h : Quiet agents s s')
    (hfound : s.world.disk.find base = .ok (root, .directory)) :
    ChangedOnly base root P s.world.disk s'.world.disk := by
  obtain ⟨events, htrail, hwrites⟩ := h
  induction htrail with
  | refl => exact .refl hfound
  | cons hmove _ ih =>
    obtain ⟨hwrite, hrest⟩ := writes_cons_eq_nil hwrites
    have hfirst := hmove.changedOnly (P := P) hspares hwrite hfound
    exact hfirst.trans (ih hfirst.found hrest)

/-- A trail that writes one file of the workspace changes that file at most, under its names. -/
theorem Trail.changedOnly (hspares : agents.SparesNames base) (h : Trail agents s events s')
    (honly : WritesOnly (Path.join base (Location.text rel)) events)
    (hfound : s.world.disk.find base = .ok (root, .directory))
    (hfile : s.world.disk.HasFile root rel bytes) :
    ChangedOnly base root (Names s.world.disk root rel) s.world.disk s'.world.disk := by
  -- the file stays a file all along, so every write to its path goes to its location
  induction h generalizing bytes with
  | refl => exact .refl hfound
  | @cons s s₁ s' e events hmove _ ih =>
    have hfirst : ChangedOnly base root (Names s.world.disk root rel) s.world.disk
        s₁.world.disk := by
      cases hwrite : e.write? with
      | none => exact hmove.changedOnly hspares hwrite hfound
      | some w =>
        cases hmove with
        | write path text =>
          have hpath : path = Path.join base (Location.text rel) :=
            honly ⟨path, text, _⟩ (mem_writes_iff.mpr List.mem_cons_self)
          rw [hpath]
          exact changedOnly_written agents s text hfound hfile
        | _ => cases hwrite
    obtain ⟨bytes₁, hfile₁, -⟩ := hfirst.files hfile
    refine hfirst.trans ((ih honly.of_cons hfirst.found hfile₁).mono fun other hother => ?_)
    exact (hfirst.names rel other).symm.trans hother

/-- A write that succeeded has put its text into the file. -/
theorem hasFile_written {text : String}
    (hfound : s.world.disk.find base = .ok (root, .directory))
    (hfile : s.world.disk.HasFile root rel bytes)
    (hok : (agents.write s.world (Path.join base (Location.text rel)) text).value.isOk = true) :
    (s.written agents (Path.join base (Location.text rel)) text).world.disk.HasFile root rel
      text.toUTF8 := by
  obtain ⟨loc, htarget, hdisk⟩ := FileSystem.writeBytes_eq_ok
    (FileSystem.writeBytes_of_writeText (Agents.write_of_isOk hok))
  obtain rfl := hfile.writeTarget_join hfound htarget
  have hwritten := hfile.overwrite text.toUTF8 hfile.writable
  rw [FileSystem.sharesFile_refl, if_pos rfl] at hwritten
  rw [Session.written_world, hdisk]
  exact hwritten

/-- What a file holds after events: the text of the last write, if there is one. -/
def lastWritten (events : List Event) (bytes : ByteArray) : ByteArray :=
  ((writes events).getLast?.map fun w => w.text.toUTF8).getD bytes

theorem lastWritten_wrote (path text : String) (succeeded : Bool) (events : List Event)
    (bytes : ByteArray) :
    lastWritten (.wrote path text succeeded :: events) bytes = lastWritten events text.toUTF8 := by
  have hwrites : writes (.wrote path text succeeded :: events) =
      ⟨path, text, succeeded⟩ :: writes events := List.filterMap_cons_some rfl
  rw [lastWritten, lastWritten, hwrites, List.getLast?_cons]
  cases (writes events).getLast? <;> rfl

/-- If all writes to a file succeed, it holds what was written last. -/
theorem Trail.hasFile_lastWritten (hspares : agents.SparesNames base) (h : Trail agents s events s')
    (honly : WritesOnly (Path.join base (Location.text rel)) events)
    (hsucceeded : ∀ w ∈ writes events, w.succeeded = true)
    (hfound : s.world.disk.find base = .ok (root, .directory))
    (hfile : s.world.disk.HasFile root rel bytes) :
    s'.world.disk.HasFile root rel (lastWritten events bytes) := by
  induction h generalizing bytes with
  | refl => exact hfile
  | @cons s s₁ s' e events hmove _ ih =>
    have hmem : ∀ w ∈ writes events, w ∈ writes (e :: events) := fun w hw => by
      rw [mem_writes_iff] at hw ⊢
      exact List.mem_cons_of_mem _ hw
    have hrest := fun w hw => hsucceeded w (hmem w hw)
    cases hwrite : e.write? with
    | none =>
      -- any other event leaves the file as it is
      have hfirst := hmove.changedOnly (P := fun _ => False) hspares hwrite hfound
      obtain ⟨bytes₁, hfile₁, heq⟩ := hfirst.files hfile
      rw [heq id] at hfile₁
      have hwrites : writes (e :: events) = writes events := List.filterMap_cons_none hwrite
      rw [lastWritten, hwrites]
      exact ih honly.of_cons hrest hfirst.found hfile₁
    | some w =>
      cases hmove with
      | write path text =>
        have hfirst : (⟨path, text, (agents.write s.world path text).value.isOk⟩ : Write) ∈
            writes (.wrote path text (agents.write s.world path text).value.isOk :: events) :=
          mem_writes_iff.mpr List.mem_cons_self
        -- the write goes to the file, so what it held before does not matter
        obtain rfl := honly _ hfirst
        have hfile₁ := hasFile_written hfound hfile (hsucceeded _ hfirst)
        have hchanged : ChangedOnly base root (Names s.world.disk root rel) s.world.disk
            (s.written agents (Path.join base (Location.text rel)) text).world.disk :=
          changedOnly_written agents s text hfound hfile
        rw [lastWritten_wrote]
        exact ih honly.of_cons hrest hchanged.found hfile₁
      | _ => cases hwrite

/-! ### Steps -/

/-- If the step has written anything, its last write succeeded. -/
def Taken.LastWriteSucceeded (t : Taken σ) : Prop :=
  ∀ w, (writesBetween t.before t.after).getLast? = some w → w.succeeded = true

/-- A step changes its own file at most, under its names. -/
theorem Taken.changedOnly (job : Job) {t : Taken σ} (hspares : agents.SparesNames job.workspace)
    (h : t.Ran agents job) (hname : t.file = Location.text rel)
    (hfound : t.before.world.disk.find job.workspace = .ok (root, .directory))
    (hfile : t.before.world.disk.HasFile root rel bytes) :
    ChangedOnly job.workspace root (Names t.before.world.disk root rel) t.before.world.disk
      t.after.world.disk := by
  obtain ⟨events, hevents⟩ := StepRun.stepEvents h
  have honly := hevents.toTarget
  rw [Job.path, hname] at honly
  exact hevents.trail.changedOnly hspares honly hfound hfile

theorem StepRun.file_eq {file : String} {known : Option UInt64} {o : Outcome}
    (h : StepRun agents job file known s (.ok o s')) : o.file = file := by
  cases h <;> rfl

/-- A step that restores its file leaves it as it was if the last write succeeded. -/
theorem Taken.hasFile_of_restores {t : Taken σ} {events : List Event}
    (hname : t.file = Location.text rel)
    (hfound : t.before.world.disk.find job.workspace = .ok (root, .directory))
    (hfile : t.before.world.disk.HasFile root rel bytes)
    (honly : ChangedOnly job.workspace root P t.before.world.disk t.after.world.disk)
    (htrail : Trail agents t.before events t.after)
    (hrestores : Restores (job.path t.file) t.before t.after (writes events))
    (hlast : t.LastWriteSucceeded) : t.after.world.disk.HasFile root rel bytes := by
  obtain ⟨content, earlier, succeeded, hread, hwrites, hbytes⟩ := hrestores
  have hsucceeded : succeeded = true := by
    refine hlast ⟨job.path t.file, content, succeeded⟩ ?_
    rw [htrail.writesBetween_eq, hwrites, List.getLast?_concat]
  -- the bytes at the path are the bytes of the file, before and after
  have hsame := hbytes hsucceeded
  obtain ⟨bytes', hfile', -⟩ := honly.files hfile
  rw [Job.path, hname] at hsame hread
  obtain ⟨hshort, -⟩ := (hfile.readText_join_iff hfound).mp hread
  rw [hfile'.readBytes_join honly.found, hfile.readBytes_join hfound, if_neg hshort,
    if_neg hshort] at hsame
  injection hsame with hsame
  rwa [hsame] at hfile'

/-- A step that is not done leaves its file as it was if its last write succeeded. -/
theorem Taken.hasFile_of_not_done (job : Job) {t : Taken σ}
    (hspares : agents.SparesNames job.workspace)
    (h : t.Ran agents job) (hname : t.file = Location.text rel)
    (hfound : t.before.world.disk.find job.workspace = .ok (root, .directory))
    (hfile : t.before.world.disk.HasFile root rel bytes) (hdone : t.outcome.state ≠ .done)
    (hlast : t.LastWriteSucceeded) : t.after.world.disk.HasFile root rel bytes := by
  have honly := Taken.changedOnly job hspares h hname hfound hfile
  obtain ⟨events, hevents⟩ := StepRun.stepEvents h
  have hquiet : writes events = [] → t.after.world.disk.HasFile root rel bytes := fun hwrites => by
    have hsame := Quiet.changedOnly (P := fun _ => False) hspares ⟨events, hevents.trail, hwrites⟩
      hfound
    obtain ⟨bytes', hfile', heq⟩ := hsame.files hfile
    rwa [heq id] at hfile'
  have hback : Restores (job.path t.file) t.before t.after (writes events) →
      t.after.world.disk.HasFile root rel bytes := fun hrestores =>
    hasFile_of_restores hname hfound hfile honly hevents.trail hrestores hlast
  cases hstate : t.outcome.state with
  | done => exact absurd hstate hdone
  | skipped => exact hquiet (hevents.skipped _ _ rfl hstate)
  | reverted => exact hback (hevents.reverted _ _ rfl hstate)
  | failed =>
    have hfailed := hevents.failed _ _ rfl hstate
    split at hfailed
    · exact hquiet hfailed
    · exact hback hfailed

/-- Where the names of one file hold the same, such a step changes nothing. -/
theorem Taken.changedOnly_of_not_done (job : Job) {t : Taken σ}
    (hspares : agents.SparesNames job.workspace)
    (h : t.Ran agents job) (hname : t.file = Location.text rel)
    (hfound : t.before.world.disk.find job.workspace = .ok (root, .directory))
    (hcoherent : t.before.world.disk.Coherent root)
    (hfile : t.before.world.disk.HasFile root rel bytes) (hdone : t.outcome.state ≠ .done)
    (hlast : t.LastWriteSucceeded) :
    ChangedOnly job.workspace root P t.before.world.disk t.after.world.disk :=
  (Taken.changedOnly job hspares h hname hfound hfile).undo hcoherent hfile
    (hasFile_of_not_done job hspares h hname hfound hfile hdone hlast)

end Codemod.Migration
