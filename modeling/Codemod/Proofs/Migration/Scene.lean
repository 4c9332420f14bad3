import Codemod.Proofs.Migration.Parallel
import Codemod.Proofs.Migration.Survey

/-!
# Two workspaces that share files

Two workspaces have files in common, and the second has bystanders, further files that can be read
and have no occurrences. A bystander is a file of its own, not another name of a file in common.
Agents that do not look at bystanders do the same with a shared file in both, and a bystander is
counted and skipped without anything else to be seen of it.

- `write_overwriting` — what a write does to a file, whatever else there is
- `Scene`, `Scene.Beside` — the two workspaces, and sessions over them
- `Agents.Determined`, `Scene.Admits` — agents that do not look at bystanders
- `Scene.steady` — the primitives of a step on a shared file
- `Scene.countFile_unnoticed`, `Scene.runStep_unnoticed` — a count and a step on a bystander
-/

namespace Codemod.FileSystem

variable {fs : FileSystem} {root rel : Location} {base : String} {old bytes : ByteArray}

/-- A write to the path of a file replaces what it holds, unless the path is too long. -/
theorem HasFile.writeBytes_join (hbase : fs.find base = .ok (root, .directory))
    (h : fs.HasFile root rel old) :
    fs.writeBytes (Path.join base (Location.text rel)) bytes =
      if tooLong base rel then .error .nameTooLong
      else .ok (fs.overwrite (root ++ rel) bytes) := by
  have hres := h.resolve_join hbase
  have hslash : Path.endsInSlash (Path.join base (Location.text rel)) = false := by
    rw [Path.endsInSlash_join (Location.not_isAbsolute_text h.names h.ne_nil)
      (Location.text_ne_empty h.names h.ne_nil)]
    exact Location.not_endsInSlash_text h.names h.ne_nil
  unfold writeBytes writeTarget
  by_cases hlong : tooLong base rel
  · rw [if_pos hlong] at hres
    rw [hres, if_pos hlong, hslash]
    dsimp only
    split <;> rfl
  · rw [if_neg hlong] at hres
    rw [hres, if_neg hlong]
    rfl

end Codemod.FileSystem

namespace Codemod.Migration

open FileSystem (ChangedOnly tooLong)

variable {σ α : Type} {agents : Agents σ} {root rel : Location} {base : String}
variable {w : World σ} {old : ByteArray}

/-! ### A write to a file -/

/-- What a write of a text to a file comes to: what the run is told, and what a name of the file
holds afterwards. -/
def overwriting (base : String) (rel : Location) (text : String) (fault? : Option Fault)
    (held : ByteArray) : Except FileError Unit × ByteArray :=
  let path := Path.join base (Location.text rel)
  if tooLong base rel then (.error (.write path .nameTooLong), held)
  else match fault? with
    | none => (.ok (), text.toUTF8)
    | some fault =>
      (.error (.write path fault.cause),
        (fault.arrived.map fun n => text.toUTF8.extract 0 n).getD held)

/-- A write to the path of a file comes to this, whatever else the disk holds: names of the file
hold what was written, and other files what they held. -/
theorem write_overwriting (agents : Agents σ) (text : String)
    (hbase : w.disk.find base = .ok (root, .directory)) (h : w.disk.HasFile root rel old) :
    let path := Path.join base (Location.text rel)
    let result := overwriting base rel text (agents.volume w path text).1
    (agents.write w path text).value = (result old).1 ∧
      ∀ other held, w.disk.HasFile root other held →
        (agents.write w path text).world.disk.HasFile root other
          (if w.disk.sharesFile (root ++ rel) (root ++ other) then (result held).2 else held) := by
  intro path result
  have hbytes : ∀ bytes, w.disk.writeBytes path bytes = if tooLong base rel
      then .error .nameTooLong else .ok (w.disk.overwrite (root ++ rel) bytes) :=
    fun bytes => h.writeBytes_join hbase
  have hsame : ∀ other held, w.disk.HasFile root other held → w.disk.HasFile root other
      (if w.disk.sharesFile (root ++ rel) (root ++ other) then held else held) := by
    intro other held hfile
    rwa [ite_self]
  unfold Agents.write FileSystem.writeText
  by_cases hlong : tooLong base rel
  · have hresult : result = fun held => (.error (.write path .nameTooLong), held) :=
      funext fun held => if_pos hlong
    rw [hbytes, if_pos hlong, hresult]
    exact ⟨rfl, hsame⟩
  · have hresult : result = fun held => match (agents.volume w path text).1 with
        | none => (.ok (), text.toUTF8)
        | some fault => (.error (.write path fault.cause),
            (fault.arrived.map fun n => text.toUTF8.extract 0 n).getD held) :=
      funext fun held => if_neg hlong
    rw [hbytes, if_neg hlong, hresult]
    cases agents.volume w path text with
    | mk fault? memory =>
      cases fault? with
      | none => exact ⟨rfl, fun other held hfile => hfile.overwrite _ h.writable⟩
      | some fault =>
        refine ⟨rfl, ?_⟩
        -- the volume may take a part of the text, or none of it
        show ∀ other held, w.disk.HasFile root other held →
          (w.disk.writePart path text fault).HasFile root other
            (if w.disk.sharesFile (root ++ rel) (root ++ other)
              then (fault.arrived.map fun n => text.toUTF8.extract 0 n).getD held else held)
        unfold FileSystem.writePart
        cases fault.arrived with
        | none => exact hsame
        | some n =>
          dsimp only
          rw [hbytes, if_neg hlong]
          exact fun other held hfile => hfile.overwrite _ h.writable

/-! ### Two workspaces -/

/-- Two workspaces, each below its root. -/
structure Scene where
  setup : Setup
  request : Request
  /-- What the model answers to a prompt. -/
  answer : String → Except ModelError String
  /-- The files that are the same in both workspaces. -/
  shared : Location → Prop
  /-- The files that only the second has. -/
  bystanders : List Location
  root : Location
  root' : Location

/-- Some files below a directory read the same on two disks. -/
def FilesAlike (base : String) (files : Location → Prop) (fs fs' : FileSystem) : Prop :=
  ∀ rel, files rel → fs.readBytes (Path.join base (Location.text rel)) =
    fs'.readBytes (Path.join base (Location.text rel))

/-- The agents do not look at bystanders: the model answers by the prompt, the verifier goes by the
command and the shared files, and so does what breaks off a write, by the path and the text. -/
structure Agents.Determined (agents : Agents σ) (base : String) (shared : Location → Prop)
    (answer : String → Except ModelError String) : Prop where
  complete : ∀ w prompt, (agents.complete w prompt).value = answer prompt
  verify : ∀ w w' command, FilesAlike base shared w.disk w'.disk →
    (agents.verify w command base).value = (agents.verify w' command base).value
  volume : ∀ w w' path text, FilesAlike base shared w.disk w'.disk →
    (agents.volume w path text).1 = (agents.volume w' path text).1

namespace Scene

variable {scene : Scene} {s s' t t' : Session σ} {rel : Location} {P : Location → Prop}

/-- The model counts no occurrences in a content. -/
def Vacant (scene : Scene) (rel : Location) (content : String) : Prop :=
  Answer.counted (scene.answer (Prompt.count content scene.request.find (Location.text rel)
    scene.setup.context)) = 0

instance (scene : Scene) (rel : Location) (content : String) :
    Decidable (scene.Vacant rel content) :=
  inferInstanceAs (Decidable (_ = _))

/-- Sessions over the two workspaces: the shared files are the same, and the same of them are names
of one file; the bystanders can be read, have no occurrences and are no names of shared files; and
the histories have the same points. -/
structure Beside (scene : Scene) (s s' : Session σ) : Prop where
  found : s.world.disk.find scene.setup.workspace = .ok (scene.root, .directory)
  found' : s'.world.disk.find scene.setup.workspace = .ok (scene.root', .directory)
  shared : ∀ rel, scene.shared rel → ∃ bytes,
    s.world.disk.HasFile scene.root rel bytes ∧ s'.world.disk.HasFile scene.root' rel bytes
  bystanders : ∀ rel ∈ scene.bystanders, ∃ content,
    s'.world.disk.HasFile scene.root' rel content.toUTF8 ∧
      ¬tooLong scene.setup.workspace rel ∧ scene.Vacant rel content
  alike : ∀ a b, scene.shared a → scene.shared b →
    s.world.disk.sharesFile (scene.root ++ a) (scene.root ++ b) =
      s'.world.disk.sharesFile (scene.root' ++ a) (scene.root' ++ b)
  apart : ∀ a, scene.shared a → ∀ b ∈ scene.bystanders,
    s'.world.disk.sharesFile (scene.root' ++ a) (scene.root' ++ b) = false
  clear : s.cancelled = false
  clear' : s'.cancelled = false
  points_eq : s.history.points = s'.history.points

namespace Beside

/-- Nothing matters but what changes below the roots. -/
theorem of_unchanged (h : scene.Beside s s')
    (hleft : ChangedOnly scene.setup.workspace scene.root (fun _ => False) s.world.disk
      t.world.disk)
    (hright : ChangedOnly scene.setup.workspace scene.root' (fun _ => False) s'.world.disk
      t'.world.disk)
    (hclear : t.cancelled = false) (hclear' : t'.cancelled = false)
    (hpoints : t.history.points = t'.history.points) : scene.Beside t t' where
  found := hleft.found
  found' := hright.found
  shared rel hrel := by
    obtain ⟨bytes, hfile, hfile'⟩ := h.shared rel hrel
    obtain ⟨_, hkept, hsame⟩ := hleft.files hfile
    obtain ⟨_, hkept', hsame'⟩ := hright.files hfile'
    rw [hsame id] at hkept
    rw [hsame' id] at hkept'
    exact ⟨bytes, hkept, hkept'⟩
  bystanders rel hrel := by
    obtain ⟨content, hfile, hrest⟩ := h.bystanders rel hrel
    obtain ⟨_, hkept, hsame⟩ := hright.files hfile
    rw [hsame id] at hkept
    exact ⟨content, hkept, hrest⟩
  alike a b ha hb := by rw [hleft.names, hright.names, h.alike a b ha hb]
  apart a ha b hb := by rw [hright.names, h.apart a ha b hb]
  clear := hclear
  clear' := hclear'
  points_eq := hpoints

/-- What is logged does not matter. -/
theorem noted (h : scene.Beside s s') (lines lines' : List String) :
    scene.Beside (s.noted lines) (s'.noted lines') :=
  h.of_unchanged (.refl h.found) (.refl h.found') h.clear h.clear' h.points_eq

/-- What only the second run logs does not matter. -/
theorem noted_second (h : scene.Beside s s') (line : String) :
    scene.Beside s (s'.noted [line]) :=
  h.of_unchanged (.refl h.found) (.refl h.found') h.clear h.clear' h.points_eq

/-- Shared files read the same. -/
theorem filesAlike (h : scene.Beside s s') :
    FilesAlike scene.setup.workspace scene.shared s.world.disk s'.world.disk := by
  intro rel hrel
  obtain ⟨bytes, hfile, hfile'⟩ := h.shared rel hrel
  rw [hfile.readBytes_join h.found, hfile'.readBytes_join h.found']

theorem readText_eq (h : scene.Beside s s') (hrel : scene.shared rel) :
    s.world.disk.readText (Path.join scene.setup.workspace (Location.text rel)) =
      s'.world.disk.readText (Path.join scene.setup.workspace (Location.text rel)) :=
  FileSystem.readText_congr (h.filesAlike rel hrel)

/-- A bystander can be read. -/
theorem readText_bystander (h : scene.Beside s s') (hrel : rel ∈ scene.bystanders) :
    ∃ content,
      s'.world.disk.readText (Path.join scene.setup.workspace (Location.text rel)) = .ok content ∧
        scene.Vacant rel content := by
  obtain ⟨content, hfile, hshort, hvacant⟩ := h.bystanders rel hrel
  exact ⟨content, (hfile.readText_join_iff h.found').mpr ⟨hshort, rfl⟩, hvacant⟩

end Beside

/-! ### The primitives of a step -/

/-- Agents that leave the workspaces alone, never stop a run and do not look at bystanders. -/
structure Admits (scene : Scene) (agents : Agents σ) : Prop where
  spares : agents.SparesNames scene.setup.workspace
  never : agents.NeverStops
  determined : agents.Determined scene.setup.workspace scene.shared scene.answer

theorem ask_parallel (h : scene.Admits agents) (prompt : String) :
    Parallel scene.Beside Eq (ask agents prompt) (ask agents prompt) := by
  intro s s' hrel
  rw [ask_run, ask_run, h.determined.complete, h.determined.complete]
  refine .ok rfl (hrel.of_unchanged ?_ ?_ ?_ ?_ hrel.points_eq)
  · exact (Move.ask s prompt).changedOnly h.spares rfl hrel.found
  · exact (Move.ask s' prompt).changedOnly h.spares rfl hrel.found'
  · exact Bool.or_eq_false_iff.mpr ⟨hrel.clear, h.never.complete _ _⟩
  · exact Bool.or_eq_false_iff.mpr ⟨hrel.clear', h.never.complete _ _⟩

theorem check_parallel (h : scene.Admits agents) (command : String) :
    Parallel scene.Beside Eq (check agents command scene.setup.workspace)
      (check agents command scene.setup.workspace) := by
  intro s s' hrel
  rw [check_run, check_run,
    h.determined.verify s.world s'.world command hrel.filesAlike]
  refine .ok rfl (hrel.of_unchanged ?_ ?_ ?_ ?_ hrel.points_eq)
  · exact (Move.verify s command _).changedOnly h.spares rfl hrel.found
  · exact (Move.verify s' command _).changedOnly h.spares rfl hrel.found'
  · exact Bool.or_eq_false_iff.mpr ⟨hrel.clear, h.never.verify _ _ _⟩
  · exact Bool.or_eq_false_iff.mpr ⟨hrel.clear', h.never.verify _ _ _⟩

theorem readFile_parallel (hrel : scene.shared rel) :
    Parallel (σ := σ) scene.Beside Eq
      (readFile (Path.join scene.setup.workspace (Location.text rel)))
      (readFile (Path.join scene.setup.workspace (Location.text rel))) := by
  intro s s' h
  rw [readFile_run, readFile_run, h.readText_eq hrel]
  exact .ok rfl (h.of_unchanged (.refl h.found) (.refl h.found') h.clear h.clear' h.points_eq)

/-- A write to a shared file does the same to it in both workspaces, under all of its names. -/
theorem writeFile_parallel (h : scene.Admits agents) (hrel : scene.shared rel) (text : String) :
    Parallel scene.Beside Eq
      (writeFile agents (Path.join scene.setup.workspace (Location.text rel)) text)
      (writeFile agents (Path.join scene.setup.workspace (Location.text rel)) text) := by
  intro s s' hbeside
  obtain ⟨old, hfile, hfile'⟩ := hbeside.shared rel hrel
  obtain ⟨hvalue, hwritten⟩ := write_overwriting agents text hbeside.found hfile
  obtain ⟨hvalue', hwritten'⟩ := write_overwriting agents text hbeside.found' hfile'
  rw [h.determined.volume s.world s'.world _ _ hbeside.filesAlike] at hvalue hwritten
  have hleft := changedOnly_written agents s text hbeside.found hfile
  have hright := changedOnly_written agents s' text hbeside.found' hfile'
  rw [writeFile_run, writeFile_run, hvalue, hvalue']
  refine .ok rfl ⟨hleft.found, hright.found, ?_, ?_, ?_, ?_, ?_, ?_, hbeside.points_eq⟩
  · -- a shared file is a name of the written one in both workspaces, or in neither
    intro other hother
    obtain ⟨bytes, hfile, hfile'⟩ := hbeside.shared other hother
    have hkept := hwritten other bytes hfile
    rw [hbeside.alike rel other hrel hother] at hkept
    exact ⟨_, hkept, hwritten' other bytes hfile'⟩
  · intro other hother
    obtain ⟨content, hfile, hrest⟩ := hbeside.bystanders other hother
    have hkept := hwritten' other _ hfile
    rw [hbeside.apart rel hrel other hother, if_neg Bool.false_ne_true] at hkept
    exact ⟨content, hkept, hrest⟩
  · intro a b ha hb
    exact ((hleft.names a b).trans (hbeside.alike a b ha hb)).trans (hright.names a b).symm
  · intro a ha b hb
    exact (hright.names a b).trans (hbeside.apart a ha b hb)
  · exact Bool.or_eq_false_iff.mpr ⟨hbeside.clear, agents.write_cancels _ _ _⟩
  · exact Bool.or_eq_false_iff.mpr ⟨hbeside.clear', agents.write_cancels _ _ _⟩

theorem log_parallel (line line' : String) :
    Parallel (σ := σ) scene.Beside Eq (log line) (log line') :=
  fun _ _ hrel => .ok rfl (hrel.noted [line] [line'])

/-- The primitives of a step on a shared file do the same. -/
theorem steady (h : scene.Admits agents) (hrel : scene.shared rel) :
    Steady agents agents (scene.setup.job scene.request) (Location.text rel)
      fun x y => Parallel scene.Beside Eq x y where
  pure _ := .pure rfl
  bind hx hf := hx.bind fun a _ heq => heq ▸ hf a
  log line := log_parallel line line
  checked := .checked_eq
  ask prompt _ := ask_parallel h prompt
  check _ := check_parallel h _
  read := readFile_parallel hrel
  write text := writeFile_parallel h hrel text

/-! ### Bystanders -/

theorem log_unnoticed (line : String) :
    Unnoticed (σ := σ) scene.Beside (fun _ => True) (log line) := by
  intro s s' hrel
  exact ⟨(), _, rfl, trivial, hrel.noted_second line⟩

theorem readFile_unnoticed (hrel : rel ∈ scene.bystanders) :
    Unnoticed (σ := σ) scene.Beside
      (fun read => ∃ content, read = .ok content ∧ scene.Vacant rel content)
      (readFile (Path.join scene.setup.workspace (Location.text rel))) := by
  intro s s' h
  refine ⟨_, _, readFile_run _, h.readText_bystander hrel, ?_⟩
  exact h.of_unchanged (.refl h.found) (.refl h.found') h.clear h.clear' h.points_eq

theorem ask_unnoticed (h : scene.Admits agents) (prompt : String) :
    Unnoticed scene.Beside (fun reply => reply = scene.answer prompt) (ask agents prompt) := by
  intro s s' hrel
  refine ⟨_, _, ask_run prompt, h.determined.complete s'.world prompt,
    hrel.of_unchanged (.refl hrel.found) ?_ hrel.clear ?_ hrel.points_eq⟩
  · exact (Move.ask s' prompt).changedOnly h.spares rfl hrel.found'
  · exact Bool.or_eq_false_iff.mpr ⟨hrel.clear', h.never.complete _ _⟩

/-- A bystander has no occurrences. -/
theorem countFile_unnoticed (h : scene.Admits agents) (hrel : rel ∈ scene.bystanders) :
    Unnoticed scene.Beside (fun known => known = some 0)
      (countFile agents scene.setup scene.request.find (Location.text rel)) := by
  unfold countFile
  refine (readFile_unnoticed hrel).bind fun read hread => ?_
  obtain ⟨content, rfl, hvacant⟩ := hread
  unfold Vacant at hvacant
  have hcount : Unnoticed scene.Beside (fun n => n = 0) (countOccurrences agents content
      scene.request.find (Location.text rel) scene.setup.context) := by
    unfold countOccurrences
    refine (ask_unnoticed h _).bind fun reply hreply => ?_
    rw [← hreply] at hvacant
    cases reply with
    | error cause => exact (log_unnoticed _).bind fun _ _ => .pure rfl
    | ok answer =>
      dsimp only
      unfold Answer.counted at hvacant
      cases hn : Answer.count? answer with
      | none => exact (log_unnoticed _).bind fun _ _ => .pure rfl
      | some n =>
        dsimp only at hvacant
        rw [hn] at hvacant
        exact .pure hvacant
  exact hcount.bind fun n hn => .pure (congrArg some hn)

/-- A step on a bystander is skipped. -/
theorem runStep_unnoticed (agents : Agents σ) (hrel : rel ∈ scene.bystanders) :
    Unnoticed scene.Beside (fun o => o = { file := Location.text rel, state := .skipped })
      (runStep agents (scene.setup.job scene.request) (Location.text rel) (some 0)) := by
  unfold runStep
  refine (log_unnoticed _).bind fun _ _ => (readFile_unnoticed hrel).bind fun read hread => ?_
  obtain ⟨content, rfl, -⟩ := hread
  have hcount : Unnoticed scene.Beside (fun n => n = 0) (initialCount agents
      (scene.setup.job scene.request) ((scene.setup.job scene.request).target
        (Location.text rel) content) (some 0)) := .pure rfl
  refine hcount.bind fun n hn => ?_
  rw [if_pos hn]
  exact (log_unnoticed _).bind fun _ _ => .pure rfl

end Scene

end Codemod.Migration
