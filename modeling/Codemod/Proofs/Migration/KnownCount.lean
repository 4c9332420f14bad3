import Codemod.Proofs.Migration.Legs
import Codemod.Proofs.Migration.Parallel
import Codemod.Proofs.Migration.Verification

/-!
# A known count saves one question

A step that is given the count of its file does not ask for it. When the model answers by the
prompt, and nobody else can tell that it was asked, the step is otherwise the same as one that asks:
it ends alike, and does the same things in the same order.

- `Reply.SeenAlike`, `Agents.Unobserved` — replies that look the same, and agents who cannot tell
  that the model was asked
- `Unobserved.of_memory` — a model with a memory of its own, beside any verifier and any volume
- `Since` — two sessions that have gone on alike
- `runStep_known_count` — a step with a known count beside one that asks
-/

namespace Codemod.Migration

variable {σ ν α : Type} {agents : Agents σ} {job : Job} {file content : String}
variable {answer : String → Except ModelError String} {view : World σ → ν} {part : σ → ν}
variable {began began' : List Event} {w w' : World σ} {s s₀ s₁ s' t t' : Session σ} {n : UInt64}

/-! ### What others see of the model -/

/-- Two replies give the same value, and leave worlds that look the same. -/
structure Reply.SeenAlike (view : World σ → ν) (r r' : Reply σ α) : Prop where
  value_eq : r.value = r'.value
  view_eq : view r.world = view r'.world

/-- The model's answer is a function of the prompt. What the commands of the job, the writes to the
file and the file itself depend on is in view, and the model changes nothing there. -/
structure Agents.Unobserved (agents : Agents σ) (job : Job) (file : String)
    (answer : String → Except ModelError String) (view : World σ → ν) : Prop where
  value_eq : ∀ w prompt, (agents.complete w prompt).value = answer prompt
  view_eq : ∀ w prompt, view (agents.complete w prompt).world = view w
  verify : ∀ w w' command, view w = view w' →
    Reply.SeenAlike view (agents.verify w command job.workspace)
      (agents.verify w' command job.workspace)
  write : ∀ w w' text, view w = view w' →
    Reply.SeenAlike view (agents.write w (job.path file) text)
      (agents.write w' (job.path file) text)
  file_eq : ∀ w w', view w = view w' →
    w.disk.readBytes (job.path file) = w'.disk.readBytes (job.path file)

/-- The files, with a part of the memory. -/
def World.filesWith (part : σ → ν) (w : World σ) : FileSystem × ν := (w.disk, part w.memory)

/-- A write does the same on the same files, when the volume does. -/
theorem Agents.write_seenAlike (path text : String)
    (hseen : w.filesWith part = w'.filesWith part)
    (hfault : (agents.volume w path text).1 = (agents.volume w' path text).1)
    (hmemory : part (agents.volume w path text).2 = part (agents.volume w' path text).2) :
    Reply.SeenAlike (World.filesWith part) (agents.write w path text)
      (agents.write w' path text) := by
  have hdisk : w.disk = w'.disk := congrArg Prod.fst hseen
  unfold Agents.write
  generalize agents.volume w path text = broken at hfault hmemory ⊢
  generalize agents.volume w' path text = broken' at hfault hmemory ⊢
  obtain ⟨fault?, memory⟩ := broken
  obtain ⟨fault?', memory'⟩ := broken'
  dsimp only at hfault hmemory ⊢
  subst hfault
  rw [hdisk]
  cases w'.disk.writeText path text with
  | error cause => exact ⟨rfl, congrArg (Prod.mk _) hmemory⟩
  | ok disk =>
    cases fault? with
    | none => exact ⟨rfl, congrArg (Prod.mk _) hmemory⟩
    | some fault => exact ⟨rfl, congrArg (Prod.mk _) hmemory⟩

namespace Agents.Unobserved

/-- A model that leaves the files alone and a part of the memory, which the others go by. When it
remembers nothing, this part may be all of it, so that any verifier and any volume will do. -/
theorem of_memory (hvalue : ∀ w prompt, (agents.complete w prompt).value = answer prompt)
    (hcomplete : ∀ w prompt,
      (agents.complete w prompt).world.filesWith part = w.filesWith part)
    (hverify : ∀ w w' command, w.filesWith part = w'.filesWith part →
      Reply.SeenAlike (World.filesWith part) (agents.verify w command job.workspace)
        (agents.verify w' command job.workspace))
    (hvolume : ∀ w w' text, w.filesWith part = w'.filesWith part →
      (agents.volume w (job.path file) text).1 = (agents.volume w' (job.path file) text).1 ∧
        part (agents.volume w (job.path file) text).2 =
          part (agents.volume w' (job.path file) text).2) :
    agents.Unobserved job file answer (World.filesWith part) where
  value_eq := hvalue
  view_eq := hcomplete
  verify := hverify
  write w w' text hseen :=
    write_seenAlike _ _ hseen (hvolume w w' text hseen).1 (hvolume w w' text hseen).2
  file_eq _ _ hseen := congrArg (fun seen => seen.1.readBytes (job.path file)) hseen

/-- A count of a content comes to the same whenever it is asked for. -/
theorem count_eq (h : agents.Unobserved job file answer view)
    (hcount : countOccurrences agents content job.request.find file job.context s₀ = .ok n s₁) :
    n = Answer.counted (answer (countPrompt job file content)) := by
  obtain ⟨lines, hrun⟩ := countOccurrences_run agents content job.request.find file job.context s₀
  rw [hrun, h.value_eq] at hcount
  cases hcount
  rfl

end Agents.Unobserved

/-! ### Going on alike -/

/-- Sessions that look the same, and in which the same has happened since they had certain
traces. -/
structure Since (view : World σ → ν) (began began' : List Event) (s s' : Session σ) : Prop where
  view_eq : view s.world = view s'.world
  trace_eq : ∃ events, s.trace = began ++ events ∧ s'.trace = began' ++ events

namespace Since

theorem refl (h : view s.world = view s'.world) : Since view s.trace s'.trace s s' where
  view_eq := h
  trace_eq := ⟨[], (List.append_nil _).symm, (List.append_nil _).symm⟩

theorem record (h : Since view began began' s s') (e : Event) :
    Since view began began' (s.record e) (s'.record e) where
  view_eq := h.view_eq
  trace_eq := by
    obtain ⟨events, htrace, htrace'⟩ := h.trace_eq
    refine ⟨events ++ [e], ?_, ?_⟩
    · rw [Session.record, htrace, List.append_assoc]
    · rw [Session.record, htrace', List.append_assoc]

/-- Calls that look the same, recorded by the same event. -/
theorem absorb (h : Since view began began' s s') (e : Event) {r r' : Reply σ α}
    (hreply : view r.world = view r'.world) :
    Since view began began' ((s.record e).absorb r) ((s'.record e).absorb r') where
  view_eq := hreply
  trace_eq := (h.record e).trace_eq

end Since

/-- The primitives of a step go on alike. -/
theorem Agents.Unobserved.steady (h : agents.Unobserved job file answer view)
    (began began' : List Event) :
    Steady agents agents job file fun x y => Parallel (Since view began began') Eq x y where
  pure _ := .pure rfl
  bind hx hf := hx.bind fun a _ heq => heq ▸ hf a
  log line := fun s s' hsince => .ok rfl (hsince.record (.log line))
  checked := .checked_eq
  ask prompt _ := by
    intro s s' hsince
    rw [ask_run, ask_run, h.value_eq, h.value_eq]
    refine .ok rfl (hsince.absorb (.asked prompt) ?_)
    rw [h.view_eq, h.view_eq, hsince.view_eq]
  check stage := by
    intro s s' hsince
    obtain ⟨hvalue, hview⟩ := h.verify s.world s'.world (job.command stage) hsince.view_eq
    rw [check_run, check_run, hvalue]
    refine .ok rfl ?_
    rw [Session.verified, Session.verified, hvalue]
    exact hsince.absorb _ hview
  read := by
    intro s s' hsince
    rw [readFile_run, readFile_run,
      FileSystem.readText_congr (h.file_eq s.world s'.world hsince.view_eq)]
    exact .ok rfl (hsince.record (.read (job.path file)))
  write text := by
    intro s s' hsince
    obtain ⟨hvalue, hview⟩ := h.write s.world s'.world text hsince.view_eq
    rw [writeFile_run, writeFile_run, hvalue]
    refine .ok rfl ?_
    rw [Session.written, Session.written, hvalue]
    exact hsince.absorb _ hview

/-! ### A step with a known count -/

/-- From the same session, one run has done what the other has, but for the question how often the
pattern occurs, which the other asked right after it read the file. The file is the same after
both. -/
structure AskedOnceMore (job : Job) (file content : String) (s t t' : Session σ) : Prop where
  done_eq : ∃ events,
    effects t.trace = effects s.trace ++ .read (job.path file) :: events ∧
      effects t'.trace = effects s.trace ++
        .read (job.path file) :: .asked (countPrompt job file content) :: events
  file_eq : t.world.disk.readBytes (job.path file) = t'.world.disk.readBytes (job.path file)

/-- A step that has read its file counts, and goes on from there. -/
theorem runStep_counted (agents : Agents σ)
    (hread : s.world.disk.readText (job.path file) = .ok content) (known : Option UInt64) :
    ∃ line n s₁, Counted agents job file content ((s.noted [line]).looked (job.path file)) known n
        s₁ ∧
      runStep agents job file known s = stepFrom agents job file content n s₁ := by
  rw [runStep_eq, log_bind, bind_of_ok (readFile_run ..), Session.noted_world, hread]
  obtain ⟨n, s₁, hcount, hcounted⟩ := initialCount_run agents job file content known
    ((s.noted [s!"Processing file: {file}"]).looked (job.path file))
  exact ⟨_, n, s₁, hcounted, bind_of_ok hcount⟩

/-- A step with the count that the model gives for the content of its file ends as one that asks for
it, and does the same but for that question. -/
theorem runStep_known_count (h : agents.Unobserved job file answer view)
    (hread : s.world.disk.readText (job.path file) = .ok content)
    (hcount : countOccurrences agents content job.request.find file job.context s₀ = .ok n s₁) :
    Alike (AskedOnceMore job file content s) Eq (runStep agents job file (some n) s)
      (runStep agents job file none s) := by
  obtain ⟨line, n₁, m, hcounted, hrun⟩ := runStep_counted agents hread (some n)
  obtain ⟨line', n₂, m', hcounted', hrun'⟩ := runStep_counted agents hread none
  rw [hrun, hrun']
  cases hcounted with
  | known =>
    cases hcounted' with
    | asked =>
      rw [h.value_eq, ← h.count_eq hcount]
      -- the question has changed nothing in view, so both go on alike from their traces
      have hview := (h.view_eq s.world (countPrompt job file content)).symm
      refine Alike.mono ((h.steady _ _).stepFrom content n _ _ (.refl hview)) fun t t' hsince => ?_
      obtain ⟨hview, events, htrace, htrace'⟩ := hsince
      refine ⟨⟨effects events, ?_, ?_⟩, h.file_eq _ _ hview⟩
      · rw [htrace, effects_append, effects_looked, effects_noted, List.append_assoc,
          List.singleton_append]
      · rw [htrace', effects_append, effects_noted, effects_asked, effects_looked, effects_noted,
          List.append_assoc, List.append_assoc, List.singleton_append, List.singleton_append]

/-! ### A model that remembers its calls -/

/-- The answers of a model that counts one occurrence in the old script, drafts a change and has a
final repair. -/
def numberedAnswer (prompt : String) : Except ModelError String :=
  if prompt = countPrompt smallJob "a.js" "old" then .ok "1"
  else if prompt = Prompt.transform "old" "a.js" smallJob.brief then .ok "draft"
  else .ok "final"

/-- The model remembers how often it was asked, and the verifier how often it ran: its second run
fails. -/
def numbering : Agents (Nat × Nat) where
  complete w prompt :=
    { value := numberedAnswer prompt, world := { w with memory := (w.memory.1 + 1, w.memory.2) } }
  verify w _ _ :=
    { value := ⟨w.memory.2 != 1, ""⟩, world := { w with memory := (w.memory.1, w.memory.2 + 1) } }
  now _ := default

/-- A workspace with one script, before any call. -/
def uncalledSession : Session (Nat × Nat) where
  world := { disk := draftSession.world.disk, memory := (0, 0) }

/-- Only the model goes by the number of its calls. -/
theorem numbering_unobserved :
    numbering.Unobserved smallJob "a.js" numberedAnswer (World.filesWith Prod.snd) := by
  refine .of_memory (fun _ _ => rfl) (fun _ _ => rfl) ?_ ?_
  · intro w w' command hseen
    obtain ⟨hdisk, hruns⟩ := Prod.mk.inj hseen
    constructor
    · show Verification.mk (w.memory.2 != 1) "" = ⟨w'.memory.2 != 1, ""⟩
      rw [hruns]
    · show (w.disk, w.memory.2 + 1) = (w'.disk, w'.memory.2 + 1)
      rw [hdisk, hruns]
  · intro w w' text hseen
    exact ⟨rfl, (Prod.mk.inj hseen).2⟩

theorem runStep_known_count_numbering : ∃ s₁,
    countOccurrences numbering "old" smallJob.request.find "a.js" smallJob.context uncalledSession =
        .ok 1 s₁ ∧
      Alike (AskedOnceMore smallJob "a.js" "old" uncalledSession) Eq
        (runStep numbering smallJob "a.js" (some 1) uncalledSession)
        (runStep numbering smallJob "a.js" none uncalledSession) ∧
      endsIn (fun o s' => o.state == .done && s'.world.memory == (3, 3))
        (runStep numbering smallJob "a.js" (some 1) uncalledSession) = true := by
  have hcounts : endsIn (fun n _ => n == 1) (countOccurrences numbering "old"
      smallJob.request.find "a.js" smallJob.context uncalledSession) = true := by
    decide +kernel
  obtain ⟨n, s₁, hcount, hone⟩ := exists_of_endsIn hcounts
  obtain rfl := eq_of_beq hone
  exact ⟨s₁, hcount, runStep_known_count numbering_unobserved rfl hcount, by decide +kernel⟩

end Codemod.Migration
