import Codemod.Proofs.Migration.Proposal
import Codemod.Proofs.Migration.Protocol
import Codemod.Proofs.Migration.Sparing
import Codemod.Proofs.Migration.Verification

/-!
# What is on disk during a step

A step carries the content of its file from run to run of its commands. As long as the model and the
verifier leave the file alone, the content that is carried is the one on disk: every command is run
on it, every repair is asked for with it, no write but the way back repeats it, and a change that is
kept is the one that passed the tests last.

- `AtEach` — what holds of every member of a list, given those before it
- `Undisturbed`, `Agents.Spares.undisturbed` — agents that leave a file alone
- `Round.Sees`, `Event.Changes`, `InStep` — what is on disk at a command, a question and a write
- `Round.Happens.inStep`, `Rounds.inStep`, `Verified.inStep` — a round, a stage, stages in turn
- `runStep_on_disk` — every step
-/

namespace Codemod.Migration

/-! ### Each member of a list -/

/-- Something holds of every member of a list, given the members before it. -/
def AtEach {α : Type} (p : List α → α → Prop) (xs : List α) : Prop :=
  ∀ before x after, xs = before ++ x :: after → p before x

namespace AtEach

variable {α : Type} {p : List α → α → Prop} {x : α} {xs ys : List α}

theorem nil : AtEach p [] := by
  intro before x after h
  simp at h

theorem cons_iff : AtEach p (x :: xs) ↔ p [] x ∧ AtEach (fun before => p (x :: before)) xs := by
  constructor
  · intro h
    exact ⟨h [] x xs rfl, fun before y after heq => h (x :: before) y after (by rw [heq]; rfl)⟩
  · rintro ⟨hfirst, hrest⟩ before y after heq
    cases before with
    | nil =>
      cases heq
      exact hfirst
    | cons _ before =>
      cases heq
      exact hrest before y after rfl

theorem append (h₁ : AtEach p xs) (h₂ : AtEach (fun before => p (xs ++ before)) ys) :
    AtEach p (xs ++ ys) := by
  induction xs generalizing p with
  | nil => exact h₂
  | cons x xs ih =>
    rw [cons_iff] at h₁
    rw [List.cons_append, cons_iff]
    exact ⟨h₁.1, ih h₁.2 h₂⟩

theorem singleton (h : p [] x) : AtEach p [x] := cons_iff.mpr ⟨h, nil⟩

theorem of_forall (h : ∀ x ∈ xs, ∀ before, p before x) : AtEach p xs := by
  rintro before x after rfl
  exact h x (List.mem_append_right _ List.mem_cons_self) before

end AtEach

variable {σ : Type} {agents : Agents σ} {job : Job} {target : Target} {stage : Stage}
variable {file path base current content transformed text : String} {left : Nat}
variable {w : World σ} {s : Session σ} {events : List Event} {passed : Bool}
variable {rounds more : List Round} {root rel : Location} {bytes : ByteArray}

/-! ### Agents that leave a file alone -/

/-- Whatever the model and the verifier are called for from a world on, with writes to a path in
between, they leave the path with what it holds. -/
structure Undisturbed (agents : Agents σ) (path : String) (w : World σ) : Prop where
  complete : ∀ events, WritesOnly path events → ∀ prompt,
    (agents.complete (agents.replay w events) prompt).world.disk.readBytes path =
      (agents.replay w events).disk.readBytes path
  verify : ∀ events, WritesOnly path events → ∀ command directory,
    (agents.verify (agents.replay w events) command directory).world.disk.readBytes path =
      (agents.replay w events).disk.readBytes path

namespace Undisturbed

theorem replay (h : Undisturbed agents path w) (honly : WritesOnly path events) :
    Undisturbed agents path (agents.replay w events) where
  complete later hlater prompt := by
    rw [← Agents.replay_append]
    exact h.complete _ (honly.append hlater) prompt
  verify later hlater command directory := by
    rw [← Agents.replay_append]
    exact h.verify _ (honly.append hlater) command directory

theorem asked (h : Undisturbed agents path w) (prompt : String) :
    Undisturbed agents path (agents.complete w prompt).world :=
  h.replay (show WritesOnly path [.asked prompt] from .of_nil rfl)

theorem verified (h : Undisturbed agents path w) (command directory : String) :
    Undisturbed agents path (agents.verify w command directory).world :=
  h.replay (show WritesOnly path [.verified command directory true] from .of_nil rfl)

theorem readText_complete (h : Undisturbed agents path w) (prompt : String)
    (hheld : w.disk.readText path = .ok text) :
    (agents.complete w prompt).world.disk.readText path = .ok text :=
  FileSystem.readText_of_readBytes
    ((h.complete [] (.of_nil rfl) prompt).trans (FileSystem.readBytes_of_readText hheld))

theorem readText_verify (h : Undisturbed agents path w) (command directory : String)
    (hheld : w.disk.readText path = .ok text) :
    (agents.verify w command directory).world.disk.readText path = .ok text :=
  FileSystem.readText_of_readBytes
    ((h.verify [] (.of_nil rfl) command directory).trans (FileSystem.readBytes_of_readText hheld))

/-- Reads and questions leave the file as it is. -/
theorem readText_replay (h : Undisturbed agents path w) (hlooks : ∀ e ∈ events, e.isLook = true)
    (hheld : w.disk.readText path = .ok text) :
    (agents.replay w events).disk.readText path = .ok text := by
  induction events generalizing w with
  | nil => exact hheld
  | cons e events ih =>
    rw [List.forall_mem_cons] at hlooks
    cases e with
    | read => exact ih h hlooks.2 hheld
    | asked prompt =>
      exact ih (h.asked prompt) hlooks.2 (h.readText_complete prompt hheld)
    | log | verified | wrote => cases hlooks.1

end Undisturbed

/-- Over events that write one file of a workspace, the file stays one below the same directory. -/
theorem Agents.Spares.replay (hspares : agents.Spares base)
    (honly : WritesOnly (Path.join base (Location.text rel)) events)
    (hfound : w.disk.find base = .ok (root, .directory)) (hfile : w.disk.HasFile root rel bytes) :
    (agents.replay w events).disk.find base = .ok (root, .directory) ∧
      ∃ bytes', (agents.replay w events).disk.HasFile root rel bytes' := by
  -- as long as it does, every write to its path goes to it
  induction events generalizing w bytes with
  | nil => exact ⟨hfound, bytes, hfile⟩
  | cons e events ih =>
    cases e with
    | log | read => exact ih honly.of_cons hfound hfile
    | asked prompt =>
      obtain ⟨hfound', hsame⟩ := hspares.complete w prompt root hfound
      exact ih honly.of_cons hfound' (hfile.congr hsame)
    | verified command directory =>
      obtain ⟨hfound', hsame⟩ := hspares.verify w command directory root hfound
      exact ih honly.of_cons hfound' (hfile.congr hsame)
    | wrote place text succeeded =>
      obtain rfl : place = Path.join base (Location.text rel) :=
        honly ⟨place, text, succeeded⟩ (mem_writes_iff.mpr List.mem_cons_self)
      have hwritten := changedOnly_written agents { world := w } text hfound hfile
      obtain ⟨bytes₁, hfile₁, -⟩ := hwritten.files hfile
      exact ih honly.of_cons hwritten.found hfile₁

/-- Agents that write nothing into a workspace do not disturb a file of it. -/
theorem Agents.Spares.undisturbed (hspares : agents.Spares base)
    (hfound : w.disk.find base = .ok (root, .directory)) (hfile : w.disk.HasFile root rel bytes) :
    Undisturbed agents (Path.join base (Location.text rel)) w := by
  -- before and after a call the file is at its path with the same bytes
  have hcalled : ∀ events, WritesOnly (Path.join base (Location.text rel)) events →
      ∀ w' : World σ, ((agents.replay w events).disk.find base = .ok (root, .directory) →
        w'.disk.find base = .ok (root, .directory) ∧
          ∀ l, root <+: l → w'.disk.get? l = (agents.replay w events).disk.get? l) →
      w'.disk.readBytes (Path.join base (Location.text rel)) =
        (agents.replay w events).disk.readBytes (Path.join base (Location.text rel)) := by
    intro events honly w' hcall
    obtain ⟨hbase, bytes', hfile'⟩ := hspares.replay honly hfound hfile
    obtain ⟨hbase', hsame⟩ := hcall hbase
    rw [(hfile'.congr hsame).readBytes_join hbase', hfile'.readBytes_join hbase]
  exact ⟨fun events honly prompt => hcalled events honly _ (hspares.complete _ prompt root),
    fun events honly command directory =>
      hcalled events honly _ (hspares.verify _ command directory root)⟩

/-! ### Memory and disk -/

/-- A round that begins in a world, when the step has taken over a content: this is the content that
the command finds on disk, and a repair is asked for with what is on disk, with the content from
before the step, and with what the command has just said. -/
structure Round.Sees (agents : Agents σ) (job : Job) (target : Target) (current : String)
    (w : World σ) (r : Round) : Prop where
  happens : r.Happens agents job target w
  current_eq : r.current = current
  held : w.disk.readText target.path = .ok current
  asked : r.followup.asks = true → ∃ attempted rest,
    (r.checked agents job w).disk.readText target.path = .ok attempted ∧
      r.done job target = .verified (job.command r.stage) job.workspace false ::
        .asked (Prompt.fix r.stage target.content attempted target.label
          (agents.verify w (job.command r.stage) job.workspace).value.output job.brief) :: rest

/-- If the event is a write in a world, it goes to the path, and what it writes is not what the path
holds; when the write succeeds, the path holds it afterwards. -/
def Event.Changes (agents : Agents σ) (path : String) (w : World σ) : Event → Prop
  | .wrote place text succeeded => place = path ∧
    (∃ held, w.disk.readText path = .ok held ∧ held ≠ text) ∧
      (succeeded = true → (agents.write w path text).world.disk.readText path = .ok text)
  | _ => True

/-- Rounds that begin in a world with a content: memory and disk agree in each of them, and every
write changes the file. -/
structure InStep (agents : Agents σ) (job : Job) (target : Target) (current : String) (w : World σ)
    (rounds : List Round) : Prop where
  sees : AtEach (fun early r => r.Sees agents job target (accepted current early)
    (agents.replay w (doneIn job target early))) rounds
  changes : AtEach (fun early e => e.Changes agents target.path (agents.replay w early))
    (doneIn job target rounds)

theorem InStep.append (h₁ : InStep agents job target current w rounds)
    (h₂ : InStep agents job target (accepted current rounds)
      (agents.replay w (doneIn job target rounds)) more) :
    InStep agents job target current w (rounds ++ more) where
  sees := by
    refine h₁.sees.append ?_
    simpa only [accepted_append, doneIn_append, Agents.replay_append] using h₂.sees
  changes := by
    rw [doneIn_append]
    refine h₁.changes.append ?_
    simpa only [Agents.replay_append] using h₂.changes

theorem Event.Changes.of_isLook {e : Event} (h : e.isLook = true) : e.Changes agents path w := by
  cases e with
  | wrote => cases h
  | log | read | asked | verified => trivial

/-- A write of what is proposed for the content that the file holds changes the file. -/
theorem Event.Changes.of_proposed {reply : Except ModelError String} {succeeded : Bool}
    (hproposed : Answer.proposed reply current = some text)
    (hheld : w.disk.readText path = .ok current)
    (hsucceeded : (agents.write w path text).value.isOk = succeeded) :
    Event.Changes agents path w (.wrote path text succeeded) := by
  refine ⟨rfl, ⟨current, hheld, (Answer.ne_of_proposed hproposed).symm⟩, fun hok => ?_⟩
  exact FileSystem.readText_of_readBytes (Agents.readBytes_write (hsucceeded.trans hok))

theorem writesOnly_doneIn (rounds : List Round) :
    WritesOnly target.path (doneIn job target rounds) := by
  intro written hmem
  rw [mem_writes_iff, doneIn, List.mem_flatMap] at hmem
  obtain ⟨⟨stage, current, v, followup⟩, -, hmem⟩ := hmem
  cases followup <;> simp_all [Round.done, Followup.done]

/-! ### Rounds -/

/-- A round keeps memory and disk in step, unless its repair cannot be written. -/
theorem Round.Happens.inStep {r : Round} (h : r.Happens agents job target w)
    (hundisturbed : Undisturbed agents target.path w)
    (hheld : w.disk.readText target.path = .ok r.current)
    (hfailed : r.followup.asks = true → r.verification.passed = false) :
    InStep agents job target r.current w [r] ∧ ((∀ text, r.followup ≠ .refused text) →
      (agents.replay w (doneIn job target [r])).disk.readText target.path =
        .ok (accepted r.current [r])) := by
  -- the file is left alone by the command, and by the question after it
  have hchecked : (r.checked agents job w).disk.readText target.path = .ok r.current :=
    hundisturbed.readText_verify _ _ hheld
  have hasked := (hundisturbed.verified (job.command r.stage) job.workspace).readText_complete
    (r.prompt job target) hchecked
  have hsees : r.Sees agents job target r.current w := by
    refine ⟨h, rfl, hheld, fun hasks => ⟨r.current, ?_⟩⟩
    rw [h.verified]
    obtain ⟨stage, current, v, followup⟩ := r
    have hpassed : v.passed = false := hfailed hasks
    cases followup with
    | ended => cases hasks
    | kept | applied | refused => exact ⟨_, hchecked, by rw [Round.done, hpassed]; rfl⟩
  obtain ⟨stage, current, v, followup⟩ := r
  cases followup with
  | ended =>
    exact ⟨⟨.singleton hsees, .singleton trivial⟩, fun _ => hchecked⟩
  | kept =>
    exact ⟨⟨.singleton hsees, AtEach.cons_iff.mpr ⟨trivial, .singleton trivial⟩⟩, fun _ => hasked⟩
  | applied text =>
    obtain ⟨hproposed, hok⟩ := h.followed
    have hwrites := Event.Changes.of_proposed hproposed hasked hok
    refine ⟨⟨.singleton hsees, ?_⟩, fun _ => hwrites.2.2 rfl⟩
    exact AtEach.cons_iff.mpr ⟨trivial, AtEach.cons_iff.mpr ⟨trivial, .singleton hwrites⟩⟩
  | refused text =>
    obtain ⟨hproposed, hok⟩ := h.followed
    have hwrites := Event.Changes.of_proposed hproposed hasked hok
    refine ⟨⟨.singleton hsees, ?_⟩, fun hnot => absurd rfl (hnot text)⟩
    exact AtEach.cons_iff.mpr ⟨trivial, AtEach.cons_iff.mpr ⟨trivial, .singleton hwrites⟩⟩

/-- Memory and disk stay in step in a stage, and after a stage that passes. -/
theorem Rounds.inStep (h : Rounds agents job target stage left current w rounds passed)
    (hundisturbed : Undisturbed agents target.path w)
    (hheld : w.disk.readText target.path = .ok current) :
    InStep agents job target current w rounds ∧ (passed = true →
      (agents.replay w (doneIn job target rounds)).disk.readText target.path =
        .ok (accepted current rounds)) := by
  induction h with
  | ended hround _ =>
    obtain ⟨hin, hafter⟩ := hround.inStep hundisturbed hheld nofun
    exact ⟨hin, fun _ => hafter nofun⟩
  | refused hround hfailed => exact ⟨(hround.inStep hundisturbed hheld fun _ => hfailed).1, nofun⟩
  | @again left w r rounds passed hround hgoesOn _ _ ih =>
    obtain ⟨hin, hafter⟩ := hround.inStep hundisturbed hheld fun _ => hgoesOn.1
    have hwritten : ∀ text, r.followup ≠ .refused text := by
      intro text heq
      rw [Round.GoesOn, heq] at hgoesOn
      cases hgoesOn.2
    rw [doneIn_singleton] at hafter
    obtain ⟨hrest, hend⟩ :=
      ih (hundisturbed.replay (doneIn_singleton r ▸ writesOnly_doneIn [r])) (hafter hwritten)
    rw [← doneIn_singleton] at hrest
    refine ⟨hin.append hrest, fun hpassed => ?_⟩
    have hheld' := hend hpassed
    rwa [← Agents.replay_append, ← doneIn_cons, accepted_cons, accepted_nil,
      ← accepted_cons] at hheld'

/-- The same for stages in turn. -/
theorem Verified.inStep {stages : List Stage}
    (h : Verified agents job target stages current w rounds passed)
    (hundisturbed : Undisturbed agents target.path w)
    (hheld : w.disk.readText target.path = .ok current) :
    InStep agents job target current w rounds ∧ (passed = true →
      (agents.replay w (doneIn job target rounds)).disk.readText target.path =
        .ok (accepted current rounds)) := by
  induction h with
  | finished => exact ⟨⟨.nil, .nil⟩, fun _ => hheld⟩
  | failed hstage => exact ⟨(hstage.inStep hundisturbed hheld).1, nofun⟩
  | next hstage _ ih =>
    obtain ⟨hin, hafter⟩ := hstage.inStep hundisturbed hheld
    obtain ⟨hrest, hend⟩ := ih (hundisturbed.replay (writesOnly_doneIn _)) (hafter rfl)
    refine ⟨hin.append hrest, fun hpassed => ?_⟩
    rw [doneIn_append, Agents.replay_append, accepted_append]
    exact hend hpassed

/-- A test run that passes is the last round of stages that all pass. -/
theorem Verified.last_tested (h : Verified agents job target stages current w rounds true) :
    ∃ early last, rounds = early ++ [last] ∧ last.stage = .test ∧
      last.verification.passed = true ∧ last.followup = .ended := by
  cases h with
  | @next _ _ _ _ lint _ _ hlint hrest =>
  cases hrest with
  | next htest hfinished =>
  cases hfinished with
  | finished =>
    obtain ⟨early, last, rfl, -, hstages, hpassed, -, hend⟩ := htest.split
    obtain ⟨hended, -⟩ | ⟨hnot, -⟩ := hend
    · exact ⟨lint ++ early, last, by simp, hstages last (by simp), hpassed, hended⟩
    · cases hnot

/-! ### A step -/

/-- Memory and disk agree all along a step. -/
structure StaysInStep (agents : Agents σ) (job : Job) (file : String) (s : Session σ)
    (result : EStateM.Result Overflow (Session σ) Outcome) (content transformed : String)
    (before : List Event) (rounds : List Round) (after : List Event) : Prop extends
    InRounds agents job file s result content transformed before rounds after where
  /-- Every round begins with what the step has taken over last, in memory and on disk. -/
  sees : AtEach (fun early r => r.Sees agents job (job.target file content)
    (accepted transformed early)
    (agents.replay s.world (before ++ doneIn job (job.target file content) early))) rounds
  /-- Every write up to the end of the rounds changes the file. -/
  changes : AtEach (fun early e => e.Changes agents (job.path file) (agents.replay s.world early))
    (before ++ doneIn job (job.target file content) rounds)
  /-- After the rounds there is nothing, or the way back of a step that is not done. -/
  restored : after = [] ∨ s.world.disk.readText (job.path file) = .ok content ∧
    (∃ succeeded, after = [.wrote (job.path file) content succeeded]) ∧
    ∀ o s', result = .ok o s' → o.state ≠ .done
  /-- A change that is kept is what the step has taken over last, and what the tests passed on. -/
  kept : ∀ o s', result = .ok o s' → o.state = .done →
    s'.world.disk.readText (job.path file) = .ok (accepted transformed rounds) ∧
    ∃ early last, rounds = early ++ [last] ∧ last.stage = .test ∧
      last.verification.passed = true ∧ last.current = accepted transformed rounds

/-- A step without a round. -/
theorem StaysInStep.of_no_round {result : EStateM.Result Overflow (Session σ) Outcome}
    {before after : List Event}
    (hin : InRounds agents job file s result content transformed before [] after)
    (hchanges : AtEach (fun early e =>
      e.Changes agents (job.path file) (agents.replay s.world early)) before)
    (hrestored : after = [] ∨ s.world.disk.readText (job.path file) = .ok content ∧
      ∃ succeeded, after = [.wrote (job.path file) content succeeded])
    (hstate : ∀ o s', result = .ok o s' → o.state ≠ .done) :
    StaysInStep agents job file s result content transformed before [] after where
  toInRounds := hin
  sees := .nil
  changes := by
    rw [doneIn_nil, List.append_nil]
    exact hchanges
  restored := hrestored.imp_right fun ⟨hread, hafter⟩ => ⟨hread, hafter, hstate⟩
  kept o s' hr hdone := absurd hdone (hstate o s' hr)

/-- The first write of a step, which changes the file. -/
theorem Opening.changes (h : Opening agents job file s content transformed events)
    (hundisturbed : Undisturbed agents (job.path file) s.world) {succeeded : Bool}
    (hwritten : (agents.write (agents.replay s.world events) (job.path file)
      transformed).value.isOk = succeeded) :
    AtEach (fun early e => e.Changes agents (job.path file) (agents.replay s.world early))
      (events ++ [.wrote (job.path file) transformed succeeded]) := by
  obtain ⟨looked, -, -, hproposed⟩ := h.asked
  have hheld := hundisturbed.readText_replay h.isLook h.read
  refine AtEach.append (.of_forall fun e he _ => .of_isLook (h.isLook e he)) (.singleton ?_)
  rw [List.append_nil]
  exact .of_proposed hproposed hheld hwritten

theorem writesOnly_of_isLook (h : ∀ e ∈ events, e.isLook = true) : WritesOnly path events := by
  intro written hmem
  cases h _ (mem_writes_iff.mp hmem)

/-- A step that has written its change and starts to verify it. -/
theorem Opening.inStep {stages : List Stage}
    (h : Opening agents job file s content transformed events)
    (hundisturbed : Undisturbed agents (job.path file) s.world)
    (hwritten : (agents.write (agents.replay s.world events) (job.path file)
      transformed).value.isOk = true)
    (hverified : Verified agents job (job.target file content) stages transformed
      (agents.replay s.world (events ++ [.wrote (job.path file) transformed true])) rounds passed) :
    InStep agents job (job.target file content) transformed
        (agents.replay s.world (events ++ [.wrote (job.path file) transformed true])) rounds ∧
      (passed = true → (agents.replay
        (agents.replay s.world (events ++ [.wrote (job.path file) transformed true]))
          (doneIn job (job.target file content) rounds)).disk.readText (job.path file) =
        .ok (accepted transformed rounds)) := by
  have hstart : WritesOnly (job.path file)
      (events ++ [.wrote (job.path file) transformed true]) :=
    (writesOnly_of_isLook h.isLook).append (.wrote transformed true [])
  refine hverified.inStep (hundisturbed.replay hstart) ?_
  rw [Agents.replay_append]
  exact FileSystem.readText_of_readBytes (Agents.readBytes_write hwritten)

/-- A step that has written its change, and rounds of which the last one is a passing test run when
the step is done. -/
theorem StaysInStep.of_stages {stages : List Stage} {o : Outcome} {s' : Session σ}
    {after : List Event} (hopening : Opening agents job file s content transformed events)
    (hundisturbed : Undisturbed agents (job.path file) s.world)
    (hwritten : (agents.write (agents.replay s.world events) (job.path file)
      transformed).value.isOk = true)
    (hverified : Verified agents job (job.target file content) stages transformed
      (agents.replay s.world (events ++ [.wrote (job.path file) transformed true])) rounds passed)
    (hdone : doneBetween s s' = events ++ .wrote (job.path file) transformed true ::
      (doneIn job (job.target file content) rounds ++ after))
    (hafter : ∀ e ∈ after, e.isRun = false)
    (hrestored : after = [] ∨ (∃ succeeded, after = [.wrote (job.path file) content succeeded]) ∧
      o.state ≠ .done)
    (hkept : o.state = .done → passed = true ∧
      s'.world = agents.replay
        (agents.replay s.world (events ++ [.wrote (job.path file) transformed true]))
        (doneIn job (job.target file content) rounds) ∧
      ∃ early last, rounds = early ++ [last] ∧ last.stage = .test ∧
        last.verification.passed = true ∧ last.followup = .ended) :
    StaysInStep agents job file s (.ok o s') content transformed
      (events ++ [.wrote (job.path file) transformed true]) rounds after := by
  obtain ⟨hin, hheld⟩ := hopening.inStep hundisturbed hwritten hverified
  have hsees : AtEach (fun early r => r.Sees agents job (job.target file content)
      (accepted transformed early) (agents.replay s.world
        (events ++ [.wrote (job.path file) transformed true] ++
          doneIn job (job.target file content) early))) rounds := by
    simpa only [Agents.replay_append] using hin.sees
  refine ⟨.of_opening hopening hdone hafter, hsees, ?_, ?_, ?_⟩
  · refine (hopening.changes hundisturbed hwritten).append ?_
    simpa only [Agents.replay_append] using hin.changes
  · refine hrestored.imp_right fun hback => ⟨hopening.read, hback.1, ?_⟩
    rintro _ _ ⟨⟩
    exact hback.2
  · rintro _ _ ⟨⟩ hstate
    obtain ⟨hpassed, hworld, early, last, rfl, htest, hlast, hended⟩ := hkept hstate
    refine ⟨hworld ▸ hheld hpassed, early, last, rfl, htest, hlast, ?_⟩
    rw [(hsees early last [] rfl).current_eq, accepted_append, accepted_cons, hended]
    rfl

/-- Memory and disk agree all along what a step does. -/
theorem StepDone.inStep {result : EStateM.Result Overflow (Session σ) Outcome}
    (h : StepDone agents job file s result events)
    (hdoes : Does agents s (finalSession result) events)
    (hundisturbed : Undisturbed agents (job.path file) s.world) :
    ∃ content transformed before rounds after,
      StaysInStep agents job file s result content transformed before rounds after := by
  have hdone := hdoes.doneBetween_eq
  cases h with
  | idle hlook _ hstate =>
    refine ⟨"", "", events, [], [], .of_no_round (.of_no_round (by simpa using hdone) ?_) ?_
      (.inl rfl) ?_⟩
    · simpa using fun e he => isRun_of_isLook (hlook e he)
    · exact .of_forall fun e he _ => .of_isLook (hlook e he)
    · intro o s' hr
      obtain h | h := hstate o s' hr <;> simp [h]
  | @unwritten content transformed opening restored o s' hopening hwritten hfailed =>
    rw [List.append_cons] at hdone
    refine ⟨content, transformed, _, [], _,
      .of_no_round (.of_no_round hdone (hopening.notRun (by simp [Event.isRun])))
        (hopening.changes hundisturbed hwritten) (.inr ⟨hopening.read, restored, rfl⟩) ?_⟩
    rintro _ _ ⟨⟩
    rw [hfailed]
    decide
  | @reverted content transformed opening rounds restored o s' hopening hwritten hverified hstate =>
    have hnot : o.state ≠ .done := by
      rw [hstate]
      decide
    exact ⟨_, _, _, _, _, .of_stages hopening hundisturbed hwritten hverified hdone
      (by simp [Event.isRun]) (.inr ⟨⟨restored, rfl⟩, hnot⟩) fun hdone => absurd hdone hnot⟩
  | @done content transformed opening rounds o s' hopening hwritten hverified hstate =>
    have hworld := hdoes.world_eq
    rw [List.append_cons, Agents.replay_append] at hworld
    refine ⟨_, _, _, _, [], .of_stages hopening hundisturbed hwritten hverified ?_
      (List.forall_mem_nil _) (.inl rfl) fun _ => ⟨rfl, hworld, hverified.last_tested⟩⟩
    rw [List.append_nil]
    exact hdone

/-- In every step memory and disk agree, as long as the model and the verifier leave the file
alone. -/
theorem runStep_on_disk (agents : Agents σ) (job : Job) (file : String) (known : Option UInt64)
    (s : Session σ) (hundisturbed : Undisturbed agents (job.path file) s.world) :
    ∃ content transformed before rounds after,
      StaysInStep agents job file s (runStep agents job file known s) content transformed before
        rounds after := by
  obtain ⟨events, hdoes, hdone⟩ := (runStep_run agents job file known s).does
  exact hdone.inStep hdoes hundisturbed

theorem reciting_spares (path : String) (verdict : String → Except SystemError ByteArray → Bool)
    (base : String) : (reciting path verdict).Spares base where
  complete _ _ _ hfound := ⟨hfound, fun _ _ => rfl⟩
  verify _ _ _ _ hfound := ⟨hfound, fun _ _ => rfl⟩

theorem draft_undisturbed :
    Undisturbed (reciting (smallJob.path "a.js") finalOnlyTests) (smallJob.path "a.js")
      draftSession.world := by
  have hname : "a.js" = Location.text ["a.js"] := by decide
  have hfound : draftSession.world.disk.find smallJob.workspace = .ok (["w"], .directory) := by
    decide +kernel
  have hfile : draftSession.world.disk.HasFile ["w"] ["a.js"] "old".toUTF8 :=
    .last ⟨by decide, by decide, by decide, by decide, by decide, by decide⟩ (by decide +kernel)
  have hundisturbed := (reciting_spares (smallJob.path "a.js") finalOnlyTests
    smallJob.workspace).undisturbed hfound hfile
  rwa [← hname] at hundisturbed

/-- Memory and disk agree in this step, in which a draft was repaired. -/
theorem runStep_on_disk_draft :
    ∃ o s', runStep (reciting (smallJob.path "a.js") finalOnlyTests) smallJob "a.js" none
        draftSession = .ok o s' ∧ o.state = .done ∧
      ∃ content transformed before rounds after, rounds ≠ [] ∧
        StaysInStep (reciting (smallJob.path "a.js") finalOnlyTests) smallJob "a.js" draftSession
          (.ok o s') content transformed before rounds after := by
  obtain ⟨o, s', hrun, hchecked⟩ := draft_run
  rw [Bool.and_eq_true, beq_iff_eq] at hchecked
  obtain ⟨content, transformed, before, rounds, after, hin⟩ :=
    runStep_on_disk (reciting (smallJob.path "a.js") finalOnlyTests) smallJob "a.js" none
      draftSession draft_undisturbed
  rw [hrun] at hin
  obtain ⟨-, early, last, hrounds, -⟩ := hin.kept o s' rfl hchecked.1
  exact ⟨o, s', hrun, hchecked.1, content, transformed, before, rounds, after, by simp [hrounds],
    hin⟩

end Codemod.Migration
