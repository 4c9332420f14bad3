import Codemod.Migration.Step
import Codemod.Migration.World

/-!
# Trails of events

Every primitive of a run records its event and changes nothing else but what the call behind it
changes. A trail is a list of events together with the sessions before and after it; what a run can
do to the files follows from the events of its trail.

- `Session.noted`, `Session.looked`, `Session.asked`, `Session.verified`, `Session.written` — the
  sessions that the primitives leave behind
- `bind_of_ok`, `bind_of_error`, `endsIn` — activities one after the other, and how one ends
- `Move`, `Trail` — one event, and any number of them
- `writes`, `WritesOnly` — the writes among events, and where they go
- `Trail.trace_eq` — a trail is what is added to the trace
- `writesBetween`, `Quiet` — the writes of a trail, and a trail without one
-/

namespace Codemod.Migration

variable {σ α β : Type} {agents : Agents σ} {s s₁ s₂ s' : Session σ} {events : List Event}

/-! ### What the primitives leave behind -/

namespace Session

/-- The session after some lines of the log. -/
def noted (s : Session σ) (lines : List String) : Session σ :=
  { s with trace := s.trace ++ lines.map .log }

/-- The session after a file was read. -/
def looked (s : Session σ) (path : String) : Session σ := s.record (.read path)

/-- The session after the model was asked. -/
def asked (s : Session σ) (agents : Agents σ) (prompt : String) : Session σ :=
  (s.record (.asked prompt)).absorb (agents.complete s.world prompt)

/-- The session after a verification command. -/
def verified (s : Session σ) (agents : Agents σ) (command directory : String) : Session σ :=
  let reply := agents.verify s.world command directory
  (s.record (.verified command directory reply.value.passed)).absorb reply

/-- The session after a write. -/
def written (s : Session σ) (agents : Agents σ) (path text : String) : Session σ :=
  let reply := agents.write s.world path text
  (s.record (.wrote path text reply.value.isOk)).absorb reply

@[simp] theorem noted_world (lines : List String) : (s.noted lines).world = s.world := rfl

@[simp] theorem noted_history (lines : List String) : (s.noted lines).history = s.history := rfl

@[simp] theorem looked_world (path : String) : (s.looked path).world = s.world := rfl

@[simp] theorem looked_history (path : String) : (s.looked path).history = s.history := rfl

@[simp] theorem asked_world (prompt : String) :
    (s.asked agents prompt).world = (agents.complete s.world prompt).world := rfl

@[simp] theorem asked_history (prompt : String) :
    (s.asked agents prompt).history = s.history := rfl

@[simp] theorem verified_world (command directory : String) :
    (s.verified agents command directory).world =
      (agents.verify s.world command directory).world := rfl

@[simp] theorem verified_history (command directory : String) :
    (s.verified agents command directory).history = s.history := rfl

@[simp] theorem written_world (path text : String) :
    (s.written agents path text).world = (agents.write s.world path text).world := rfl

@[simp] theorem written_history (path text : String) :
    (s.written agents path text).history = s.history := rfl

@[simp] theorem noted_nil : s.noted [] = s := by
  simp [noted]

@[simp] theorem noted_noted (lines more : List String) :
    (s.noted lines).noted more = s.noted (lines ++ more) := by
  simp [noted]

end Session

theorem readFile_run (path : String) :
    readFile path s = .ok (s.world.disk.readText path) (s.looked path) := rfl

theorem ask_run (prompt : String) :
    ask agents prompt s = .ok (agents.complete s.world prompt).value (s.asked agents prompt) := rfl

theorem check_run (command directory : String) :
    check agents command directory s =
      .ok (agents.verify s.world command directory).value (s.verified agents command directory) :=
  rfl

theorem writeFile_run (path text : String) :
    writeFile agents path text s =
      .ok (agents.write s.world path text).value (s.written agents path text) := rfl

/-! ### Activities one after the other -/

theorem bind_of_ok {x : Activity σ α} {f : α → Activity σ β} {a : α} (h : x s = .ok a s₁) :
    (x >>= f) s = f a s₁ := by
  show EStateM.bind x f s = f a s₁
  rw [EStateM.bind, h]

theorem bind_of_eq {x y : Activity σ α} {f : α → Activity σ β} (h : x s = y s₁) :
    (x >>= f) s = (y >>= f) s₁ := by
  show EStateM.bind x f s = EStateM.bind y f s₁
  rw [EStateM.bind, EStateM.bind, h]

theorem bind_of_error {x : Activity σ α} {f : α → Activity σ β} {e : Overflow}
    (h : x s = .error e s₁) : (x >>= f) s = .error e s₁ := by
  show EStateM.bind x f s = .error e s₁
  rw [EStateM.bind, h]

theorem bind_eq_ok {x : Activity σ α} {f : α → Activity σ β} {b : β}
    (h : (x >>= f) s = .ok b s') : ∃ a s₁, x s = .ok a s₁ ∧ f a s₁ = .ok b s' := by
  cases hx : x s with
  | ok a s₁ => exact ⟨a, s₁, rfl, by rwa [bind_of_ok hx] at h⟩
  | error e s₁ =>
    rw [bind_of_error hx] at h
    cases h

theorem log_bind (line : String) (f : Unit → Activity σ β) :
    (log line >>= f) s = f () (s.noted [line]) := rfl

theorem get_bind (f : Session σ → Activity σ β) : (get >>= f) s = f s s := rfl

theorem isCancelled_bind (f : Bool → Activity σ β) :
    (isCancelled >>= f) s = f s.cancelled s := rfl

theorem checked_of_ok {x : Except Overflow α} {a : α} (h : x = .ok a) :
    (checked x : Activity σ α) s = .ok a s := by
  rw [h]
  rfl

theorem checked_of_error {x : Except Overflow α} {e : Overflow} (h : x = .error e) :
    (checked x : Activity σ α) s = .error e s := by
  rw [h]
  rfl

theorem checked_eq_ok {x : Except Overflow α} {a : α}
    (h : (checked x : Activity σ α) s = .ok a s') : x = .ok a ∧ s' = s := by
  cases x with
  | error e => cases h
  | ok b =>
    cases h
    exact ⟨rfl, rfl⟩

/-- The activity ends in a value, which with the session then satisfies `p`. -/
def endsIn (p : α → Session σ → Bool) : EStateM.Result Overflow (Session σ) α → Bool
  | .ok a s => p a s
  | .error _ _ => false

theorem exists_of_endsIn {p : α → Session σ → Bool} {r : EStateM.Result Overflow (Session σ) α}
    (h : endsIn p r = true) : ∃ a s, r = .ok a s ∧ p a s = true := by
  cases r with
  | ok a s => exact ⟨a, s, rfl, h⟩
  | error => cases h

/-! ### Writes -/

/-- A write: where to, what, and whether it succeeded. -/
structure Write where
  path : String
  text : String
  succeeded : Bool
deriving DecidableEq

/-- The write that an event is, if it is one. -/
def Event.write? : Event → Option Write
  | .wrote path text succeeded => some ⟨path, text, succeeded⟩
  | _ => none

/-- The writes among events. -/
def writes (events : List Event) : List Write := events.filterMap Event.write?

@[simp] theorem writes_nil : writes [] = [] := rfl

@[simp] theorem writes_append (events more : List Event) :
    writes (events ++ more) = writes events ++ writes more :=
  List.filterMap_append

@[simp] theorem writes_logs (lines : List String) : writes (lines.map .log) = [] := by
  rw [writes, List.filterMap_map, List.filterMap_eq_nil_iff]
  intro line _
  rfl

theorem writes_cons_eq_nil {e : Event} (h : writes (e :: events) = []) :
    e.write? = none ∧ writes events = [] := by
  rw [writes, List.filterMap_eq_nil_iff] at h
  refine ⟨h e List.mem_cons_self, ?_⟩
  rw [writes, List.filterMap_eq_nil_iff]
  exact fun e' he' => h e' (List.mem_cons_of_mem _ he')

theorem mem_writes_iff {w : Write} :
    w ∈ writes events ↔ Event.wrote w.path w.text w.succeeded ∈ events := by
  rw [writes, List.mem_filterMap]
  constructor
  · rintro ⟨e, he, hw⟩
    cases e <;> cases hw
    exact he
  · intro h
    exact ⟨_, h, rfl⟩

/-- Every write among the events goes to the path. -/
def WritesOnly (path : String) (events : List Event) : Prop := ∀ w ∈ writes events, w.path = path

namespace WritesOnly

variable {path : String} {more : List Event}

theorem of_nil (h : writes events = []) : WritesOnly path events := by
  intro w hw
  rw [h] at hw
  cases hw

theorem append (h₁ : WritesOnly path events) (h₂ : WritesOnly path more) :
    WritesOnly path (events ++ more) := by
  intro w hw
  rw [writes_append, List.mem_append] at hw
  exact hw.elim (h₁ w) (h₂ w)

theorem of_cons {e : Event} (h : WritesOnly path (e :: events)) : WritesOnly path events := by
  intro w hw
  rw [mem_writes_iff] at hw
  exact h w (mem_writes_iff.mpr (List.mem_cons_of_mem _ hw))

/-- A write to the path with log lines after it. -/
theorem wrote (text : String) (succeeded : Bool) (lines : List String) :
    WritesOnly path (.wrote path text succeeded :: lines.map .log) := by
  intro w hw
  rw [mem_writes_iff, List.mem_cons] at hw
  obtain hw | hw := hw
  · injection hw
  · simp at hw

end WritesOnly

/-! ### Moves and trails -/

/-- One event of a session and the session after it. -/
inductive Move (agents : Agents σ) : Session σ → Event → Session σ → Prop
  | log (s : Session σ) (line : String) : Move agents s (.log line) (s.noted [line])
  | read (s : Session σ) (path : String) : Move agents s (.read path) (s.looked path)
  | ask (s : Session σ) (prompt : String) : Move agents s (.asked prompt) (s.asked agents prompt)
  | verify (s : Session σ) (command directory : String) :
    Move agents s
      (.verified command directory (agents.verify s.world command directory).value.passed)
      (s.verified agents command directory)
  | write (s : Session σ) (path text : String) :
    Move agents s (.wrote path text (agents.write s.world path text).value.isOk)
      (s.written agents path text)

/-- Events one after the other, and the session after them. -/
inductive Trail (agents : Agents σ) : Session σ → List Event → Session σ → Prop
  | refl (s : Session σ) : Trail agents s [] s
  | cons {s s₁ s' : Session σ} {e : Event} {events : List Event} :
    Move agents s e s₁ → Trail agents s₁ events s' → Trail agents s (e :: events) s'

namespace Trail

theorem single {e : Event} (h : Move agents s e s') : Trail agents s [e] s' :=
  .cons h (.refl s')

theorem append {more : List Event} (h₁ : Trail agents s events s₁)
    (h₂ : Trail agents s₁ more s') : Trail agents s (events ++ more) s' := by
  induction h₁ with
  | refl => exact h₂
  | cons hm _ ih => exact .cons hm (ih h₂)

theorem noted (lines : List String) : Trail agents s (lines.map .log) (s.noted lines) := by
  induction lines generalizing s with
  | nil =>
    rw [Session.noted_nil]
    exact .refl s
  | cons line rest ih =>
    have h := ih (s := s.noted [line])
    rw [Session.noted_noted] at h
    exact .cons (.log s line) h

/-- A trail is what it adds to the trace. -/
theorem trace_eq (h : Trail agents s events s') : s'.trace = s.trace ++ events := by
  -- every primitive records the event that its move is about, and no other
  induction h with
  | refl => simp
  | cons hm _ ih =>
    rw [ih]
    cases hm <;> simp [Session.noted, Session.looked, Session.asked, Session.verified,
      Session.written, Session.record, Session.absorb]

/-- Events do not touch the history. -/
theorem history_eq (h : Trail agents s events s') : s'.history = s.history := by
  induction h with
  | refl => rfl
  | cons hm _ ih =>
    rw [ih]
    cases hm <;> rfl

end Trail

/-- The writes from one session to a later one. -/
def writesBetween (s s' : Session σ) : List Write := writes (s'.trace.drop s.trace.length)

theorem Trail.writesBetween_eq (h : Trail agents s events s') :
    writesBetween s s' = writes events := by
  rw [writesBetween, h.trace_eq, List.drop_left]

/-! ### Without a write -/

/-- A session comes after another without a write in between. -/
def Quiet (agents : Agents σ) (s s' : Session σ) : Prop :=
  ∃ events, Trail agents s events s' ∧ writes events = []

namespace Quiet

theorem refl (s : Session σ) : Quiet agents s s := ⟨[], .refl s, rfl⟩

theorem trans (h₁ : Quiet agents s s₁) (h₂ : Quiet agents s₁ s') : Quiet agents s s' := by
  obtain ⟨events, htrail, hwrites⟩ := h₁
  obtain ⟨more, hmore, hwrites'⟩ := h₂
  exact ⟨events ++ more, htrail.append hmore, by rw [writes_append, hwrites, hwrites']; rfl⟩

theorem history_eq (h : Quiet agents s s') : s'.history = s.history := by
  obtain ⟨events, htrail, -⟩ := h
  exact htrail.history_eq

theorem noted (lines : List String) : Quiet agents s (s.noted lines) :=
  ⟨_, .noted lines, writes_logs lines⟩

theorem looked (path : String) : Quiet agents s (s.looked path) :=
  ⟨_, .single (.read s path), rfl⟩

/-- A question with the log lines after it. -/
theorem asked (prompt : String) (lines : List String) :
    Quiet agents s ((s.asked agents prompt).noted lines) :=
  trans ⟨_, .single (.ask s prompt), rfl⟩ (noted lines)

end Quiet

end Codemod.Migration

/-!
## What the model is asked, and what is made of its answer

- `Answer.counted`, `Answer.proposed` — the count and the content in a model's reply
- `Prompt.count_injective` — different contents have different count prompts
- `countOccurrences_run`, `proposeChange_run` — one question, log lines, and nothing else
-/

namespace Codemod.Answer

/-- The count in a reply: zero unless the model says a number. -/
def counted : Except ModelError String → UInt64
  | .error _ => 0
  | .ok answer => (count? answer).getD 0

/-- The content to apply in a reply, if there is any. -/
def proposed (reply : Except ModelError String) (input : String) : Option String :=
  match reply with
  | .error _ => none
  | .ok answer => change? answer input

end Codemod.Answer

namespace Codemod.Prompt

/-- Count prompts tell contents apart. -/
theorem count_injective {content content' find label context : String}
    (h : count content find label context = count content' find label context) :
    content = content' := by
  unfold count block at h
  have hlists := congrArg String.toList h
  simp only [String.toList_append, List.append_assoc, List.append_cancel_left_eq,
    List.append_cancel_right_eq] at hlists
  exact String.toList_injective hlists

end Codemod.Prompt

namespace Codemod.Migration

variable {σ : Type} {agents : Agents σ} {s : Session σ}

/-- Counting asks the count prompt once; everything else it does is to log. -/
theorem countOccurrences_run (agents : Agents σ) (content find label context : String)
    (s : Session σ) :
    let prompt := Prompt.count content find label context
    ∃ lines, countOccurrences agents content find label context s =
      .ok (Answer.counted (agents.complete s.world prompt).value)
        ((s.asked agents prompt).noted lines) := by
  intro prompt
  unfold countOccurrences
  rw [bind_of_ok (ask_run prompt)]
  cases (agents.complete s.world prompt).value with
  | error cause => exact ⟨[_], rfl⟩
  | ok answer =>
    unfold Answer.counted
    dsimp only
    cases Answer.count? answer with
    | some n => exact ⟨[], by rw [Session.noted_nil]; rfl⟩
    | none => exact ⟨[_], rfl⟩

/-- Asking for a change asks once; everything else it does is to log. -/
theorem proposeChange_run (agents : Agents σ) (prompt input label : String) (s : Session σ) :
    ∃ lines, proposeChange agents prompt input label s =
      .ok (Answer.proposed (agents.complete s.world prompt).value input)
        ((s.asked agents prompt).noted lines) := by
  unfold proposeChange
  rw [bind_of_ok (ask_run prompt)]
  cases (agents.complete s.world prompt).value with
  | error cause => exact ⟨[_], rfl⟩
  | ok answer => exact ⟨[], by rw [Session.noted_nil]; rfl⟩

/-- A question with the log lines after it. -/
theorem Trail.asked (prompt : String) (lines : List String) :
    Trail agents s (.asked prompt :: lines.map .log) ((s.asked agents prompt).noted lines) :=
  .cons (.ask s prompt) (.noted lines)

end Codemod.Migration
