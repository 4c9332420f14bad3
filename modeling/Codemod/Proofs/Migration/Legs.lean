import Codemod.Proofs.Migration.Batch
import Codemod.Proofs.Migration.Restoration

/-!
# The legs of a run

A run counts in one file or migrates one file at a time, and looks at the cancellation flag before
each of these legs. What a run does is what its legs do; in between it only logs and adds points to
its history.

- `effects` — what was done, without the log
- `Aside` — what happens between legs
- `Leg`, `Leg.Runs`, `Legs` — one leg, and any number of them
- `Legs.effects_eq`, `Legs.history_prefix` — what legs do, and what the history keeps
-/

namespace Codemod.Migration

variable {σ : Type} {agents : Agents σ} {setup : Setup} {request : Request}
variable {file : String} {known : Option UInt64} {o : Outcome} {s s₁ s' : Session σ}

/-! ### What was done -/

/-- The event is something that was done, and not a line of the log. -/
def Event.isEffect : Event → Bool
  | .log _ => false
  | _ => true

/-- What was done, without the log. -/
def effects (events : List Event) : List Event := events.filter Event.isEffect

@[simp] theorem effects_append (events more : List Event) :
    effects (events ++ more) = effects events ++ effects more :=
  List.filter_append events more

@[simp] theorem effects_logs (lines : List String) : effects (lines.map .log) = [] := by
  rw [effects, List.filter_eq_nil_iff]
  rintro e he
  obtain ⟨line, -, rfl⟩ := List.mem_map.mp he
  exact Bool.false_ne_true

/-! ### Between legs -/

/-- Nothing was done but to log and to add points to the history. -/
def Aside (s s' : Session σ) : Prop :=
  ∃ (lines : List String) (points : List Snapshot), s' = { s with
    trace := s.trace ++ lines.map .log
    history := ⟨s.history.snapshots ++ points⟩ }

namespace Aside

theorem refl (s : Session σ) : Aside s s := ⟨[], [], by simp⟩

theorem trans (h₁ : Aside s s₁) (h₂ : Aside s₁ s') : Aside s s' := by
  obtain ⟨lines, points, rfl⟩ := h₁
  obtain ⟨more, later, rfl⟩ := h₂
  exact ⟨lines ++ more, points ++ later, by simp⟩

theorem noted (lines : List String) : Aside s (s.noted lines) :=
  ⟨lines, [], by simp [Session.noted]⟩

theorem opened (total : UInt64) : Aside s (s.opened agents total) :=
  ⟨[], [s.history.initialSnapshot (agents.now s.world) (totalOfCount total)], by
    simp [Session.opened, History.recordInitial, History.push]⟩

theorem of_booked (h : Booked agents o s s') : Aside s s' := by
  cases h with
  | fixed _ hfix =>
    obtain ⟨p, rfl, -⟩ := History.recordFix_eq_ok hfix
    exact ⟨[_], [p], rfl⟩
  | passed => exact .refl s

theorem effects_eq (h : Aside s s') : effects s'.trace = effects s.trace := by
  obtain ⟨lines, points, rfl⟩ := h
  simp

theorem history_prefix (h : Aside s s') : s.history.snapshots <+: s'.history.snapshots := by
  obtain ⟨lines, points, rfl⟩ := h
  exact List.prefix_append _ points

end Aside

theorem effects_noted (lines : List String) :
    effects (s.noted lines).trace = effects s.trace :=
  (Aside.noted lines).effects_eq

theorem effects_looked (path : String) :
    effects (s.looked path).trace = effects s.trace ++ [.read path] :=
  effects_append s.trace [.read path]

theorem effects_asked (prompt : String) :
    effects (s.asked agents prompt).trace = effects s.trace ++ [.asked prompt] :=
  effects_append s.trace [.asked prompt]

/-! ### Legs -/

/-- What a run does from one look at the cancellation flag to the next. -/
inductive Leg where
  /-- The occurrences in a file are counted. -/
  | count (file : String) (effects : List Event)
  /-- A file is migrated; there is no outcome when an overflow stops the run. -/
  | step (file : String) (outcome : Option Outcome) (effects : List Event)

/-- What is done on a leg. -/
def Leg.effects : Leg → List Event
  | count _ effects | step _ _ effects => effects

/-- The leg leads from one session to another. -/
inductive Leg.Runs (agents : Agents σ) (setup : Setup) (request : Request) (s : Session σ) :
    Leg → Session σ → Prop
  | count {file : String} {known : Option UInt64} {events : List Event} {s' : Session σ} :
    countFile agents setup request.find file s = .ok known s' → s'.trace = s.trace ++ events →
    Leg.Runs agents setup request s (.count file (Migration.effects events)) s'
  | step {file : String} {known : Option UInt64} {o : Outcome} {events : List Event}
      {s' : Session σ} :
    runStep agents (setup.job request) file known s = .ok o s' → s'.trace = s.trace ++ events →
    Leg.Runs agents setup request s (.step file (some o) (Migration.effects events)) s'
  | overflow {file : String} {known : Option UInt64} {e : Overflow} {events : List Event}
      {s' : Session σ} :
    runStep agents (setup.job request) file known s = .error e s' → s'.trace = s.trace ++ events →
    Leg.Runs agents setup request s (.step file none (Migration.effects events)) s'

theorem countFile_trail {find : String} (h : countFile agents setup find file s = .ok known s') :
    ∃ events, Trail agents s events s' := by
  obtain ⟨known', s₁, hcount, ⟨events, htrail, -⟩, -⟩ := countFile_run agents setup find file s
  rw [h] at hcount
  cases hcount
  exact ⟨events, htrail⟩

theorem runStep_trail (agents : Agents σ) (job : Job) (file : String) (known : Option UInt64)
    (s : Session σ) :
    ∃ events, Trail agents s events (finalSession (runStep agents job file known s)) := by
  obtain ⟨events, hevents⟩ := (runStep_run agents job file known s).stepEvents
  exact ⟨events, hevents.trail⟩

theorem countFile_leg (h : countFile agents setup request.find file s = .ok known s') :
    ∃ done, Leg.Runs agents setup request s (.count file done) s' := by
  obtain ⟨events, htrail⟩ := countFile_trail h
  exact ⟨_, .count h htrail.trace_eq⟩

theorem runStep_leg (h : runStep agents (setup.job request) file known s = .ok o s') :
    ∃ done, Leg.Runs agents setup request s (.step file (some o) done) s' := by
  obtain ⟨events, htrail⟩ := runStep_trail agents (setup.job request) file known s
  rw [h] at htrail
  exact ⟨_, .step h htrail.trace_eq⟩

theorem runStep_overflow_leg {e : Overflow}
    (h : runStep agents (setup.job request) file known s = .error e s') :
    ∃ done, Leg.Runs agents setup request s (.step file none done) s' := by
  obtain ⟨events, htrail⟩ := runStep_trail agents (setup.job request) file known s
  rw [h] at htrail
  exact ⟨_, .overflow h htrail.trace_eq⟩

/-- A leg is a trail of events, and what is done on it are their effects. -/
theorem Leg.Runs.trail {leg : Leg} (h : Leg.Runs agents setup request s leg s') :
    ∃ events, Trail agents s events s' ∧ leg.effects = Migration.effects events := by
  have hsame : ∀ {events more}, s'.trace = s.trace ++ events → Trail agents s more s' →
      Migration.effects events = Migration.effects more := by
    intro events more htrace htrail
    rw [List.append_cancel_left (htrace.symm.trans htrail.trace_eq)]
  cases h with
  | count hcount htrace =>
    obtain ⟨more, htrail⟩ := countFile_trail hcount
    exact ⟨more, htrail, hsame htrace htrail⟩
  | @step file known o events _ hrun htrace =>
    obtain ⟨more, htrail⟩ := runStep_trail agents (setup.job request) file known s
    rw [hrun] at htrail
    exact ⟨more, htrail, hsame htrace htrail⟩
  | @overflow file known e events _ hrun htrace =>
    obtain ⟨more, htrail⟩ := runStep_trail agents (setup.job request) file known s
    rw [hrun] at htrail
    exact ⟨more, htrail, hsame htrace htrail⟩

theorem Leg.Runs.history_eq {leg : Leg} (h : Leg.Runs agents setup request s leg s') :
    s'.history = s.history := by
  obtain ⟨events, htrail, -⟩ := h.trail
  exact htrail.history_eq

/-- Legs one after the other. Each begins with the flag clear. -/
inductive Legs (agents : Agents σ) (setup : Setup) (request : Request) :
    Session σ → List Leg → Session σ → Prop
  | aside {s s' : Session σ} : Aside s s' → Legs agents setup request s [] s'
  | cons {leg : Leg} {legs : List Leg} {s s₁ s₂ s' : Session σ} :
    Aside s s₁ → s₁.cancelled = false → Leg.Runs agents setup request s₁ leg s₂ →
    Legs agents setup request s₂ legs s' → Legs agents setup request s (leg :: legs) s'

namespace Legs

variable {legs more : List Leg}

theorem after (haside : Aside s s₁) (h : Legs agents setup request s₁ legs s') :
    Legs agents setup request s legs s' := by
  cases h with
  | aside h => exact .aside (haside.trans h)
  | cons h hclear hleg hrest => exact .cons (haside.trans h) hclear hleg hrest

theorem trans (h₁ : Legs agents setup request s legs s₁)
    (h₂ : Legs agents setup request s₁ more s') :
    Legs agents setup request s (legs ++ more) s' := by
  induction h₁ with
  | aside h => exact h₂.after h
  | cons h hclear hleg _ ih => exact .cons h hclear hleg (ih h₂)

theorem before (h : Legs agents setup request s legs s₁) (haside : Aside s₁ s') :
    Legs agents setup request s legs s' := by
  have htrans := h.trans (.aside haside)
  rwa [List.append_nil] at htrans

/-- What is done on legs is what is done on each of them, in order. -/
theorem effects_eq (h : Legs agents setup request s legs s') :
    effects s'.trace = effects s.trace ++ legs.flatMap Leg.effects := by
  induction h with
  | aside h => rw [h.effects_eq, List.flatMap_nil, List.append_nil]
  | cons h _ hleg _ ih =>
    obtain ⟨events, htrail, hdone⟩ := hleg.trail
    rw [ih, htrail.trace_eq, effects_append, h.effects_eq, List.flatMap_cons, hdone,
      List.append_assoc]

/-- Legs leave the points of the history where they are. -/
theorem history_prefix (h : Legs agents setup request s legs s') :
    s.history.snapshots <+: s'.history.snapshots := by
  induction h with
  | aside h => exact h.history_prefix
  | cons h _ hleg _ ih =>
    rw [hleg.history_eq] at ih
    exact h.history_prefix.trans ih

end Legs

end Codemod.Migration
