import Codemod.Migration.Script
import Codemod.Proofs.Migration.Loops

/-!
# The counts that the model gives

What a prompt asks for is read off its first line. The model's answers to the prompts that ask for a
count are the only numbers that come into a run; this module adds them up, event by event, for the
legs of a run and for the activities that are made of them.

- `ofPrompt_count` — the prompts that ask for a count
- `Agents.given`, `Agents.givenBetween` — the sum of the counts that the model gives
- `Agents.counts`, `Agents.countsBetween` — the counts themselves
- `Gave` — the sum from one session to a later one
- `Gave.of_onLegs`, `Gave.split` — what is given in an activity, and in its parts
-/

namespace Codemod

/-- The first line of a prompt names the task. -/
theorem Prompt.takeWhile_header {task : String} (context : String) (rest : List Char)
    (htask : task.toList.all (· != '\n') = true) :
    ((header task context).toList ++ rest).takeWhile (· != '\n') =
      "You are an expert ".toList ++ task.toList := by
  have hfirst : ∀ c ∈ "You are an expert ".toList ++ task.toList, (c != '\n') = true := by
    have hexpert : "You are an expert ".toList.all (· != '\n') = true := by decide +kernel
    intro c hc
    rw [List.mem_append] at hc
    exact hc.elim (List.all_eq_true.mp hexpert c) (List.all_eq_true.mp htask c)
  have hbreak : "\n\n# Project context:\n".toList = '\n' :: "\n# Project context:\n".toList := by
    decide +kernel
  unfold header
  simp only [String.toList_append, List.append_assoc]
  rw [← List.append_assoc, List.takeWhile_append_of_pos hfirst, hbreak, List.cons_append,
    List.takeWhile_cons_of_neg (by decide), List.append_nil]

theorem Migration.ofPrompt_count (content find label context : String) :
    PromptKind.ofPrompt (Prompt.count content find label context) = .count := by
  unfold PromptKind.ofPrompt Prompt.count
  simp only [String.toList_append, List.append_assoc]
  rw [Prompt.takeWhile_header _ _ (by decide +kernel)]
  decide +kernel

end Codemod

namespace Codemod.Migration

variable {σ α β : Type} {agents : Agents σ} {setup : Setup} {request : Request}
variable {w : World σ} {s s₁ s' : Session σ} {events more : List Event} {n m : Nat}

/-! ### The counts of events -/

/-- The world after an event. -/
def Agents.next (agents : Agents σ) (w : World σ) : Event → World σ
  | .log _ | .read _ => w
  | .asked prompt => (agents.complete w prompt).world
  | .verified command directory _ => (agents.verify w command directory).world
  | .wrote path text _ => (agents.write w path text).world

/-- The count that the model gives in an event: zero unless the event asks for one. -/
def Agents.countIn (agents : Agents σ) (w : World σ) : Event → Nat
  | .asked prompt =>
    if PromptKind.ofPrompt prompt = .count then
      (Answer.counted (agents.complete w prompt).value).toNat
    else 0
  | _ => 0

/-- The world after events. -/
def Agents.replay (agents : Agents σ) (w : World σ) (events : List Event) : World σ :=
  events.foldl agents.next w

/-- The sum of the counts that the model gives in events. -/
def Agents.given (agents : Agents σ) : World σ → List Event → Nat
  | _, [] => 0
  | w, e :: events => agents.countIn w e + agents.given (agents.next w e) events

/-- The sum of the counts that the model gives between two sessions. -/
def Agents.givenBetween (agents : Agents σ) (s s' : Session σ) : Nat :=
  agents.given s.world (s'.trace.drop s.trace.length)

/-- The counts that the model gives in events, in order: zero for an event that asks for none. -/
def Agents.counts (agents : Agents σ) : World σ → List Event → List Nat
  | _, [] => []
  | w, e :: events => agents.countIn w e :: agents.counts (agents.next w e) events

/-- The counts that the model gives between two sessions. -/
def Agents.countsBetween (agents : Agents σ) (s s' : Session σ) : List Nat :=
  agents.counts s.world (s'.trace.drop s.trace.length)

theorem Agents.replay_append :
    agents.replay w (events ++ more) = agents.replay (agents.replay w events) more :=
  List.foldl_append

theorem Agents.counts_append :
    agents.counts w (events ++ more) =
      agents.counts w events ++ agents.counts (agents.replay w events) more := by
  induction events generalizing w with
  | nil => rfl
  | cons e events ih =>
    rw [List.cons_append, counts, ih, counts, List.cons_append]
    rfl

theorem Agents.given_eq_sum (w : World σ) (events : List Event) :
    agents.given w events = (agents.counts w events).sum := by
  induction events generalizing w with
  | nil => rfl
  | cons e events ih => rw [given, counts, List.sum_cons, ih]

theorem Agents.given_append :
    agents.given w (events ++ more) =
      agents.given w events + agents.given (agents.replay w events) more := by
  rw [given_eq_sum, counts_append, List.sum_append, ← given_eq_sum, ← given_eq_sum]

theorem Agents.countIn_le {bound : Nat}
    (h : ∀ w prompt, (Answer.counted (agents.complete w prompt).value).toNat ≤ bound)
    (w : World σ) (e : Event) : agents.countIn w e ≤ bound := by
  unfold countIn
  split
  · split
    · exact h w _
    · exact Nat.zero_le bound
  · exact Nat.zero_le bound

/-- A model that never counts more than a bound gives no more than that for each event. -/
theorem Agents.given_le {bound : Nat}
    (h : ∀ w prompt, (Answer.counted (agents.complete w prompt).value).toNat ≤ bound)
    (w : World σ) (events : List Event) : agents.given w events ≤ events.length * bound := by
  induction events generalizing w with
  | nil => exact Nat.zero_le _
  | cons e events ih =>
    rw [given, List.length_cons, Nat.succ_mul, Nat.add_comm]
    exact Nat.add_le_add (ih _) (countIn_le h w e)

theorem Agents.replay_logs (lines : List String) : agents.replay w (lines.map .log) = w := by
  induction lines with
  | nil => rfl
  | cons line rest ih => exact ih

theorem Agents.given_logs (lines : List String) : agents.given w (lines.map .log) = 0 := by
  induction lines with
  | nil => rfl
  | cons line rest ih => exact (Nat.zero_add _).trans ih

/-- A model that never counts more than a bound gives no count above it. -/
theorem Agents.counts_le {bound : Nat}
    (h : ∀ w prompt, (Answer.counted (agents.complete w prompt).value).toNat ≤ bound) :
    ∀ k ∈ agents.counts w events, k ≤ bound := by
  induction events generalizing w with
  | nil => exact nofun
  | cons e events ih => exact List.forall_mem_cons.mpr ⟨countIn_le h w e, ih⟩

theorem Agents.countsBetween_of_trace (h : s'.trace = s.trace ++ events) :
    agents.countsBetween s s' = agents.counts s.world events := by
  rw [countsBetween, h, List.drop_left]

/-- Log lines leave the world as it is. -/
theorem Agents.replay_effects (w : World σ) (events : List Event) :
    agents.replay w (effects events) = agents.replay w events := by
  induction events generalizing w with
  | nil => rfl
  | cons e events ih =>
    cases e with
    | log => exact ih w
    | read | asked | verified | wrote => exact ih _

/-- What is counted is counted without the log. -/
theorem Agents.mem_counts_of_effects {k : Nat} (h : k ∈ agents.counts w (effects events)) :
    k ∈ agents.counts w events := by
  induction events generalizing w with
  | nil => exact h
  | cons e events ih =>
    cases e with
    | log => exact List.mem_cons_of_mem _ (ih h)
    | read | asked | verified | wrote =>
      obtain heq | hmem := List.mem_cons.mp h
      · exact List.mem_cons.mpr (.inl heq)
      · exact List.mem_cons_of_mem _ (ih hmem)

/-! ### From one session to a later one -/

/-- The model gave counts of this sum from one session to a later one. -/
def Gave (agents : Agents σ) (s s' : Session σ) (n : Nat) : Prop :=
  ∃ events, s'.trace = s.trace ++ events ∧ s'.world = agents.replay s.world events ∧
    agents.given s.world events = n

namespace Gave

theorem of_aside (h : Aside s s') : Gave agents s s' 0 := by
  obtain ⟨lines, points, rfl⟩ := h
  exact ⟨lines.map .log, rfl, (agents.replay_logs lines).symm, agents.given_logs lines⟩

theorem refl (s : Session σ) : Gave agents s s 0 := of_aside (.refl s)

theorem noted (lines : List String) : Gave agents s (s.noted lines) 0 := of_aside (.noted lines)

theorem trans (h₁ : Gave agents s s₁ n) (h₂ : Gave agents s₁ s' m) :
    Gave agents s s' (n + m) := by
  obtain ⟨events, htrace, hworld, rfl⟩ := h₁
  obtain ⟨more, htrace', hworld', rfl⟩ := h₂
  refine ⟨events ++ more, by rw [htrace', htrace, List.append_assoc], ?_, ?_⟩
  · rw [hworld', hworld, agents.replay_append]
  · rw [agents.given_append, hworld]

theorem givenBetween_eq (h : Gave agents s s' n) : agents.givenBetween s s' = n := by
  obtain ⟨events, htrace, -, rfl⟩ := h
  rw [Agents.givenBetween, htrace, List.drop_left]

theorem unique (h₁ : Gave agents s s' n) (h₂ : Gave agents s s' m) : n = m :=
  h₁.givenBetween_eq.symm.trans h₂.givenBetween_eq

/-- The counts of two stretches are those of the one and then those of the other. -/
theorem countsBetween_eq {a b : Nat} (h₁ : Gave agents s s₁ a) (h₂ : Gave agents s₁ s' b) :
    agents.countsBetween s s' = agents.countsBetween s s₁ ++ agents.countsBetween s₁ s' := by
  obtain ⟨events, htrace, hworld, -⟩ := h₁
  obtain ⟨more, htrace', -, -⟩ := h₂
  rw [Agents.countsBetween_of_trace htrace, Agents.countsBetween_of_trace htrace', hworld,
    ← Agents.counts_append]
  rw [htrace, List.append_assoc] at htrace'
  exact Agents.countsBetween_of_trace htrace'

theorem of_move {e : Event} (h : Move agents s e s') :
    Gave agents s s' (agents.countIn s.world e) := by
  refine ⟨[e], ?_, ?_, Nat.add_zero _⟩
  · cases h <;> rfl
  · cases h <;> rfl

theorem of_trail (h : Trail agents s events s') : ∃ n, Gave agents s s' n := by
  induction h with
  | refl s => exact ⟨0, .refl s⟩
  | cons hmove _ ih =>
    obtain ⟨n, hn⟩ := ih
    exact ⟨_, (of_move hmove).trans hn⟩

theorem of_legs {legs : List Leg} (h : Legs agents setup request s legs s') :
    ∃ n, Gave agents s s' n := by
  induction h with
  | aside h => exact ⟨0, of_aside h⟩
  | cons haside _ hleg _ ih =>
    obtain ⟨events, htrail, -⟩ := hleg.trail
    obtain ⟨n, hn⟩ := of_trail htrail
    obtain ⟨m, hm⟩ := ih
    exact ⟨_, ((of_aside haside).trans hn).trans hm⟩

theorem of_onLegs {kind : Leg → Prop} {x : Activity σ α}
    (hx : OnLegs agents setup request kind x) (s : Session σ) :
    ∃ n, Gave agents s (finalSession (x s)) n := by
  obtain ⟨legs, -, hlegs⟩ := hx s
  exact of_legs hlegs

/-- What is given in two activities is what is given in the first and then in the second. -/
theorem split {x : Activity σ α} {f : α → Activity σ β} (kind : Leg → Prop)
    (hx : Gave agents s (finalSession (x s₁)) n)
    (h : Gave agents s (finalSession ((x >>= f) s₁)) m)
    (hf : ∀ a, OnLegs agents setup request kind (f a)) :
    ∃ k, m = n + k ∧ ∀ a s', x s₁ = .ok a s' → Gave agents s' (finalSession (f a s')) k := by
  cases hr : x s₁ with
  | ok a s' =>
    rw [hr] at hx
    rw [bind_of_ok hr] at h
    obtain ⟨k, hk⟩ := of_onLegs (hf a) s'
    refine ⟨k, h.unique (hx.trans hk), ?_⟩
    rintro _ _ ⟨⟩
    exact hk
  | error e s' =>
    rw [hr] at hx
    rw [bind_of_error hr] at h
    exact ⟨0, h.unique hx, nofun⟩

/-- A count prompt with the log lines after its answer. -/
theorem counted (content find label context : String) (lines : List String) :
    Gave agents s ((s.asked agents (Prompt.count content find label context)).noted lines)
      (Answer.counted
        (agents.complete s.world (Prompt.count content find label context)).value).toNat := by
  have hmove : Gave agents s _ _ := of_move (.ask s (Prompt.count content find label context))
  rw [Agents.countIn, ofPrompt_count, if_pos rfl] at hmove
  exact hmove.trans (.noted lines)

end Gave

end Codemod.Migration
