import Codemod.Proofs.Migration.Loops

/-!
# Two runs beside each other

Two activities that begin in related sessions may do the same, so that their values and the sessions
after them are related again. Loops may do so although the second has items that the first has not,
when these leave the relation as it is.

- `Alike`, `Parallel` — ends and activities that are related
- `Unnoticed` — what the second run does alone
- `Interspersed` — a list with further items between those of another
- `Loop.parallel` — loops over such lists
-/

namespace Codemod.Migration

variable {σ ι α α' β β' γ : Type} {R : Session σ → Session σ → Prop}
variable {V : α → α' → Prop} {W : β → β' → Prop} {s s₁ s' : Session σ}

/-! ### Activities beside each other -/

/-- Two activities end in values that are related or in the same overflow, and in sessions that are
related. -/
inductive Alike (R : Session σ → Session σ → Prop) (V : α → α' → Prop) :
    EStateM.Result Overflow (Session σ) α → EStateM.Result Overflow (Session σ) α' → Prop
  | ok {a : α} {a' : α'} {s s' : Session σ} : V a a' → R s s' → Alike R V (.ok a s) (.ok a' s')
  | error {e : Overflow} {s s' : Session σ} : R s s' → Alike R V (.error e s) (.error e s')

theorem Alike.finalSession {r : EStateM.Result Overflow (Session σ) α}
    {r' : EStateM.Result Overflow (Session σ) α'} (h : Alike R V r r') :
    R (Migration.finalSession r) (Migration.finalSession r') := by
  cases h with
  | ok _ hrel => exact hrel
  | error hrel => exact hrel

theorem Alike.mono {R' : Session σ → Session σ → Prop}
    {r : EStateM.Result Overflow (Session σ) α} {r' : EStateM.Result Overflow (Session σ) α'}
    (h : Alike R V r r') (hmono : ∀ s s', R s s' → R' s s') : Alike R' V r r' := by
  cases h with
  | ok hvalue hrel => exact .ok hvalue (hmono _ _ hrel)
  | error hrel => exact .error (hmono _ _ hrel)

/-- From sessions that are related, the activities end alike. -/
def Parallel (R : Session σ → Session σ → Prop) (V : α → α' → Prop) (x : Activity σ α)
    (y : Activity σ α') : Prop :=
  ∀ s s', R s s' → Alike R V (x s) (y s')

/-- The second activity goes on alone: the relation holds afterwards, and its value is of a kind. -/
def Unnoticed (R : Session σ → Session σ → Prop) (P : α → Prop) (y : Activity σ α) : Prop :=
  ∀ s s', R s s' → ∃ a s₁, y s' = .ok a s₁ ∧ P a ∧ R s s₁

namespace Parallel

theorem pure {a : α} {a' : α'} (h : V a a') :
    Parallel R V (Pure.pure a) (Pure.pure a') := fun _ _ hrel => .ok h hrel

theorem bind {x : Activity σ α} {y : Activity σ α'} {f : α → Activity σ β}
    {g : α' → Activity σ β'} (hx : Parallel R V x y)
    (hf : ∀ a a', V a a' → Parallel R W (f a) (g a')) : Parallel R W (x >>= f) (y >>= g) := by
  intro s s' hrel
  have hfirst := hx s s' hrel
  cases hrun : x s with
  | ok a s₁ =>
    cases hrun' : y s' with
    | ok a' s₁' =>
      rw [hrun, hrun'] at hfirst
      cases hfirst with
      | ok hvalue hnext =>
        rw [bind_of_ok hrun, bind_of_ok hrun']
        exact hf a a' hvalue _ _ hnext
    | error e s₁' =>
      rw [hrun, hrun'] at hfirst
      cases hfirst
  | error e s₁ =>
    cases hrun' : y s' with
    | ok a' s₁' =>
      rw [hrun, hrun'] at hfirst
      cases hfirst
    | error e' s₁' =>
      rw [hrun, hrun'] at hfirst
      cases hfirst with
      | error hnext =>
        rw [bind_of_error hrun, bind_of_error hrun']
        exact .error hnext

/-- Both results of checked arithmetic are related, or both are the same overflow. -/
theorem checked {x : Except Overflow α} {y : Except Overflow α'}
    (h : (∃ e, x = .error e ∧ y = .error e) ∨ ∃ a a', x = .ok a ∧ y = .ok a' ∧ V a a') :
    Parallel R V (Migration.checked x) (Migration.checked y) := by
  intro s s' hrel
  obtain ⟨e, rfl, rfl⟩ | ⟨a, a', rfl, rfl, hvalue⟩ := h
  · exact .error hrel
  · exact .ok hvalue hrel

theorem checked_eq (x : Except Overflow α) :
    Parallel R Eq (Migration.checked x) (Migration.checked x) := by
  refine .checked ?_
  cases x with
  | error e => exact .inl ⟨e, rfl, rfl⟩
  | ok a => exact .inr ⟨a, a, rfl, rfl, rfl⟩

end Parallel

namespace Unnoticed

variable {P : α → Prop} {Q : β → Prop}

theorem pure {a : α} (h : P a) : Unnoticed R P (Pure.pure a) :=
  fun _ s' hrel => ⟨a, s', rfl, h, hrel⟩

theorem bind {x : Activity σ α} {f : α → Activity σ β} (hx : Unnoticed R P x)
    (hf : ∀ a, P a → Unnoticed R Q (f a)) : Unnoticed R Q (x >>= f) := by
  intro s s' hrel
  obtain ⟨a, s₁, hrun, hvalue, hnext⟩ := hx s s' hrel
  obtain ⟨b, s₂, hrest, hresult, hlast⟩ := hf a hvalue s s₁ hnext
  exact ⟨b, s₂, (bind_of_ok hrun).trans hrest, hresult, hlast⟩

end Unnoticed

/-! ### Items that only the second run has -/

/-- The second list has further items between those of the first. -/
inductive Interspersed (common further : ι → Prop) : List ι → List ι → Prop
  | nil : Interspersed common further [] []
  | common {item : ι} {items items' : List ι} :
    common item → Interspersed common further items items' →
    Interspersed common further (item :: items) (item :: items')
  | further {item : ι} {items items' : List ι} :
    further item → Interspersed common further items items' →
    Interspersed common further items (item :: items')

namespace Interspersed

variable {common further : ι → Prop} {items items' more more' : List ι}

theorem nil_of_nil (h : Interspersed common further items []) : items = [] := by
  cases h
  rfl

theorem append (h : Interspersed common further items items')
    (hmore : Interspersed common further more more') :
    Interspersed common further (items ++ more) (items' ++ more') := by
  induction h with
  | nil => exact hmore
  | common hitem _ ih => exact .common hitem ih
  | further hitem _ ih => exact .further hitem ih

/-- What a filter takes away lies between what it leaves. -/
theorem of_filter {p : γ → Bool} {f : γ → ι} {entries : List γ}
    (hcommon : ∀ entry ∈ entries, p entry = true → common (f entry))
    (hfurther : ∀ entry ∈ entries, p entry = false → further (f entry)) :
    Interspersed common further ((entries.filter p).map f) (entries.map f) := by
  induction entries with
  | nil => exact .nil
  | cons entry rest ih =>
    rw [List.forall_mem_cons] at hcommon hfurther
    have hrest := ih hcommon.2 hfurther.2
    cases hp : p entry with
    | true =>
      rw [List.filter_cons_of_pos hp]
      exact .common (hcommon.1 hp) hrest
    | false =>
      rw [List.filter_cons_of_neg (by rw [hp]; exact Bool.false_ne_true)]
      exact .further (hfurther.1 hp) hrest

end Interspersed

/-- How two loops go on after an item of both: both loops, or neither, or only the first, which has
no items left and ends in a value that is related. -/
inductive Onward (loop : Loop σ ι α β) (V : α → α → Prop) (W : β → β → Prop) (rest : List ι) :
    α ⊕ β → α ⊕ β → Prop
  | both {a a' : α} : V a a' → Onward loop V W rest (.inl a) (.inl a')
  | neither {b b' : β} : W b b' → Onward loop V W rest (.inr b) (.inr b')
  | first {a : α} {b b' : β} :
    rest = [] → loop.finish a = Pure.pure b → W b b' → Onward loop V W rest (.inl a) (.inr b')

/-- Two loops end alike over lists of which the second has further items, when both do the same with
the items of both, and the second leaves everything as it is with the further ones. -/
theorem Loop.parallel {loop loop' : Loop σ ι α β} {V : α → α → Prop} {W : β → β → Prop}
    {common further : ι → Prop} {items items' : List ι}
    (hclear : ∀ s s', R s s' → s.cancelled = false ∧ s'.cancelled = false)
    (hfinish : ∀ a a', V a a' → Parallel R W (loop.finish a) (loop'.finish a'))
    (hcommon : ∀ a a' item rest rest', common item → V a a' →
      Interspersed common further rest rest' →
      Parallel R (Onward loop V W rest) (loop.body a item rest) (loop'.body a' item rest'))
    (hfurther : ∀ a a' item rest', further item → V a a' →
      Unnoticed R (fun next => ∃ a'', next = .inl a'' ∧ V a a'') (loop'.body a' item rest'))
    (h : Interspersed common further items items') {a a' : α} (hvalue : V a a') :
    Parallel R W (loop.run a items) (loop'.run a' items') := by
  -- on how the items lie between each other
  induction h generalizing a a' with
  | nil => exact hfinish a a' hvalue
  | @common item rest rest' hitem hrest ih =>
    intro s s' hrel
    obtain ⟨hgoes, hgoes'⟩ := hclear s s' hrel
    rw [Loop.run_cons, Loop.run_cons, isCancelled_bind, isCancelled_bind, hgoes, hgoes',
      if_neg Bool.false_ne_true, if_neg Bool.false_ne_true]
    refine (hcommon a a' item rest rest' hitem hvalue hrest).bind (fun next next' hnext => ?_) s s'
      hrel
    cases hnext with
    | both hvalue => exact ih hvalue
    | neither hresult => exact .pure hresult
    | first hnil hend hresult =>
      show Parallel R W (loop.run _ rest) (Pure.pure _)
      rw [hnil]
      show Parallel R W (loop.finish _) (Pure.pure _)
      rw [hend]
      exact .pure hresult
  | @further item rest rest' hitem hrest ih =>
    intro s s' hrel
    obtain ⟨-, hgoes'⟩ := hclear s s' hrel
    obtain ⟨next, s₁, hrun, ⟨a'', rfl, hvalue'⟩, hrel'⟩ :=
      hfurther a a' item rest' hitem hvalue s s' hrel
    rw [Loop.run_cons, isCancelled_bind, hgoes', if_neg Bool.false_ne_true, bind_of_ok hrun]
    exact ih hvalue' s s₁ hrel'

end Codemod.Migration
