import Codemod.Proofs.Migration.Loops

/-!
# A run that is asked to stop

The cancellation flag is looked at before the legs of a run, and nowhere else. So a run that is
asked to stop does the first legs of the run that nobody stops, every one of them in full, and
nothing after them.

- `Shortened` — a result beside that of the same activity with nobody to stop it
- `Stoppable` — an activity that is cut before a leg or not at all, whoever stops it
- `cancelled_does_first_legs` — counts and migrations
-/

namespace Codemod.Migration

variable {σ α β ι : Type} {agents : Agents σ} {setup : Setup} {request : Request}
variable {s s₁ s' : Session σ} {legs : List Leg} {leg : Leg} {kind kind' : Leg → Prop}

/-- A result of a run beside that of the run that nobody stops: the same, or cut short before a
leg of it. -/
inductive Shortened (agents : Agents σ) (setup : Setup) (request : Request)
    (stopped : α → Leg → Prop) (s : Session σ) :
    EStateM.Result Overflow (Session σ) α → EStateM.Result Overflow (Session σ) α → Prop
  | whole {r : EStateM.Result Overflow (Session σ) α} {legs : List Leg} :
    Legs agents setup request s legs (finalSession r) →
    Shortened agents setup request stopped s r (unflag r)
  | cut {a : α} {m : Session σ} {done ahead : List Leg} {leg : Leg} {lines : List String}
      {r : EStateM.Result Overflow (Session σ) α} :
    Legs agents setup request s done m → m.cancelled = true →
    Legs agents.unflagged setup request m.unflagged (leg :: ahead) (finalSession r) →
    stopped a leg →
    Shortened agents setup request stopped s (.ok a (m.noted lines)) r

/-- The activity goes leg by leg, and is cut before a leg or not at all. -/
structure Stoppable (setup : Setup) (request : Request) (kind : Leg → Prop)
    (stopped : α → Leg → Prop) (x : Agents σ → Activity σ α) : Prop where
  onLegs : ∀ agents, OnLegs agents setup request kind (x agents)
  shortened : ∀ agents s, Shortened agents setup request stopped s (x agents s)
    (x agents.unflagged s.unflagged)

namespace Stoppable

variable {stopped : α → Leg → Prop} {stopped' : β → Leg → Prop}

theorem of_chore {x : Agents σ → Activity σ α} (h : Chore x) :
    Stoppable setup request kind stopped x where
  onLegs agents := (h.idle agents).onLegs
  shortened agents s := by
    rw [h.heedless agents s]
    exact .whole (.aside (h.idle agents s))

/-- What follows an activity that is cut only passes the cut on. -/
theorem bind {x : Agents σ → Activity σ α} {f : Agents σ → α → Activity σ β}
    (hx : Stoppable setup request kind stopped x)
    (hf : ∀ a, Stoppable setup request kind stopped' fun agents => f agents a)
    (hstop : ∀ a leg, stopped a leg → ∀ agents m, ∃ b lines,
      f agents a m = .ok b (m.noted lines) ∧ stopped' b leg) :
    Stoppable setup request kind stopped' fun agents => x agents >>= f agents where
  onLegs agents := (hx.onLegs agents).bind fun a => (hf a).onLegs agents
  shortened agents s := by
    have hfirst := hx.shortened agents s
    generalize hr : x agents s = r at hfirst
    generalize hr₀ : x agents.unflagged s.unflagged = r₀ at hfirst
    cases hfirst with
    | whole hlegs =>
      cases r with
      | error e s₁ =>
        rw [bind_of_error hr, bind_of_error hr₀]
        exact .whole hlegs
      | ok a s₁ =>
        rw [bind_of_ok hr, bind_of_ok hr₀]
        have hrest := (hf a).shortened agents s₁
        generalize f agents a s₁ = r at hrest ⊢
        generalize f agents.unflagged a s₁.unflagged = r₀ at hrest ⊢
        cases hrest with
        | whole hmore => exact .whole (hlegs.trans hmore)
        | cut hdone hset hahead hstopped => exact .cut (hlegs.trans hdone) hset hahead hstopped
    | @cut a m done ahead leg lines _ hdone hset hahead hstopped =>
      obtain ⟨b, more, hrun, hpassed⟩ := hstop a leg hstopped agents (m.noted lines)
      rw [bind_of_ok hr, hrun, Session.noted_noted]
      rw [← hr₀] at hahead
      obtain ⟨later, -, hlater⟩ := hahead.bind (f := f agents.unflagged) fun a =>
        (hf a).onLegs agents.unflagged
      exact .cut hdone hset hlater hpassed

theorem mono {x : Agents σ → Activity σ α} (h : Stoppable setup request kind stopped x)
    (hkind : ∀ leg, kind leg → kind' leg) : Stoppable setup request kind' stopped x where
  onLegs agents := (h.onLegs agents).mono hkind
  shortened := h.shortened

/-- Before an activity that is cut, chores are done in any case. -/
theorem after {x : Agents σ → Activity σ α} {f : Agents σ → α → Activity σ β} (hx : Chore x)
    (hf : ∀ a, Stoppable setup request kind stopped' fun agents => f agents a) :
    Stoppable setup request kind stopped' fun agents => x agents >>= f agents :=
  bind (of_chore hx : Stoppable setup request kind (fun _ _ => False) x) hf fun _ _ h => h.elim

/-- What is made of the session does not depend on the flag. -/
theorem of_session {f : Agents σ → Session σ → Activity σ α}
    (hsame : ∀ (agents : Agents σ) (s : Session σ),
      f agents.unflagged s.unflagged = f agents.unflagged s)
    (hf : ∀ s, Stoppable setup request kind stopped fun agents => f agents s) :
    Stoppable setup request kind stopped fun agents => get >>= f agents where
  onLegs agents s := (hf s).onLegs agents s
  shortened agents s := by
    rw [get_bind, get_bind, hsame]
    exact (hf s).shortened agents s

end Stoppable

namespace Loop.ByLegs

variable {counts : Bool} {stopped : β → Prop} {loop : Agents σ → Loop σ ι α β}

/-- A loop that is asked to stop has done the first legs of the loop that nobody stops. -/
theorem shortened (h : ByLegs setup request counts stopped loop) (a : α) (items : List ι)
    (s : Session σ) :
    Shortened agents setup request (fun b leg => stopped b ∧ leg.isCount = counts) s
      ((loop agents).run a items s) ((loop agents.unflagged).run a items s.unflagged) := by
  -- on the items; the flag may be raised in any of them, and is seen before the next
  induction items generalizing a s with
  | nil =>
    unfold Loop.run
    rw [(h.finish a).heedless agents s]
    exact .whole (.aside ((h.finish a).idle agents s))
  | cons item rest ih =>
    cases hflag : s.cancelled with
    | true =>
      obtain ⟨leg, ahead, hcount, -, hlegs⟩ := h.first_leg agents.unflagged
        (s := s.unflagged) a item rest rfl fun a => h.onLegs a rest
      obtain ⟨b, lines, hstop, hstopped⟩ := h.stop agents a item s
      have hrun : (loop agents).run a (item :: rest) s = .ok b (s.noted lines) := by
        unfold Loop.run
        rw [isCancelled_bind, hflag, if_pos rfl, hstop]
      rw [hrun]
      exact .cut (.aside (.refl s)) hflag hlegs ⟨hstopped, hcount⟩
    | false =>
      obtain ⟨leg, -, hleg⟩ := (h.body a item rest).legs agents s hflag
      have hbody := (h.body a item rest).heedless agents s
      unfold Loop.run
      rw [isCancelled_bind, isCancelled_bind, hflag]
      show Shortened _ _ _ _ _ _ ((if false = true then _ else _ : Activity σ β) s.unflagged)
      rw [if_neg Bool.false_ne_true, if_neg Bool.false_ne_true]
      cases hr : (loop agents).body a item rest s with
      | error e s₁ =>
        rw [hr, unflag] at hbody
        rw [hr] at hleg
        rw [bind_of_error hr, bind_of_error hbody]
        exact .whole hleg
      | ok r s₁ =>
        rw [hr, unflag] at hbody
        rw [hr] at hleg
        rw [bind_of_ok hr, bind_of_ok hbody]
        cases r with
        | inr b => exact .whole hleg
        | inl a₁ =>
          dsimp only
          have hrest := ih a₁ s₁
          generalize (loop agents).run a₁ rest s₁ = r at hrest ⊢
          generalize (loop agents.unflagged).run a₁ rest s₁.unflagged = r₀ at hrest ⊢
          cases hrest with
          | whole hlegs => exact .whole (hleg.trans hlegs)
          | cut hdone hset hahead hstopped => exact .cut (hleg.trans hdone) hset hahead hstopped

end Loop.ByLegs

theorem Loop.ByLegs.stoppable {counts : Bool} {stopped : β → Prop}
    {loop : Agents σ → Loop σ ι α β} (h : ByLegs setup request counts stopped loop) (a : α)
    (items : List ι) :
    Stoppable setup request (fun leg => leg.isCount = counts)
      (fun b leg => stopped b ∧ leg.isCount = counts)
      fun agents => (loop agents).run a items where
  onLegs _ := h.onLegs a items
  shortened _ := h.shortened a items

/-! ### Counts and migrations -/

theorem plan_stoppable (files : List String) :
    Stoppable (σ := σ) setup request (fun leg => leg.isCount = true)
      (fun plan leg => plan = .cancelled ∧ leg.isCount = true)
      fun agents => Migration.plan agents setup request files := by
  unfold Migration.plan
  by_cases hone : request.action = .migrateOneFile
  · simp only [hone, if_true, planFirst_eq]
    exact .after (.log _) fun _ => searchLoop_byLegs.stoppable () files
  · simp only [hone, if_false]
    unfold planAll
    simp only [scanAll_eq]
    refine .after (.log _) fun _ =>
      .bind (scanLoop_byLegs.stoppable ([], 0) files) (fun found => ?_) ?_
    · cases found with
      | none => exact .of_chore (.pure _)
      | some found =>
        obtain ⟨planned, total⟩ := found
        by_cases hzero : total = 0
        · simp only [hzero, if_true]
          exact .of_chore ((Chore.recordInitial _).bind fun _ =>
            (Chore.log _).bind fun _ => .pure _)
        · simp only [hzero, if_false]
          exact .of_chore ((Chore.recordInitial _).bind fun _ => (Chore.log _).bind fun _ =>
            (Chore.log _).bind fun _ => .pure _)
    · rintro found leg ⟨rfl, hcount⟩ agents m
      exact ⟨_, [], by rw [Session.noted_nil]; rfl, rfl, hcount⟩

theorem countOnly_stoppable :
    Stoppable (σ := σ) setup request (fun leg => leg.isCount = true)
      (fun result _ => ∃ report, result = .ok report ∧ report.cancelled = true)
      fun agents => countOnly agents setup request := by
  unfold countOnly
  refine .of_session (fun _ _ => by simp only [Session.unflagged_world]) fun s => ?_
  cases setup.preflight s.world.disk with
  | error e => exact .of_chore (.pure _)
  | ok =>
    refine .after enumerate_chore fun result => ?_
    cases result with
    | error e => exact .of_chore (.pure _)
    | ok files =>
      simp only [countFiles_eq]
      refine .bind (countingLoop_byLegs.stoppable {} files)
        (fun report => .of_chore ((Chore.log _).bind fun _ => .pure _)) ?_
      rintro report leg ⟨hcancelled, -⟩ agents m
      exact ⟨_, [_], rfl, report, rfl, hcancelled⟩

/-- A migration from the session in which it begins. -/
def migrateFrom (agents : Agents σ) (setup : Setup) (request : Request) :
    Activity σ (Except RunError RunReport) := do
  match setup.preflight (← get).world.disk with
  | .error e => return .error e
  | .ok () =>
    log "Starting code migration process"
    match ← enumerate setup request with
    | .error e => return .error e
    | .ok [] => return .ok {}
    | .ok files =>
      match ← plan agents setup request files with
      | .nothing => return .ok { remaining := ← remaining }
      | .cancelled =>
        log "Migration cancelled during the initial scan."
        return .ok { cancelled := true, remaining := ← remaining }
      | .files planned =>
        let start : RunReport := { filesTotal := planned.length }
        let report ← (migrationLoop setup request planned.length agents).run (start, 1) planned
        let report := { report with remaining := ← remaining }
        log (closingLine report)
        return .ok report

theorem migrate_eq (agents : Agents σ) (setup : Setup) (request : Request) (s : Session σ) :
    migrate agents setup request s = migrateFrom agents setup request s.cleared := by
  unfold migrateFrom
  simp only [← processFiles_eq]
  rfl

theorem remaining_chore : Chore (σ := σ) fun _ => remaining :=
  Chore.of_session (fun _ _ => rfl) fun _ => .pure _

theorem migrateFrom_stoppable :
    Stoppable (σ := σ) setup request (fun _ => True)
      (fun result leg => ∃ report, result = .ok report ∧ report.cancelled = true ∧
        (leg.isCount = true → report.filesTotal = 0))
      fun agents => migrateFrom agents setup request := by
  unfold migrateFrom
  refine .of_session (fun _ _ => by simp only [Session.unflagged_world]) fun s => ?_
  cases setup.preflight s.world.disk with
  | error e => exact .of_chore (.pure _)
  | ok =>
    refine .after (.log _) fun _ => .after enumerate_chore fun result => ?_
    cases result with
    | error e => exact .of_chore (.pure _)
    | ok files =>
      cases files with
      | nil => exact .of_chore (.pure _)
      | cons file files =>
        refine .bind ((plan_stoppable (file :: files)).mono fun _ _ => trivial) (fun plan => ?_) ?_
        · cases plan with
          | nothing => exact .of_chore (remaining_chore.bind fun _ => .pure _)
          | cancelled =>
            exact .of_chore ((Chore.log _).bind fun _ => remaining_chore.bind fun _ => .pure _)
          | files planned =>
            refine .bind (((migrationLoop_byLegs planned.length).stoppable _ planned).mono
              fun _ _ => trivial)
              (fun report => .of_chore (remaining_chore.bind fun _ =>
                (Chore.log _).bind fun _ => .pure _)) ?_
            rintro report leg ⟨hcancelled, hstep⟩ agents m
            refine ⟨_, [_], rfl, _, rfl, hcancelled, fun hcount => ?_⟩
            rw [hstep] at hcount
            cases hcount
        · rintro plan leg ⟨rfl, -⟩ agents m
          exact ⟨_, [_], rfl, _, rfl, rfl, fun _ => rfl⟩

/-- A migration that was asked to stop before it planned a file has written nothing, and has no
history. -/
theorem Passage.quiet_of_unplanned {report : RunReport} {steps : List (Taken σ)}
    (h : Passage agents setup request s report steps s') (hcancelled : report.cancelled = true)
    (hnone : report.filesTotal = 0) : Quiet agents s.cleared s' := by
  cases h with
  | unmatched | idle => cases hcancelled
  | @cancelled _ lines _ _ _ _ hplan =>
    cases plan_run hplan with
    | cancelled hscanned => exact ((Quiet.noted lines).trans hscanned).trans (.noted [_])
  | batch _ _ hplan _ hbatch =>
    have htotal := hbatch.filesTotal_eq
    rw [show _ = 0 from hnone] at htotal
    exact absurd (List.length_eq_zero_iff.mp htotal.symm) (plan_run hplan).planned_ne_nil

/-- What a run does that may be asked to stop, beside the run that nobody stops: it has done some
first legs, and others were ahead. -/
structure DoesFirst (agents : Agents σ) (setup : Setup) (request : Request) (start : Session σ)
    (isCut : α → Bool) (r r₀ : EStateM.Result Overflow (Session σ) (Except RunError α))
    (done ahead : List Leg) : Prop where
  /-- What was done are whole legs. -/
  done_legs : Legs agents setup request start done (finalSession r)
  /-- The run that nobody stops does these legs first, and then those that were ahead. -/
  all_legs : Legs agents.unflagged setup request start.unflagged (done ++ ahead) (finalSession r₀)
  effects_prefix : effects (finalSession r).trace <+: effects (finalSession r₀).trace
  history_prefix : (finalSession r).history.snapshots <+: (finalSession r₀).history.snapshots
  /-- With nothing ahead, the flag made no difference. -/
  whole : ahead = [] → r₀ = unflag r
  /-- Only a run that was asked to stop leaves legs ahead, and it says so. -/
  cut : ahead ≠ [] → ∃ report s', r = .ok (.ok report) s' ∧ s'.cancelled = true ∧
    isCut report = true
  /-- A run that stops before a count has written nothing, and added nothing to the history. -/
  scanning : ∀ leg ∈ ahead.head?, leg.isCount = true →
    writesBetween start (finalSession r) = [] ∧ (finalSession r).history = start.history

theorem Shortened.doesFirst {isCut : α → Bool} {stopped : Except RunError α → Leg → Prop}
    {r r₀ : EStateM.Result Overflow (Session σ) (Except RunError α)}
    (h : Shortened agents setup request stopped s r r₀)
    (hcut : ∀ result leg, stopped result leg → ∃ report, result = .ok report ∧ isCut report = true)
    (hscan : ∀ result leg s', r = .ok result s' → stopped result leg → leg.isCount = true →
      Quiet agents s s') :
    ∃ done ahead, DoesFirst agents setup request s isCut r r₀ done ahead := by
  cases h with
  | @whole _ legs hlegs =>
    refine ⟨legs, [], hlegs, ?_, ?_, ?_, fun _ => rfl, fun h => absurd rfl h, nofun⟩
    · rw [List.append_nil]
      cases r <;> exact hlegs.unflagged
    · cases r <;> exact List.prefix_refl _
    · cases r <;> exact List.prefix_refl _
  | @cut result m done ahead leg lines _ hdone hset hahead hstopped =>
    have hall := hdone.unflagged.trans hahead
    have hend : Aside m (m.noted lines) := .noted lines
    refine ⟨done, leg :: ahead, hdone.before hend, hall, ?_, ?_, nofun, fun _ => ?_, ?_⟩
    · show effects (m.noted lines).trace <+: _
      rw [hahead.effects_eq, effects_noted]
      exact List.prefix_append _ _
    · exact hahead.history_prefix
    · obtain ⟨report, rfl, hsaid⟩ := hcut result leg hstopped
      exact ⟨report, _, rfl, hset, hsaid⟩
    · rintro leg' hleg hcount
      obtain rfl : leg = leg' := Option.some.inj hleg
      obtain ⟨events, htrail, hwrites⟩ := hscan _ leg _ rfl hstopped hcount
      exact ⟨htrail.writesBetween_eq.trans hwrites, htrail.history_eq⟩

/-- A count, and a migration of any kind, that may be asked to stop at any moment, does the first
legs of the same run with nobody to stop it. -/
theorem cancelled_does_first_legs (agents : Agents σ) (setup : Setup) (request : Request)
    (s : Session σ) :
    (∃ done ahead, DoesFirst agents setup request s CountReport.cancelled
      (countOnly agents setup request s) (countOnly agents.unflagged setup request s.unflagged)
      done ahead) ∧
    ∃ done ahead, DoesFirst agents setup request s.cleared RunReport.cancelled
      (migrate agents setup request s) (migrate agents.unflagged setup request s.unflagged)
      done ahead := by
  constructor
  · refine (countOnly_stoppable.shortened agents s).doesFirst (fun _ _ h => h) ?_
    rintro result leg s' hrun ⟨report, rfl, -⟩ -
    exact (countOnly_run hrun).2
  · rw [migrate_eq, migrate_eq, show s.unflagged.cleared = s.cleared.unflagged from rfl]
    refine (migrateFrom_stoppable.shortened agents s.cleared).doesFirst
      (fun _ _ ⟨report, hresult, hsaid, _⟩ => ⟨report, hresult, hsaid⟩) ?_
    rintro result leg s' hrun ⟨report, rfl, hsaid, hunplanned⟩ hcount
    rw [← migrate_eq] at hrun
    obtain ⟨-, steps, hpassage⟩ := migrate_run hrun
    exact hpassage.quiet_of_unplanned hsaid (hunplanned hcount)

end Codemod.Migration
