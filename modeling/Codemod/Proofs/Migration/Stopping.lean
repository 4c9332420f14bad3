import Codemod.Proofs.Migration.Cancelling

/-!
# A run that its policy stops

A stop policy only says where a run ends. Up to there the run is the one that visits every file, and
it ends with the first step that the policy stops at, unless that step is the last.

- `StopPolicy.Ends`, `StopPolicy.EndsAt` — what a policy stops at
- `Truncated` — a result beside that of the run that visits every file
- `Visited`, `processFiles_truncated` — the planned files, one after the other
- `policy_truncates` — migrations
-/

namespace Codemod

/-- The same request under another policy. -/
def Request.under (request : Request) (policy : StopPolicy) : Request :=
  { request with stopPolicy := policy }

namespace StopPolicy

open Migration (Outcome Leg stopsAfter)

variable {policy : StopPolicy}

/-- The policy stops a run after a step with this outcome. -/
def Ends : StopPolicy → Outcome → Prop
  | afterEachFix, o => o.state = .done
  | afterEachFile, o => o.state ≠ .skipped
  | whenComplete, _ => False

theorem stopsAfter_iff {o : Outcome} : stopsAfter policy o = true ↔ policy.Ends o := by
  cases policy <;> simp [stopsAfter, Ends, Outcome.succeeded, Outcome.isSkip]

/-- The policy stops a run after this leg. -/
def EndsAt (policy : StopPolicy) : Leg → Prop
  | .step _ (some o) _ => policy.Ends o
  | _ => False

theorem not_endsAt_of_isCount {leg : Leg} (h : leg.isCount = true) : ¬policy.EndsAt leg := by
  cases leg with
  | count => exact id
  | step => cases h

/-- Nothing comes after a leg that the policy stops at. -/
def EndsLast (policy : StopPolicy) (legs : List Leg) : Prop :=
  ∀ before leg after, legs = before ++ leg :: after → policy.EndsAt leg → after = []

theorem EndsLast.nil : policy.EndsLast [] := by
  intro before leg after h
  simp at h

theorem EndsLast.single (leg : Leg) : policy.EndsLast [leg] := by
  intro before leg' after h _
  cases before with
  | nil => exact (List.cons.inj h).2.symm
  | cons => simp at h

theorem EndsLast.append {legs more : List Leg} (hnone : ∀ leg ∈ legs, ¬policy.EndsAt leg)
    (h : policy.EndsLast more) : policy.EndsLast (legs ++ more) := by
  induction legs with
  | nil => exact h
  | cons first rest ih =>
    rw [List.forall_mem_cons] at hnone
    intro before leg after heq hends
    cases before with
    | nil =>
      obtain rfl := (List.cons.inj heq).1
      exact absurd hends hnone.1
    | cons _ before => exact ih hnone.2 before leg after (List.cons.inj heq).2 hends

end StopPolicy

end Codemod

namespace Codemod.Migration

variable {σ α β : Type} {agents : Agents σ} {setup : Setup} {request : Request}
variable {policy : StopPolicy} {s s₁ s' : Session σ} {legs : List Leg} {o : Outcome}

/-- The step that a policy stops a run at, among the legs of the run that visits every file. -/
structure StopsAt (agents : Agents σ) (setup : Setup) (request : Request) (policy : StopPolicy)
    (start : Session σ) (before : List Leg) (t : Taken σ) (m : Session σ) (ahead : List Leg)
    (s' : Session σ) : Prop where
  before_legs : Legs agents setup (request.under .whenComplete) start before t.before
  none_before : ∀ leg ∈ before, ¬policy.EndsAt leg
  ran : t.Ran agents (setup.job (request.under .whenComplete))
  ends : policy.Ends t.outcome
  booked : Booked agents t.outcome t.after m
  ahead_legs : Legs agents setup (request.under .whenComplete) m ahead s'

/-- A result of a run under a policy, beside that of the run that visits every file. -/
inductive Truncated (agents : Agents σ) (setup : Setup) (request : Request) (policy : StopPolicy)
    (visited left : α → Prop) (s : Session σ) :
    EStateM.Result Overflow (Session σ) α → EStateM.Result Overflow (Session σ) α → Prop
  | same {r : EStateM.Result Overflow (Session σ) α} {legs : List Leg} :
    Legs agents setup (request.under .whenComplete) s legs (finalSession r) →
    policy.EndsLast legs → (∀ a s', r = .ok a s' → visited a) →
    Truncated agents setup request policy visited left s r r
  | cut {a : α} {before ahead : List Leg} {t : Taken σ} {m : Session σ} {lines : List String}
      {r : EStateM.Result Overflow (Session σ) α} :
    StopsAt agents setup request policy s before t m ahead (finalSession r) → left a →
    Truncated agents setup request policy visited left s (.ok a (m.noted lines)) r

namespace Truncated

variable {visited left : α → Prop} {visited' left' : β → Prop}

theorem after {r r₀ : EStateM.Result Overflow (Session σ) α}
    (hlegs : Legs agents setup (request.under .whenComplete) s legs s₁)
    (hnone : ∀ leg ∈ legs, ¬policy.EndsAt leg)
    (h : Truncated agents setup request policy visited left s₁ r r₀) :
    Truncated agents setup request policy visited left s r r₀ := by
  cases h with
  | same hmore hlast hvisited => exact .same (hlegs.trans hmore) (hlast.append hnone) hvisited
  | cut hstop hleft =>
    refine .cut { hstop with before_legs := hlegs.trans hstop.before_legs, none_before := ?_ } hleft
    intro leg hleg
    rw [List.mem_append] at hleg
    exact hleg.elim (hnone leg) (hstop.none_before leg)

/-- A policy stops at no count. -/
theorem of_counts {r : EStateM.Result Overflow (Session σ) α}
    (hlegs : Legs agents setup (request.under .whenComplete) s legs (finalSession r))
    (hcounts : ∀ leg ∈ legs, leg.isCount = true) (hvisited : ∀ a s', r = .ok a s' → visited a) :
    Truncated agents setup request policy visited left s r r := by
  have hlast : policy.EndsLast (legs ++ []) :=
    .append (fun leg hleg => StopPolicy.not_endsAt_of_isCount (hcounts leg hleg)) .nil
  rw [List.append_nil] at hlast
  exact .same hlegs hlast hvisited

/-- The same activity before both runs, on counts or on no leg at all. -/
theorem bind_counts {x : Activity σ α} {f g : α → Activity σ β}
    (hx : OnLegs agents setup (request.under .whenComplete) (fun leg => leg.isCount = true) x)
    (hf : ∀ a s, Truncated agents setup request policy visited' left' s (f a s) (g a s)) :
    Truncated agents setup request policy visited' left' s ((x >>= f) s) ((x >>= g) s) := by
  obtain ⟨legs, hcounts, hlegs⟩ := hx s
  cases h : x s with
  | error e s₁ =>
    rw [h] at hlegs
    rw [bind_of_error h, bind_of_error h]
    exact .of_counts hlegs hcounts nofun
  | ok a s₁ =>
    rw [h] at hlegs
    rw [bind_of_ok h, bind_of_ok h]
    exact (hf a s₁).after hlegs fun leg hleg =>
      StopPolicy.not_endsAt_of_isCount (hcounts leg hleg)

/-- Both runs end in a value, and have done nothing but to log. -/
theorem ended {a : α} (haside : Aside s s₁) (hvisited : visited a) :
    Truncated agents setup request policy visited left s (.ok a s₁) (.ok a s₁) :=
  .of_counts (.aside haside) nofun (by rintro _ _ ⟨⟩; exact hvisited)

/-- What follows a run and only logs does not change what was cut. -/
theorem bind {x y : Activity σ α} {f : α → Activity σ β}
    (h : Truncated agents setup request policy visited left s (x s) (y s))
    (hf : ∀ a m, ∃ b lines, f a m = .ok b (m.noted lines) ∧ (visited a → visited' b) ∧
      (left a → left' b)) :
    Truncated agents setup request policy visited' left' s ((x >>= f) s) ((y >>= f) s) := by
  generalize hx : x s = r at h
  generalize hy : y s = r₀ at h
  cases h with
  | same hlegs hlast hvisited =>
    cases r with
    | error e s₁ =>
      rw [bind_of_error hx, bind_of_error hy]
      exact .same hlegs hlast nofun
    | ok a s₁ =>
      obtain ⟨b, lines, hrun, hkeeps, -⟩ := hf a s₁
      rw [bind_of_ok hx, bind_of_ok hy, hrun]
      refine .same (hlegs.before (.noted lines)) hlast ?_
      rintro _ _ ⟨⟩
      exact hkeeps (hvisited a s₁ rfl)
  | @cut a before ahead t m lines _ hstop hleft =>
    obtain ⟨b, more, hrun, -, hkeeps⟩ := hf a (m.noted lines)
    rw [bind_of_ok hx, hrun, Session.noted_noted]
    have hahead : Legs agents setup (request.under .whenComplete) m ahead
        (finalSession ((y >>= f) s)) := by
      cases r₀ with
      | error e s₁ =>
        rw [bind_of_error hy]
        exact hstop.ahead_legs
      | ok a s₁ =>
        obtain ⟨b, lines, hrun, -⟩ := hf a s₁
        rw [bind_of_ok hy, hrun]
        exact hstop.ahead_legs.before (.noted lines)
    exact .cut { hstop with ahead_legs := hahead } (hkeeps hleft)

end Truncated

/-! ### The planned files, one after the other -/

/-- A visit that ends: the step, its place in the report, and its point in the history. -/
structure Visited (agents : Agents σ) (setup : Setup) (request : Request) (report : RunReport)
    (s : Session σ) (t : Taken σ) (report' : RunReport) (s' : Session σ) : Prop where
  aside : Aside s t.before
  ran : t.Ran agents (setup.job request)
  tallied : Tallied t.outcome report report'
  booked : Booked agents t.outcome t.after s'
  leg : ∃ done, Legs agents setup request s [.step t.file (some t.outcome) done] s'

theorem visitFile_visited {total index : Nat} {report report' : RunReport} {p : Planned}
    (hclear : s.cancelled = false)
    (h : visitFile agents setup request total index report p s = .ok (o, report') s') :
    ∃ t : Taken σ, Visited agents setup request report s t report' s' ∧ o = t.outcome := by
  obtain ⟨line, after, hrun, htally, hrecord⟩ := visitFile_run h
  have hran := runStep_run agents (setup.job request) p.1 p.2 (s.noted [line])
  rw [hrun] at hran
  have hbooked := recordOutcome_run hrecord
  obtain ⟨done, hleg⟩ := runStep_leg hrun
  exact ⟨⟨p.1, p.2, _, o, after⟩, ⟨.noted [line], hran, RunReport.tally_eq_ok htally, hbooked,
    done, .cons (.noted [line]) hclear hleg (.aside (.of_booked hbooked))⟩, rfl⟩

/-- Under a policy, planned files are visited as under none, up to the first step that the policy
stops at. -/
theorem processFiles_truncated {report : RunReport} {total index : Nat} (planned : List Planned)
    (hfits : report.processed + report.skipped + planned.length ≤ report.filesTotal)
    (hgoes : report.stoppedEarly = false) :
    Truncated agents setup request policy (fun report => report.stoppedEarly = false)
      (fun report => report.stoppedEarly = true ∧
        report.processed + report.skipped < report.filesTotal) s
      (processFiles agents setup (request.under policy) total report index planned s)
      (processFiles agents setup (request.under .whenComplete) total report index planned s) := by
  -- on the planned files; those visited and those to come stay within the total
  induction planned generalizing report index s with
  | nil =>
    refine .same (.aside (.refl s)) .nil ?_
    rintro _ _ ⟨⟩
    exact hgoes
  | cons p rest ih =>
    rw [List.length_cons] at hfits
    rw [processFiles_cons, processFiles_cons, isCancelled_bind, isCancelled_bind]
    split
    · refine .same (.aside (.noted [_])) .nil ?_
      rintro _ _ ⟨⟩
      exact hgoes
    next hflag =>
    rw [Bool.not_eq_true] at hflag
    -- a visit does not depend on the policy
    have hsame : visitFile agents setup (request.under policy) total index report p =
        visitFile agents setup (request.under .whenComplete) total index report p := rfl
    rw [hsame]
    cases hvisit : visitFile agents setup (request.under .whenComplete) total index report p s with
    | error e s₁ =>
      obtain ⟨leg, -, hleg⟩ := (visitFile_oneLeg total index report p).legs agents s hflag
      rw [hvisit] at hleg
      rw [bind_of_error hvisit, bind_of_error hvisit]
      exact .same hleg (.single leg) (by rintro _ _ ⟨⟩)
    | ok v s₁ =>
      obtain ⟨o, report₁⟩ := v
      obtain ⟨t, hvisited, rfl⟩ := visitFile_visited hflag hvisit
      rw [bind_of_ok hvisit, bind_of_ok hvisit]
      dsimp only
      have hearly := hvisited.tallied.flags_eq.2
      have hcount := hvisited.tallied.visited_eq
      have htotal := hvisited.tallied.filesTotal_eq
      rw [if_neg (c := (stopsAfter (request.under .whenComplete).stopPolicy _ && _) = true)
        Bool.false_ne_true]
      by_cases hends : policy.Ends t.outcome
      · have hstop : stopsAfter (request.under policy).stopPolicy t.outcome = true :=
          StopPolicy.stopsAfter_iff.mpr hends
        cases rest with
        | nil =>
          -- there is nothing to leave unvisited
          obtain ⟨done, hleg⟩ := hvisited.leg
          rw [List.isEmpty_nil, Bool.not_true, Bool.and_false, if_neg Bool.false_ne_true]
          refine .same hleg (.single _) ?_
          rintro _ _ ⟨⟩
          exact hearly.trans hgoes
        | cons q rest =>
          rw [List.length_cons] at hfits
          obtain ⟨ahead, -, hahead⟩ := processFiles_onLegs agents setup
            (request.under .whenComplete) total (index + 1) report₁ (q :: rest) s₁
          simp only [hstop, List.isEmpty_cons, Bool.not_false, Bool.and_self, if_true]
          rw [log_bind]
          refine .cut ⟨.aside hvisited.aside, by simp, hvisited.ran, hends, hvisited.booked,
            hahead⟩ ⟨rfl, ?_⟩
          dsimp only
          omega
      · obtain ⟨done, hleg⟩ := hvisited.leg
        rw [if_neg fun h => hends (StopPolicy.stopsAfter_iff.mp (Bool.and_eq_true _ _ ▸ h).1)]
        refine .after hleg ?_ (ih (by omega) (hearly.trans hgoes))
        intro leg hmem
        rw [List.mem_singleton] at hmem
        rw [hmem]
        exact hends

/-! ### Migrations -/

theorem migrate_truncated (agents : Agents σ) (setup : Setup) (request : Request)
    (policy : StopPolicy) (s : Session σ) :
    Truncated agents setup request policy
      (fun result => ∀ report, result = .ok report → report.stoppedEarly = false)
      (fun result => ∃ report, result = .ok report ∧ report.stoppedEarly = true ∧
        report.processed + report.skipped < report.filesTotal) s.cleared
      (migrate agents setup (request.under policy) s)
      (migrate agents setup (request.under .whenComplete) s) := by
  -- up to the first step nothing depends on the policy
  have henumerate : enumerate (σ := σ) setup (request.under policy) =
      enumerate setup (request.under .whenComplete) := by
    simp only [enumerate, Request.under]
  have hplan : ∀ files, Migration.plan agents setup (request.under policy) files =
      Migration.plan agents setup (request.under .whenComplete) files := fun _ => rfl
  rw [migrate_eq, migrate_eq]
  generalize s.cleared = s
  unfold migrateFrom
  simp only [henumerate, hplan, ← processFiles_eq]
  rw [get_bind, get_bind]
  cases setup.preflight s.world.disk with
  | error e => exact .ended (.refl s) nofun
  | ok =>
    dsimp only
    refine .bind_counts (Idle.log _).onLegs fun _ s =>
      .bind_counts (enumerate_chore.idle agents).onLegs fun result s => ?_
    cases result with
    | error e => exact .ended (.refl s) nofun
    | ok files =>
      cases files with
      | nil => exact .ended (.refl s) (by rintro report ⟨⟩; rfl)
      | cons file rest =>
        dsimp only
        refine .bind_counts ((plan_stoppable (file :: rest)).onLegs agents) fun plan s => ?_
        cases plan with
        | nothing => exact .ended (.refl s) (by rintro report ⟨⟩; rfl)
        | cancelled => exact .ended (.noted [_]) (by rintro report ⟨⟩; rfl)
        | files planned =>
          refine (processFiles_truncated planned (by simp) rfl).bind fun report m =>
            ⟨_, [_], rfl, ?_, ?_⟩
          · rintro hgoes _ ⟨⟩
            exact hgoes
          · rintro ⟨hearly, hvisited⟩
            exact ⟨_, rfl, hearly, hvisited⟩

/-- A migration under a policy is the migration that visits every file, or it is cut after the first
step that the policy stops at: its effects and its history are those up to there, and it says that
it left planned files unvisited. -/
theorem policy_truncates (agents : Agents σ) (setup : Setup) (request : Request)
    (policy : StopPolicy) (s : Session σ) :
    let r := migrate agents setup (request.under policy) s
    let whole := migrate agents setup (request.under .whenComplete) s
    (r = whole ∧
      (∃ legs, Legs agents setup (request.under .whenComplete) s.cleared legs (finalSession whole) ∧
        policy.EndsLast legs) ∧
      ∀ report s', r = .ok (.ok report) s' → report.stoppedEarly = false) ∨
    ∃ before t m ahead report s',
      StopsAt agents setup request policy s.cleared before t m ahead (finalSession whole) ∧
      r = .ok (.ok report) s' ∧
      effects s'.trace = effects m.trace ∧ s'.history = m.history ∧
      effects (finalSession whole).trace = effects s'.trace ++ ahead.flatMap Leg.effects ∧
      s'.history.snapshots <+: (finalSession whole).history.snapshots ∧
      report.stoppedEarly = true ∧ report.processed + report.skipped < report.filesTotal := by
  intro r whole
  have h := migrate_truncated agents setup request policy s
  rw [show migrate agents setup (request.under policy) s = r from rfl,
    show migrate agents setup (request.under .whenComplete) s = whole from rfl] at h
  generalize r = r at h ⊢
  generalize whole = whole at h ⊢
  cases h with
  | same hlegs hlast hvisited =>
    exact .inl ⟨rfl, ⟨_, hlegs, hlast⟩, fun report s' hr => hvisited _ s' hr report rfl⟩
  | @cut _ before ahead t m lines _ hstop hleft =>
    obtain ⟨report, rfl, hearly, hvisited⟩ := hleft
    have hnoted : effects (m.noted lines).trace = effects m.trace := effects_noted lines
    refine .inr ⟨before, t, m, ahead, report, _, hstop, rfl, hnoted, rfl, ?_, ?_, hearly, hvisited⟩
    · rw [hstop.ahead_legs.effects_eq, hnoted]
    · exact hstop.ahead_legs.history_prefix

end Codemod.Migration
