import Codemod.Proofs.Migration.Agreement
import Codemod.Proofs.Migration.Room
import Codemod.Proofs.Migration.Stopping
import Codemod.Proofs.Migration.Sums

/-!
# How large counts may be

The model's counts are numbers of up to 64 bits, and a run adds and subtracts them. When the counts
that the model gives in a run sum to less than `2 ^ 63`, nothing leaves the range of the machine's
numbers: the run ends, and every number that it reports is the exact one. A larger count can end it.

- `PlanSays.fits`, `migrateFrom_fits` — a migration whose counts are small ends
- `ExactRun` — the numbers of a migration are the exact ones
- `small_counts_exact` — counts and migrations
- `not_run_completes` — two counts that end a run
-/

namespace Codemod.Migration

variable {σ : Type} {agents : Agents σ} {setup : Setup} {request : Request}
variable {files : List String} {planned : List Planned} {steps : List (Taken σ)}
variable {report : RunReport} {s s₁ s' : Session σ} {n m : Nat}

/-! ### Migrations that end -/

/-- What is planned is migrated to the end when the counts for the plan and for the migration are
small. -/
theorem PlanSays.fits {total index : Nat} (h : PlanSays s (.files planned) n s₁)
    (hgave : Gave agents s₁
      (finalSession (processFiles agents setup request total { filesTotal := total } index planned
        s₁)) m) (hsmall : n + m < 2 ^ 63) :
    ∃ report s', processFiles agents setup request total { filesTotal := total } index planned s₁ =
      .ok report s' := by
  obtain ⟨hleft, hcounted⟩ := h.totals (by omega)
  have hroom : Room 0 s₁.history.currentTotal.toInt (plannedTotal planned) m := by
    rw [hleft, hcounted]
    constructor <;> omega
  exact processFiles_fits hgave hroom
/-- A migration ends unless the counts that the model gives in it sum to `2 ^ 63` or more. -/
theorem migrateFrom_fits
    (hsmall : agents.givenBetween s (finalSession (migrateFrom agents setup request s)) < 2 ^ 63) :
    ∃ result s', migrateFrom agents setup request s = .ok result s' := by
  unfold migrateFrom at hsmall ⊢
  simp only [← processFiles_eq] at hsmall ⊢
  rw [get_bind] at hsmall ⊢
  cases hpreflight : setup.preflight s.world.disk with
  | error e => exact ⟨_, _, rfl⟩
  | ok =>
    rw [hpreflight] at hsmall
    obtain ⟨result, lines, henumerate⟩ := enumerate_eq setup request
      (s.noted ["Starting code migration process"])
    dsimp only at hsmall ⊢
    rw [log_bind, bind_of_ok henumerate, Session.noted_noted] at hsmall ⊢
    generalize _ ++ lines = lines at hsmall ⊢
    cases result with
    | error e => exact ⟨_, _, rfl⟩
    | ok files =>
      cases files with
      | nil => exact ⟨_, _, rfl⟩
      | cons file rest =>
        dsimp only at hsmall ⊢
        obtain ⟨n₁, hn₁, hsaid⟩ := plan_gave agents setup request (file :: rest) (s.noted lines)
        have hplanned := (Gave.noted lines).trans hn₁
        cases hr : Migration.plan agents setup request (file :: rest) (s.noted lines) with
        | error e s₂ =>
          rw [hr] at hplanned hsaid
          rw [bind_of_error hr] at hsmall
          have hgiven : agents.givenBetween s s₂ = 0 + n₁ := hplanned.givenBetween_eq
          have hless : agents.givenBetween s s₂ < 2 ^ 63 := hsmall
          have hlarge : 2 ^ 64 ≤ n₁ := hsaid
          omega
        | ok plan s₂ =>
          rw [hr] at hplanned hsaid
          rw [bind_of_ok hr] at hsmall ⊢
          cases plan with
          | nothing => exact ⟨_, _, rfl⟩
          | cancelled => exact ⟨_, _, rfl⟩
          | files planned =>
            dsimp only at hsmall ⊢
            have hplan : PlanSays (s.noted lines) (.files planned) n₁ s₂ := hsaid
            obtain ⟨n₂, hn₂⟩ := Gave.of_onLegs (processFiles_onLegs agents setup request
              planned.length 1 { filesTotal := planned.length } planned) s₂
            have hgiven : agents.givenBetween s (finalSession (processFiles agents setup request
                planned.length { filesTotal := planned.length } 1 planned s₂)) = 0 + n₁ + n₂ :=
              (hplanned.trans hn₂).givenBetween_eq
            cases hx : processFiles agents setup request planned.length
                { filesTotal := planned.length } 1 planned s₂ with
            | ok report s₃ =>
              rw [bind_of_ok hx]
              exact ⟨_, _, rfl⟩
            | error e s₃ =>
              rw [bind_of_error hx] at hsmall
              rw [hx] at hgiven
              have hless : 0 + n₁ + n₂ < 2 ^ 63 := hgiven ▸ hsmall
              obtain ⟨report, s', hok⟩ := hplan.fits hn₂ (by omega)
              rw [hx] at hok
              cases hok
/-! ### Exact numbers -/

/-- The first point is the sum of the counts that the model gave for the plan. -/
theorem PlanSays.first {plan : Plan} {points : List Snapshot}
    (h : PlanSays s.cleared plan n s') (hsmall : n < 2 ^ 63)
    (hextends : s'.history.snapshots <+: points)
    (hnone : (∀ planned, plan ≠ .files planned) → points = s'.history.snapshots) :
    ∀ first ∈ points.head?, first.count.toInt = n := by
  obtain ⟨hhistory, hnot⟩ | ⟨p, -, hcount, hhistory, -⟩ := h
  · rw [hnone hnot, hhistory]
    exact nofun
  · obtain ⟨later, rfl⟩ := hextends
    rw [hhistory]
    rintro first ⟨⟩
    rw [hcount]
    refine toInt_ofInt_of_fits ?_
    rw [fitsTotal_iff]
    omega

/-- The scan before a plan goes by counts. -/
theorem plan_legs {plan : Plan} {lines : List String}
    (h : Migration.plan agents setup request files (s.cleared.noted lines) = .ok plan s') :
    ∃ scan n, Legs agents setup request s.cleared scan s' ∧
      (∀ leg ∈ scan, leg.isCount = true) ∧ Gave agents s s' n ∧ PlanSays s.cleared plan n s' := by
  obtain ⟨scan, hcounts, hlegs⟩ := (plan_stoppable files).onLegs agents (s.cleared.noted lines)
  obtain ⟨n, hn, hsaid⟩ := plan_gave agents setup request files (s.cleared.noted lines)
  rw [h] at hlegs hn hsaid
  have hgave : Gave agents s.cleared s' (0 + n) := (Gave.noted lines).trans hn
  rw [Nat.zero_add] at hgave
  exact ⟨scan, n, hlegs.after (.noted lines), hcounts, hgave, hsaid⟩

/-- The numbers of a migration are the exact ones: the first point of the history is the sum of the
counts that the model gave in the scan, and every step that is done fixes the difference of the
counts that it has seen. -/
structure ExactRun (agents : Agents σ) (setup : Setup) (request : Request) (s : Session σ)
    (report : RunReport) (steps : List (Taken σ)) (s' : Session σ) : Prop where
  passage : Passage agents setup request s report steps s'
  opening : ∀ first ∈ s'.history.snapshots.head?, ∃ scan rest m,
    Legs agents setup request s.cleared scan m ∧ (∀ leg ∈ scan, leg.isCount = true) ∧
      Legs agents setup request m rest s' ∧ (∀ leg ∈ rest, leg.isCount = false) ∧
      first.count.toInt = agents.givenBetween s m
  differs : ∀ t ∈ steps, t.outcome.state = .done → Differs agents (setup.job request) t
  patternsFixed_eq : report.patternsFixed.toInt = totalFixed steps

/-- A migration that ends with the plan, or right after it. -/
theorem ExactRun.of_unvisited {lines more : List String} {plan : Plan}
    (hpassage : Passage agents setup request s report [] (s₁.noted more))
    (hplan : Migration.plan agents setup request files (s.cleared.noted lines) = .ok plan s₁)
    (hsmall : agents.givenBetween s (s₁.noted more) < 2 ^ 63)
    (hfixed : report.patternsFixed = 0) :
    ExactRun agents setup request s report [] (s₁.noted more) := by
  obtain ⟨scan, n, hscan, hcounts, hn, hsaid⟩ := plan_legs hplan
  rw [(hn.trans (.noted more)).givenBetween_eq] at hsmall
  refine ⟨hpassage, fun first hfirst => ?_, nofun, by rw [hfixed]; rfl⟩
  refine ⟨scan, [], s₁, hscan, hcounts, .aside (.noted more), nofun, ?_⟩
  rw [hn.givenBetween_eq]
  exact hsaid.first hsmall (List.prefix_refl _) (fun _ => rfl) first hfirst

theorem Passage.exact (h : Passage agents setup request s report steps s')
    (hsmall : agents.givenBetween s s' < 2 ^ 63) :
    ExactRun agents setup request s report steps s' := by
  have hpassage := h
  cases h with
  | unmatched => exact ⟨hpassage, nofun, nofun, rfl⟩
  | idle _ _ hplan =>
    rw [← Session.noted_nil (s := s')] at hpassage hsmall ⊢
    exact .of_unvisited hpassage hplan hsmall rfl
  | cancelled _ _ hplan => exact .of_unvisited hpassage hplan hsmall rfl
  | @batch locations planned _ report lines line s₂ s₃ _ _ hplan hprocessed hbatch =>
    obtain ⟨scan, n₁, hscan, hcounts, hn₁, hsaid⟩ := plan_legs hplan
    obtain ⟨n₂, hn₂, hdiffers⟩ := hbatch.gave
    rw [((hn₁.trans hn₂).trans (.noted [line])).givenBetween_eq] at hsmall
    obtain ⟨rest, hsteps, hrest⟩ := processFiles_onLegs agents setup request planned.length 1
      { filesTotal := planned.length } planned s₂
    rw [hprocessed] at hrest
    refine ⟨hpassage, fun first hfirst => ?_, hdiffers ?_, ?_⟩
    · refine ⟨scan, rest, s₂, hscan, hcounts, hrest.before (.noted [line]), hsteps, ?_⟩
      rw [hn₁.givenBetween_eq]
      exact hsaid.first (by omega) hbatch.snapshots_prefix (fun h => absurd rfl (h planned)) first
        hfirst
    · rw [(hsaid.totals (by omega)).2]
      omega
    · have hfixed := hbatch.counts.fixed
      simpa using hfixed

/-- When the counts that the model gives fit, a count and a migration end, and their numbers are the
exact ones. -/
theorem small_counts_exact (agents : Agents σ) (setup : Setup) (request : Request)
    (s : Session σ) :
    (agents.givenBetween s (finalSession (countOnly agents setup request s)) < 2 ^ 64 →
      ∃ result s', countOnly agents setup request s = .ok result s' ∧
        ∀ report, result = .ok report → report.total.toNat = agents.givenBetween s s') ∧
    (agents.givenBetween s (finalSession (migrate agents setup request s)) < 2 ^ 63 →
      ∃ result s', migrate agents setup request s = .ok result s' ∧
        ∀ report, result = .ok report →
          ∃ steps, ExactRun agents setup request s report steps s') := by
  refine ⟨countOnly_exact, fun hsmall => ?_⟩
  have hfrom := migrate_eq agents setup request s
  obtain ⟨result, s', hrun⟩ : ∃ result s', migrateFrom agents setup request s.cleared =
      .ok result s' := by
    refine migrateFrom_fits ?_
    rw [← hfrom]
    exact hsmall
  rw [← hfrom] at hrun
  refine ⟨result, s', hrun, ?_⟩
  rintro report rfl
  obtain ⟨-, steps, hpassage⟩ := migrate_run hrun
  rw [hrun] at hsmall
  exact ⟨steps, hpassage.exact hsmall⟩

/-! ### A run whose counts fit, and one that a count ends -/

theorem drafting_counts (w : World Unit) (prompt : String) :
    (Answer.counted (drafting.complete w prompt).value).toNat ≤ 1 := by
  have hanswers : ∀ answer ∈ ["1", "draft", "final"],
      (Answer.counted (.ok answer)).toNat ≤ 1 := by
    decide +kernel
  refine hanswers _ ?_
  dsimp only [drafting]
  split
  · exact List.mem_cons_self
  · split <;> simp

/-- The numbers of the run that repairs a draft are exact. -/
theorem small_counts_exact_drafting : ∃ report s', ∃ steps : List (Taken Unit),
    migrate drafting smallSetup smallRequest scriptSession = .ok (.ok report) s' ∧
      ExactRun drafting smallSetup smallRequest scriptSession report steps s' ∧
      report.succeeded = 1 := by
  have hreports : endsIn (fun result s' => decide (s'.trace.length ≤ 100) &&
      match result with
      | .ok report => decide (report.succeeded = 1)
      | .error _ => false) (migrate drafting smallSetup smallRequest scriptSession) = true := by
    decide +kernel
  obtain ⟨result, s', hrun, hchecked⟩ := exists_of_endsIn hreports
  rw [Bool.and_eq_true, decide_eq_true_eq] at hchecked
  have hsmall : drafting.givenBetween scriptSession
      (finalSession (migrate drafting smallSetup smallRequest scriptSession)) < 2 ^ 63 := by
    rw [hrun]
    have hgiven := Agents.given_le drafting_counts scriptSession.world
      (s'.trace.drop scriptSession.trace.length)
    have hlength := List.length_drop (l := s'.trace) (i := scriptSession.trace.length)
    unfold Agents.givenBetween
    dsimp only [finalSession]
    omega
  obtain ⟨result', s'', hrun', hexact⟩ :=
    (small_counts_exact drafting smallSetup smallRequest scriptSession).2 hsmall
  obtain ⟨rfl, rfl⟩ := EStateM.Result.ok.inj (hrun'.symm.trans hrun)
  cases result' with
  | error e => cases hchecked.2
  | ok report =>
    obtain ⟨steps, hsteps⟩ := hexact report rfl
    exact ⟨report, s'', steps, hrun, hsteps, of_decide_eq_true hchecked.2⟩

/-- A model that counts one occurrence in the script and `2 ^ 63` in what it makes of it, and a
verifier that accepts nothing. -/
def swelling : Agents Unit where
  complete w prompt :=
    let counts content := prompt == Prompt.count content smallRequest.find "a.js" smallSetup.context
    let answer :=
      if counts "old" then "1" else if counts "draft" then "9223372036854775808" else "draft"
    { value := .ok answer, world := w }
  verify w _ _ := { value := ⟨false, ""⟩, world := w }
  now _ := default

/-- Not every run ends: the difference between `1` and `2 ^ 63` fits, but the second count turns
negative before it is taken. -/
theorem not_run_completes :
    ¬∀ (σ : Type) (agents : Agents σ) (setup : Setup) (request : Request) (s : Session σ),
      ∃ result s', run agents setup request s = .ok result s' := by
  intro h
  obtain ⟨result, s', hrun⟩ := h Unit swelling smallSetup smallRequest scriptSession
  have hstops : endsIn (fun _ _ => true) (run swelling smallSetup smallRequest scriptSession) =
      false := by
    decide +kernel
  rw [hrun] at hstops
  cases hstops

end Codemod.Migration
