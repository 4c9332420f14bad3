import Codemod.Proofs.Migration.Given
import Codemod.Proofs.Migration.Scan

/-!
# What scans and counts add up to

A count and the scan of a migration add the counts that the model gives for the files. When they
end, their totals are the exact sums; otherwise the sum does not fit 64 bits.

- `SumsTo` — the result for a sum, or an overflow
- `countFiles_gave`, `countOnly_exact` — a count
- `scanAll_gave`, `plan_gave` — a scan and the plan that is made from it
- `PlanSays` — what a plan says of the counts that were given for it
-/

namespace Codemod.Migration

variable {σ α : Type} {agents : Agents σ} {setup : Setup} {request : Request} {find file : String}
variable {planned : List Planned} {s s₁ s' : Session σ} {n : Nat}

/-! ### Sums over files -/

/-- What is read in a file is what the model gives. -/
theorem countFile_gave (agents : Agents σ) (setup : Setup) (find file : String) (s : Session σ) :
    ∃ known s', countFile agents setup find file s = .ok known s' ∧
      Gave agents s s' (known.getD 0).toNat := by
  have hlooked : Gave agents s (s.looked (Path.join setup.workspace file)) 0 :=
    .of_move (.read s _)
  unfold countFile
  rw [bind_of_ok (readFile_run ..)]
  cases s.world.disk.readText (Path.join setup.workspace file) with
  | error cause => exact ⟨none, _, rfl, hlooked.trans (.noted [_])⟩
  | ok content =>
    obtain ⟨lines, hcount⟩ := countOccurrences_run agents content find file
      setup.context (s.looked (Path.join setup.workspace file))
    dsimp only
    rw [bind_of_ok hcount]
    refine ⟨_, _, rfl, ?_⟩
    have hgave := hlooked.trans (.counted content find file setup.context lines)
    rwa [Nat.zero_add] at hgave

/-- The result is right for a sum, or an overflow says that the sum does not fit. -/
def SumsTo (right : α → Nat → Session σ → Prop) (sum : Nat) :
    EStateM.Result Overflow (Session σ) α → Prop
  | .ok a s' => right a sum s'
  | .error _ _ => 2 ^ 64 ≤ sum

/-- A count reports the sum of what the model gives. -/
theorem countFiles_gave (agents : Agents σ) (setup : Setup) (find : String)
    (report : CountReport) (files : List String) (s : Session σ) :
    ∃ n, Gave agents s (finalSession (countFiles agents setup find report files s)) n ∧
      SumsTo (fun report sum _ => report.total.toNat = sum) (report.total.toNat + n)
        (countFiles agents setup find report files s) := by
  induction files generalizing report s with
  | nil => exact ⟨0, .refl s, rfl⟩
  | cons file rest ih =>
    unfold countFiles
    rw [isCancelled_bind]
    split
    · exact ⟨0, .noted [_], rfl⟩
    obtain ⟨known, s₁, hcount, hfirst⟩ := countFile_gave agents setup find file s
    rw [bind_of_ok hcount]
    cases known with
    | none =>
      obtain ⟨n, hn, htotal⟩ := ih report s₁
      exact ⟨0 + n, hfirst.trans hn, by rwa [Nat.zero_add]⟩
    | some count =>
      dsimp only
      split
      · next hzero =>
        obtain ⟨n, hn, htotal⟩ := ih { report with filesScanned := report.filesScanned + 1 } s₁
        rw [hzero] at hfirst
        exact ⟨0 + n, hfirst.trans hn, by rwa [Nat.zero_add]⟩
      · rw [log_bind]
        have hnoted := hfirst.trans (.noted [foundLine count file])
        cases hsum : addCounts report.total count with
        | error e =>
          rw [bind_of_error (checked_of_error rfl)]
          exact ⟨_, hnoted, addCounts_eq_error hsum⟩
        | ok total =>
          rw [bind_of_ok (checked_of_ok rfl)]
          obtain ⟨n, hn, htotal⟩ := ih { report with
            filesScanned := report.filesScanned + 1
            filesWithPatterns := report.filesWithPatterns + 1
            total } (s₁.noted [foundLine count file])
          refine ⟨_, hnoted.trans hn, ?_⟩
          rw [addCounts_eq_ok hsum, Nat.add_assoc] at htotal
          exact htotal

theorem plannedTotal_concat (planned : List Planned) (p : Planned) :
    plannedTotal (planned ++ [p]) = plannedTotal planned + (p.2.getD 0).toNat := by
  simp [plannedTotal]

/-- A scan finds the sum of what the model gives. -/
theorem scanAll_gave (agents : Agents σ) (setup : Setup) (find : String) (planned : List Planned)
    (total : UInt64) (files : List String) (s : Session σ)
    (htotal : plannedTotal planned = total.toNat) :
    ∃ n, Gave agents s (finalSession (scanAll agents setup find planned total files s)) n ∧
      SumsTo (fun found sum _ => ∀ planned total, found = some (planned, total) →
          total.toNat = sum ∧ plannedTotal planned = sum) (total.toNat + n)
        (scanAll agents setup find planned total files s) := by
  induction files generalizing planned total s with
  | nil =>
    refine ⟨0, .refl s, ?_⟩
    rintro _ _ ⟨⟩
    exact ⟨rfl, htotal⟩
  | cons file rest ih =>
    unfold scanAll
    rw [isCancelled_bind]
    split
    · exact ⟨0, .refl s, by rintro _ _ ⟨⟩⟩
    obtain ⟨known, s₁, hcount, hfirst⟩ := countFile_gave agents setup find file s
    rw [bind_of_ok hcount]
    split
    · next hzero =>
      rw [hzero] at hfirst
      obtain ⟨n, hn, hsum⟩ := ih (planned ++ [(file, known)]) total s₁
        (by rw [plannedTotal_concat, htotal, hzero]; rfl)
      exact ⟨0 + n, hfirst.trans hn, by rwa [Nat.zero_add]⟩
    · rw [log_bind]
      have hnoted := hfirst.trans (.noted [foundLine (known.getD 0) file])
      cases hsum : addCounts total (known.getD 0) with
      | error e =>
        rw [bind_of_error (checked_of_error rfl)]
        exact ⟨_, hnoted, addCounts_eq_error hsum⟩
      | ok total' =>
        rw [bind_of_ok (checked_of_ok rfl)]
        have hadded := addCounts_eq_ok hsum
        obtain ⟨n, hn, hfound⟩ := ih (planned ++ [(file, known)]) total'
          (s₁.noted [foundLine (known.getD 0) file])
          (by rw [plannedTotal_concat, htotal, hadded])
        refine ⟨_, hnoted.trans hn, ?_⟩
        rw [hadded, Nat.add_assoc] at hfound
        exact hfound

/-- What a plan that was made from a session on says of the counts that the model gave for it. -/
def PlanSays (s : Session σ) (plan : Plan) (n : Nat) (s' : Session σ) : Prop :=
  (s'.history = s.history ∧ ∀ planned, plan ≠ .files planned) ∨
    ∃ p, p.file = none ∧ p.count = Int64.ofInt n ∧ s'.history = s.history.push p ∧
      ∀ planned, plan = .files planned → plannedTotal planned = n

/-- The total before the migration is a sum of counts. -/
theorem PlanSays.opened {plan : Plan} {total : UInt64} {lines : List String}
    (hhistory : s₁.history = s.history)
    (hplanned : ∀ planned, plan = .files planned → plannedTotal planned = total.toNat) :
    PlanSays s plan total.toNat ((s₁.opened agents total).noted lines) := by
  refine .inr ⟨⟨s₁.history.nextTime (agents.now s₁.world), totalOfCount total, none⟩, rfl, ?_, ?_,
    hplanned⟩
  · dsimp only
    rw [totalOfCount_eq]
  · rw [← hhistory]
    rfl

/-- Planned files count what the model gave, and so does the last total. -/
theorem PlanSays.totals (h : PlanSays s (.files planned) n s') (hsmall : n < 2 ^ 63) :
    s'.history.currentTotal.toInt = n ∧ plannedTotal planned = n := by
  obtain ⟨-, hnot⟩ | ⟨p, -, hcount, hhistory, hplanned⟩ := h
  · exact absurd rfl (hnot planned)
  · rw [hhistory, History.currentTotal_push, hcount]
    refine ⟨toInt_ofInt_of_fits ?_, hplanned planned rfl⟩
    rw [fitsTotal_iff]
    omega

theorem countFile_history {known : Option UInt64}
    (h : countFile agents setup find file s = .ok known s') : s'.history = s.history := by
  obtain ⟨events, htrail⟩ := countFile_trail h
  exact htrail.history_eq

theorem planFirst_gave (agents : Agents σ) (setup : Setup) (find : String) (files : List String)
    (s : Session σ) :
    ∃ n plan s', planFirst agents setup find files s = .ok plan s' ∧ Gave agents s s' n ∧
      PlanSays s plan n s' := by
  induction files generalizing s with
  | nil => exact ⟨0, _, _, rfl, .noted [_], .inl ⟨rfl, by rintro _ ⟨⟩⟩⟩
  | cons file rest ih =>
    unfold planFirst
    rw [isCancelled_bind]
    split
    · exact ⟨0, _, _, rfl, .refl s, .inl ⟨rfl, by rintro _ ⟨⟩⟩⟩
    obtain ⟨known, s₁, hcount, hfirst⟩ := countFile_gave agents setup find file s
    have hhistory := countFile_history hcount
    rw [bind_of_ok hcount]
    split
    · next hzero =>
      rw [hzero] at hfirst
      obtain ⟨n, plan, s', hrun, hn, hsaid⟩ := ih s₁
      refine ⟨0 + n, plan, s', hrun, hfirst.trans hn, ?_⟩
      unfold PlanSays at hsaid ⊢
      rwa [Nat.zero_add, ← hhistory]
    · rw [log_bind, log_bind, recordInitial_bind, Session.noted_noted]
      generalize ([_] ++ [_] : List String) = lines
      have hsaid : PlanSays s (.files [(file, some (known.getD 0))]) (known.getD 0).toNat
          (((s₁.noted lines).opened agents (known.getD 0)).noted []) :=
        .opened hhistory (by rintro _ ⟨⟩; rfl)
      rw [Session.noted_nil] at hsaid
      exact ⟨_, _, _, rfl, (hfirst.trans (.noted lines)).trans (.of_aside (.opened _)), hsaid⟩

theorem planAll_gave (agents : Agents σ) (setup : Setup) (find : String) (files : List String)
    (s : Session σ) :
    ∃ n, Gave agents s (finalSession (planAll agents setup find files s)) n ∧
      SumsTo (PlanSays s) n (planAll agents setup find files s) := by
  unfold planAll
  rw [log_bind]
  generalize hstart : s.noted [_] = s₁
  have hnoted : Gave agents s s₁ 0 := by
    rw [← hstart]
    exact .noted _
  have hhistory : s₁.history = s.history := by
    rw [← hstart]
    rfl
  obtain ⟨n, hn, hfound⟩ := scanAll_gave agents setup find [] 0 files s₁ rfl
  have hgave := hnoted.trans hn
  rw [Nat.zero_add] at hgave
  rw [show (0 : UInt64).toNat + n = n from Nat.zero_add n] at hfound
  cases hr : scanAll agents setup find [] 0 files s₁ with
  | error e s₂ =>
    rw [hr] at hgave hfound
    rw [bind_of_error hr]
    exact ⟨n, hgave, hfound⟩
  | ok found s₂ =>
    rw [hr] at hgave hfound
    rw [bind_of_ok hr]
    cases found with
    | none =>
      have hsame := (scanAll_cancelled hr).history_eq.trans hhistory
      exact ⟨n, hgave, .inl ⟨hsame, by rintro _ ⟨⟩⟩⟩
    | some found =>
      obtain ⟨planned, total⟩ := found
      have hsame := (scanAll_run hr).1.history_eq.trans hhistory
      obtain ⟨rfl, hplanned⟩ := hfound planned total rfl
      dsimp only
      rw [recordInitial_bind]
      have hopened : Gave agents s (s₂.opened agents total) total.toNat :=
        hgave.trans (.of_aside (.opened total))
      split
      · rw [log_bind]
        exact ⟨_, hopened.trans (.noted [_]), .opened hsame (by rintro _ ⟨⟩)⟩
      · rw [log_bind, log_bind, Session.noted_noted]
        exact ⟨_, hopened.trans (.noted _), .opened hsame (by rintro _ ⟨⟩; exact hplanned)⟩

/-- A plan says how much the model gave for it. -/
theorem plan_gave (agents : Agents σ) (setup : Setup) (request : Request) (files : List String)
    (s : Session σ) :
    ∃ n, Gave agents s (finalSession (Migration.plan agents setup request files s)) n ∧
      SumsTo (PlanSays s) n (Migration.plan agents setup request files s) := by
  unfold Migration.plan
  split
  · rw [log_bind]
    obtain ⟨n, plan, s', hrun, hn, hsaid⟩ := planFirst_gave agents setup request.find files
      (s.noted ["Looking for the first file with patterns to migrate..."])
    rw [hrun]
    refine ⟨0 + n, (Gave.noted _).trans hn, ?_⟩
    rw [Nat.zero_add]
    exact hsaid
  · exact planAll_gave agents setup request.find files s
/-! ### A whole count -/

theorem enumerate_eq (setup : Setup) (request : Request) (s : Session σ) :
    ∃ result lines, enumerate setup request s = .ok result (s.noted lines) := by
  obtain ⟨locations, hselects⟩ | ⟨cause, hpattern⟩ :=
    setup.selects_or_pattern request s.world.disk
  · exact ⟨_, enumerate_of_selects hselects⟩
  · have h : ∃ lines, enumerate setup request s = _ := enumerate_of_pattern hpattern
    exact ⟨_, h⟩

/-- A count ends unless the counts that the model gives in it do not fit 64 bits, and reports their
sum. -/
theorem countOnly_exact
    (hsmall : agents.givenBetween s (finalSession (countOnly agents setup request s)) < 2 ^ 64) :
    ∃ result s', countOnly agents setup request s = .ok result s' ∧
      ∀ report, result = .ok report → report.total.toNat = agents.givenBetween s s' := by
  unfold countOnly at hsmall ⊢
  rw [get_bind] at hsmall ⊢
  cases hpreflight : setup.preflight s.world.disk with
  | error e => exact ⟨_, _, rfl, nofun⟩
  | ok =>
    rw [hpreflight] at hsmall
    obtain ⟨result, lines, henumerate⟩ := enumerate_eq setup request s
    dsimp only at hsmall ⊢
    rw [bind_of_ok henumerate] at hsmall ⊢
    cases result with
    | error e => exact ⟨_, _, rfl, nofun⟩
    | ok files =>
      dsimp only at hsmall ⊢
      obtain ⟨n, hn, hsum⟩ := countFiles_gave agents setup request.find {} files (s.noted lines)
      have hgave := (Gave.noted lines).trans hn
      cases hr : countFiles agents setup request.find {} files (s.noted lines) with
      | error e s₁ =>
        rw [hr] at hgave hsum
        rw [bind_of_error hr] at hsmall
        have hgiven : agents.givenBetween s s₁ = 0 + n := hgave.givenBetween_eq
        have hlarge : 2 ^ 64 ≤ 0 + n := hsum
        have hless : agents.givenBetween s s₁ < 2 ^ 64 := hsmall
        omega
      | ok report s₁ =>
        rw [hr] at hgave hsum
        rw [bind_of_ok hr, log_bind]
        refine ⟨_, _, rfl, ?_⟩
        rintro _ ⟨⟩
        have hended : Gave agents s s₁ (0 + n) := hgave
        rw [(hended.trans (.noted [_])).givenBetween_eq]
        exact hsum

end Codemod.Migration
