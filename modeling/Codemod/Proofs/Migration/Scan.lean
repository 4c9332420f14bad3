import Mathlib.Algebra.GroupWithZero.Nat
import Mathlib.Algebra.Ring.Int.Defs
import Codemod.Migration.Run
import Codemod.Proofs.Burndown
import Codemod.Proofs.Migration.Trail

/-!
# What a scan does

A scan reads and counts file by file and writes nothing. It ends with a plan: the files to migrate
with what was seen of each, and the total recorded before the first of them.

- `Sighted`, `countFile_run` — one file
- `Tally`, `scanAll_run` — all files, and the sum of their counts
- `Surveyed`, `plan_run` — the plans that a scan can end with
-/

namespace Codemod.Migration

variable {σ : Type} {agents : Agents σ} {setup : Setup} {request : Request} {find file : String}
variable {files : List String} {s s₁ s' : Session σ} {known : Option UInt64}

/-! ### One file -/

/-- What is seen of a file some time after a session, without a write in between: nothing when it
cannot be read, and otherwise what the model counts in it. -/
inductive Sighted (agents : Agents σ) (setup : Setup) (find : String) (s : Session σ)
    (file : String) : Option UInt64 → Prop
  | unreadable {s₁ : Session σ} {cause : FileError} :
    Quiet agents s s₁ →
    s₁.world.disk.readText (Path.join setup.workspace file) = .error cause →
    Sighted agents setup find s file none
  | counted {s₁ : Session σ} {content : String} :
    Quiet agents s s₁ →
    s₁.world.disk.readText (Path.join setup.workspace file) = .ok content →
    Sighted agents setup find s file
      (some (Answer.counted
        (agents.complete s₁.world (Prompt.count content find file setup.context)).value))

theorem Sighted.earlier (hquiet : Quiet agents s s₁)
    (h : Sighted agents setup find s₁ file known) : Sighted agents setup find s file known := by
  cases h with
  | unreadable hq hread => exact .unreadable (hquiet.trans hq) hread
  | counted hq hread => exact .counted (hquiet.trans hq) hread

theorem countFile_run (agents : Agents σ) (setup : Setup) (find file : String) (s : Session σ) :
    ∃ known s', countFile agents setup find file s = .ok known s' ∧ Quiet agents s s' ∧
      Sighted agents setup find s file known := by
  unfold countFile
  rw [bind_of_ok (readFile_run ..)]
  cases hread : s.world.disk.readText (Path.join setup.workspace file) with
  | error cause =>
    exact ⟨none, _, rfl, (Quiet.looked _).trans (.noted [_]), .unreadable (.refl s) hread⟩
  | ok content =>
    obtain ⟨lines, hcount⟩ := countOccurrences_run agents content find file
      setup.context (s.looked (Path.join setup.workspace file))
    dsimp only
    rw [bind_of_ok hcount]
    exact ⟨_, _, rfl, (Quiet.looked _).trans (.asked _ lines), .counted (.looked _) hread⟩

/-! ### All files -/

/-- The sum of the counts of planned files. -/
def plannedTotal (planned : List Planned) : Nat :=
  (planned.map fun p => (p.2.getD 0).toNat).sum

/-- What a scan says of files: one entry for each, in order, and the sum of the counts. -/
structure Tally (agents : Agents σ) (setup : Setup) (find : String) (s : Session σ)
    (files : List String) (planned : List Planned) : Prop where
  files_eq : planned.map Prod.fst = files
  sighted : ∀ p ∈ planned, Sighted agents setup find s p.1 p.2

theorem Tally.earlier {planned : List Planned} (hquiet : Quiet agents s s₁)
    (h : Tally agents setup find s₁ files planned) : Tally agents setup find s files planned where
  files_eq := h.files_eq
  sighted p hp := (h.sighted p hp).earlier hquiet

theorem Tally.cons {planned : List Planned} (hfirst : Sighted agents setup find s file known)
    (hquiet : Quiet agents s s₁) (h : Tally agents setup find s₁ files planned) :
    Tally agents setup find s (file :: files) ((file, known) :: planned) where
  files_eq := by rw [List.map_cons, h.files_eq]
  sighted p hp := by
    rw [List.mem_cons] at hp
    obtain rfl | hp := hp
    · exact hfirst
    · exact (h.earlier hquiet).sighted p hp

/-- A scan that is not cancelled has an entry for every file, and the sum of their counts. -/
theorem scanAll_run {planned planned' : List Planned} {total total' : UInt64}
    (h : scanAll agents setup find planned total files s = .ok (some (planned', total')) s') :
    Quiet agents s s' ∧ ∃ more, planned' = planned ++ more ∧
      Tally agents setup find s files more ∧ total'.toNat = total.toNat + plannedTotal more := by
  -- file by file; what is seen later is seen after nothing but quiet events
  induction files generalizing planned total s with
  | nil =>
    cases h
    exact ⟨.refl s', [], (List.append_nil _).symm, ⟨rfl, nofun⟩, rfl⟩
  | cons file rest ih =>
    unfold scanAll at h
    rw [isCancelled_bind] at h
    obtain ⟨known, s₁, hcount, hquiet, hsighted⟩ := countFile_run agents setup
      find file s
    split at h
    · cases h
    rw [bind_of_ok hcount] at h
    split at h
    · next hzero =>
      obtain ⟨hrest, more, rfl, htally, htotal⟩ := ih h
      refine ⟨hquiet.trans hrest, (file, known) :: more, by simp, htally.cons hsighted hquiet, ?_⟩
      rw [htotal]
      simp [plannedTotal, hzero]
    · next hzero =>
      rw [log_bind] at h
      obtain ⟨sum, s₂, hsum, h⟩ := bind_eq_ok h
      obtain ⟨hadd, rfl⟩ := checked_eq_ok hsum
      have hnoted := hquiet.trans (.noted [foundLine (known.getD 0) file])
      obtain ⟨hrest, more, rfl, htally, htotal⟩ := ih h
      refine ⟨hnoted.trans hrest, (file, known) :: more, by simp, htally.cons hsighted hnoted, ?_⟩
      rw [htotal, addCounts_eq_ok hadd]
      simp only [plannedTotal, List.map_cons, List.sum_cons]
      omega

/-- A scan that is cancelled has written nothing either. -/
theorem scanAll_cancelled {planned : List Planned} {total : UInt64}
    (h : scanAll agents setup find planned total files s = .ok none s') : Quiet agents s s' := by
  induction files generalizing planned total s with
  | nil => cases h
  | cons file rest ih =>
    unfold scanAll at h
    rw [isCancelled_bind] at h
    obtain ⟨known, s₁, hcount, hquiet, -⟩ := countFile_run agents setup find file s
    split at h
    · cases h
      exact .refl s'
    rw [bind_of_ok hcount] at h
    split at h
    · exact hquiet.trans (ih h)
    · rw [log_bind] at h
      obtain ⟨sum, s₂, hsum, h⟩ := bind_eq_ok h
      obtain ⟨-, rfl⟩ := checked_eq_ok hsum
      exact (hquiet.trans (.noted _)).trans (ih h)

/-! ### Plans -/

/-- The session after the total before a migration was recorded. -/
def Session.opened (s : Session σ) (agents : Agents σ) (total : UInt64) : Session σ :=
  { s with history := s.history.recordInitial (agents.now s.world) (totalOfCount total) }

theorem recordInitial_bind {β : Type} (total : UInt64) (f : Unit → Activity σ β) :
    (recordInitial agents total >>= f) s = f () (s.opened agents total) := rfl

/-- The plans that a scan can end with. -/
inductive Surveyed (agents : Agents σ) (setup : Setup) (request : Request) (files : List String)
    (s : Session σ) : Plan → Session σ → Prop
  /-- The run was asked to stop. -/
  | cancelled {s' : Session σ} :
    Quiet agents s s' → Surveyed agents setup request files s .cancelled s'
  /-- No file is the first with occurrences. -/
  | none {s' : Session σ} :
    request.action = .migrateOneFile → Quiet agents s s' →
    Surveyed agents setup request files s .nothing s'
  /-- The first file with occurrences. -/
  | first {file : String} {n : UInt64} {s₁ : Session σ} :
    request.action = .migrateOneFile → file ∈ files → n ≠ 0 →
    Sighted agents setup request.find s file (some n) → Quiet agents s s₁ →
    Surveyed agents setup request files s (.files [(file, some n)]) (s₁.opened agents n)
  /-- All files, none of which has occurrences. -/
  | empty {planned : List Planned} {lines : List String} {s₁ : Session σ} :
    request.action ≠ .migrateOneFile → Tally agents setup request.find s files planned →
    plannedTotal planned = 0 → Quiet agents s s₁ →
    Surveyed agents setup request files s .nothing ((s₁.opened agents 0).noted lines)
  /-- All files, some of which have occurrences. -/
  | all {planned : List Planned} {total : UInt64} {lines : List String} {s₁ : Session σ} :
    request.action ≠ .migrateOneFile → Tally agents setup request.find s files planned →
    total.toNat = plannedTotal planned → total ≠ 0 → Quiet agents s s₁ →
    Surveyed agents setup request files s (.files planned) ((s₁.opened agents total).noted lines)

theorem planFirst_run {plan : Plan} {all : List String} (haction : request.action = .migrateOneFile)
    (hfiles : ∀ file ∈ files, file ∈ all)
    (h : planFirst agents setup request.find files s₁ = .ok plan s') (hquiet : Quiet agents s s₁) :
    Surveyed agents setup request all s plan s' := by
  induction files generalizing s₁ with
  | nil =>
    cases h
    exact .none haction (hquiet.trans (.noted [_]))
  | cons file rest ih =>
    unfold planFirst at h
    rw [isCancelled_bind] at h
    obtain ⟨known, s₂, hcount, hcounted, hsighted⟩ := countFile_run agents setup
      request.find file s₁
    split at h
    · cases h
      exact .cancelled hquiet
    rw [bind_of_ok hcount] at h
    split at h
    · exact ih (fun f hf => hfiles f (List.mem_cons_of_mem _ hf)) h (hquiet.trans hcounted)
    · next hne =>
      rw [log_bind, log_bind, recordInitial_bind, Session.noted_noted] at h
      cases h
      cases known with
      | none => exact absurd rfl hne
      | some n =>
        exact .first haction (hfiles file List.mem_cons_self) hne (hsighted.earlier hquiet)
          ((hquiet.trans hcounted).trans (.noted _))

/-- A scan that comes to an end has a plan of one of these kinds. -/
theorem plan_run {plan : Plan}
    (h : Migration.plan agents setup request files s = .ok plan s') :
    Surveyed agents setup request files s plan s' := by
  unfold Migration.plan at h
  split at h
  · next haction => exact planFirst_run haction (fun _ hf => hf) h (.noted [_])
  · next haction =>
    unfold planAll at h
    rw [log_bind] at h
    obtain ⟨result, s₁, hscan, h⟩ := bind_eq_ok h
    cases result with
    | none =>
      cases h
      exact .cancelled ((Quiet.noted [_]).trans (scanAll_cancelled hscan))
    | some found =>
      obtain ⟨planned, total⟩ := found
      obtain ⟨hscanned, more, rfl, htally, htotal⟩ := scanAll_run hscan
      have hquiet := (Quiet.noted ["Scanning files for initial pattern count..."]).trans hscanned
      have hearlier := htally.earlier (.noted [_])
      dsimp only at h
      rw [recordInitial_bind] at h
      split at h
      · next hzero =>
        rw [log_bind] at h
        cases h
        rw [hzero] at htotal ⊢
        exact .empty haction hearlier (by simpa using htotal.symm) hquiet
      · next hne =>
        rw [log_bind, log_bind, Session.noted_noted] at h
        cases h
        exact .all haction hearlier (by simpa using htotal) hne hquiet

/-- Files are planned when there are some to migrate. -/
theorem Surveyed.planned_ne_nil {planned : List Planned}
    (h : Surveyed agents setup request files s (.files planned) s') : planned ≠ [] := by
  cases h with
  | first => exact List.cons_ne_nil _ _
  | all _ _ htotal hne =>
    rintro rfl
    exact hne (UInt64.toNat_inj.mp htotal)

end Codemod.Migration
