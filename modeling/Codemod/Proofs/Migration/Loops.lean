import Codemod.Proofs.Migration.Flag

/-!
# Runs leg by leg

A run is made of loops that look at the cancellation flag before each of their items. An item is one
leg, a count or a step, with some chores around it that do nothing but to log and to add points to
the history.

- `Idle`, `OnLegs` — activities that do nothing, and activities that go leg by leg
- `Chore`, `OneLeg` — the same without a look at the flag
- `visitFile` — what is done with a planned file
- `Loop`, `Loop.ByLegs` — a loop that looks at the flag, and one whose items are legs
- `countingLoop`, `searchLoop`, `scanLoop`, `migrationLoop` — the four loops of a run
-/

namespace Codemod.Migration

variable {σ α β ι : Type} {agents : Agents σ} {setup : Setup} {request : Request}
variable {s s₁ s' : Session σ} {legs : List Leg} {leg : Leg} {kind kind' : Leg → Prop}

/-! ### Activities leg by leg -/

/-- The activity does nothing but to log and to add points to the history. -/
def Idle (x : Activity σ α) : Prop := ∀ s, Aside s (finalSession (x s))

namespace Idle

theorem pure (a : α) : Idle (σ := σ) (Pure.pure a) := fun s => .refl s

theorem log (line : String) : Idle (σ := σ) (Migration.log line) := fun _ => .noted [line]

theorem checked (x : Except Overflow α) : Idle (σ := σ) (Migration.checked x) := by
  intro s
  cases x <;> exact .refl s

theorem bind {x : Activity σ α} {f : α → Activity σ β} (hx : Idle x) (hf : ∀ a, Idle (f a)) :
    Idle (x >>= f) := by
  intro s
  have hfirst := hx s
  cases h : x s with
  | ok a s₁ =>
    rw [h] at hfirst
    rw [bind_of_ok h]
    exact hfirst.trans (hf a s₁)
  | error e s₁ =>
    rw [h] at hfirst
    rw [bind_of_error h]
    exact hfirst

theorem recordInitial (total : UInt64) : Idle (Migration.recordInitial agents total) :=
  fun _ => .opened total

theorem recordOutcome (o : Outcome) : Idle (Migration.recordOutcome agents o) := by
  intro s
  cases h : Migration.recordOutcome agents o s with
  | ok u s₁ => exact .of_booked (recordOutcome_run h)
  | error e s₁ =>
    -- an overflow leaves the history as it is
    unfold Migration.recordOutcome at h
    split at h
    · rw [get_bind] at h
      cases hfix : s.history.recordFix (agents.now s.world) o.file o.fixed with
      | ok history =>
        rw [hfix, bind_of_ok (checked_of_ok rfl)] at h
        cases h
      | error e =>
        rw [hfix, bind_of_error (checked_of_error rfl)] at h
        cases h
        exact .refl s
    · cases h

end Idle

/-- The activity goes leg by leg, on legs of a kind. -/
def OnLegs (agents : Agents σ) (setup : Setup) (request : Request) (kind : Leg → Prop)
    (x : Activity σ α) : Prop :=
  ∀ s, ∃ legs, (∀ leg ∈ legs, kind leg) ∧ Legs agents setup request s legs (finalSession (x s))

theorem Idle.onLegs {x : Activity σ α} (h : Idle x) : OnLegs agents setup request kind x :=
  fun s => ⟨[], nofun, .aside (h s)⟩

theorem Legs.bind {x : Activity σ α} {f : α → Activity σ β}
    (h : Legs agents setup request s legs (finalSession (x s₁)))
    (hf : ∀ a, OnLegs agents setup request kind (f a)) :
    ∃ more, (∀ leg ∈ more, kind leg) ∧
      Legs agents setup request s (legs ++ more) (finalSession ((x >>= f) s₁)) := by
  cases hx : x s₁ with
  | ok a s' =>
    rw [hx] at h
    obtain ⟨more, hkind, hmore⟩ := hf a s'
    rw [bind_of_ok hx]
    exact ⟨more, hkind, h.trans hmore⟩
  | error e s' =>
    rw [hx] at h
    rw [bind_of_error hx]
    exact ⟨[], nofun, by rwa [List.append_nil]⟩

/-- What follows a leg without doing anything belongs to the leg. -/
theorem Legs.bind_idle {x : Activity σ α} {f : α → Activity σ β}
    (h : Legs agents setup request s legs (finalSession (x s))) (hf : ∀ a, Idle (f a)) :
    Legs agents setup request s legs (finalSession ((x >>= f) s)) := by
  cases hx : x s with
  | ok a s₁ =>
    rw [hx] at h
    rw [bind_of_ok hx]
    exact h.before (hf a s₁)
  | error e s₁ =>
    rw [hx] at h
    rw [bind_of_error hx]
    exact h

theorem OnLegs.bind {x : Activity σ α} {f : α → Activity σ β}
    (hx : OnLegs agents setup request kind x) (hf : ∀ a, OnLegs agents setup request kind (f a)) :
    OnLegs agents setup request kind (x >>= f) := by
  intro s
  obtain ⟨legs, hkind, h⟩ := hx s
  obtain ⟨more, hkind', hmore⟩ := h.bind hf
  refine ⟨legs ++ more, fun leg hleg => ?_, hmore⟩
  rw [List.mem_append] at hleg
  exact hleg.elim (hkind leg) (hkind' leg)

theorem OnLegs.mono {x : Activity σ α} (h : OnLegs agents setup request kind x)
    (hkind : ∀ leg, kind leg → kind' leg) : OnLegs agents setup request kind' x := by
  intro s
  obtain ⟨legs, hlegs, hrun⟩ := h s
  exact ⟨legs, fun leg hleg => hkind leg (hlegs leg hleg), hrun⟩

theorem OnLegs.ite {c : Prop} [Decidable c] {x y : Activity σ α}
    (hx : OnLegs agents setup request kind x) (hy : OnLegs agents setup request kind y) :
    OnLegs agents setup request kind (if c then x else y) := by
  split
  · exact hx
  · exact hy

/-- Between legs: the activity logs and adds points, and does not look at the flag. -/
structure Chore (x : Agents σ → Activity σ α) : Prop where
  idle : ∀ agents, Idle (x agents)
  heedless : ∀ agents, Heedless (x agents) (x agents.unflagged)

namespace Chore

theorem pure (a : α) : Chore (σ := σ) fun _ => Pure.pure a := ⟨fun _ => .pure a, fun _ => .pure a⟩

theorem log (line : String) : Chore (σ := σ) fun _ => Migration.log line :=
  ⟨fun _ => .log line, fun _ => .log line⟩

theorem checked (x : Except Overflow α) : Chore (σ := σ) fun _ => Migration.checked x :=
  ⟨fun _ => .checked x, fun _ => .checked x⟩

theorem recordInitial (total : UInt64) :
    Chore (σ := σ) fun agents => Migration.recordInitial agents total :=
  ⟨fun _ => .recordInitial total, fun _ _ => rfl⟩

theorem recordOutcome (o : Outcome) :
    Chore (σ := σ) fun agents => Migration.recordOutcome agents o :=
  ⟨fun _ => .recordOutcome o, fun _ => recordOutcome_heedless o⟩

theorem bind {x : Agents σ → Activity σ α} {f : Agents σ → α → Activity σ β} (hx : Chore x)
    (hf : ∀ a, Chore fun agents => f agents a) : Chore fun agents => x agents >>= f agents :=
  ⟨fun agents => (hx.idle agents).bind fun a => (hf a).idle agents,
    fun agents => (hx.heedless agents).bind fun a => (hf a).heedless agents⟩

/-- What is made of the session does not depend on the flag. -/
theorem of_session {f : Agents σ → Session σ → Activity σ α}
    (hsame : ∀ (agents : Agents σ) (s : Session σ),
      f agents.unflagged s.unflagged = f agents.unflagged s)
    (hf : ∀ s, Chore fun agents => f agents s) :
    Chore fun agents => get >>= f agents where
  idle agents s := (hf s).idle agents s
  heedless agents s := by
    rw [get_bind, get_bind, hsame]
    exact (hf s).heedless agents s

end Chore

/-- Enumerating the files is a chore. -/
theorem enumerate_chore : Chore (σ := σ) fun _ => enumerate setup request := by
  refine (Chore.log _).bind fun _ =>
    Chore.of_session (fun _ _ => by simp only [Session.unflagged_world]) fun s => ?_
  dsimp only
  cases setup.walker.matching s.world.disk setup.workspace request.fileGlob setup.environment with
  | error cause => exact .pure _
  | ok locations =>
    by_cases hempty : (locations.map Location.text).isEmpty = true
    · simp only [hempty, if_true]
      exact (Chore.log _).bind fun _ => .pure _
    · simp only [hempty]
      exact (Chore.log _).bind fun _ => .pure _

/-- The leg is a count. -/
def Leg.isCount : Leg → Bool
  | count _ _ => true
  | step _ _ _ => false

/-- The activity is one leg, a count or a step, and does not look at the flag. -/
structure OneLeg (setup : Setup) (request : Request) (counts : Bool)
    (x : Agents σ → Activity σ α) : Prop where
  legs : ∀ agents s, s.cancelled = false → ∃ leg, leg.isCount = counts ∧
    Legs agents setup request s [leg] (finalSession (x agents s))
  heedless : ∀ agents, Heedless (x agents) (x agents.unflagged)

theorem OneLeg.bind {counts : Bool} {x : Agents σ → Activity σ α}
    {f : Agents σ → α → Activity σ β} (hx : OneLeg setup request counts x)
    (hf : ∀ a, Chore fun agents => f agents a) :
    OneLeg setup request counts fun agents => x agents >>= f agents where
  legs agents s hclear := by
    obtain ⟨leg, hcount, hleg⟩ := hx.legs agents s hclear
    exact ⟨leg, hcount, hleg.bind_idle fun a => (hf a).idle agents⟩
  heedless agents := (hx.heedless agents).bind fun a => (hf a).heedless agents

theorem OneLeg.log_bind {counts : Bool} {x : Agents σ → Activity σ α}
    (hx : OneLeg setup request counts x) (line : String) :
    OneLeg setup request counts fun agents => log line >>= fun _ => x agents where
  legs agents s hclear := by
    obtain ⟨leg, hcount, hleg⟩ := hx.legs agents (s.noted [line]) hclear
    exact ⟨leg, hcount, hleg.after (.noted [line])⟩
  heedless agents := (Heedless.log line).bind fun _ => hx.heedless agents

theorem countFile_oneLeg (file : String) :
    OneLeg (σ := σ) setup request true fun agents => countFile agents setup request.find file where
  legs agents s hclear := by
    obtain ⟨known, s₁, hcount, -, -⟩ := countFile_run agents setup request.find file s
    obtain ⟨done, hleg⟩ := countFile_leg hcount
    rw [hcount]
    exact ⟨_, rfl, .cons (.refl s) hclear hleg (.aside (.refl s₁))⟩
  heedless _ := countFile_heedless file

theorem runStep_oneLeg (file : String) (known : Option UInt64) :
    OneLeg (σ := σ) setup request false fun agents =>
      runStep agents (setup.job request) file known where
  legs agents s hclear := by
    cases h : runStep agents (setup.job request) file known s with
    | ok o s₁ =>
      obtain ⟨done, hleg⟩ := runStep_leg h
      exact ⟨_, rfl, .cons (.refl s) hclear hleg (.aside (.refl s₁))⟩
    | error e s₁ =>
      obtain ⟨done, hleg⟩ := runStep_overflow_leg h
      exact ⟨_, rfl, .cons (.refl s) hclear hleg (.aside (.refl s₁))⟩
  heedless _ := runStep_heedless file known

/-! ### Visiting a planned file -/

/-- Visits a planned file: takes its step, counts it in the report and adds its point to the
history. -/
def visitFile (agents : Agents σ) (setup : Setup) (request : Request) (total index : Nat)
    (report : RunReport) (p : Planned) : Activity σ (Outcome × RunReport) := do
  log s!"Processing file {index}/{total}: {p.1}"
  let o ← runStep agents (setup.job request) p.1 p.2
  let report ← checked (report.tally o)
  recordOutcome agents o
  return (o, report)

theorem visitFile_oneLeg (total index : Nat) (report : RunReport) (p : Planned) :
    OneLeg (σ := σ) setup request false fun agents =>
      visitFile agents setup request total index report p :=
  OneLeg.log_bind ((runStep_oneLeg p.1 p.2).bind fun o =>
    (Chore.checked _).bind fun _ => (Chore.recordOutcome o).bind fun _ => .pure _) _

theorem visitFile_run {total index : Nat} {report report' : RunReport} {p : Planned} {o : Outcome}
    (h : visitFile agents setup request total index report p s = .ok (o, report') s') :
    ∃ line after, runStep agents (setup.job request) p.1 p.2 (s.noted [line]) = .ok o after ∧
      report.tally o = .ok report' ∧ recordOutcome agents o after = .ok () s' := by
  unfold visitFile at h
  rw [log_bind] at h
  obtain ⟨o, after, hrun, hcount⟩ := bind_eq_ok h
  obtain ⟨report₁, s₁, hchecked, hbook⟩ := bind_eq_ok hcount
  obtain ⟨htally, rfl⟩ := checked_eq_ok hchecked
  obtain ⟨_, s₂, hrecord, hend⟩ := bind_eq_ok hbook
  cases hend
  exact ⟨_, _, hrun, htally, hrecord⟩

theorem processFiles_cons (agents : Agents σ) (setup : Setup) (request : Request)
    (total index : Nat) (report : RunReport) (p : Planned) (rest : List Planned) :
    processFiles agents setup request total report index (p :: rest) = (do
      if ← isCancelled then
        log s!"Migration cancelled before {p.1}"
        return { report with cancelled := true }
      else
        let v ← visitFile agents setup request total index report p
        if stopsAfter request.stopPolicy v.1 && !rest.isEmpty then
          log s!"Stopping after {p.1} as requested ({index}/{total} files)"
          return { v.2 with stoppedEarly := true }
        else processFiles agents setup request total v.2 (index + 1) rest) := by
  rw [processFiles]
  unfold visitFile
  simp only [bind_assoc, pure_bind]

/-! ### Loops that look at the flag -/

/-- A loop that looks at the flag before each of its items. -/
structure Loop (σ ι α β : Type) where
  /-- What is left to do when the run was asked to stop. -/
  stop : α → ι → Activity σ β
  /-- What is left to do when no item is left. -/
  finish : α → Activity σ β
  /-- An item with others after it: the loop goes on, or is over. -/
  body : α → ι → List ι → Activity σ (α ⊕ β)

/-- The loop over items. -/
def Loop.run (loop : Loop σ ι α β) (a : α) : List ι → Activity σ β
  | [] => loop.finish a
  | item :: rest => do
    if ← isCancelled then loop.stop a item
    else
      match ← loop.body a item rest with
      | .inl a => loop.run a rest
      | .inr b => return b

/-- How a loop goes on after an item. -/
def Loop.next (loop : Loop σ ι α β) (rest : List ι) : α ⊕ β → Activity σ β
  | .inl a => loop.run a rest
  | .inr b => return b

theorem Loop.run_cons (loop : Loop σ ι α β) (a : α) (item : ι) (rest : List ι) :
    loop.run a (item :: rest) = isCancelled >>= fun flag =>
      if flag then loop.stop a item else loop.body a item rest >>= loop.next rest := rfl

/-- Every item of the loop is one leg, a count or a step. A loop that is asked to stop logs and says
so. -/
structure Loop.ByLegs (setup : Setup) (request : Request) (counts : Bool) (stopped : β → Prop)
    (loop : Agents σ → Loop σ ι α β) : Prop where
  stop : ∀ agents a item s, ∃ b lines,
    (loop agents).stop a item s = .ok b (s.noted lines) ∧ stopped b
  finish : ∀ a, Chore fun agents => (loop agents).finish a
  body : ∀ a item rest, OneLeg setup request counts fun agents => (loop agents).body a item rest

namespace Loop.ByLegs

variable {counts : Bool} {stopped : β → Prop} {loop : Agents σ → Loop σ ι α β}

/-- A loop that nobody stops begins with a leg for its first item. -/
theorem first_leg (h : ByLegs setup request counts stopped loop) (agents : Agents σ) (a : α)
    (item : ι) (rest : List ι) (hclear : s.cancelled = false)
    (hrest : ∀ a, OnLegs agents setup request (fun leg => leg.isCount = counts)
      ((loop agents).run a rest)) :
    ∃ leg ahead, leg.isCount = counts ∧ (∀ leg ∈ ahead, leg.isCount = counts) ∧
      Legs agents setup request s (leg :: ahead)
        (finalSession ((loop agents).run a (item :: rest) s)) := by
  obtain ⟨leg, hcount, hleg⟩ := (h.body a item rest).legs agents s hclear
  obtain ⟨more, hcounts, hmore⟩ := hleg.bind (f := (loop agents).next rest) fun r => by
    cases r with
    | inl a => exact hrest a
    | inr b => exact (Idle.pure b).onLegs
  refine ⟨leg, more, hcount, hcounts, ?_⟩
  unfold Loop.run
  rw [isCancelled_bind, hclear, if_neg Bool.false_ne_true]
  exact hmore

theorem onLegs (h : ByLegs setup request counts stopped loop) (a : α) (items : List ι) :
    OnLegs agents setup request (fun leg => leg.isCount = counts) ((loop agents).run a items) := by
  induction items generalizing a with
  | nil => exact ((h.finish a).idle agents).onLegs
  | cons item rest ih =>
    intro s
    cases hflag : s.cancelled with
    | true =>
      obtain ⟨b, lines, hstop, -⟩ := h.stop agents a item s
      unfold Loop.run
      rw [isCancelled_bind, hflag, if_pos rfl, hstop]
      exact ⟨[], nofun, .aside (.noted lines)⟩
    | false =>
      obtain ⟨leg, ahead, hcount, hcounts, hlegs⟩ := h.first_leg agents a item rest hflag ih
      exact ⟨leg :: ahead, List.forall_mem_cons.mpr ⟨hcount, hcounts⟩, hlegs⟩

end Loop.ByLegs

/-! ### The four loops of a run -/

/-- Counting file by file, for a report. -/
def countingLoop (setup : Setup) (find : String) (agents : Agents σ) :
    Loop σ String CountReport CountReport where
  stop report _ := do
    log "Counting cancelled."
    return { report with cancelled := true }
  finish report := return report
  body report file _ := do
    match ← countFile agents setup find file with
    | none => return .inl report
    | some n =>
      let report := { report with filesScanned := report.filesScanned + 1 }
      if n = 0 then return .inl report
      else
        log (foundLine n file)
        let total ← checked (addCounts report.total n)
        return .inl { report with filesWithPatterns := report.filesWithPatterns + 1, total }

/-- Looking for the first file with occurrences. -/
def searchLoop (setup : Setup) (find : String) (agents : Agents σ) : Loop σ String Unit Plan where
  stop _ _ := return .cancelled
  finish _ := do
    log "WARNING: No files with patterns found to migrate."
    return .nothing
  body _ file _ := do
    let n := (← countFile agents setup find file).getD 0
    if n = 0 then return .inl ()
    else
      log (foundLine n file)
      log s!"MIGRATE ONE FILE MODE: Will only process file: {file}"
      recordInitial agents n
      return .inr (.files [(file, some n)])

/-- Counting file by file, for a plan. -/
def scanLoop (setup : Setup) (find : String) (agents : Agents σ) :
    Loop σ String (List Planned × UInt64) (Option (List Planned × UInt64)) where
  stop _ _ := return none
  finish found := return some found
  body found file _ := do
    let count ← countFile agents setup find file
    let n := count.getD 0
    if n = 0 then return .inl (found.1 ++ [(file, count)], found.2)
    else
      log (foundLine n file)
      let total ← checked (addCounts found.2 n)
      return .inl (found.1 ++ [(file, count)], total)

/-- Migrating the planned files one after the other. -/
def migrationLoop (setup : Setup) (request : Request) (total : Nat) (agents : Agents σ) :
    Loop σ Planned (RunReport × Nat) RunReport where
  stop at_ p := do
    log s!"Migration cancelled before {p.1}"
    return { at_.1 with cancelled := true }
  finish at_ := return at_.1
  body at_ p rest := do
    let v ← visitFile agents setup request total at_.2 at_.1 p
    if stopsAfter request.stopPolicy v.1 && !rest.isEmpty then
      log s!"Stopping after {p.1} as requested ({at_.2}/{total} files)"
      return .inr { v.2 with stoppedEarly := true }
    else return .inl (v.2, at_.2 + 1)

theorem countFiles_eq (find : String) (report : CountReport) (files : List String) :
    countFiles agents setup find report files =
      (countingLoop setup find agents).run report files := by
  induction files generalizing report with
  | nil => rfl
  | cons file rest ih =>
    unfold countFiles
    rw [Loop.run_cons]
    refine bind_congr fun flag => ?_
    cases flag with
    | true => rfl
    | false =>
      show (countFile agents setup find file >>= _) = (countFile agents setup find file >>= _) >>= _
      rw [bind_assoc]
      refine bind_congr fun known => ?_
      cases known with
      | none => exact ih report
      | some n =>
        by_cases hzero : n = 0
        · simp only [hzero, if_true, pure_bind]
          exact ih _
        · simp only [hzero, if_false, bind_assoc, pure_bind]
          exact bind_congr fun _ => bind_congr fun _ => ih _

theorem planFirst_eq (find : String) (files : List String) :
    planFirst agents setup find files = (searchLoop setup find agents).run () files := by
  induction files with
  | nil => rfl
  | cons file rest ih =>
    unfold planFirst
    rw [Loop.run_cons]
    refine bind_congr fun flag => ?_
    cases flag with
    | true => rfl
    | false =>
      show (countFile agents setup find file >>= _) = (countFile agents setup find file >>= _) >>= _
      rw [bind_assoc]
      refine bind_congr fun known => ?_
      by_cases hzero : known.getD 0 = 0
      · simp only [hzero, if_true, pure_bind]
        exact ih
      · simp only [hzero, if_false, bind_assoc, pure_bind]
        rfl

theorem scanAll_eq (find : String) (planned : List Planned) (total : UInt64)
    (files : List String) :
    scanAll agents setup find planned total files =
      (scanLoop setup find agents).run (planned, total) files := by
  induction files generalizing planned total with
  | nil => rfl
  | cons file rest ih =>
    unfold scanAll
    rw [Loop.run_cons]
    refine bind_congr fun flag => ?_
    cases flag with
    | true => rfl
    | false =>
      show (countFile agents setup find file >>= _) = (countFile agents setup find file >>= _) >>= _
      rw [bind_assoc]
      refine bind_congr fun known => ?_
      by_cases hzero : known.getD 0 = 0
      · simp only [hzero, if_true, pure_bind]
        exact ih _ _
      · simp only [hzero, if_false, bind_assoc, pure_bind]
        exact bind_congr fun _ => bind_congr fun _ => ih _ _

theorem processFiles_eq (total : Nat) (report : RunReport) (index : Nat)
    (planned : List Planned) :
    processFiles agents setup request total report index planned =
      (migrationLoop setup request total agents).run (report, index) planned := by
  induction planned generalizing report index with
  | nil => rfl
  | cons p rest ih =>
    rw [processFiles_cons, Loop.run_cons]
    refine bind_congr fun flag => ?_
    cases flag with
    | true => rfl
    | false =>
      show (visitFile _ _ _ _ _ _ _ >>= _) = (visitFile _ _ _ _ _ _ _ >>= _) >>= _
      rw [bind_assoc]
      refine bind_congr fun v => ?_
      by_cases hstop : (stopsAfter request.stopPolicy v.1 && !rest.isEmpty) = true
      · simp only [hstop, if_true, bind_assoc, pure_bind]
        rfl
      · rw [if_neg hstop, if_neg hstop]
        exact ih _ _

/-! ### The loops go leg by leg -/

theorem countingLoop_byLegs :
    Loop.ByLegs (σ := σ) setup request true (fun report => report.cancelled = true)
      (countingLoop setup request.find) where
  stop _ _ _ _ := ⟨_, [_], rfl, rfl⟩
  finish _ := .pure _
  body report file rest := by
    refine (countFile_oneLeg file).bind fun known => ?_
    cases known with
    | none => exact .pure _
    | some n =>
      by_cases hzero : n = 0
      · simp only [hzero, if_true]
        exact .pure _
      · simp only [hzero, if_false]
        exact (Chore.log _).bind fun _ => (Chore.checked _).bind fun _ => .pure _

theorem searchLoop_byLegs :
    Loop.ByLegs (σ := σ) setup request true (fun plan => plan = .cancelled)
      (searchLoop setup request.find) where
  stop _ _ _ _ := ⟨_, [], by rw [Session.noted_nil]; rfl, rfl⟩
  finish _ := (Chore.log _).bind fun _ => .pure _
  body _ file rest := by
    refine (countFile_oneLeg file).bind fun known => ?_
    by_cases hzero : known.getD 0 = 0
    · simp only [hzero, if_true]
      exact .pure _
    · simp only [hzero, if_false]
      exact (Chore.log _).bind fun _ => (Chore.log _).bind fun _ =>
        (Chore.recordInitial _).bind fun _ => .pure _

theorem scanLoop_byLegs :
    Loop.ByLegs (σ := σ) setup request true (fun found => found = none)
      (scanLoop setup request.find) where
  stop _ _ _ _ := ⟨_, [], by rw [Session.noted_nil]; rfl, rfl⟩
  finish _ := .pure _
  body found file rest := by
    refine (countFile_oneLeg file).bind fun known => ?_
    by_cases hzero : known.getD 0 = 0
    · simp only [hzero, if_true]
      exact .pure _
    · simp only [hzero, if_false]
      exact (Chore.log _).bind fun _ => (Chore.checked _).bind fun _ => .pure _

theorem migrationLoop_byLegs (total : Nat) :
    Loop.ByLegs (σ := σ) setup request false (fun report => report.cancelled = true)
      (migrationLoop setup request total) where
  stop _ _ _ _ := ⟨_, [_], rfl, rfl⟩
  finish _ := .pure _
  body at_ p rest := by
    refine (visitFile_oneLeg total at_.2 at_.1 p).bind fun v => ?_
    by_cases hstop : (stopsAfter request.stopPolicy v.1 && !rest.isEmpty) = true
    · simp only [hstop, if_true]
      exact (Chore.log _).bind fun _ => .pure _
    · simp only [hstop]
      exact .pure _

theorem processFiles_onLegs (agents : Agents σ) (setup : Setup) (request : Request)
    (total index : Nat) (report : RunReport) (planned : List Planned) :
    OnLegs agents setup request (fun leg => leg.isCount = false)
      (processFiles agents setup request total report index planned) := by
  rw [processFiles_eq]
  exact (migrationLoop_byLegs total).onLegs _ planned

end Codemod.Migration
