import Codemod.Proofs.Client.Launches

/-!
# One call of the tool as a whole

The prompt is in one scratch file from before the first launch until after the last, every launch
gets the path of that file, the launches end with the first that succeeds or with the last that is
allowed, and the file is gone when the call is over.

- `occursIn_replaceAll` — a replacement occurs where a text did
- `exists_argument` — the path of the prompt's file is a part of the arguments
- `Account` — the launches of a call
- `Completed` — the ways in which a call ends
- `complete_completed` — every call ends in one of them
-/

namespace Codemod.Text

/-! ### What a replaced text contains -/

variable {needle replacement cs rest : List Char} {c : Char} {s t u : String}

theorem hasInfix_append (cs rest : List Char) : hasInfix cs (cs ++ rest) = true := by
  cases h : cs ++ rest with
  | nil => rw [(List.append_eq_nil_iff.mp h).1, hasInfix, List.isEmpty_nil]
  | cons c more =>
    have hprefix : cs.isPrefixOf (c :: more) = true := by
      rw [← h, List.isPrefixOf_iff_prefix]
      exact List.prefix_append cs rest
    rw [hasInfix, hprefix, Bool.true_or]

theorem occursIn_self (s : String) : occursIn s s = true := by
  have h := hasInfix_append s.toList []
  rwa [List.append_nil] at h

theorem hasInfix_cons (h : hasInfix needle cs = true) : hasInfix needle (c :: cs) = true := by
  rw [hasInfix, h, Bool.or_true]

theorem hasInfix_replaceFrom (hne : needle ≠ []) (h : hasInfix needle cs = true) :
    hasInfix replacement (replaceFrom needle replacement 0 cs) = true := by
  induction cs with
  | nil =>
    rw [hasInfix, List.isEmpty_iff] at h
    exact absurd h hne
  | cons c cs ih =>
    rw [replaceFrom]
    split
    · exact hasInfix_append _ _
    · next hprefix =>
      rw [hasInfix, Bool.or_eq_true] at h
      exact hasInfix_cons (ih (h.resolve_left hprefix))

/-- Where a text occurs that is replaced, its replacement occurs afterwards. -/
theorem occursIn_replaceAll (hne : s ≠ "") (h : occursIn s u = true) :
    occursIn t (replaceAll s t u) = true := by
  have hempty : ¬s.isEmpty = true := by rwa [String.isEmpty_iff]
  rw [occursIn, replaceAll, if_neg hempty, String.toList_ofList]
  exact hasInfix_replaceFrom (by rwa [Ne, String.toList_eq_nil_iff]) h

end Codemod.Text

namespace Codemod.Client

open Codemod.Stream (Transcript)

variable {σ : Type} {launcher : Launcher σ} {options : ClientOptions}
  {directory prompt promptFile : String} {fault : Option Fault} {d : Desk σ}

/-- The path of the prompt's file is a part of the arguments, with or without a place for it. -/
theorem exists_argument (options : ClientOptions) (promptFile : String) :
    ∃ argument ∈ arguments options promptFile, Text.occursIn promptFile argument = true := by
  rw [arguments]
  split
  · next hplace =>
    obtain ⟨argument, hargument, hoccurs⟩ := List.any_eq_true.mp hplace
    exact ⟨_, List.mem_map_of_mem hargument, Text.occursIn_replaceAll (by decide) hoccurs⟩
  · exact ⟨promptFile, by simp, Text.occursIn_self promptFile⟩

/-- The launches of a call whose prompt is in a file: from the desk where they start to the desk
where they end, with the result of the call. -/
structure Account (launcher : Launcher σ) (options : ClientOptions) (prompt promptFile : String)
    (start : Desk σ) (launches : List (Launch σ)) (result : Except ModelError String)
    (finish : Desk σ) : Prop where
  /-- The launches were made one after the other, each on what the one before has left. -/
  made : Attempts launcher (arguments options promptFile) (options.retry.maxAttempts.toNat - 1)
    start launches (result, finish)
  atLeast : 1 ≤ launches.length
  atMost : launches.length ≤ max 1 options.retry.maxAttempts.toNat
  /-- The call goes on after a failure only. -/
  failed : ∀ l ∈ launches.dropLast, ∃ cause, l.outcome = .error cause
  /-- The result is what the last launch printed, or its failure when no attempt is left. -/
  last : ∃ l, launches.getLast? = some l ∧ l.after = finish ∧
    match l.outcome with
    | .ok output => result = .ok (Transcript.ofBytes output).finish
    | .error cause =>
      result = .error cause ∧ launches.length = max 1 options.retry.maxAttempts.toNat
  /-- The prompt can be read during every launch. -/
  readable : ∀ l ∈ launches, l.before.disk.readBytes promptFile = .ok prompt.toUTF8 ∧
    l.after.disk.readBytes promptFile = .ok prompt.toUTF8
  /-- Every launch is told where. -/
  told : ∃ argument ∈ arguments options promptFile, Text.occursIn promptFile argument = true

/-- How a call on a desk ends, with the desk that it leaves. -/
inductive Completed (launcher : Launcher σ) (options : ClientOptions) (directory prompt : String)
    (d : Desk σ) : Option Fault → Except ModelError String × Desk σ → Prop
  /-- The scratch file cannot be made: nothing is launched. -/
  | unmade {fault : Option Fault} {cause : SystemError} :
    d.disk.createScratch directory "gfactor-prompt-" ".txt" (arriving prompt.toUTF8 fault) =
      .error cause →
    Completed launcher options directory prompt d fault (.error (.scratch cause), d)
  /-- The prompt cannot be written to it: nothing is launched, and the file is gone. -/
  | unwritten {fault : Fault} {promptFile : String} {made left : FileSystem} :
    d.disk.createScratch directory "gfactor-prompt-" ".txt"
      (arriving prompt.toUTF8 (some fault)) = .ok (promptFile, made) →
    left.isTaken promptFile = false →
    Completed launcher options directory prompt d (some fault)
      (.error (.scratch fault.cause), { d with disk := left })
  /-- The tool is launched, and the file is gone afterwards. -/
  | launched {promptFile : String} {made : FileSystem} {launches : List (Launch σ)}
    {result : Except ModelError String} {finish final : Desk σ} :
    d.disk.createScratch directory "gfactor-prompt-" ".txt" prompt.toUTF8 =
      .ok (promptFile, made) →
    Account launcher options prompt promptFile { d with disk := made } launches result finish →
    finish.disk.removeFile promptFile = .ok final.disk →
    final.disk.isTaken promptFile = false → final.memory = finish.memory →
    Completed launcher options directory prompt d none (result, final)

theorem max_one_eq (options : ClientOptions) :
    options.retry.maxAttempts.toNat - 1 + 1 = max 1 options.retry.maxAttempts.toNat := by
  omega

theorem account_of_attempts {start : Desk σ} {launches : List (Launch σ)}
    {ended : Except ModelError String × Desk σ} (hspares : launcher.Spares promptFile prompt.toUTF8)
    (hstart : start.disk.Holds promptFile prompt.toUTF8)
    (h : Attempts launcher (arguments options promptFile) (options.retry.maxAttempts.toNat - 1)
      start launches ended) :
    Account launcher options prompt promptFile start launches ended.1 ended.2 where
  made := h
  atLeast := List.length_pos_iff.mpr h.ne_nil
  atMost := max_one_eq options ▸ h.length_le
  failed := h.failed
  last := max_one_eq options ▸ h.last
  readable l hl := by
    have hfile := (h.holds hspares hstart).1 l hl
    exact ⟨hfile.1.readBytes_eq, hfile.2.readBytes_eq⟩
  told := exists_argument options promptFile

/-! ### The scratch file -/

theorem writePrompt_of_error {cause : SystemError}
    (h : d.disk.createScratch directory "gfactor-prompt-" ".txt" (arriving prompt.toUTF8 fault) =
      .error cause) : (writePrompt directory prompt fault).run d = (.error cause, d) := by
  simp only [writePrompt, StateT.run_bind, StateT.run_get, pure_bind]
  rw [h]
  rfl

theorem writePrompt_of_fault {fault : Fault} {made : FileSystem}
    (h : d.disk.createScratch directory "gfactor-prompt-" ".txt"
      (arriving prompt.toUTF8 (some fault)) = .ok (promptFile, made)) :
    (writePrompt directory prompt (some fault)).run d =
      (.error fault.cause, { d with disk := (made.removeFile promptFile).toOption.getD made }) := by
  simp only [writePrompt, StateT.run_bind, StateT.run_get, pure_bind]
  rw [h]
  rfl

theorem writePrompt_of_ok {made : FileSystem}
    (h : d.disk.createScratch directory "gfactor-prompt-" ".txt" prompt.toUTF8 =
      .ok (promptFile, made)) :
    (writePrompt directory prompt none).run d = (.ok promptFile, { d with disk := made }) := by
  simp only [writePrompt, StateT.run_bind, StateT.run_get, pure_bind, arriving]
  rw [h]
  rfl

theorem complete_of_error {cause : SystemError} {d' : Desk σ}
    (h : (writePrompt directory prompt fault).run d = (.error cause, d')) :
    (complete launcher options directory prompt fault).run d = (.error (.scratch cause), d') := by
  rw [complete, StateT.run_bind, h]
  rfl

theorem complete_of_ok (launcher : Launcher σ) (options : ClientOptions) {d' : Desk σ}
    (h : (writePrompt directory prompt fault).run d = (.ok promptFile, d')) :
    ∃ final : Desk σ, (complete launcher options directory prompt fault).run d =
        (((launchAll launcher options promptFile).run d').1, final) ∧
      final.memory = ((launchAll launcher options promptFile).run d').2.memory ∧
      final.disk = ((((launchAll launcher options promptFile).run d').2.disk.removeFile
        promptFile).toOption.getD ((launchAll launcher options promptFile).run d').2.disk) := by
  rw [complete, StateT.run_bind, h]
  show ∃ final, (launchAll launcher options promptFile >>= _).run d' = _ ∧ _
  rw [StateT.run_bind]
  generalize (launchAll launcher options promptFile).run d' = ended
  obtain ⟨result, finish⟩ := ended
  cases result with
  | ok text => exact ⟨_, rfl, rfl, rfl⟩
  | error cause => exact ⟨_, rfl, rfl, rfl⟩

/-! ### The call -/

theorem completed_of_fault {fault : Fault} {made : FileSystem}
    (h : d.disk.createScratch directory "gfactor-prompt-" ".txt"
      (arriving prompt.toUTF8 (some fault)) = .ok (promptFile, made)) :
    Completed launcher options directory prompt d (some fault)
      ((complete launcher options directory prompt (some fault)).run d) := by
  obtain ⟨left, hremoved, hgone⟩ := (FileSystem.holds_createScratch h).removeFile_eq
  rw [complete_of_error (writePrompt_of_fault h), hremoved]
  exact .unwritten h hgone

theorem completed_of_ok (hnever : launcher.NeverScratch)
    (hspares : launcher.Spares promptFile prompt.toUTF8) {made : FileSystem}
    (h : d.disk.createScratch directory "gfactor-prompt-" ".txt" prompt.toUTF8 =
      .ok (promptFile, made)) :
    Completed launcher options directory prompt d none
      ((complete launcher options directory prompt).run d) := by
  have hstart : made.Holds promptFile prompt.toUTF8 := FileSystem.holds_createScratch h
  obtain ⟨final, heq, hmemory, hdisk⟩ := complete_of_ok launcher options (writePrompt_of_ok h)
  obtain ⟨launches, hlaunches⟩ := launchAll_attempts hnever { d with disk := made }
  -- the file has been there all the time, so it can be removed
  obtain ⟨left, hremoved, hgone⟩ := (hlaunches.holds hspares hstart).2.removeFile_eq
  rw [hremoved] at hdisk
  rw [heq]
  exact .launched h (account_of_attempts hspares hstart hlaunches) (by rw [hremoved, hdisk]; rfl)
    (by rw [hdisk]; exact hgone) hmemory

/-- Every call ends in one of three ways, as long as the launches that fail do not blame the
prompt's file and leave it alone. -/
theorem complete_completed (hnever : launcher.NeverScratch)
    (hspares : ∀ promptFile made, d.disk.createScratch directory "gfactor-prompt-" ".txt"
      prompt.toUTF8 = .ok (promptFile, made) → launcher.Spares promptFile prompt.toUTF8) :
    Completed launcher options directory prompt d fault
      ((complete launcher options directory prompt fault).run d) := by
  cases hscratch : d.disk.createScratch directory "gfactor-prompt-" ".txt"
      (arriving prompt.toUTF8 fault) with
  | error cause =>
    rw [complete_of_error (writePrompt_of_error hscratch)]
    exact .unmade hscratch
  | ok created =>
    obtain ⟨promptFile, made⟩ := created
    cases fault with
    | some fault => exact completed_of_fault hscratch
    | none => exact completed_of_ok hnever (hspares promptFile made hscratch) hscratch

/-- A tool that fails when it is launched first and prints a number from then on, and counts how
often it was launched. -/
def fallible : Launcher Nat := fun _ => modifyGet fun d =>
  (if d.memory = 0 then .error (.exit "claude" (some 1) "busy") else .ok "7\n".toUTF8.data.toList,
    { d with memory := d.memory + 1 })

theorem complete_completed_second :
    let options : ClientOptions :=
      ⟨"claude", ClientOptions.defaultArguments, .zero, .zero, RetryPolicy.attempts 4, none, none⟩
    let d : Desk Nat := { disk := { entries := [(["tmp"], .directory)] }, memory := 0 }
    Completed fallible options "/tmp" "How many?" d none
      ((complete fallible options "/tmp" "How many?").run d) ∧
    ((complete fallible options "/tmp" "How many?").run d).1.toOption = some "7" ∧
    ((complete fallible options "/tmp" "How many?").run d).2.memory = 2 := by
  intro options d
  have hnever : fallible.NeverScratch := by
    intro arguments d cause hscratch
    change (if d.memory = 0 then _ else _) = _ at hscratch
    split at hscratch <;> cases hscratch
  have hspares (promptFile : String) (bytes : ByteArray) : fallible.Spares promptFile bytes :=
    fun _ _ hfile => hfile
  refine ⟨complete_completed hnever fun promptFile _ _ => hspares promptFile _, ?_, ?_⟩
  · decide +kernel
  · decide +kernel

end Codemod.Client
