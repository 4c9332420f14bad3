import Codemod.Proofs.Migration.Trail
import Mathlib.Data.List.Basic
import Mathlib.Data.List.TakeWhile

/-!
# The number in an answer

The answer to a count prompt is any text. The number in it is the one that its first run of digits
spells, with any number of zeros at the beginning, unless a minus sign stands before the run or the
number needs more than 64 bits. Every other answer counts as zero, and so does a failure of the
model; these are the counts that leave a line in the log.

- `Numeral`, `Reads` — a number in digits, and texts in which it is the first number
- `countIn?_append` — the number in a text whose parts are known
- `count?_eq_some_iff` — the number in an answer
- `countOccurrences_reads` — what is counted, and what is logged
-/

namespace Codemod.Answer

variable {α : Type} {p : α → Bool} {xs ys : List α}
variable {before digits after : List Char} {n : Nat} {answer : String}

/-! ### Texts with a number -/

/-- The text spells a number in decimal digits. -/
structure Numeral (cs : List Char) (n : Nat) : Prop where
  ne_nil : cs ≠ []
  digits : ∀ c ∈ cs, c.isDigit = true
  value : Nat.ofDigitChars 10 cs 0 = n

/-- The first run of digits in the answer spells the number, and no minus sign stands before it. -/
def Reads (answer : String) (n : Nat) : Prop :=
  ∃ before digits after : List Char, answer.toList = before ++ digits ++ after ∧
    (∀ c ∈ before, c.isDigit = false) ∧ before.getLast? ≠ some '-' ∧ Numeral digits n ∧
    ∀ c ∈ after.head?, c.isDigit = false

theorem isDigit_eq : isDigit = Char.isDigit := rfl

theorem decimal_eq (cs : List Char) : decimal cs = Nat.ofDigitChars 10 cs 0 := by
  rw [decimal, Nat.ofDigitChars_eq_foldl]
  congr 1
  funext n c
  rw [Nat.mul_comm]

/-! ### The first run of digits -/

/-- A list splits where a class ends. -/
theorem span_append (hxs : ∀ x ∈ xs, p x = true) (hys : ∀ y ∈ ys.head?, p y = false) :
    (xs ++ ys).takeWhile p = xs ∧ (xs ++ ys).dropWhile p = ys := by
  rw [List.takeWhile_append_of_pos hxs, List.dropWhile_append_of_pos hxs]
  cases ys with
  | nil => simp
  | cons y ys => simp [hys y rfl]

/-- The number in a text whose parts are known. -/
theorem countIn?_append (hbefore : ∀ c ∈ before, c.isDigit = false)
    (hminus : before.getLast? ≠ some '-') (hdigits : Numeral digits n)
    (hafter : ∀ c ∈ after.head?, c.isDigit = false) :
    countIn? (before ++ digits ++ after) = if n < 2 ^ 64 then some n.toUInt64 else none := by
  have hbegins : ∀ c ∈ (digits ++ after).head?, (!c.isDigit) = false := by
    intro c hc
    rw [List.head?_append_of_ne_nil _ hdigits.ne_nil] at hc
    simp [hdigits.digits c (List.mem_of_mem_head? hc)]
  have hskipped : ∀ c ∈ before, (!c.isDigit) = true := by
    intro c hc
    simp [hbefore c hc]
  obtain ⟨hstart, hrest⟩ := span_append hskipped hbegins
  obtain ⟨hrun, -⟩ := span_append hdigits.digits hafter
  have hfound : ¬(digits.isEmpty || before.getLast? == some '-') = true := by
    simp [hdigits.ne_nil, hminus]
  rw [countIn?, isDigit_eq, List.append_assoc, hstart, hrest, hrun, if_neg hfound, decimal_eq,
    hdigits.value]

/-- The number in an answer is the one that is read there, if it fits. -/
theorem count?_eq_some_iff {n : UInt64} : count? answer = some n ↔ Reads answer n.toNat := by
  constructor
  · intro h
    rw [count?, countIn?, isDigit_eq] at h
    split at h
    · cases h
    -- the parts are those that the search splits the answer into
    · next hfound =>
      rw [Bool.or_eq_true, not_or, List.isEmpty_iff, beq_iff_eq] at hfound
      split at h
      · next hfits =>
        rw [decimal_eq] at h hfits
        have hvalue := congrArg UInt64.toNat (Option.some.inj h)
        rw [Nat.toUInt64, UInt64.toNat_ofNat_of_lt' hfits] at hvalue
        refine ⟨_, _, (answer.toList.dropWhile fun c => !c.isDigit).dropWhile Char.isDigit, ?_, ?_,
          hfound.2, ⟨hfound.1, fun c hc => List.mem_takeWhile_imp hc, hvalue⟩, ?_⟩
        · rw [List.append_assoc, List.takeWhile_append_dropWhile, List.takeWhile_append_dropWhile]
        · intro c hc
          have hnot := List.mem_takeWhile_imp hc
          rwa [Bool.not_eq_true'] at hnot
        · intro c hc
          have hhead := List.head?_dropWhile_not Char.isDigit
            (answer.toList.dropWhile fun c => !c.isDigit)
          rwa [Option.mem_def.mp hc] at hhead
      · cases h
  · rintro ⟨before, digits, after, hanswer, hbefore, hminus, hdigits, hafter⟩
    rw [count?, hanswer, countIn?_append hbefore hminus hdigits hafter, if_pos n.toNat_lt]
    simp

/-- Digits of other scripts do not count, and zeros at the beginning do not matter. -/
example : count? "v٣ - 000000000000000000000018446744073709551615, not 4" =
    some 18446744073709551615 := by decide

end Codemod.Answer

namespace Codemod.Migration

variable {σ : Type}

/-- The line that a count without a number leaves in the log. -/
def complaint (label : String) : Except ModelError String → String
  | .error cause => s!"Counting failed for {label}: {cause.message}. Assuming 0 occurrences"
  | .ok _ => s!"Could not read a count for {label}, defaulting to 0"

/-- An answer counts as the number that is read in it, and nothing is logged. Without such a number
of 64 bits, and when the model fails, the count is zero, and one line is logged. -/
theorem countOccurrences_reads (agents : Agents σ) (content find label context : String)
    (s : Session σ) :
    let prompt := Prompt.count content find label context
    let reply := (agents.complete s.world prompt).value
    (∀ (answer : String) (n : UInt64),
        Answer.count? answer = some n ↔ Answer.Reads answer n.toNat) ∧
      ((∃ answer n, reply = .ok answer ∧ Answer.Reads answer n.toNat ∧
          countOccurrences agents content find label context s = .ok n (s.asked agents prompt)) ∨
        (∀ answer (n : UInt64), reply = .ok answer → ¬Answer.Reads answer n.toNat) ∧
          countOccurrences agents content find label context s =
            .ok 0 ((s.asked agents prompt).noted [complaint label reply])) := by
  intro prompt reply
  refine ⟨fun _ _ => Answer.count?_eq_some_iff, ?_⟩
  unfold reply countOccurrences
  rw [bind_of_ok (ask_run prompt)]
  cases (agents.complete s.world prompt).value with
  | error cause => exact .inr ⟨nofun, rfl⟩
  | ok answer =>
    dsimp only
    cases hcount : Answer.count? answer with
    | some n => exact .inl ⟨answer, n, rfl, Answer.count?_eq_some_iff.mp hcount, rfl⟩
    | none =>
      refine .inr ⟨?_, rfl⟩
      rintro _ n ⟨⟩ hreads
      rw [Answer.count?_eq_some_iff.mpr hreads] at hcount
      cases hcount

end Codemod.Migration
