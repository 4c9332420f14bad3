import Codemod.Model.Answer
import Mathlib.Data.List.Infix
import Mathlib.Data.List.TakeWhile

/-!
# What is taken off an answer

The content in an answer is what is left of it without the line breaks before it, the blanks after
it and a fence around it. What these are is said here of the answer's text, apart from how they are
found.

- `Text.dropEndWhile_append_of_not`, `Text.dropEndWhile_dropEndWhile` — trimming at the end
- `IsBlock`, `fencedBody?_eq_some_iff` — a text that is one block between fences
- `Wraps`, `isBlock_iff_wraps` — an answer that is one, but for what is trimmed
- `unwrapped`, `normalizeChars_eq` — what is left of an answer
- `not_endsInNewline` — texts that do not end in a line feed
-/

namespace Codemod.Text

variable {α : Type} {p q : α → Bool} {x : α} {xs ys : List α}

/-! ### Trimming at the end -/

/-- Nothing is dropped beyond a member that stays. -/
theorem dropEndWhile_append_of_not (h : p x = false) :
    dropEndWhile p (xs ++ x :: ys) = xs ++ x :: dropEndWhile p ys := by
  have hx : ¬p x = true := by rw [h]; exact Bool.false_ne_true
  unfold dropEndWhile
  rw [List.reverse_append, List.reverse_cons, List.append_assoc, List.dropWhile_append]
  split
  · next hempty =>
    rw [List.isEmpty_iff.mp hempty, List.singleton_append, List.dropWhile_cons_of_neg hx]
    simp
  · simp

theorem dropEndWhile_append_of_pos (h : ∀ y ∈ ys, p y = true) :
    dropEndWhile p (xs ++ ys) = dropEndWhile p xs := by
  unfold dropEndWhile
  rw [List.reverse_append, List.dropWhile_append_of_pos fun y hy => h y (List.mem_reverse.mp hy)]

/-- What is dropped first does not matter to a larger class. -/
theorem dropEndWhile_dropEndWhile (hpq : ∀ x, p x = true → q x = true) (xs : List α) :
    dropEndWhile q (dropEndWhile p xs) = dropEndWhile q xs := by
  have hdropped : ∀ y ∈ (xs.reverse.takeWhile p).reverse, q y = true := fun y hy =>
    hpq y (List.mem_takeWhile_imp (List.mem_reverse.mp hy))
  conv_rhs => rw [← dropEndWhile_append_takeWhile p xs]
  exact (dropEndWhile_append_of_pos hdropped).symm

/-- Nothing is dropped from a list that ends with a member outside the class. -/
theorem dropEndWhile_eq_self (h : ∀ x ∈ xs.getLast?, p x = false) : dropEndWhile p xs = xs := by
  obtain rfl | ⟨ys, y, rfl⟩ := List.eq_nil_or_concat xs
  · rfl
  · rw [List.concat_eq_append] at h ⊢
    exact dropEndWhile_concat_of_not ys (h y List.getLast?_concat)

/-- What is left ends with a member outside the class. -/
theorem getLast?_dropEndWhile (p : α → Bool) (xs : List α) :
    ∀ x ∈ (dropEndWhile p xs).getLast?, p x = false := by
  intro x hx
  rw [dropEndWhile, List.getLast?_reverse] at hx
  have hhead := List.head?_dropWhile_not p xs.reverse
  rw [Option.mem_def.mp hx] at hhead
  exact hhead

end Codemod.Text

namespace Codemod.Answer

open Text (isBlank isLineBreak trimEnd)

variable {text body inner rest cs : List Char} {answer : List Char}

/-! ### One block between fences -/

theorem dropStart?_eq_some_iff {start : List Char} :
    dropStart? start cs = some rest ↔ cs = start ++ rest := by
  unfold dropStart?
  constructor
  · intro h
    split at h
    · next hstart =>
      obtain ⟨rest', rfl⟩ := List.isPrefixOf_iff_prefix.mp hstart
      rw [List.drop_left] at h
      rw [Option.some.inj h]
    · cases h
  · rintro rfl
    rw [if_pos (List.isPrefixOf_iff_prefix.mpr (List.prefix_append start rest)), List.drop_left]

theorem dropEnd?_eq_some_iff {tail : List Char} :
    dropEnd? tail cs = some rest ↔ cs = rest ++ tail := by
  unfold dropEnd?
  constructor
  · intro h
    split at h
    · next htail =>
      obtain ⟨rest', rfl⟩ := List.isSuffixOf_iff_suffix.mp htail
      rw [List.length_append, Nat.add_sub_cancel, List.take_left] at h
      rw [Option.some.inj h]
    · cases h
  · rintro rfl
    rw [if_pos (List.isSuffixOf_iff_suffix.mpr (List.suffix_append rest tail)), List.length_append,
      Nat.add_sub_cancel, List.take_left]

/-- What follows the first line stands behind a line feed, with none before it. -/
theorem afterFirstLine?_eq_some_iff :
    afterFirstLine? cs = some rest ↔ ∃ line, cs = line ++ '\n' :: rest ∧ '\n' ∉ line := by
  induction cs with
  | nil => simp [afterFirstLine?]
  | cons c cs ih =>
    rw [afterFirstLine?]
    by_cases hc : c = '\n'
    · subst hc
      constructor
      · intro h
        obtain rfl := Option.some.inj h
        exact ⟨[], rfl, List.not_mem_nil⟩
      · rintro ⟨line, hline, hnot⟩
        cases line with
        | nil => rw [(List.cons.inj hline).2]; rfl
        | cons d line => exact absurd (List.mem_cons.mpr (.inl (List.cons.inj hline).1)) hnot
    · rw [if_neg (by simpa using hc), ih]
      constructor
      · rintro ⟨line, rfl, hnot⟩
        exact ⟨c :: line, rfl, List.not_mem_cons_of_ne_of_not_mem (Ne.symm hc) hnot⟩
      · rintro ⟨line, hline, hnot⟩
        cases line with
        | nil => exact absurd (List.cons.inj hline).1 hc
        | cons d line =>
          exact ⟨line, (List.cons.inj hline).2, fun hmem => hnot (List.mem_cons_of_mem d hmem)⟩

theorem hasFencedLine_iff : hasFencedLine cs = true ↔ ('\n' :: fence) <:+: cs := by
  induction cs with
  | nil => simp [hasFencedLine]
  | cons c cs ih =>
    rw [hasFencedLine, Bool.or_eq_true, ih, List.infix_cons_iff, List.cons_prefix_cons,
      Bool.and_eq_true, beq_iff_eq, List.isPrefixOf_iff_prefix, eq_comm]

/-- The text is one block: a fence with the rest of its line, a body, and a fence. No line of the
body but the first begins with a fence. -/
def IsBlock (text body : List Char) : Prop :=
  ∃ tag, text = fence ++ tag ++ '\n' :: (body ++ fence) ∧ '\n' ∉ tag ∧ ¬('\n' :: fence) <:+: body

/-- What is found between the fences is the body, without a line feed at its end. -/
theorem fencedBody?_eq_some_iff :
    fencedBody? text = some inner ↔
      ∃ body, IsBlock text body ∧ (dropEnd? ['\n'] body).getD body = inner := by
  unfold fencedBody?
  simp only [Option.bind_eq_bind, Option.bind_eq_some_iff, dropStart?_eq_some_iff,
    dropEnd?_eq_some_iff, afterFirstLine?_eq_some_iff]
  constructor
  · rintro ⟨_, rfl, _, rfl, body, ⟨tag, rfl, htag⟩, h⟩
    split at h
    · cases h
    · next hnot =>
      rw [hasFencedLine_iff] at hnot
      exact ⟨body, ⟨tag, by simp, htag, hnot⟩, Option.some.inj h⟩
  · rintro ⟨body, ⟨tag, rfl, htag, hnot⟩, rfl⟩
    refine ⟨_, List.append_assoc .., tag ++ '\n' :: body, by simp, body, ⟨tag, rfl, htag⟩, ?_⟩
    rw [← hasFencedLine_iff] at hnot
    rw [if_neg hnot]

/-- A block is longer than its body by two fences and a line feed at least. -/
theorem IsBlock.length_le (h : IsBlock text body) : body.length + 7 ≤ text.length := by
  obtain ⟨tag, rfl, -⟩ := h
  simp [fence]

/-- A block is not blank at either end. -/
theorem IsBlock.fenced (h : IsBlock text body) :
    ∃ between, text = '`' :: between ++ ['`'] := by
  obtain ⟨tag, rfl, -⟩ := h
  exact ⟨'`' :: '`' :: tag ++ '\n' :: (body ++ ['`', '`']), by simp [fence]⟩

/-! ### What is left of an answer -/

/-- The answer is one block but for line breaks before it and blanks after it. -/
def Wraps (answer body : List Char) : Prop :=
  ∃ breaks block blanks, answer = breaks ++ block ++ blanks ∧
    (∀ c ∈ breaks, isLineBreak c = true) ∧ (∀ c ∈ blanks, isBlank c = true) ∧ IsBlock block body

theorem isBlock_iff_wraps :
    IsBlock (trimEnd (answer.dropWhile isLineBreak)) body ↔ Wraps answer body := by
  constructor
  · intro h
    refine ⟨answer.takeWhile isLineBreak, _,
      ((answer.dropWhile isLineBreak).reverse.takeWhile isBlank).reverse, ?_, ?_, ?_, h⟩
    · rw [trimEnd, List.append_assoc, Text.dropEndWhile_append_takeWhile,
        List.takeWhile_append_dropWhile]
    · exact fun c hc => List.mem_takeWhile_imp hc
    · exact fun c hc => List.mem_takeWhile_imp (List.mem_reverse.mp hc)
  · rintro ⟨breaks, block, blanks, rfl, hbreaks, hblanks, hblock⟩
    obtain ⟨between, hfenced⟩ := hblock.fenced
    have hstart : (block ++ blanks).dropWhile isLineBreak = block ++ blanks := by
      rw [hfenced]
      exact List.dropWhile_cons_of_neg (by decide)
    rw [List.append_assoc, List.dropWhile_append_of_pos hbreaks, hstart, trimEnd,
      Text.dropEndWhile_append_of_pos hblanks, hfenced,
      Text.dropEndWhile_concat_of_not _ (by decide), ← hfenced]
    exact hblock

/-- What is left of an answer when line breaks before it, blanks after it and a fence around it are
taken off. -/
def unwrapped (answer : List Char) : List Char :=
  unfence (trimEnd (answer.dropWhile isLineBreak))

theorem normalizeChars_eq (answer input : List Char) :
    normalizeChars answer input =
      if endsInNewline input && !endsInNewline (unwrapped answer) then unwrapped answer ++ ['\n']
      else unwrapped answer := rfl

/-- What is left of a block is its body. -/
theorem unwrapped_of_wraps (h : Wraps answer body) :
    unwrapped answer = (dropEnd? ['\n'] body).getD body := by
  rw [← isBlock_iff_wraps] at h
  rw [unwrapped, unfence, fencedBody?_eq_some_iff.mpr ⟨body, h, rfl⟩, Option.getD_some]

theorem not_wraps_of_fencedBody? (h : fencedBody? (trimEnd (answer.dropWhile isLineBreak)) = none) :
    ¬Wraps answer body := by
  intro hwraps
  rw [← isBlock_iff_wraps] at hwraps
  rw [fencedBody?_eq_some_iff.mpr ⟨body, hwraps, rfl⟩] at h
  cases h

/-- What is left of any other answer is its trimmed text. -/
theorem unwrapped_of_not_wraps (h : ∀ body, ¬Wraps answer body) :
    unwrapped answer = trimEnd (answer.dropWhile isLineBreak) := by
  rw [unwrapped, unfence]
  cases hbody : fencedBody? (trimEnd (answer.dropWhile isLineBreak)) with
  | none => rfl
  | some inner =>
    obtain ⟨body, hblock, -⟩ := fencedBody?_eq_some_iff.mp hbody
    exact absurd (isBlock_iff_wraps.mp hblock) (h body)

/-! ### Line feeds at the end -/

theorem endsInNewline_concat (cs : List Char) : endsInNewline (cs ++ ['\n']) = true := by
  rw [endsInNewline, List.getLast?_concat]
  rfl

theorem not_endsInNewline (h : ∀ c ∈ cs.getLast?, isBlank c = false) :
    endsInNewline cs = false := by
  rw [endsInNewline, Bool.eq_false_iff, Ne, beq_iff_eq]
  intro hlast
  have hblank := h '\n' hlast
  exact absurd hblank (by decide)

end Codemod.Answer
