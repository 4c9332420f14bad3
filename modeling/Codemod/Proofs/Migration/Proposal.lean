import Codemod.Proofs.Migration.Trail
import Codemod.Proofs.Model.Unwrapping

/-!
# What the model proposes

The model is asked for a changed content by three operations, which all make the same of its answer.
An answer that repeats the content is taken for no change when nothing of the content is lost with
what is taken off an answer. An answer that is blank is taken for no change too, but one that wraps
something blank is not.

- `Settled`, `normalizeChars_self_iff` — texts that nothing is taken off
- `change?_withoutOuterLineBreaks` — line breaks around an answer
- `unwrapped_blank_iff` — answers with nothing in them
- `Operation` — the three operations
- `repeated_proposes_nothing_iff` — an answer that repeats the content
- `proposes_blank_iff` — a proposal that is blank
-/

namespace Codemod.Answer

open Text (isBlank isBlank_of_isLineBreak isBlankText isLineBreak trimEnd)

variable {cs body answer : List Char}

/-! ### Answers that repeat the input -/

/-- What is proposed is not what was given. -/
theorem ne_of_proposed {reply : Except ModelError String} {input changed : String}
    (h : proposed reply input = some changed) : changed ≠ input := by
  cases reply with
  | error => cases h
  | ok answer =>
    simp only [proposed, change?, Option.ite_none_left_eq_some, Option.some.injEq] at h
    obtain ⟨-, hne, rfl⟩ := h
    exact hne

/-- Nothing is taken off the text when it is an answer: no line break stands before it, behind its
last character that is not blank stands one line feed at most, and it is not wrapped. -/
structure Settled (cs : List Char) : Prop where
  begins : ∀ c ∈ cs.head?, isLineBreak c = false
  ends : ∃ visible, (∀ c ∈ visible.getLast?, isBlank c = false) ∧
    (cs = visible ∨ cs = visible ++ ['\n'])
  bare : ∀ body, ¬Wraps cs body

theorem Wraps.length_le (h : Wraps cs body) : body.length + 7 ≤ cs.length := by
  obtain ⟨breaks, block, blanks, rfl, -, -, hblock⟩ := h
  have hlength := hblock.length_le
  simp only [List.length_append]
  omega

/-- A body is not longer without its last line feed. -/
theorem length_getD_dropEnd?_le (tail body : List Char) :
    ((dropEnd? tail body).getD body).length ≤ body.length := by
  unfold dropEnd?
  split
  · exact List.length_take_le' _ _
  · exact Nat.le_refl _

theorem length_normalizeChars_le (answer input : List Char) :
    (normalizeChars answer input).length ≤ (unwrapped answer).length + 1 := by
  rw [normalizeChars_eq]
  split
  · rw [List.length_append, List.length_singleton]
  · exact Nat.le_succ _

/-- A wrapped text is never what is made of an answer that repeats it: that is shorter. -/
theorem not_wraps_of_normalizeChars_self (h : normalizeChars cs cs = cs) : ¬Wraps cs body := by
  intro hwraps
  have hlong := hwraps.length_le
  have hshort := length_normalizeChars_le cs cs
  have hbody := length_getD_dropEnd?_le ['\n'] body
  rw [h, unwrapped_of_wraps hwraps] at hshort
  omega

theorem Settled.normalizeChars_self (h : Settled cs) : normalizeChars cs cs = cs := by
  obtain ⟨visible, hvisible, hcs⟩ := h.ends
  have hstart : cs.dropWhile isLineBreak = cs := by
    cases cs with
    | nil => rfl
    | cons c rest =>
      exact List.dropWhile_cons_of_neg (by rw [h.begins c rfl]; exact Bool.false_ne_true)
  have htrimmed : trimEnd cs = visible := by
    obtain rfl | rfl := hcs
    · exact Text.dropEndWhile_eq_self hvisible
    · rw [trimEnd, Text.dropEndWhile_concat_of_pos visible (by decide)]
      exact Text.dropEndWhile_eq_self hvisible
  rw [normalizeChars_eq, unwrapped_of_not_wraps h.bare, hstart, htrimmed,
    not_endsInNewline hvisible]
  obtain rfl | rfl := hcs
  · rw [not_endsInNewline hvisible]
    rfl
  · rw [endsInNewline_concat]
    rfl

/-- A text that is not blank is what is made of an answer that repeats it when it is settled, and at
no other time. -/
theorem normalizeChars_self_iff (hshown : cs.all isBlank = false) :
    normalizeChars cs cs = cs ↔ Settled cs := by
  refine ⟨fun h => ?_, Settled.normalizeChars_self⟩
  have hbare : ∀ body, ¬Wraps cs body := fun _ => not_wraps_of_normalizeChars_self h
  rw [normalizeChars_eq, unwrapped_of_not_wraps hbare] at h
  have hends := Text.getLast?_dropEndWhile isBlank (cs.dropWhile isLineBreak)
  have hcs : cs = trimEnd (cs.dropWhile isLineBreak) ∨
      cs = trimEnd (cs.dropWhile isLineBreak) ++ ['\n'] := by
    split at h
    · exact .inr h.symm
    · exact .inl h.symm
  refine ⟨?_, ⟨_, hends, hcs⟩, hbare⟩
  -- what is left begins with the first character that is no line break, and so does the text
  cases htrimmed : trimEnd (cs.dropWhile isLineBreak) with
  | nil =>
    rw [htrimmed] at hcs
    obtain rfl | rfl := hcs <;> cases hshown
  | cons c rest =>
    have hprefix := Text.dropEndWhile_append_takeWhile isBlank (cs.dropWhile isLineBreak)
    rw [← trimEnd, htrimmed] at hprefix
    have hfirst := List.head?_dropWhile_not isLineBreak cs
    rw [← hprefix] at hfirst
    rw [htrimmed] at hcs
    intro d hd
    obtain rfl | rfl := hcs <;> cases hd <;> exact hfirst

/-! ### Line breaks around an answer -/

theorem all_dropWhile {p q : Char → Bool} (hpq : ∀ c, p c = true → q c = true) (cs : List Char) :
    (cs.dropWhile p).all q = cs.all q := by
  have hdropped : (cs.takeWhile p).all q = true :=
    List.all_eq_true.mpr fun c hc => hpq c (List.mem_takeWhile_imp hc)
  conv_rhs => rw [← List.takeWhile_append_dropWhile (p := p) (l := cs), List.all_append, hdropped]
  rw [Bool.true_and]

theorem all_dropEndWhile {p q : Char → Bool} (hpq : ∀ c, p c = true → q c = true)
    (cs : List Char) : (Text.dropEndWhile p cs).all q = cs.all q := by
  rw [Text.dropEndWhile, List.all_reverse, all_dropWhile hpq, List.all_reverse]

/-- The line breaks around a text are taken off an answer in any case. -/
theorem unwrapped_withoutLineBreaks (cs : List Char) :
    unwrapped (Text.dropEndWhile isLineBreak (cs.dropWhile isLineBreak)) = unwrapped cs := by
  unfold unwrapped trimEnd
  have hfirst := List.head?_dropWhile_not isLineBreak cs
  cases hrest : cs.dropWhile isLineBreak with
  | nil => rfl
  | cons c rest =>
    rw [hrest] at hfirst
    have hc : ¬isLineBreak c = true := by
      rw [show isLineBreak c = false from hfirst]
      exact Bool.false_ne_true
    have hends : Text.dropEndWhile isLineBreak ([] ++ c :: rest) =
        c :: Text.dropEndWhile isLineBreak rest := Text.dropEndWhile_append_of_not hfirst
    rw [List.nil_append] at hends
    rw [hends, List.dropWhile_cons_of_neg hc, ← hends,
      Text.dropEndWhile_dropEndWhile fun _ => isBlank_of_isLineBreak]

/-- An answer says the same without the line breaks around it. -/
theorem change?_withoutOuterLineBreaks (answer input : String) :
    change? (Text.withoutOuterLineBreaks answer) input = change? answer input := by
  have hblank : isBlankText (Text.withoutOuterLineBreaks answer) = isBlankText answer := by
    rw [isBlankText, Text.withoutOuterLineBreaks, String.toList_ofList,
      all_dropEndWhile fun _ => isBlank_of_isLineBreak,
      all_dropWhile fun _ => isBlank_of_isLineBreak]
    rfl
  have hnormal : normalize (Text.withoutOuterLineBreaks answer) input = normalize answer input := by
    rw [normalize, normalize, normalizeChars_eq, normalizeChars_eq, Text.withoutOuterLineBreaks,
      String.toList_ofList, unwrapped_withoutLineBreaks]
  rw [change?, change?, hblank, hnormal]

/-- What an answer that repeats the input is taken for. -/
theorem change?_self_eq_none_iff (content : String) :
    change? content content = none ↔ isBlankText content = true ∨ Settled content.toList := by
  unfold change?
  cases hshown : isBlankText content with
  | true => simp
  | false =>
    have hself : normalize content content = content ↔ Settled content.toList := by
      rw [← normalizeChars_self_iff hshown, normalize, ← String.toList_inj, String.toList_ofList]
    simp [hself]

/-! ### Answers with nothing in them -/

theorem all_getD_dropEnd? (body : List Char) :
    ((dropEnd? ['\n'] body).getD body).all isBlank = body.all isBlank := by
  cases h : dropEnd? ['\n'] body with
  | none => rfl
  | some rest =>
    rw [dropEnd?_eq_some_iff.mp h, List.all_append, Option.getD_some]
    exact (Bool.and_true _).symm

theorem all_normalizeChars (answer input : List Char) :
    (normalizeChars answer input).all isBlank = (unwrapped answer).all isBlank := by
  rw [normalizeChars_eq]
  split
  · rw [List.all_append]
    exact Bool.and_true _
  · rfl

theorem Wraps.not_blank (h : Wraps answer body) : answer.all isBlank = false := by
  obtain ⟨breaks, block, blanks, rfl, -, -, hblock⟩ := h
  obtain ⟨between, rfl⟩ := hblock.fenced
  rw [List.all_eq_false]
  exact ⟨'`', by simp, by decide⟩

/-- Nothing is left of an answer that is blank and of one that wraps something blank. -/
theorem unwrapped_blank_iff :
    (unwrapped answer).all isBlank = true ↔
      answer.all isBlank = true ∨ ∃ body, Wraps answer body ∧ body.all isBlank = true := by
  by_cases hwraps : ∃ body, Wraps answer body
  · obtain ⟨body, hbody⟩ := hwraps
    have hleft := unwrapped_of_wraps hbody
    rw [hleft, all_getD_dropEnd?, hbody.not_blank]
    refine ⟨fun h => .inr ⟨body, hbody, h⟩, ?_⟩
    rintro (h | ⟨other, hother, h⟩)
    · cases h
    · -- two bodies of one answer leave the same
      rw [← all_getD_dropEnd?, ← hleft, unwrapped_of_wraps hother, all_getD_dropEnd?]
      exact h
  · rw [not_exists] at hwraps
    rw [unwrapped_of_not_wraps hwraps, trimEnd, all_dropEndWhile fun _ h => h,
      all_dropWhile fun _ => isBlank_of_isLineBreak]
    refine ⟨.inl, fun h => h.resolve_right ?_⟩
    rintro ⟨body, hbody, -⟩
    exact hwraps body hbody

/-- An answer to an input that is not blank makes it blank when it wraps something blank, and at no
other time. -/
theorem change?_blank_iff {answer input : String} (hinput : isBlankText input = false) :
    (∃ changed, change? answer input = some changed ∧ isBlankText changed = true) ↔
      ∃ body, Wraps answer.toList body ∧ body.all isBlank = true := by
  have hblank : isBlankText (normalize answer input) = (unwrapped answer.toList).all isBlank := by
    rw [isBlankText, normalize, String.toList_ofList, all_normalizeChars]
  unfold change?
  constructor
  · rintro ⟨changed, hchange, hchanged⟩
    split at hchange
    · cases hchange
    · next hanswer =>
      dsimp only at hchange
      split at hchange
      · cases hchange
      · cases hchange
        rw [hblank, unwrapped_blank_iff] at hchanged
        exact hchanged.resolve_left hanswer
  · rintro ⟨body, hbody, hnothing⟩
    have hleft : isBlankText (normalize answer input) = true := by
      rw [hblank, unwrapped_blank_iff]
      exact .inr ⟨body, hbody, hnothing⟩
    refine ⟨normalize answer input, ?_, hleft⟩
    rw [if_neg (by rw [isBlankText, hbody.not_blank]; exact Bool.false_ne_true)]
    dsimp only
    rw [if_neg]
    intro heq
    rw [heq, hinput] at hleft
    cases hleft

end Codemod.Answer

namespace Codemod.Migration

open Answer (Settled Wraps)
open Text (isBlank isBlankText)

variable {σ : Type} {answer : String}

/-! ### The operations -/

/-- A way to ask the model for a changed content. -/
inductive Operation where
  /-- It is to be transformed as the brief says. -/
  | transform
  /-- It is to be repaired after a stage failed with an output. -/
  | fix (stage : Stage) (initial output : String)

namespace Operation

/-- What the model is asked. -/
def prompt (op : Operation) (content label : String) (brief : Brief) : String :=
  match op with
  | transform => Prompt.transform content label brief
  | fix stage initial output => Prompt.fix stage initial content label output brief

/-- The operation on a content. -/
def run (op : Operation) (agents : Agents σ) (content label : String) (brief : Brief) :
    Activity σ (Option String) :=
  match op with
  | transform => proposeTransformation agents content label brief
  | fix stage initial output => proposeFix agents stage initial content label output brief

/-- Every operation asks once and makes the same of the answer. -/
theorem run_eq (op : Operation) (agents : Agents σ) (content label : String) (brief : Brief)
    (s : Session σ) :
    ∃ lines, op.run agents content label brief s =
      .ok (Answer.proposed (agents.complete s.world (op.prompt content label brief)).value content)
        ((s.asked agents (op.prompt content label brief)).noted lines) := by
  cases op with
  | transform => exact proposeChange_run agents _ content label s
  | fix => exact proposeChange_run agents _ content label s

theorem run_of_answer (op : Operation) (agents : Agents σ) (content label : String) (brief : Brief)
    (s : Session σ)
    (hanswer : (agents.complete s.world (op.prompt content label brief)).value = .ok answer) :
    ∃ s', op.run agents content label brief s = .ok (Answer.change? answer content) s' := by
  obtain ⟨lines, hrun⟩ := op.run_eq agents content label brief s
  rw [hanswer] at hrun
  exact ⟨_, hrun⟩

end Operation

/-! ### An answer that repeats the content -/

/-- When the model answers with the content that it was to change, or with what a client delivers of
it, without the line breaks around it, nothing is proposed if the content is blank or nothing is
taken off it as an answer. Otherwise a content is proposed that the model did not mean. -/
theorem repeated_proposes_nothing_iff (op : Operation) (agents : Agents σ)
    (content label : String) (brief : Brief) (s : Session σ)
    (hrepeats : answer = content ∨ answer = Text.withoutOuterLineBreaks content)
    (hanswer : (agents.complete s.world (op.prompt content label brief)).value = .ok answer) :
    ∃ proposal s', op.run agents content label brief s = .ok proposal s' ∧
      (proposal = none ↔ isBlankText content = true ∨ Settled content.toList) := by
  obtain ⟨s', hrun⟩ := op.run_of_answer agents content label brief s hanswer
  refine ⟨_, s', hrun, ?_⟩
  have hsame : Answer.change? answer content = Answer.change? content content := by
    obtain rfl | rfl := hrepeats
    · rfl
    · exact Answer.change?_withoutOuterLineBreaks content content
  rw [hsame]
  exact Answer.change?_self_eq_none_iff content

/-- A model that always gives the same answer. -/
def answering (answer : String) : Agents Unit where
  complete w _ := { value := .ok answer, world := w }
  verify w _ _ := { value := ⟨true, ""⟩, world := w }
  now _ := default

/-- A brief without documentation. -/
def smallBrief : Brief := ⟨"old", "new", ""⟩

/-- A session with no files. -/
def bareSession : Session Unit where
  world := { disk := default, memory := () }

/-- An indented line that a client delivers without its line feed. -/
theorem repeated_proposes_nothing_iff_indented : ∃ s',
    (Operation.fix .test "a" "").run (answering "\ta") "\ta\n" "a.js" smallBrief bareSession =
      .ok none s' := by
  obtain ⟨proposal, s', hrun, hnone⟩ := repeated_proposes_nothing_iff (.fix .test "a" "")
    (answering "\ta") "\ta\n" "a.js" smallBrief bareSession (.inr (by decide)) rfl
  have hbegins : ∀ c ∈ some '\t', Text.isLineBreak c = false := by
    rintro _ ⟨⟩
    decide
  have hends : ∀ c ∈ some 'a', isBlank c = false := by
    rintro _ ⟨⟩
    decide
  have hsettled : Settled "\ta\n".toList :=
    ⟨hbegins, ⟨['\t', 'a'], hends, .inr (by decide)⟩, fun _ =>
      Answer.not_wraps_of_fencedBody? (by decide)⟩
  rw [hnone.mpr (.inr hsettled)] at hrun
  exact ⟨s', hrun⟩

/-- An answer that repeats a line ended by a carriage return and a line feed changes the line. -/
theorem not_repeated_proposes_nothing :
    ¬∀ (σ : Type) (agents : Agents σ) (op : Operation) (content label answer : String)
      (brief : Brief) (s : Session σ),
      answer = content ∨ answer = Text.withoutOuterLineBreaks content →
      (agents.complete s.world (op.prompt content label brief)).value = .ok answer →
      ∃ s', op.run agents content label brief s = .ok none s' := by
  intro h
  obtain ⟨s', hnone⟩ := h Unit (answering "a\r\n") .transform "a\r\n" "a.js" "a\r\n" smallBrief
    bareSession (.inl rfl) rfl
  obtain ⟨s₁, hrun⟩ := Operation.transform.run_of_answer (answering "a\r\n") "a\r\n" "a.js"
    smallBrief bareSession rfl
  rw [hnone] at hrun
  injection hrun with hchange
  exact absurd hchange (by decide)

/-! ### A proposal that is blank -/

/-- For a content that is not blank a blank one is proposed exactly when the answer wraps something
blank. Any other proposal has a character that is not blank. -/
theorem proposes_blank_iff (op : Operation) (agents : Agents σ) (content label : String)
    (brief : Brief) (s : Session σ) (hshown : isBlankText content = false)
    (hanswer : (agents.complete s.world (op.prompt content label brief)).value = .ok answer) :
    ∃ proposal s', op.run agents content label brief s = .ok proposal s' ∧
      ((∃ changed, proposal = some changed ∧ isBlankText changed = true) ↔
        ∃ body, Wraps answer.toList body ∧ body.all isBlank = true) := by
  obtain ⟨s', hrun⟩ := op.run_of_answer agents content label brief s hanswer
  exact ⟨_, s', hrun, Answer.change?_blank_iff hshown⟩

/-- A tagged fence around an indented line with nothing on it. -/
theorem proposes_blank_iff_tagged : ∃ changed s',
    Operation.transform.run (answering "```js\n  \n```\n") "a\n" "a.js" smallBrief bareSession =
      .ok (some changed) s' ∧ isBlankText changed = true := by
  obtain ⟨proposal, s', hrun, hblank⟩ := proposes_blank_iff .transform
    (answering "```js\n  \n```\n") "a\n" "a.js" smallBrief bareSession (by decide) rfl
  obtain ⟨changed, rfl, hchanged⟩ := hblank.mpr
    ⟨[' ', ' ', '\n'], ⟨[], "```js\n  \n```".toList, ['\n'], by decide, List.forall_mem_nil _,
      List.forall_mem_singleton.mpr (by decide), ['j', 's'], by decide, by decide, by decide⟩,
      by decide⟩
  exact ⟨changed, s', hrun, hchanged⟩

/-- An answer that is a fence around nothing blanks a file. -/
theorem not_proposes_visible :
    ¬∀ (σ : Type) (agents : Agents σ) (op : Operation) (content label changed : String)
      (brief : Brief) (s s' : Session σ), isBlankText content = false →
      op.run agents content label brief s = .ok (some changed) s' →
      isBlankText changed = false := by
  intro h
  obtain ⟨s', hrun⟩ := Operation.transform.run_of_answer (answering "```\n```") "a\n" "a.js"
    smallBrief bareSession rfl
  have hchange : Answer.change? "```\n```" "a\n" = some "\n" := by decide
  rw [hchange] at hrun
  have hshown := h _ _ _ "a\n" "a.js" "\n" smallBrief bareSession s' (by decide) hrun
  exact absurd hshown (by decide)

end Codemod.Migration
