import Codemod.Proofs.Model.Unwrapping

/-!
# How an answer is presented

A model gives the same content in different ways: with line breaks before it and blanks after it,
and with or without a fence around it. What is made of the answer is the content in each case, ended
as the input is. A fence keeps what stands inside it, though, so that a content with several line
feeds at its end comes out of one with a line feed that the input does not have.

- `exists_line_of_prefix`, `exists_line_of_infix` — lines that begin with a fence
- `Presentable` — contents that can be presented in both ways
- `normalize_presented` — what is made of either presentation
- `endsInNewline_unwrapped_iff`, `endsInNewline_normalize_iff` — answers that end in a line feed
-/

namespace Codemod.Answer

open Text (isBlank isLineBreak trimEnd)

variable {cs body breaks blanks tag answer : List Char}

/-! ### Lines that begin with a fence -/

theorem exists_line_of_prefix (h : fence <+: cs) : ∃ line ∈ cs.splitOn '\n', fence <+: line := by
  obtain ⟨rest, rfl⟩ := h
  cases hlines : rest.splitOn '\n' with
  | nil => exact absurd hlines (List.splitOn_ne_nil '\n' rest)
  | cons line more =>
    refine ⟨fence ++ line, ?_, List.prefix_append fence line⟩
    -- none of the three backticks ends the first line
    simp [fence, List.splitOn_cons_eq_if_modifyHead, hlines]

theorem exists_line_of_infix (h : ('\n' :: fence) <:+: cs) :
    ∃ line ∈ cs.splitOn '\n', fence <+: line := by
  obtain ⟨before, after, rfl⟩ := h
  obtain ⟨line, hline, hfence⟩ := exists_line_of_prefix (List.prefix_append fence after)
  refine ⟨line, ?_, hfence⟩
  rw [List.append_assoc, List.cons_append, List.splitOn_append_cons_self]
  exact List.mem_append_right _ hline

/-! ### The presentations of a content -/

/-- A content that nothing is taken off: there is something in it, no line break stands before it
and nothing blank behind it, and none of its lines begins with a fence. -/
structure Presentable (body : List Char) : Prop where
  ne_nil : body ≠ []
  begins : ∀ c ∈ body.head?, isLineBreak c = false
  ends : ∀ c ∈ body.getLast?, isBlank c = false
  unfenced : ∀ line ∈ body.splitOn '\n', ¬fence <+: line

namespace Presentable

/-- What surrounds the content is trimmed. -/
theorem trimmed (h : Presentable body) (hbreaks : ∀ c ∈ breaks, isLineBreak c = true)
    (hblanks : ∀ c ∈ blanks, isBlank c = true) :
    trimEnd ((breaks ++ body ++ blanks).dropWhile isLineBreak) = body := by
  have hstart : (body ++ blanks).dropWhile isLineBreak = body ++ blanks := by
    cases hbody : body with
    | nil => exact absurd hbody h.ne_nil
    | cons c rest =>
      have hc : isLineBreak c = false := h.begins c (by rw [hbody]; rfl)
      exact List.dropWhile_cons_of_neg (by rw [hc]; exact Bool.false_ne_true)
  rw [List.append_assoc, List.dropWhile_append_of_pos hbreaks, hstart, trimEnd,
    Text.dropEndWhile_append_of_pos hblanks]
  exact Text.dropEndWhile_eq_self h.ends

/-- The content stands for itself. -/
theorem unwrapped_bare (h : Presentable body) (hbreaks : ∀ c ∈ breaks, isLineBreak c = true)
    (hblanks : ∀ c ∈ blanks, isBlank c = true) : unwrapped (breaks ++ body ++ blanks) = body := by
  have htrimmed := h.trimmed hbreaks hblanks
  rw [unwrapped_of_not_wraps, htrimmed]
  intro inner hwraps
  rw [← isBlock_iff_wraps, htrimmed] at hwraps
  -- a block begins with a fence, and the content does not
  obtain ⟨info, hblock, -⟩ := hwraps
  have hprefix : fence <+: body := by
    rw [hblock, List.append_assoc]
    exact List.prefix_append fence _
  obtain ⟨line, hline, hfence⟩ := exists_line_of_prefix hprefix
  exact h.unfenced line hline hfence

/-- No line of the content closes a fence around it, nor does the line feed behind it begin one. -/
theorem not_infix (h : Presentable body) : ¬('\n' :: fence) <:+: body ++ ['\n'] := by
  intro hinfix
  obtain ⟨before, hbefore⟩ | hinside := List.infix_concat_iff.mp hinfix
  · have hlast := congrArg List.getLast? hbefore
    rw [List.getLast?_concat, List.getLast?_append] at hlast
    have hbacktick : some '`' = some '\n' := hlast
    exact absurd hbacktick (by decide)
  · obtain ⟨line, hline, hfence⟩ := exists_line_of_infix hinside
    exact h.unfenced line hline hfence

/-- A fence around the content is taken off, whatever stands behind its opening. -/
theorem unwrapped_fenced (h : Presentable body) (hbreaks : ∀ c ∈ breaks, isLineBreak c = true)
    (hblanks : ∀ c ∈ blanks, isBlank c = true) (htag : '\n' ∉ tag) :
    unwrapped (breaks ++ (fence ++ tag ++ '\n' :: (body ++ '\n' :: fence)) ++ blanks) = body := by
  have hwraps : Wraps (breaks ++ (fence ++ tag ++ '\n' :: (body ++ '\n' :: fence)) ++ blanks)
      (body ++ ['\n']) :=
    ⟨breaks, _, blanks, rfl, hbreaks, hblanks, tag, by simp, htag, h.not_infix⟩
  have hbody : dropEnd? ['\n'] (body ++ ['\n']) = some body := dropEnd?_eq_some_iff.mpr rfl
  rw [unwrapped_of_wraps hwraps, hbody, Option.getD_some]

/-- Once the content is found, it is ended as the input is. -/
theorem normalizeChars_eq (h : Presentable body) (hanswer : unwrapped answer = body)
    (input : List Char) :
    normalizeChars answer input = if endsInNewline input then body ++ ['\n'] else body := by
  rw [Answer.normalizeChars_eq, hanswer, not_endsInNewline h.ends, Bool.not_false, Bool.and_true]

end Presentable

/-- How an answer presents its content does not matter: line breaks before it, blanks after it, and
a fence with any tag around it are taken off, and the content gets a final line feed exactly when
the input has one. -/
theorem normalize_presented (breaks body blanks tag input : String)
    (hbody : Presentable body.toList) (hbreaks : ∀ c ∈ breaks.toList, isLineBreak c = true)
    (hblanks : ∀ c ∈ blanks.toList, isBlank c = true) (htag : '\n' ∉ tag.toList) :
    let content := if input.toList.getLast? = some '\n' then body ++ "\n" else body
    normalize (breaks ++ body ++ blanks) input = content ∧
      normalize (breaks ++ "```" ++ tag ++ "\n" ++ body ++ "\n```" ++ blanks) input = content := by
  intro content
  have hcontent : content.toList =
      if endsInNewline input.toList then body.toList ++ ['\n'] else body.toList := by
    by_cases hends : input.toList.getLast? = some '\n'
    · have hinput : endsInNewline input.toList = true := beq_iff_eq.mpr hends
      rw [show content = body ++ "\n" from if_pos hends, hinput, String.toList_append]
      rfl
    · have hinput : endsInNewline input.toList = false := beq_eq_false_iff_ne.mpr hends
      rw [show content = body from if_neg hends, hinput]
      rfl
  have hbare := hbody.unwrapped_bare hbreaks hblanks
  have hfenced := hbody.unwrapped_fenced hbreaks hblanks htag
  constructor
  · rw [← String.toList_inj, hcontent, normalize, String.toList_ofList, String.toList_append,
      String.toList_append]
    exact hbody.normalizeChars_eq hbare input.toList
  · have hlist : (breaks ++ "```" ++ tag ++ "\n" ++ body ++ "\n```" ++ blanks).toList =
        breaks.toList ++ (fence ++ tag.toList ++ '\n' :: (body.toList ++ '\n' :: fence)) ++
          blanks.toList := by
      simp [fence]
    rw [← String.toList_inj, hcontent, normalize, String.toList_ofList, hlist]
    exact hbody.normalizeChars_eq hfenced input.toList

/-- An indented content with a blank line and backticks in it. -/
theorem normalize_presented_indented :
    normalize "\r\n  let a;\n\n  `b```\u3000\n" "x\n" = "  let a;\n\n  `b```\n" ∧
      normalize "\r\n```js `\r\n  let a;\n\n  `b```\n```\u3000\n" "x\n" =
        "  let a;\n\n  `b```\n" := by
  have hbody : Presentable "  let a;\n\n  `b```".toList := by
    refine ⟨by decide, ?_, ?_, by decide⟩
    · rintro _ ⟨⟩
      decide
    · rintro _ ⟨⟩
      decide
  have hends : "x\n".toList.getLast? = some '\n' := by decide
  have h := normalize_presented "\r\n" "  let a;\n\n  `b```" "\u3000\n" "js `\r" "x\n" hbody
    (List.all_eq_true.mp (by decide)) (List.all_eq_true.mp (by decide)) (by decide)
  rw [if_pos hends] at h
  exact h

/-! ### Line feeds at the end -/

/-- A body loses one line feed at its end, and ends in another if it has two. -/
theorem endsInNewline_getD_dropEnd?_iff :
    endsInNewline ((dropEnd? ['\n'] body).getD body) = true ↔
      ∃ inner, body = inner ++ ['\n', '\n'] := by
  cases hbody : dropEnd? ['\n'] body with
  | none =>
    rw [Option.getD_none, endsInNewline, beq_iff_eq, List.getLast?_eq_some_iff]
    have hnot : ∀ inner, body ≠ inner ++ ['\n'] := by
      intro inner heq
      rw [dropEnd?_eq_some_iff.mpr heq] at hbody
      cases hbody
    constructor
    · rintro ⟨inner, heq⟩
      exact absurd heq (hnot inner)
    · rintro ⟨inner, heq⟩
      exact absurd (heq.trans (List.append_cons inner '\n' ['\n'])) (hnot _)
  | some rest =>
    rw [dropEnd?_eq_some_iff.mp hbody, Option.getD_some, endsInNewline, beq_iff_eq,
      List.getLast?_eq_some_iff]
    constructor
    · rintro ⟨inner, rfl⟩
      exact ⟨inner, by simp⟩
    · rintro ⟨inner, heq⟩
      exact ⟨inner, List.append_cancel_right (heq.trans (List.append_cons inner '\n' ['\n']))⟩

/-- What is left of an answer ends in a line feed when a fence is taken off it that has two of them
before its end. -/
theorem endsInNewline_unwrapped_iff :
    endsInNewline (unwrapped answer) = true ↔ ∃ body, Wraps answer (body ++ ['\n', '\n']) := by
  by_cases hwraps : ∃ body, Wraps answer body
  · obtain ⟨body, hbody⟩ := hwraps
    rw [unwrapped_of_wraps hbody, endsInNewline_getD_dropEnd?_iff]
    constructor
    · rintro ⟨inner, rfl⟩
      exact ⟨inner, hbody⟩
    · rintro ⟨inner, hinner⟩
      -- both bodies leave the same of the answer
      have hleft := unwrapped_of_wraps hbody
      rw [unwrapped_of_wraps hinner] at hleft
      rw [← endsInNewline_getD_dropEnd?_iff, ← hleft, endsInNewline_getD_dropEnd?_iff]
      exact ⟨inner, rfl⟩
  · rw [not_exists] at hwraps
    have hends : endsInNewline (unwrapped answer) = false := by
      rw [unwrapped_of_not_wraps hwraps]
      exact not_endsInNewline (Text.getLast?_dropEndWhile isBlank _)
    rw [hends]
    constructor
    · intro h
      cases h
    · rintro ⟨body, hbody⟩
      exact absurd hbody (hwraps _)

/-- What is made of an answer ends in a line feed when the input does, and when the answer is one
fenced block with two line feeds at the end of its body. -/
theorem endsInNewline_normalize_iff (answer input : String) :
    endsInNewline (normalize answer input).toList = true ↔
      endsInNewline input.toList = true ∨
        ∃ body, Wraps answer.toList (body ++ ['\n', '\n']) := by
  rw [← endsInNewline_unwrapped_iff, normalize, String.toList_ofList, normalizeChars_eq]
  cases hinput : endsInNewline input.toList with
  | false => simp
  | true =>
    cases hbody : endsInNewline (unwrapped answer.toList) with
    | false => simp [endsInNewline_concat]
    | true => simp [hbody]

/-- A fence around a line and an empty line gives an input without a final line feed one. -/
theorem not_endsInNewline_normalize :
    ¬∀ answer input : String,
      endsInNewline (normalize answer input).toList = true ↔ endsInNewline input.toList = true := by
  intro h
  have hends := h "```\na\n\n```" "x"
  exact absurd hends (by decide)

end Codemod.Answer
