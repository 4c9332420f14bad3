import Codemod.Proofs.Stream.Transcript
import Codemod.Proofs.Text.Lines

/-!
# Plain answers

A tool that prints no JSON at all is still understood: what it prints comes out line by line, but
for the blank lines, which are passed over when the stream is cut into lines.

- `Edged`, `withoutOuterLineBreaks_append` — what trimming takes away
- `ofLines_text_of_plain` — what plain lines add up to
- `finish_of_plain` — the answer
- `not_finish_of_plain` — a blank line between others is lost
-/

namespace Codemod.Text

variable {s t line : String} {lines : List String}

/-- The text begins and ends with a character that is no line break. -/
structure Edged (s : String) : Prop where
  first : ∃ c cs, s.toList = c :: cs ∧ isLineBreak c = false
  last : ∃ cs c, s.toList = cs ++ [c] ∧ isLineBreak c = false

theorem ne_empty_of_not_blank (h : ¬isBlankText s) : s ≠ "" := by
  rintro rfl
  exact h rfl

theorem OneLine.edged (h : OneLine s) (hne : s ≠ "") : Edged s := by
  rw [Ne, ← String.toList_eq_nil_iff] at hne
  constructor
  · obtain ⟨c, cs, hs⟩ := List.exists_cons_of_ne_nil hne
    exact ⟨c, cs, hs, h c (by rw [hs]; exact List.mem_cons_self)⟩
  · obtain ⟨cs, c, hs⟩ := List.eq_nil_or_concat s.toList |>.resolve_left hne
    exact ⟨cs, c, by rw [hs, List.concat_eq_append], h c (by simp [hs])⟩

theorem Edged.append (hs : Edged s) (ht : Edged t) (between : String) :
    Edged (s ++ between ++ t) := by
  obtain ⟨c, cs, hc, hfirst⟩ := hs.first
  obtain ⟨ds, d, hd, hlast⟩ := ht.last
  rw [String.append_assoc]
  constructor
  · refine ⟨c, cs ++ (between ++ t).toList, ?_, hfirst⟩
    rw [String.toList_append, hc, List.cons_append]
  · refine ⟨(s ++ between).toList ++ ds, d, ?_, hlast⟩
    rw [← String.append_assoc, String.toList_append, hd, List.append_assoc]

theorem edged_intercalate (hlines : ∀ line ∈ lines, Edged line) (hne : lines ≠ []) :
    Edged ("\n".intercalate lines) := by
  induction lines with
  | nil => exact absurd rfl hne
  | cons line lines ih =>
    rw [List.forall_mem_cons] at hlines
    cases lines with
    | nil =>
      rw [String.intercalate_singleton]
      exact hlines.1
    | cons next lines =>
      rw [String.intercalate_cons_cons]
      exact hlines.1.append (ih hlines.2 (List.cons_ne_nil _ _)) "\n"

theorem isBlankText_append (s t : String) :
    isBlankText (s ++ t) = (isBlankText s && isBlankText t) := by
  rw [isBlankText, String.toList_append, List.all_append]
  rfl

theorem isBlankText_join (lines : List String) :
    isBlankText (String.join lines) = lines.all isBlankText := by
  rw [isBlankText, String.toList_join, List.all_flatMap]
  rfl

/-- Trimming takes away the line break after the last line, and no other. -/
theorem withoutOuterLineBreaks_append (h : Edged s) : withoutOuterLineBreaks (s ++ "\n") = s := by
  obtain ⟨c, cs, hc, hfirst⟩ := h.first
  obtain ⟨ds, d, hd, hlast⟩ := h.last
  have hdrop : (s ++ "\n").toList.dropWhile isLineBreak = ds ++ [d] ++ ['\n'] := by
    rw [String.toList_append, ← hd, hc]
    exact List.dropWhile_cons_of_neg (by rw [hfirst]; nofun)
  rw [withoutOuterLineBreaks, hdrop, dropEndWhile_concat_of_pos _ rfl,
    dropEndWhile_concat_of_not _ hlast, ← hd, String.ofList_toList]

theorem join_lines (hne : lines ≠ []) :
    String.join (lines.map (· ++ "\n")) = "\n".intercalate lines ++ "\n" := by
  induction lines with
  | nil => exact absurd rfl hne
  | cons line lines ih =>
    cases lines with
    | nil => rw [List.map_singleton, String.join_cons, String.join_nil, String.append_empty,
        String.intercalate_singleton]
    | cons next lines =>
      rw [List.map_cons, String.join_cons, ih (List.cons_ne_nil _ _), String.intercalate_cons_cons,
        String.append_assoc, String.append_assoc, String.append_assoc]

end Codemod.Text

namespace Codemod.Stream

open Text (OneLine isBlankText)
open Text.Utf8 (encode)

variable {lines : List String}

theorem flatMap_shown (lines : List String) :
    lines.flatMap Text.Lines.shown = lines.filter fun line => !isBlankText line := by
  induction lines with
  | nil => rfl
  | cons line lines ih =>
    rw [List.flatMap_cons, List.filter_cons, ih, Text.Lines.shown]
    cases isBlankText line <;> rfl

theorem ofLines_text_of_plain (hplain : ∀ line ∈ lines, Plain line) :
    (Transcript.ofLines lines).text = String.join (lines.map (· ++ "\n")) := by
  rw [Transcript.ofLines_text]
  exact congrArg _ (List.map_congr_left fun line hline => contributed_of_plain (hplain line hline))

theorem scan_intercalate (hlines : ∀ line ∈ lines, OneLine line) :
    Text.Lines.scan (encode ("\n".intercalate lines)) =
      lines.filter fun line => !isBlankText line := by
  rw [← flatMap_shown]
  by_cases hne : lines = []
  · rw [hne]
    rfl
  · exact Text.Lines.scan_of_ended hlines (Text.Lines.ended_intercalate hne)

/-- The answer is the lines that are not blank, each as it was printed and in the same order. -/
theorem finish_of_plain (hlines : ∀ line ∈ lines, OneLine line)
    (hplain : ∀ line ∈ lines, Plain line) :
    (Transcript.ofBytes (encode ("\n".intercalate lines))).finish =
      "\n".intercalate (lines.filter fun line => !isBlankText line) := by
  rw [Transcript.ofBytes, scan_intercalate hlines]
  have hkept : ∀ line ∈ lines.filter (fun line => !isBlankText line),
      line ∈ lines ∧ ¬isBlankText line := by
    intro line hline
    rw [List.mem_filter, Bool.not_eq_true'] at hline
    exact ⟨hline.1, by rw [hline.2]; nofun⟩
  generalize lines.filter (fun line => !isBlankText line) = kept at hkept
  by_cases hne : kept = []
  · rw [hne]
    rfl
  have htext : (Transcript.ofLines kept).text = "\n".intercalate kept ++ "\n" := by
    rw [ofLines_text_of_plain fun line hline => hplain line (hkept line hline).1,
      Text.join_lines hne]
  have hedged : Text.Edged ("\n".intercalate kept) := Text.edged_intercalate
    (fun line hline => (hlines line (hkept line hline).1).edged
      (Text.ne_empty_of_not_blank (hkept line hline).2)) hne
  have hshown : ¬isBlankText ("\n".intercalate kept ++ "\n") := by
    rw [← Text.join_lines hne, Text.isBlankText_join, List.all_map, List.all_eq_true]
    intro hall
    obtain ⟨line, hline⟩ := List.exists_mem_of_ne_nil kept hne
    have hblank := hall line hline
    rw [Function.comp_apply, Text.isBlankText_append, Bool.and_eq_true] at hblank
    exact (hkept line hline).2 hblank.1
  rw [Transcript.finish, htext, if_neg hshown, Text.withoutOuterLineBreaks_append hedged]

theorem finish_of_plain_braces :
    (Transcript.ofBytes (encode ("\n".intercalate ["if x \x7b", "  y", " ", "\x7d"]))).finish =
      "\n".intercalate ["if x \x7b", "  y", "\x7d"] := by
  exact finish_of_plain (by decide) (by decide)

/-- A blank line between two others is lost. -/
theorem not_finish_of_plain : ¬∀ lines : List String, (∀ line ∈ lines, OneLine line) →
    (∀ line ∈ lines, Plain line) → (∀ line ∈ lines.head?, ¬isBlankText line) →
    (∀ line ∈ lines.getLast?, ¬isBlankText line) →
    (Transcript.ofBytes (encode ("\n".intercalate lines))).finish = "\n".intercalate lines := by
  intro h
  have hfinish := h ["a", "", "b"] (by decide) (by decide) (by decide) (by decide)
  exact absurd hfinish (by decide)

end Codemod.Stream
