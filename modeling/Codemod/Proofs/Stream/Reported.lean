import Codemod.Proofs.Json.Printing
import Codemod.Proofs.Stream.Transcript
import Mathlib.Data.List.Forall2

/-!
# What is reported as an error stays out of the text

Two streams that differ only in what they report as an error, in error events and in results that
are flagged, have the same text. The answer can differ all the same: when there is no text, the last
result stands in for it even if it is flagged.

- `Alike` — lines that differ only in what they report
- `text_of_alike`, `lastResult_of_alike` — what two streams of such lines have in common
- `finish_of_alike` — when the answers agree
- `finish_flaggedResult`, `not_finish_of_alike` — when they do not
-/

namespace Codemod.Stream

open Text (isBlankText)

/-- The result says that it is an error. -/
def Flagged (raw : Json) : Prop := (raw.get? "is_error").bind Json.bool? = some true

instance : DecidablePred Flagged := fun _ => inferInstanceAs (Decidable (_ = _))

/-- Two lines that are the same but for what they report: two error events, or two flagged results
with the same fields apart from the text. -/
inductive Alike : String → String → Prop
  | same (line : String) : Alike line line
  | error {line other : String} {fields others : List (String × Json)} :
    Json.parse? line = some (.object fields) → Json.parse? other = some (.object others) →
    isErrorObject (.object fields) → isErrorObject (.object others) → Alike line other
  | result {line other : String} {fields others : List (String × Json)} :
    Json.parse? line = some (.object fields) → Json.parse? other = some (.object others) →
    kindOf (.object fields) = "result" → Flagged (.object fields) →
    (∀ key ≠ "result", (Json.object fields).get? key = (Json.object others).get? key) →
    Alike line other

variable {line other : String} {lines others : List String} {v w : Json}

/-! ### Line by line -/

theorem kindOf_congr (h : v.get? "type" = w.get? "type") : kindOf v = kindOf w := by
  rw [kindOf, h, kindOf]

theorem flagged_congr (h : v.get? "is_error" = w.get? "is_error") : Flagged v ↔ Flagged w := by
  rw [Flagged, h, Flagged]

/-- The events of two such lines. -/
theorem Alike.events (h : Alike line other) : line = other ∨
    (∃ payload payload', Event.ofLine line = .error payload ∧
      Event.ofLine other = .error payload') ∨
    ∃ raw raw', Event.ofLine line = .other "result" raw ∧
      Event.ofLine other = .other "result" raw' ∧ Flagged raw ∧ Flagged raw' := by
  cases h with
  | same => exact .inl rfl
  | error hline hother hfirst hsecond =>
    rw [ofLine_of_parse hline, ofLine_of_parse hother, ofObject_of_isErrorObject hfirst,
      ofObject_of_isErrorObject hsecond]
    exact .inr (.inl ⟨_, _, rfl, rfl⟩)
  | result hline hother hkind hflag hfields =>
    have hkind' := (kindOf_congr (hfields "type" (by decide))).symm.trans hkind
    have hflag' := (flagged_congr (hfields "is_error" (by decide))).mp hflag
    rw [ofLine_of_parse hline, ofLine_of_parse hother, ofObject_of_result hkind,
      ofObject_of_result hkind']
    exact .inr (.inr ⟨_, _, rfl, rfl, hflag, hflag'⟩)

theorem Alike.contributed_eq (h : Alike line other) :
    Transcript.contributed line = Transcript.contributed other := by
  rw [Transcript.contributed, Transcript.contributed]
  obtain rfl | ⟨payload, payload', hline, hother⟩ | ⟨raw, raw', hline, hother, -⟩ := h.events
  · rfl
  · rw [hline, hother]
    rfl
  · rw [hline, hother]
    rfl

/-- The same result, or two that are flagged. -/
def SameUnlessFlagged (raw raw' : Json) : Prop := raw = raw' ∨ (Flagged raw ∧ Flagged raw')

theorem Alike.result_rel (h : Alike line other) :
    Option.Rel SameUnlessFlagged (Transcript.resultOf? line) (Transcript.resultOf? other) := by
  rw [Transcript.resultOf?, Transcript.resultOf?]
  obtain rfl | ⟨payload, payload', hline, hother⟩ | ⟨raw, raw', hline, hother, hflags⟩ := h.events
  · cases (Event.ofLine line).result? with
    | none => exact .none
    | some raw => exact .some (.inl rfl)
  · rw [hline, hother]
    exact .none
  · rw [hline, hother]
    exact .some (.inr hflags)

/-! ### All lines -/

theorem text_of_alike (h : List.Forall₂ Alike lines others) :
    (Transcript.ofLines lines).text = (Transcript.ofLines others).text := by
  rw [Transcript.ofLines_text, Transcript.ofLines_text]
  have hmap := List.rel_map (R := Alike) (P := (· = ·)) (fun _ _ hline => hline.contributed_eq) h
  rw [List.forall₂_eq_eq_eq] at hmap
  exact congrArg String.join hmap

theorem getLast?_rel {α β : Type} {R : α → β → Prop} {xs : List α} {ys : List β}
    (h : List.Forall₂ R xs ys) : Option.Rel R xs.getLast? ys.getLast? := by
  rw [List.getLast?_eq_head?_reverse, List.getLast?_eq_head?_reverse]
  have hreverse := List.rel_reverse h
  generalize xs.reverse = xs, ys.reverse = ys at hreverse
  cases hreverse with
  | nil => exact .none
  | cons hlast _ => exact .some hlast

/-- The last results are the same, or both are flagged. -/
theorem lastResult_of_alike (h : List.Forall₂ Alike lines others) :
    Option.Rel SameUnlessFlagged (lines.filterMap Transcript.resultOf?).getLast?
      (others.filterMap Transcript.resultOf?).getLast? :=
  getLast?_rel (List.rel_filterMap (R := Alike) (P := SameUnlessFlagged)
    (fun _ _ hline => hline.result_rel) h)

/-- What is reported as an error does not reach the answer, as long as there is a text or the last
result is not flagged. -/
theorem finish_of_alike (h : List.Forall₂ Alike lines others)
    (hquiet : ¬isBlankText (Transcript.ofLines lines).text ∨
      ∀ raw ∈ (lines.filterMap Transcript.resultOf?).getLast?, ¬Flagged raw) :
    (Transcript.ofLines lines).finish = (Transcript.ofLines others).finish := by
  rw [Transcript.finish, Transcript.finish, ← text_of_alike h]
  split
  · next hblank =>
    have hlast := hquiet.resolve_left (not_not.mpr hblank)
    rw [Transcript.ofLines_summary, Transcript.ofLines_summary]
    have hresults := lastResult_of_alike h
    generalize (lines.filterMap Transcript.resultOf?).getLast? = last,
      (others.filterMap Transcript.resultOf?).getLast? = last' at hlast hresults
    cases hresults with
    | none => rfl
    | some hsame => rw [hsame.resolve_right fun hflags => hlast _ rfl hflags.1]
  · rfl

/-! ### A result that is flagged -/

/-- A `result` event that is flagged. -/
def flaggedResult (text : String) : Json :=
  .object [("is_error", .bool true), ("result", .string text), ("type", .string "result")]

variable {s t : String}

theorem parse?_flaggedResult : Json.parse? (flaggedResult s).compress = some (flaggedResult s) := by
  have hkeys : ["is_error", "result", "type"].Pairwise fun k l => ¬l < k ∧ l ≠ k := by decide
  have hcanonical : (flaggedResult s).canonical = flaggedResult s := by
    rw [flaggedResult, Json.canonical]
    exact congrArg Json.object (Json.sortFields_eq_self hkeys)
  rw [Json.parse?_compress rfl, hcanonical]

theorem alike_flaggedResult : Alike (flaggedResult s).compress (flaggedResult t).compress := by
  refine .result parse?_flaggedResult parse?_flaggedResult rfl rfl fun key hkey => ?_
  have hother : ¬("result" == key) = true := by simpa using hkey.symm
  simp only [Json.get?, Json.field?, if_neg hother]

/-- Where nothing else is said, a result is the answer even if it is flagged. -/
theorem finish_flaggedResult : (Transcript.ofLines [(flaggedResult s).compress]).finish =
    Text.withoutOuterLineBreaks s := by
  have hline : Event.ofLine (flaggedResult s).compress = .other "result" (flaggedResult s) :=
    (ofLine_of_parse parse?_flaggedResult).trans (ofObject_of_result rfl)
  rw [Transcript.ofLines, List.foldl_cons, List.foldl_nil, hline]
  rfl

/-- Other errors and another flagged result, and the same text. -/
theorem finish_of_alike_seven :
    let failure := Json.object [("error", .string "busy")]
    let other := Json.object [("error", .int 1), ("type", .string "error")]
    let answer := Json.object [("completion", .string "7")]
    let closing (text : String) := (flaggedResult text).compress
    (Transcript.ofLines [failure.compress, answer.compress, closing "429"]).finish =
      (Transcript.ofLines [other.compress, answer.compress, closing ""]).finish := by
  intro failure other answer closing
  have hfailure : Alike failure.compress other.compress :=
    .error (Json.parse?_compress rfl) (Json.parse?_compress rfl) rfl rfl
  have halike := List.Forall₂.cons hfailure <| .cons (Alike.same answer.compress) <|
    .cons (alike_flaggedResult (s := "429") (t := "")) .nil
  refine finish_of_alike halike (.inl ?_)
  decide +kernel

/-- Without a text, what the last result reports as an error reaches the answer. -/
theorem not_finish_of_alike : ¬∀ lines others : List String, List.Forall₂ Alike lines others →
    (Transcript.ofLines lines).finish = (Transcript.ofLines others).finish := by
  intro h
  have hsame := h _ _ (.cons (alike_flaggedResult (s := "429") (t := "0")) .nil)
  rw [finish_flaggedResult, finish_flaggedResult] at hsame
  exact absurd hsame (by decide)

end Codemod.Stream
