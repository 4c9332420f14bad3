import Codemod.Proofs.Stream.Reported

/-!
# What the kind of an object decides

Some kinds are reserved for markers, errors and results. For all others the kind does not matter:
the object adds the text that it carries and nothing else. What a transcript holds in the end can
therefore be read off its lines, without the events in between.

- `objectOf?`, `ofLine_eq` — lines that are objects
- `Event.report?`, `reportOf?`, `report?_ofObject` — what an event and an object report as an error
- `apply_ofObject` — an object whose kind is not reserved
- `Retyped`, `Retyped.apply_eq`, `ofLines_of_retyped` — lines that differ in such a kind only
- `textOf`, `answerOf`, `ofLines_errors`, `finish_eq_answerOf` — the errors and the answer
- `kinds_irrelevant` — all of it
-/

namespace Codemod.Stream

variable {t : Transcript} {v w : Json} {line line' : String} {lines others : List String}

/-! ### Objects -/

/-- The object that a line is, if it is one. -/
def objectOf? (line : String) : Option Json :=
  match Json.parse? line with
  | some (.object fields) => some (.object fields)
  | _ => none

theorem ofLine_eq (line : String) : Event.ofLine line =
    match objectOf? line with
    | some v => Event.ofObject v
    | none => .unparsed line := by
  unfold Event.ofLine objectOf?
  cases Json.parse? line with
  | none => rfl
  | some v => cases v <;> rfl

theorem ofLine_of_object (h : objectOf? line = some v) : Event.ofLine line = Event.ofObject v := by
  rw [ofLine_eq, h]

theorem ofLine_of_none (h : objectOf? line = none) : Event.ofLine line = .unparsed line := by
  rw [ofLine_eq, h]

/-! ### Errors -/

/-- What the event reports as an error. -/
def Event.report? : Event → Option String
  | error payload => some payload
  | other kind raw => if kind = "result" ∧ Flagged raw then some raw.compress else none
  | _ => none

/-- What an object reports as an error: an error event its payload, a flagged result itself. -/
def reportOf? (v : Json) : Option String :=
  if isErrorObject v then some (errorPayload v)
  else if kindOf v = "result" ∧ Flagged v then some v.compress
  else none

theorem conclude_errors (t : Transcript) (raw : Json) : (t.conclude raw).errors =
    t.errors ++ (if Flagged raw then some raw.compress else none).toList := by
  unfold Transcript.conclude
  dsimp only
  by_cases hflag : (raw.get? "is_error").bind Json.bool? = some true
  · rw [if_pos hflag, if_pos (show Flagged raw from hflag)]
    rfl
  · rw [if_neg hflag, if_neg (show ¬Flagged raw from hflag)]
    exact (List.append_nil _).symm

theorem apply_errors (t : Transcript) (e : Event) :
    (t.apply e).errors = t.errors ++ e.report?.toList := by
  cases e with
  | start | stop | delta | unparsed => exact (List.append_nil _).symm
  | error payload => rfl
  | other kind raw =>
    rw [Transcript.apply, Event.report?]
    by_cases hresult : kind = "result"
    · simp only [hresult, beq_self_eq_true, if_true, true_and, conclude_errors]
    · rw [if_neg (by simpa using hresult), if_neg fun h : _ ∧ _ => hresult h.1]
      cases textPayload? raw <;> exact (List.append_nil _).symm

/-- An object that is neither an error nor a result reports nothing and sets no summary. -/
theorem ofObject_quiet (herror : ¬isErrorObject v) (hresult : kindOf v ≠ "result") :
    (Event.ofObject v).report? = none ∧ (Event.ofObject v).result? = none := by
  have hother : (Event.other (kindOf v) v).report? = none ∧
      (Event.other (kindOf v) v).result? = none := by
    rw [Event.report?, Event.result?, if_neg fun h => hresult h.1,
      if_neg (by simpa using hresult)]
    exact ⟨rfl, rfl⟩
  -- a start, a stop, a piece of the answer, or none of them: the error is ruled out
  rw [isErrorObject] at herror
  rw [Event.ofObject]
  split
  · exact ⟨rfl, rfl⟩
  split
  · exact ⟨rfl, rfl⟩
  split
  · cases textPayload? v with
    | none => exact hother
    | some text => exact ⟨rfl, rfl⟩
  · exact hother

theorem report?_ofObject (v : Json) : (Event.ofObject v).report? = reportOf? v := by
  unfold reportOf?
  split
  · next herror =>
    rw [ofObject_of_isErrorObject herror]
    rfl
  · next herror =>
    by_cases hresult : kindOf v = "result"
    · rw [ofObject_of_result hresult, Event.report?]
      simp only [hresult, true_and]
    · rw [if_neg fun h => hresult h.1]
      exact (ofObject_quiet herror hresult).1

theorem result?_ofObject (v : Json) :
    (Event.ofObject v).result? = (some v).filter (kindOf · == "result") := by
  by_cases hresult : kindOf v = "result"
  · rw [ofObject_of_result hresult, Option.filter_some, if_pos (beq_iff_eq.mpr hresult)]
    rfl
  · rw [Option.filter_some, if_neg (by simpa using hresult)]
    by_cases herror : isErrorObject v
    · rw [ofObject_of_isErrorObject herror]
      rfl
    · exact (ofObject_quiet herror hresult).2

/-! ### Kinds that are not reserved -/

/-- An object whose kind is not reserved adds the text that it carries, and nothing else. -/
theorem apply_ofObject (t : Transcript) (h : ¬Reserved v) :
    t.apply (Event.ofObject v) = t.append ((textPayload? v).getD "") := by
  have hfree := h
  simp only [reserved_iff, not_or] at hfree
  obtain ⟨hreport, hresult⟩ := ofObject_quiet hfree.2.2.1 hfree.2.2.2
  have htext : (t.apply (Event.ofObject v)).text = t.text ++ (textPayload? v).getD "" := by
    rw [Transcript.apply_text, contribution_ofObject h]
  have herrors : (t.apply (Event.ofObject v)).errors = t.errors := by
    rw [apply_errors, hreport]
    exact List.append_nil _
  have hsummary : (t.apply (Event.ofObject v)).summary = t.summary := by
    rw [Transcript.apply_summary, hresult]
  generalize t.apply (Event.ofObject v) = t' at htext herrors hsummary
  obtain ⟨text, errors, summary⟩ := t'
  subst htext herrors hsummary
  rfl

/-- Two lines that are the same, or are objects of kinds that are not reserved and have the same
fields apart from the type. -/
inductive Retyped : String → String → Prop
  | same (line : String) : Retyped line line
  | kind {line line' : String} {v w : Json} : objectOf? line = some v →
    objectOf? line' = some w → ¬Reserved v → ¬Reserved w →
    (∀ key ≠ "type", v.get? key = w.get? key) → Retyped line line'

theorem textPayload?_congr (h : ∀ key ≠ "type", v.get? key = w.get? key) :
    textPayload? v = textPayload? w := by
  unfold textPayload? messageText?
  rw [h "delta" (by decide), h "text" (by decide), h "completion" (by decide),
    h "message" (by decide)]

theorem Retyped.apply_eq (h : Retyped line line') (t : Transcript) :
    t.apply (Event.ofLine line) = t.apply (Event.ofLine line') := by
  cases h with
  | same => rfl
  | kind hline hline' hfree hfree' hfields =>
    rw [ofLine_of_object hline, ofLine_of_object hline', apply_ofObject t hfree,
      apply_ofObject t hfree', textPayload?_congr hfields]

theorem ofLines_of_retyped (h : List.Forall₂ Retyped lines others) :
    Transcript.ofLines lines = Transcript.ofLines others := by
  unfold Transcript.ofLines
  generalize Transcript.empty = t
  induction h generalizing t with
  | nil => rfl
  | cons hline _ ih => rw [List.foldl_cons, List.foldl_cons, hline.apply_eq, ih]

/-! ### Errors and answer of all lines -/

/-- The text that a line adds: its own when it is no object, else what the object carries unless it
is reserved. -/
def textOf (line : String) : String :=
  match objectOf? line with
  | none => line ++ "\n"
  | some v => if Reserved v then "" else (textPayload? v).getD ""

/-- The answer that the lines make up: their text, or that of the last result when there is none but
blanks. -/
def answerOf (lines : List String) : String :=
  let text := String.join (lines.map textOf)
  let results := (lines.filterMap objectOf?).filter (kindOf · == "result")
  let summary := results.getLast?.bind fun raw => (raw.get? "result").bind Json.string?
  Text.withoutOuterLineBreaks (if Text.isBlankText text then summary.getD "" else text)

theorem contributed_eq_textOf (line : String) : Transcript.contributed line = textOf line := by
  rw [Transcript.contributed, textOf]
  cases h : objectOf? line with
  | none =>
    rw [ofLine_of_none h]
    rfl
  | some v =>
    rw [ofLine_of_object h]
    dsimp only
    split
    · next hreserved => exact contribution_ofObject_of_reserved hreserved
    · next hfree => exact contribution_ofObject hfree

theorem resultOf?_eq (line : String) :
    Transcript.resultOf? line = (objectOf? line).filter (kindOf · == "result") := by
  rw [Transcript.resultOf?]
  cases h : objectOf? line with
  | none =>
    rw [ofLine_of_none h]
    rfl
  | some v => rw [ofLine_of_object h, result?_ofObject]

theorem report?_ofLine (line : String) :
    (Event.ofLine line).report? = (objectOf? line).bind reportOf? := by
  cases h : objectOf? line with
  | none =>
    rw [ofLine_of_none h]
    rfl
  | some v =>
    rw [ofLine_of_object h, report?_ofObject]
    rfl

/-- There is an error for every error event and every flagged result, in their order. -/
theorem ofLines_errors (lines : List String) : (Transcript.ofLines lines).errors =
    (lines.filterMap objectOf?).filterMap reportOf? := by
  rw [List.filterMap_filterMap]
  -- from the end, where a transcript takes its errors in
  induction lines using List.reverseRecOn with
  | nil => rfl
  | append_singleton lines line ih =>
    rw [Transcript.ofLines_concat, apply_errors, ih, report?_ofLine, List.filterMap_append,
      List.filterMap_cons, List.filterMap_nil]
    cases (objectOf? line).bind reportOf? <;> rfl

theorem finish_eq_answerOf (lines : List String) :
    (Transcript.ofLines lines).finish = answerOf lines := by
  have htext : lines.map Transcript.contributed = lines.map textOf :=
    List.map_congr_left fun line _ => contributed_eq_textOf line
  have hresults : lines.filterMap Transcript.resultOf? =
      (lines.filterMap objectOf?).filter (kindOf · == "result") := by
    rw [List.filter_filterMap]
    exact List.filterMap_congr fun line _ => resultOf?_eq line
  rw [Transcript.finish, Transcript.ofLines_text, Transcript.ofLines_summary, htext, hresults]
  rfl

/-- Outside the reserved kinds the kind of an object is irrelevant: the object adds the text that it
carries and nothing else, and another such kind changes neither answer nor errors at any moment. The
errors and the answer are those that the lines make up. -/
theorem kinds_irrelevant :
    (∀ (lines : List String) (line : String) (v : Json), objectOf? line = some v → ¬Reserved v →
      Transcript.ofLines (lines ++ [line]) =
        (Transcript.ofLines lines).append ((textPayload? v).getD "")) ∧
    (∀ lines others : List String, List.Forall₂ Retyped lines others → ∀ n,
      (Transcript.ofLines (lines.take n)).finish = (Transcript.ofLines (others.take n)).finish ∧
      (Transcript.ofLines (lines.take n)).errors = (Transcript.ofLines (others.take n)).errors) ∧
    ∀ lines : List String,
      (Transcript.ofLines lines).errors = (lines.filterMap objectOf?).filterMap reportOf? ∧
      (Transcript.ofLines lines).finish = answerOf lines := by
  refine ⟨fun lines line v hline hfree => ?_, fun lines others h n => ?_,
    fun lines => ⟨ofLines_errors lines, finish_eq_answerOf lines⟩⟩
  · rw [Transcript.ofLines_concat, ofLine_of_object hline, apply_ofObject _ hfree]
  · rw [ofLines_of_retyped (List.forall₂_take n h)]
    exact ⟨rfl, rfl⟩

/-- An object with a text and, beside it, an error. -/
def note (kind : String) : Json :=
  .object [("error", .string "busy"), ("text", .string "a"), ("type", .string kind)]

theorem objectOf?_note (kind : String) : objectOf? (note kind).compress = some (note kind) := by
  have hkeys : ["error", "text", "type"].Pairwise fun k l => ¬l < k ∧ l ≠ k := by decide
  have hcanonical : (note kind).canonical = note kind := by
    rw [note, Json.canonical]
    exact congrArg Json.object (Json.sortFields_eq_self hkeys)
  rw [objectOf?, Json.parse?_compress rfl, hcanonical]
  rfl

/-- An object that has a type is no error, whatever its other fields are: as a piece of the answer
and as anything else it adds its text. -/
theorem kinds_irrelevant_note :
    let delta := (note "text_delta").compress
    let ping := (note "ping").compress
    Transcript.ofLines (["\x7b"] ++ [ping]) = (Transcript.ofLines ["\x7b"]).append "a" ∧
      (Transcript.ofLines ([delta, "\x7b"].take 1)).finish =
        (Transcript.ofLines ([ping, "\x7b"].take 1)).finish ∧
      (Transcript.ofLines [delta, "\x7b"]).finish = answerOf [delta, "\x7b"] := by
  intro delta ping
  obtain ⟨hadds, hretyped, hlines⟩ := kinds_irrelevant
  have hfields : ∀ key ≠ "type", (note "text_delta").get? key = (note "ping").get? key := by
    intro key hkey
    have hother : ¬("type" == key) = true := by simpa using hkey.symm
    simp only [note, Json.get?, Json.field?, if_neg hother]
  have hsame : Retyped delta ping :=
    .kind (objectOf?_note _) (objectOf?_note _) (by decide) (by decide) hfields
  exact ⟨hadds ["\x7b"] ping (note "ping") (objectOf?_note _) (by decide),
    (hretyped _ _ (.cons hsame (.cons (.same "\x7b") .nil)) 1).1, (hlines _).2⟩

end Codemod.Stream
