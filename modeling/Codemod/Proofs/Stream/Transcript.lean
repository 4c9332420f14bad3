import Codemod.Stream.Transcript
import Mathlib.Data.List.Induction

/-!
# What the lines of a stream add up to

The text of a transcript is made of what each line contributes, in the order of the lines; the
summary is that of the last `result` event.

- `Event.contribution`, `Event.result?` — what one event brings
- `Transcript.ofLines_text`, `Transcript.ofLines_summary` — what a sequence of lines brings
- `Plain` — the lines that come through as raw text
- `Reserved` — the objects that contribute nothing, whatever text they hold
- `contribution_ofObject` — what any other object contributes
-/

namespace Codemod.Stream

/-! ### One event -/

namespace Event

/-- The text that the event adds to the answer. -/
def contribution : Event → String
  | start | stop | error _ => ""
  | delta text => text
  | unparsed line => line ++ "\n"
  | other kind raw => if kind == "result" then "" else (textPayload? raw).getD ""

/-- The object of a `result` event. -/
def result? : Event → Option Json
  | other kind raw => if kind == "result" then some raw else none
  | _ => none

end Event

namespace Transcript

variable {t : Transcript}

theorem conclude_text (raw : Json) : (t.conclude raw).text = t.text := by
  rw [conclude]
  dsimp only
  split <;> rfl

theorem apply_text (e : Event) : (t.apply e).text = t.text ++ e.contribution := by
  cases e with
  | start | stop | error payload => exact String.append_empty.symm
  | delta text => rfl
  | unparsed line => exact String.append_assoc ..
  | other kind raw =>
    rw [apply, Event.contribution]
    split
    · rw [conclude_text, String.append_empty]
    · cases textPayload? raw with
      | none => exact String.append_empty.symm
      | some text => rfl

theorem apply_summary (e : Event) : (t.apply e).summary =
    match e.result? with
    | some raw => (raw.get? "result").bind Json.string?
    | none => t.summary := by
  cases e with
  | start | stop | error payload | delta text | unparsed line => rfl
  | other kind raw =>
    rw [apply, Event.result?]
    split
    · rfl
    · cases textPayload? raw <;> rfl

/-! ### All lines -/

/-- The text that a line adds to the answer. -/
def contributed (line : String) : String := (Event.ofLine line).contribution

/-- The object of a line that is a `result` event. -/
def resultOf? (line : String) : Option Json := (Event.ofLine line).result?

theorem foldl_text (t : Transcript) (lines : List String) :
    (lines.foldl (fun t line => t.apply (Event.ofLine line)) t).text =
      t.text ++ String.join (lines.map contributed) := by
  induction lines generalizing t with
  | nil => exact String.append_empty.symm
  | cons line lines ih =>
    rw [List.foldl_cons, ih, apply_text, List.map_cons, String.join_cons, String.append_assoc]
    rfl

/-- The text is what the lines contribute, in their order. -/
theorem ofLines_text (lines : List String) :
    (ofLines lines).text = String.join (lines.map contributed) :=
  (foldl_text empty lines).trans String.empty_append

theorem ofLines_concat (lines : List String) (line : String) :
    ofLines (lines ++ [line]) = (ofLines lines).apply (Event.ofLine line) := by
  rw [ofLines, List.foldl_append]
  rfl

/-- The summary is that of the last `result` event. -/
theorem ofLines_summary (lines : List String) : (ofLines lines).summary =
    (lines.filterMap resultOf?).getLast?.bind fun raw => (raw.get? "result").bind Json.string? := by
  -- from the end: only the last event of its kind counts
  induction lines using List.reverseRecOn with
  | nil => rfl
  | append_singleton lines line ih =>
    rw [ofLines_concat, apply_summary, List.filterMap_append, List.filterMap_cons,
      List.filterMap_nil, resultOf?]
    cases (Event.ofLine line).result? with
    | none => exact ih.trans (by rw [List.append_nil])
    | some raw => rw [List.getLast?_concat]; rfl

end Transcript

/-! ### The event of a line -/

/-- The line is no JSON object. -/
def Plain (line : String) : Prop := ∀ fields, Json.parse? line ≠ some (.object fields)

instance : DecidablePred Plain := fun line =>
  match h : Json.parse? line with
  | some (.object fields) => .isFalse fun hplain => hplain fields h
  | none | some .null | some (.bool _) | some (.int _) | some (.float _) | some (.string _)
  | some (.array _) => .isTrue fun fields hobject => by rw [h] at hobject; cases hobject

/-- Raw text contributes the line and the line feed that ended it. -/
theorem contributed_of_plain {line : String} (h : Plain line) :
    Transcript.contributed line = line ++ "\n" := by
  have hevent : Event.ofLine line = .unparsed line := by
    rw [Event.ofLine]
    split
    · next fields hobject => exact absurd hobject (h fields)
    · rfl
  rw [Transcript.contributed, hevent]
  rfl

theorem ofLine_of_parse {line : String} {fields : List (String × Json)}
    (h : Json.parse? line = some (.object fields)) :
    Event.ofLine line = Event.ofObject (.object fields) := by
  rw [Event.ofLine, h]

/-! ### The event of an object -/

/-- The object is an error event: of that type, or without a type and with an error. -/
def isErrorObject (v : Json) : Bool :=
  kindOf v == "error" || ((kindOf v).isEmpty && (v.get? "error").isSome)

/-- The kinds of markers, errors and results. -/
def reservedKinds : List String :=
  ["message_start", "content_block_start", "system", "message_stop", "content_block_stop", "error",
    "result"]

/-- The object is a marker, an error or a result: no text that it holds is part of the answer. -/
def Reserved (v : Json) : Prop :=
  kindOf v ∈ reservedKinds ∨ (kindOf v = "" ∧ (v.get? "error").isSome)

instance : DecidablePred Reserved := fun _ => inferInstanceAs (Decidable (_ ∨ _))

variable {v : Json}

theorem reserved_iff : Reserved v ↔
    isStartKind (kindOf v) ∨ isStopKind (kindOf v) ∨ isErrorObject v ∨ kindOf v = "result" := by
  simp only [Reserved, reservedKinds, isStartKind, isStopKind, isErrorObject, List.mem_cons,
    List.not_mem_nil, or_false, Bool.or_eq_true, Bool.and_eq_true, beq_iff_eq, String.isEmpty_iff]
  tauto

theorem kindOf_of_isErrorObject (h : isErrorObject v) : kindOf v = "error" ∨ kindOf v = "" := by
  rw [isErrorObject, Bool.or_eq_true, Bool.and_eq_true, beq_iff_eq, String.isEmpty_iff] at h
  exact h.imp_right And.left

theorem ofObject_of_isErrorObject (h : isErrorObject v) :
    Event.ofObject v = .error (errorPayload v) := by
  have hmarkers : isStartKind (kindOf v) = false ∧ isStopKind (kindOf v) = false := by
    obtain hkind | hkind := kindOf_of_isErrorObject h <;> rw [hkind] <;> decide
  rw [Event.ofObject, if_neg (by rw [hmarkers.1]; nofun), if_neg (by rw [hmarkers.2]; nofun)]
  exact if_pos h

theorem ofObject_of_result (h : kindOf v = "result") : Event.ofObject v = .other "result" v := by
  rw [Event.ofObject, h, if_neg (by decide), if_neg (by decide), if_neg (by simp),
    if_neg (by decide)]

theorem contribution_ofObject_of_reserved (h : Reserved v) :
    (Event.ofObject v).contribution = "" := by
  obtain hstart | hstop | herror | hresult := reserved_iff.mp h
  · rw [Event.ofObject, if_pos hstart]
    rfl
  · rw [Event.ofObject, if_pos hstop]
    split <;> rfl
  · rw [ofObject_of_isErrorObject herror]
    rfl
  · rw [ofObject_of_result hresult]
    rfl

/-- An object that is not reserved contributes its text, if it has any, whatever its kind is. -/
theorem contribution_ofObject (h : ¬Reserved v) :
    (Event.ofObject v).contribution = (textPayload? v).getD "" := by
  simp only [reserved_iff, not_or] at h
  obtain ⟨hstart, hstop, herror, hresult⟩ := h
  have hother : (Event.other (kindOf v) v).contribution = (textPayload? v).getD "" := by
    rw [Event.contribution, if_neg (by simpa using hresult)]
  rw [isErrorObject] at herror
  rw [Event.ofObject, if_neg hstart, if_neg hstop, if_neg herror]
  split
  · split
    · next text htext => rw [htext]; rfl
    · exact hother
  · exact hother

end Codemod.Stream
