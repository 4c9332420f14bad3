import Codemod.Proofs.Json.Printing
import Codemod.Proofs.Stream.Transcript
import Codemod.Proofs.Text.Lines

/-!
# The stream delivers the text that it carries

A text is cut into fragments, each fragment is put into an object of one of four shapes, each object
is written on a line of its own, and lines that carry nothing are put anywhere between them. The
answer is the text again, without the line breaks around it.

- `Carries` — the objects that carry a fragment
- `Delivers` — the lines that carry the fragments of a text
- `Delivers.text_eq` — what they add up to
- `finish_of_delivers` — the answer
- `not_finish_of_delivers` — why the objects are not nested arbitrarily deep
-/

namespace Codemod.Stream

open Json (Written)
open Text (OneLine isBlankText withoutOuterLineBreaks)
open Text.Lines (Ended)
open Text.Utf8 (encode)

/-! ### Carriers -/

/-- The text of an object's delta. -/
def deltaText? (v : Json) : Option String :=
  ((v.get? "delta").bind (·.get? "text")).bind Json.string?

/-- The text of a field. -/
def textAt? (key : String) (v : Json) : Option String := (v.get? key).bind Json.string?

/-- The object carries a fragment of the answer: in its delta, as its own text, as its completion,
or in the text blocks of its message. The places come in this order, and the first one counts. -/
inductive Carries (v : Json) : String → Prop
  | delta {text : String} : "delta".toList <:+ (kindOf v).toList → deltaText? v = some text →
    Carries v text
  | text {text : String} : ¬Reserved v → deltaText? v = none → textAt? "text" v = some text →
    Carries v text
  | completion {text : String} : kindOf v = "" → v.get? "error" = none → deltaText? v = none →
    textAt? "text" v = none → textAt? "completion" v = some text → Carries v text
  | message {text : String} {blocks : List Json} : kindOf v = "assistant" → deltaText? v = none →
    textAt? "text" v = none → textAt? "completion" v = none →
    ((v.get? "message").bind (·.get? "content")).bind Json.array? = some blocks →
    String.join (blocks.filterMap blockText?) = text → Carries v text

variable {v : Json} {fragment text : String}

theorem not_reserved_of_delta (h : "delta".toList <:+ (kindOf v).toList) : ¬Reserved v := by
  rintro (hkind | ⟨hkind, -⟩)
  · have hnone : ∀ kind ∈ reservedKinds, ¬"delta".toList <:+ kind.toList := by decide
    exact hnone _ hkind h
  · rw [hkind] at h
    exact absurd h (by decide)

theorem Carries.not_reserved (h : Carries v fragment) : ¬Reserved v := by
  cases h with
  | delta hkind => exact not_reserved_of_delta hkind
  | text hfree => exact hfree
  | completion hkind herror =>
    rintro (hreserved | ⟨-, hsome⟩)
    · rw [hkind] at hreserved
      exact absurd hreserved (by decide)
    · rw [herror] at hsome
      cases hsome
  | message hkind =>
    rw [Reserved, hkind]
    rintro (hreserved | ⟨hempty, -⟩)
    · exact absurd hreserved (by decide)
    · exact absurd hempty (by decide)

theorem textPayload?_eq (v : Json) : textPayload? v =
    (deltaText? v <|> textAt? "text" v <|> textAt? "completion" v <|> messageText? v) :=
  rfl

/-- A message without a text contributes what its empty text blocks make up. -/
theorem messageText?_getD {blocks : List Json}
    (h : ((v.get? "message").bind (·.get? "content")).bind Json.array? = some blocks) :
    (messageText? v).getD "" = String.join (blocks.filterMap blockText?) := by
  rw [messageText?, h]
  dsimp only
  split
  · next hempty => exact (String.isEmpty_iff.mp hempty).symm
  · rfl

theorem Carries.contribution_eq (h : Carries v fragment) :
    (Event.ofObject v).contribution = fragment := by
  rw [contribution_ofObject h.not_reserved, textPayload?_eq]
  cases h with
  | delta _ htext => rw [htext]; rfl
  | text _ hdelta htext => rw [hdelta, htext]; rfl
  | completion _ _ hdelta htext hcompletion => rw [hdelta, htext, hcompletion]; rfl
  | message _ hdelta htext hcompletion hblocks hjoin =>
    rw [hdelta, htext, hcompletion, ← hjoin]
    exact messageText?_getD hblocks

/-! ### Lines that carry a text -/

/-- The object adds nothing to the answer: it is reserved, or it has no text. -/
def Silent (v : Json) : Prop := Reserved v ∨ textPayload? v = none

instance : DecidablePred Silent := fun _ => inferInstanceAs (Decidable (_ ∨ _))

theorem Silent.contribution_eq (h : Silent v) : (Event.ofObject v).contribution = "" := by
  by_cases hreserved : Reserved v
  · exact contribution_ofObject_of_reserved hreserved
  · rw [contribution_ofObject hreserved, h.resolve_left hreserved]
    rfl

/-- The lines carry the fragments, in this order, and between them stand blank lines and objects
that add nothing. No object is nested deeper than `depth`. -/
inductive Delivers (depth : Nat) : List String → List String → Prop
  | nil : Delivers depth [] []
  | carrier {line fragment : String} {fields : List (String × Json)}
    {lines fragments : List String} : Written depth line (.object fields) →
    Carries (.object fields) fragment → Delivers depth lines fragments →
    Delivers depth (line :: lines) (fragment :: fragments)
  | blank {line : String} {lines fragments : List String} : isBlankText line →
    Delivers depth lines fragments → Delivers depth (line :: lines) fragments
  | silent {line : String} {fields : List (String × Json)} {lines fragments : List String} :
    Written depth line (.object fields) → Silent (.object fields) →
    Delivers depth lines fragments → Delivers depth (line :: lines) fragments

variable {line : String} {fields : List (String × Json)} {lines fragments : List String}
  {bytes : List UInt8}

theorem contributed_of_written (h : Written Json.Reader.maxDepth line (.object fields)) :
    (Text.Lines.shown line).map Transcript.contributed =
      [(Event.ofObject (.object fields)).contribution] := by
  rw [Text.Lines.shown, if_neg h.not_blank, List.map_singleton, Transcript.contributed,
    ofLine_of_parse (Json.parse?_of_written h)]

/-- The text is that of the fragments, in their order. -/
theorem Delivers.text_eq (h : Delivers Json.Reader.maxDepth lines fragments) :
    (Transcript.ofLines (lines.flatMap Text.Lines.shown)).text = String.join fragments := by
  rw [Transcript.ofLines_text]
  induction h with
  | nil => rfl
  | carrier hline hcarries _ ih =>
    rw [List.flatMap_cons, List.map_append, contributed_of_written hline, hcarries.contribution_eq,
      String.join_append, ih, String.join_cons, String.join_cons, String.join_nil,
      String.append_empty]
  | blank hblank _ ih =>
    rw [List.flatMap_cons, Text.Lines.shown, if_pos hblank, List.nil_append, ih]
  | silent hline hsilent _ ih =>
    rw [List.flatMap_cons, List.map_append, contributed_of_written hline, hsilent.contribution_eq,
      String.join_append, ih]
    exact String.empty_append

/-- The answer is the text that was cut up, without the line breaks around it: nothing is lost,
doubled or moved. -/
theorem finish_of_delivers (hlines : ∀ line ∈ lines, OneLine line)
    (hbytes : Ended lines bytes) (h : Delivers Json.Reader.maxDepth lines fragments)
    (hcut : String.join fragments = text) (htext : ¬isBlankText text) :
    (Transcript.ofBytes bytes).finish = withoutOuterLineBreaks text := by
  rw [Transcript.ofBytes, Text.Lines.scan_of_ended hlines hbytes, Transcript.finish, h.text_eq,
    hcut, if_neg htext]

/-- Four carriers, one of each shape, with a marker, an error, a blank line and a result between
them, and both ways to end a line. -/
theorem finish_of_delivers_mixed :
    let system := Json.object [("type", .string "system")]
    let delta := Json.object
      [("delta", .object [("text", .string "\nif x \x7b")]), ("type", .string "text_delta")]
    let failure := Json.object [("error", .string "\"overloaded\"")]
    let completion := Json.object [("completion", .string "\r\n  é\n")]
    let message := Json.object
      [("message", .object [("content",
        .array [.object [("text", .string "\x7d"), ("type", .string "text")]])]),
        ("type", .string "assistant")]
    let note := Json.object [("text", .string "\n\n"), ("type", .string "note")]
    let result := Json.object [("result", .string "done"), ("type", .string "result")]
    (Transcript.ofBytes (encode system.compress ++ 10 :: (encode delta.compress ++ 13 :: 10 ::
      (encode failure.compress ++ 10 :: (encode completion.compress ++ 10 ::
      (encode " \t" ++ 13 :: 10 :: (encode message.compress ++ 10 ::
      (encode note.compress ++ 10 :: encode result.compress)))))))).finish =
        "if x \x7b\r\n  é\n\x7d" := by
  intro system delta failure completion message note result
  have hlines : ∀ line ∈ [system.compress, delta.compress, failure.compress, completion.compress,
      " \t", message.compress, note.compress, result.compress], OneLine line := by
    simp only [Text.oneLine_iff, Json.compress, List.forall_mem_cons, String.toList_ofList]
    decide +kernel
  have hdelivers : Delivers Json.Reader.maxDepth [system.compress, delta.compress,
      failure.compress, completion.compress, " \t", message.compress, note.compress,
      result.compress] ["\nif x \x7b", "\r\n  é\n", "\x7d", "\n\n"] :=
    .silent (Json.written_compress (by decide)) (by decide) <|
    .carrier (Json.written_compress (by decide)) (.delta (by decide) rfl) <|
    .silent (Json.written_compress (by decide)) (by decide) <|
    .carrier (Json.written_compress (by decide)) (.completion rfl rfl rfl rfl rfl) <|
    .blank (by decide) <|
    .carrier (Json.written_compress (by decide)) (.message rfl rfl rfl rfl rfl rfl) <|
    .carrier (Json.written_compress (by decide)) (.text (by decide) rfl rfl) <|
    .silent (Json.written_compress (by decide)) (by decide) .nil
  have hended := Ended.lineFeed system.compress <| .carriageReturn delta.compress <|
    .lineFeed failure.compress <| .lineFeed completion.compress <| .carriageReturn " \t" <|
    .lineFeed message.compress <| .lineFeed note.compress <| .unended result.compress
  refine (finish_of_delivers hlines hended hdelivers rfl (by decide)).trans ?_
  decide

/-! ### An object that is nested too deep -/

/-- A value nested so many levels deep. -/
def nested : Nat → Json
  | 0 => .null
  | n + 1 => .array [nested n]

/-- An object without a text, nested one level deeper than the reader goes. -/
def deepPing : Json := .object [("type", .string "ping"), ("x", nested Json.Reader.maxDepth)]

theorem written_deepPing : Written 128 deepPing.compress deepPing.canonical :=
  Json.written_compress (by decide +kernel)

theorem oneLine_deepPing : OneLine deepPing.compress := by
  rw [Text.oneLine_iff, Json.compress, String.toList_ofList]
  decide +kernel

/-- The reader refuses it, so its line is raw text. -/
theorem plain_deepPing : Plain deepPing.compress := by
  have hrefused : (Json.parse? deepPing.compress).isNone := by
    rw [Json.parse?, Json.read?, Json.readOnly?, Json.compress, String.toList_ofList]
    decide +kernel
  intro fields hobject
  rw [hobject] at hrefused
  cases hrefused

/-- An object without a text that is nested too deep comes out as raw text. -/
theorem not_finish_of_delivers : ¬∀ (depth : Nat) (lines fragments : List String)
    (bytes : List UInt8) (text : String), (∀ line ∈ lines, OneLine line) →
    Ended lines bytes → Delivers depth lines fragments →
    String.join fragments = text → ¬isBlankText text →
    (Transcript.ofBytes bytes).finish = withoutOuterLineBreaks text := by
  intro h
  let answer := Json.object [("completion", .string "a")]
  have hanswer (depth : Nat) : Written (depth + 1) answer.compress answer.canonical :=
    Json.written_compress rfl
  have hlines : ∀ line ∈ [deepPing.compress, answer.compress], OneLine line := by
    rw [List.forall_mem_cons, List.forall_mem_singleton]
    exact ⟨oneLine_deepPing, by decide⟩
  have hdelivers : Delivers 128 [deepPing.compress, answer.compress] ["a"] :=
    .silent written_deepPing (by decide +kernel) <|
    .carrier (hanswer 127) (.completion rfl rfl rfl rfl rfl) .nil
  have hended := Text.Lines.ended_intercalate (List.cons_ne_nil deepPing.compress [answer.compress])
  have hfinish := h 128 _ _ _ _ hlines hended hdelivers rfl (by decide)
  have hlast : (Text.Lines.shown answer.compress).map Transcript.contributed = ["a"] :=
    contributed_of_written (hanswer 126)
  have htext : (Transcript.ofLines ([deepPing.compress, answer.compress].flatMap
      Text.Lines.shown)).text = deepPing.compress ++ "\n" ++ "a" := by
    rw [Transcript.ofLines_text, List.flatMap_cons, List.flatMap_singleton, List.map_append, hlast,
      Text.Lines.shown, if_neg written_deepPing.not_blank, List.map_singleton,
      contributed_of_plain plain_deepPing, String.join_append]
    simp only [String.join_cons, String.join_nil, String.append_empty]
  have hshown : ¬isBlankText (deepPing.compress ++ "\n" ++ "a") := by
    rw [isBlankText, String.toList_append, List.all_append, Bool.and_eq_true]
    exact fun hblank => absurd hblank.2 (by decide)
  rw [Transcript.ofBytes, Text.Lines.scan_of_ended hlines hended, Transcript.finish, htext,
    if_neg hshown] at hfinish
  -- the answer begins with the brace of the object
  have hchars := congrArg String.toList hfinish
  simp only [withoutOuterLineBreaks, Json.compress, String.toList_append,
    String.toList_ofList] at hchars
  exact absurd hchars (by decide +kernel)

end Codemod.Stream
