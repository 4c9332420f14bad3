import Codemod.Json.Printer
import Codemod.Json.Reader
import Codemod.Text.Blank
import Codemod.Text.Utf8

/-!
# The lines of a byte stream

A stream is cut at line feeds, each piece is decoded on its own, and the pieces that hold nothing
but blanks are passed over.

- `pieces` — the bytes between line feeds
- `lineOf?` — the line that a piece holds, if any
- `scan` — the lines of a stream
-/

namespace Codemod.Text.Lines

/-- The bytes before, between and after the line feeds. -/
def pieces : List UInt8 → List (List UInt8)
  | [] => [[]]
  | b :: bs =>
    if b == 10 then [] :: pieces bs
    else match pieces bs with
      | p :: ps => (b :: p) :: ps
      | [] => [[b]]

/-- The text of one piece without line breaks at its end; none when it is blank. -/
def lineOf? (piece : List UInt8) : Option String :=
  let line := dropEndWhile isLineBreak (Utf8.decode piece)
  if line.all isBlank then none else some (String.ofList line)

/-- The lines of a stream that are not blank, without their terminators. -/
def scan (bytes : List UInt8) : List String := (pieces bytes).filterMap lineOf?

end Codemod.Text.Lines

/-!
## Events of an answer stream

The model's tool prints one JSON object a line. A line becomes one event; a line that is no JSON
object is kept as raw text, so that plain answers come through.

- `Stream.Event` — what a line says
- `Stream.textPayload?` — the text that an object carries
- `Stream.Event.ofObject`, `Stream.Event.ofLine` — from an object, from a line
-/

namespace Codemod.Stream

/-- What one line of the stream says. -/
inductive Event where
  /-- A message or a block of content begins. -/
  | start
  /-- A message or a block of content ends. -/
  | stop
  /-- A piece of the answer. -/
  | delta (text : String)
  /-- The tool reports an error; its exit code decides the outcome. -/
  | error (payload : String)
  /-- An object of any other kind. -/
  | other (kind : String) (raw : Json)
  /-- A line that is no JSON object. -/
  | unparsed (line : String)

/-- The text of a text block inside a message. -/
def blockText? (block : Json) : Option String :=
  match (block.get? "type").bind Json.string? with
  | some "text" => (block.get? "text").bind Json.string?
  | _ => none

/-- The joined text blocks of a message, unless they are empty. -/
def messageText? (value : Json) : Option String :=
  match ((value.get? "message").bind (·.get? "content")).bind Json.array? with
  | none => none
  | some blocks =>
    let text := String.join (blocks.filterMap blockText?)
    if text.isEmpty then none else some text

/-- The text that an object carries: the text of its delta, else its own text, else its completion,
else the text blocks of its message. -/
def textPayload? (value : Json) : Option String :=
  ((value.get? "delta").bind (·.get? "text")).bind Json.string?
    <|> (value.get? "text").bind Json.string?
    <|> (value.get? "completion").bind Json.string?
    <|> messageText? value

/-- What an error object says: its error field, a string as it is and any other value as JSON;
without that field the whole object. -/
def errorPayload (value : Json) : String :=
  match value.get? "error" with
  | some (.string s) => s
  | some other => other.compress
  | none => value.compress

/-- The kind of an object is its type, empty when that is missing or no string. -/
def kindOf (value : Json) : String := ((value.get? "type").bind Json.string?).getD ""

/-- Kinds that mark the beginning of a message or block. -/
def isStartKind (kind : String) : Bool :=
  kind == "message_start" || kind == "content_block_start" || kind == "system"

/-- Kinds that mark the end of a message or block. -/
def isStopKind (kind : String) : Bool := kind == "message_stop" || kind == "content_block_stop"

/-- Kinds whose text is a piece of the answer. -/
def isDeltaKind (kind : String) : Bool :=
  kind.isEmpty || "delta".toList.isSuffixOf kind.toList || kind == "assistant"
    || kind == "completion"

/-- The event of a JSON object. -/
def Event.ofObject (value : Json) : Event :=
  let kind := kindOf value
  if isStartKind kind then .start
  else if isStopKind kind then .stop
  else if kind == "error" || (kind.isEmpty && (value.get? "error").isSome) then
    .error (errorPayload value)
  else if isDeltaKind kind then
    match textPayload? value with
    | some text => .delta text
    | none => .other kind value
  else .other kind value

/-- The event of a line. -/
def Event.ofLine (line : String) : Event :=
  match Json.parse? line with
  | some (.object fields) => Event.ofObject (.object fields)
  | _ => .unparsed line

end Codemod.Stream

/-!
## The transcript of one run of the tool

Events fold into the text of the answer, the errors that the stream reported, and the summary of a
closing `result` event, which counts only when the stream carried no text of its own.

- `Transcript.apply` — one event
- `Transcript.finish` — the answer so far
- `Transcript.ofBytes` — everything that a run printed
-/

namespace Codemod.Stream

/-- What has been gathered from a stream. -/
structure Transcript where
  /-- The text so far. -/
  text : String := ""
  /-- Reported errors, in order. -/
  errors : List String := []
  /-- The text of the last `result` event. -/
  summary : Option String := none

namespace Transcript

/-- Nothing gathered yet. -/
def empty : Transcript := {}

/-- Adds text. -/
def append (t : Transcript) (text : String) : Transcript := { t with text := t.text ++ text }

/-- Adds an error. -/
def report (t : Transcript) (payload : String) : Transcript :=
  { t with errors := t.errors ++ [payload] }

/-- Takes in a `result` event: its summary replaces an earlier one, and it is also an error when it
says so. -/
def conclude (t : Transcript) (raw : Json) : Transcript :=
  let t := if (raw.get? "is_error").bind Json.bool? = some true then t.report raw.compress else t
  { t with summary := (raw.get? "result").bind Json.string? }

/-- Takes in one event. A raw line gets back the line feed that ended it. -/
def apply (t : Transcript) : Event → Transcript
  | .start | .stop => t
  | .delta text => t.append text
  | .error payload => t.report payload
  | .unparsed line => (t.append line).append "\n"
  | .other kind raw =>
    if kind == "result" then t.conclude raw
    else match textPayload? raw with
      | some text => t.append text
      | none => t

/-- The answer: the text, or the summary when the text is blank, without line breaks around it. -/
def finish (t : Transcript) : String :=
  Text.withoutOuterLineBreaks (if Text.isBlankText t.text then t.summary.getD "" else t.text)

/-- The transcript of a sequence of lines. -/
def ofLines (lines : List String) : Transcript :=
  lines.foldl (fun t line => t.apply (Event.ofLine line)) empty

/-- The transcript of everything that a run printed. -/
def ofBytes (bytes : List UInt8) : Transcript := ofLines (Text.Lines.scan bytes)

end Transcript

end Codemod.Stream
