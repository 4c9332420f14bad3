import Codemod.Json.Printer
import Codemod.Request.Basic
import Codemod.Text.Quoted

/-!
# Values of an expected shape

Reading a record from a JSON value fails when a value has another shape than expected.

- `ShapeError` — what does not fit, and `ShapeError.message`
- `Json.asString`, `Json.asVariant` — texts and named alternatives
-/

namespace Codemod

/-- Why a value does not have the expected shape. -/
inductive ShapeError where
  | missingField (name : String)
  | unknownVariant (name : String) (expected : List String)
  | invalidType (found expected : String)
  | invalidValue (found expected : String)
  | invalidLength (length : Nat) (expected : String)
deriving DecidableEq

/-- How the error is reported. -/
def ShapeError.message : ShapeError → String
  | missingField name => s!"missing field `{name}`"
  | unknownVariant name expected =>
    let names := String.intercalate ", " (expected.map fun n => s!"`{n}`")
    s!"unknown variant `{name}`, expected one of {names}"
  | invalidType found expected => s!"invalid type: {found}, expected {expected}"
  | invalidValue found expected => s!"invalid value: {found}, expected {expected}"
  | invalidLength length expected => s!"invalid length {length}, expected {expected}"

namespace Json

/-- What a value is, in words. -/
def describe : Json → String
  | null => "null"
  | bool b => s!"boolean `{b}`"
  | int n => s!"integer `{n}`"
  | float x => s!"floating point `{String.ofList (floatText x)}`"
  | string s => "string " ++ Text.quoted s
  | array _ => "sequence"
  | object _ => "map"

/-- A text. -/
def asString : Json → Except ShapeError String
  | string s => .ok s
  | v => .error (.invalidType v.describe "a string")

/-- One of some named alternatives: its name, or an object with the name as its only key and null
under it. -/
def asVariant {α : Type} (ofName? : String → Option α) (names : List String) :
    Json → Except ShapeError α
  | string s =>
    match ofName? s with
    | some a => .ok a
    | none => .error (.unknownVariant s names)
  | object [(s, v)] =>
    match ofName? s, v with
    | none, _ => .error (.unknownVariant s names)
    | some a, null => .ok a
    | some _, v => .error (.invalidType v.describe "unit")
  | object _ => .error (.invalidValue "map" "map with a single key")
  | v => .error (.invalidType v.describe "string or map")

end Json

end Codemod

/-!
## Requests as JSON

- `Request.toJson` — the object of a request
- `Request.ofJson` — the request of an object, or of an array of its fields in order
-/

namespace Codemod.Request

/-- The object of a request. -/
def toJson (r : Request) : Json :=
  .object
    [("lint_command", .string r.lintCommand), ("test_command", .string r.testCommand),
     ("file_glob", .string r.fileGlob), ("find", .string r.find), ("replace", .string r.replace),
     ("stop_policy", .string r.stopPolicy.name), ("action", .string r.action.name)]

/-- A request of which only some fields are known yet. -/
structure Draft where
  lintCommand : Option String := none
  testCommand : Option String := none
  fileGlob : Option String := none
  find : Option String := none
  replace : Option String := none
  stopPolicy : Option StopPolicy := none
  action : Option Action := none

/-- The names of the fields in order. -/
def fieldNames : List String :=
  ["lint_command", "test_command", "file_glob", "find", "replace", "stop_policy", "action"]

/-- Reads one field; a name that is no field is passed over. -/
def Draft.read (d : Draft) (name : String) (v : Json) : Except ShapeError Draft :=
  match name with
  | "lint_command" => do return { d with lintCommand := some (← v.asString) }
  | "test_command" => do return { d with testCommand := some (← v.asString) }
  | "file_glob" => do return { d with fileGlob := some (← v.asString) }
  | "find" => do return { d with find := some (← v.asString) }
  | "replace" => do return { d with replace := some (← v.asString) }
  | "stop_policy" => do
    let p ← v.asVariant StopPolicy.ofName? (StopPolicy.all.map StopPolicy.name)
    return { d with stopPolicy := some p }
  | "action" => do
    let a ← v.asVariant Action.ofName? (Action.all.map Action.name)
    return { d with action := some a }
  | _ => return d

/-- A field that has to be known. -/
def known {α : Type} (name : String) : Option α → Except ShapeError α
  | some a => .ok a
  | none => .error (.missingField name)

/-- The request of a draft; of several missing fields the first is reported. -/
def Draft.finish (d : Draft) : Except ShapeError Request := do
  return {
    lintCommand := ← known "lint_command" d.lintCommand
    testCommand := ← known "test_command" d.testCommand
    fileGlob := ← known "file_glob" d.fileGlob
    find := ← known "find" d.find
    replace := ← known "replace" d.replace
    stopPolicy := ← known "stop_policy" d.stopPolicy
    action := ← known "action" d.action }

/-- Reads fields in the order given. -/
def Draft.readAll (d : Draft) : List (String × Json) → Except ShapeError Draft
  | [] => .ok d
  | (name, v) :: rest =>
    match d.read name v with
    | .ok d => d.readAll rest
    | .error e => .error e

/-- Reads a request. -/
def ofJson : Json → Except ShapeError Request
  | .object fields => do (← Draft.readAll {} fields).finish
  | .array items => do
    let draft ← Draft.readAll {} (fieldNames.zip items)
    if items.length < fieldNames.length then
      .error (.invalidLength items.length "struct MigrationRequest with 7 elements")
    else if fieldNames.length < items.length then
      .error (.invalidLength items.length "fewer elements in array")
    else draft.finish
  | v => .error (.invalidType v.describe "struct MigrationRequest")

end Codemod.Request
