import Codemod.Burndown.Basic
import Codemod.FileSystem.Basic
import Codemod.Json.Printer
import Codemod.Json.Reader

/-!
# Histories as JSON

- `History.toJson`, `History.write` — the array of points, into a file
- `History.ofJson?`, `History.parse?` — back from an array
-/

namespace Codemod

/-- The object of a point; without a file it has no such field. -/
def Snapshot.toJson (s : Snapshot) : Json :=
  .object <|
    [("timestamp", .string s.time.text), ("count", .int s.count.toInt)]
      ++ match s.file with
         | some file => [("file", .string file)]
         | none => []

/-- The names of the fields of a point. -/
def Snapshot.fieldNames : List String := ["timestamp", "count", "file"]

/-- The only field of a name; none when it is missing or repeated. -/
def onlyField? (name : String) (fields : List (String × Json)) : Option Json :=
  match fields.filter fun f => f.1 == name with
  | [(_, v)] => some v
  | _ => none

/-- A 64-bit total. -/
def asTotal? : Json → Option Int64
  | .int n => if fitsTotal n then some (Int64.ofInt n) else none
  | _ => none

/-- A file name, which may be null. -/
def asFile? : Json → Option (Option String)
  | .string s => some (some s)
  | .null => some none
  | _ => none

/-- The point of a timestamp, a count and a file. -/
def Snapshot.ofParts? (time count file : Json) : Option Snapshot := do
  return ⟨← (← time.string?) |> Timestamp.parse?, ← asTotal? count, ← asFile? file⟩

/-- Reads a point from an object, or from an array of its fields in order. The file may be missing,
and other fields do not count. -/
def Snapshot.ofJson? : Json → Option Snapshot
  | .object fields => do
    let time ← onlyField? "timestamp" fields
    let count ← onlyField? "count" fields
    let file ← if fields.any (·.1 == "file") then onlyField? "file" fields else some .null
    Snapshot.ofParts? time count file
  | .array [time, count] => Snapshot.ofParts? time count .null
  | .array [time, count, file] => Snapshot.ofParts? time count file
  | _ => none

namespace History

/-- The array of points. -/
def toJson (h : History) : Json := .array (h.snapshots.map Snapshot.toJson)

/-- Reads a history from an array of points. -/
def ofJson? : Json → Option History
  | .array items => (items.mapM Snapshot.ofJson?).map History.mk
  | _ => none

/-- Reads a history from a text. What stands in fields that points do not have is passed over. -/
def parse? (text : String) : Option History :=
  (Json.readOnly? Snapshot.fieldNames.contains text).bind ofJson?

/-- Why a history could not be written. -/
inductive WriteError where
  | directory (path : String) (cause : SystemError)
  | file (path : String) (cause : SystemError)
deriving DecidableEq

/-- What could not be done. -/
def WriteError.message : WriteError → String
  | directory path _ => s!"Failed to create directory: {path}"
  | file path _ => s!"Failed to write history: {path}"

/-- Why it could not be done. -/
def WriteError.cause : WriteError → SystemError
  | directory _ cause | file _ cause => cause

/-- Writes the array of points, one field a line, making the directory of the file if need be. -/
def write (h : History) (fs : FileSystem) (path : String) : Except WriteError FileSystem := do
  let fs ←
    match Path.parent? path with
    | some parent =>
      if parent.isEmpty then pure fs
      else (fs.createDirectories parent).mapError (WriteError.directory parent)
    | none => pure fs
  (fs.writeBytes path (h.toJson.pretty ++ "\n").toUTF8).mapError (WriteError.file path)

end History

end Codemod
