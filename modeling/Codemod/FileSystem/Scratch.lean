import Codemod.FileSystem.Record
import Codemod.Text.Quoted

/-!
# Scratch files

A scratch file gets a name that is free in its directory, and is removed when it is no longer
needed.

- `FileSystem.createFile` — a new file; an error if something has the name already
- `FileSystem.removeFile` — removes anything but a directory
- `FileSystem.freeName` — a name that nothing has in a directory
- `FileSystem.createScratch` — a new file under a free name
-/

namespace Codemod.FileSystem

/-- Makes a file that was not there and that only its owner may read. -/
def createFile (fs : FileSystem) (path : String) (bytes : ByteArray) :
    Except SystemError FileSystem :=
  match fs.resolve false path with
  | .found _ _ => .error .alreadyExists
  | .free loc asDirectory =>
    if asDirectory then .error .isDirectory
    else .ok ((fs.set loc (.file bytes)).amend loc fun r => { r with mode := some 0o600 })
  | .crossing _ _ _ => .error .linkLoop
  | .failed cause => .error cause

/-- Removes the file or link that a path names. -/
def removeFile (fs : FileSystem) (path : String) : Except SystemError FileSystem :=
  match fs.resolve false path with
  | .found _ .directory => .error .isDirectory
  | .found loc _ => .ok (fs.erase loc)
  | .free _ _ => .error .notFound
  | .crossing _ _ _ => .error .linkLoop
  | .failed cause => .error cause

/-- Something has the path already. -/
def isTaken (fs : FileSystem) (path : String) : Bool :=
  match fs.resolve false path with
  | .found _ _ => true
  | _ => false

/-- A number with six digits at least. -/
def serial (n : Nat) : String :=
  let digits := toString n
  String.ofList (List.replicate (6 - digits.length) '0') ++ digits

/-- A path in a directory whose name stands between two texts and a number and is not taken, if
one is among as many as there are entries. -/
def freeName (fs : FileSystem) (directory before after : String) : String :=
  let path (n : Nat) := Path.join directory (before ++ serial n ++ after)
  ((List.range (fs.entries.length + 1)).map path).find? (fun p => !fs.isTaken p) |>.getD (path 0)

/-- An error that says at which path it arose. -/
def atPath (path : String) (cause : SystemError) : SystemError :=
  .custom s!"{cause.message} at path {Text.quoted path}"

/-- Makes a file with a free name in a directory: its path and the files after it. -/
def createScratch (fs : FileSystem) (directory before after : String) (bytes : ByteArray) :
    Except SystemError (String × FileSystem) :=
  let path := Path.join ("/" ++ Location.text fs.workingDirectory)
    (fs.freeName directory before after)
  match fs.createFile path bytes with
  | .ok fs => .ok (path, fs)
  | .error cause => .error (atPath path cause)

end Codemod.FileSystem
