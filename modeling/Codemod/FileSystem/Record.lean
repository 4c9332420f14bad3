import Codemod.FileSystem.Basic

/-!
# What is kept about entries

Beside what it holds, an entry has permissions and the time of its last change, and a file may have
several names. All of it has a usual value, so an entry needs no record.

- `FileSystem.mode`, `FileSystem.modified` — permissions and times
- `FileSystem.identify`, `FileSystem.twins`, `FileSystem.addName` — files with several names
- `FileSystem.write` — a whole file under all of its names, with the time it was written
- `FileSystem.rename` — an entry with what is below it under another name
-/

namespace Codemod.FileSystem

/-- Changes what is kept about a location. -/
def amend (fs : FileSystem) (loc : Location) (f : Record → Record) : FileSystem :=
  { fs with records := (loc, f (fs.record loc)) :: fs.records.filter fun e => e.1 != loc }

/-- The usual permissions of a node. -/
def usualMode : Node → Nat
  | .file _ => 0o644
  | .directory => 0o755
  | .link _ => 0o777

/-- The permissions of an entry. -/
def mode (fs : FileSystem) (loc : Location) (node : Node) : Nat :=
  match node with
  | .link _ => usualMode node
  | _ => ((fs.record loc).mode).getD (usualMode node)

/-- The time of the last change of what was there at the beginning: in the middle of 2026. -/
def beginning : Int := 1780272000 * 10 ^ 9

/-- When an entry was changed last. -/
def modified (fs : FileSystem) (loc : Location) : Int := (fs.record loc).modified.getD beginning

/-- The other names of the file at a location. -/
def twins (fs : FileSystem) (loc : Location) : List Location :=
  match (fs.record loc).identity with
  | none => []
  | some n =>
    fs.records.filterMap fun (l, r) => if r.identity == some n && l != loc then some l else none

/-- The number of what is at a location, given out when it has none. -/
def identify (fs : FileSystem) (loc : Location) : Nat × FileSystem :=
  match (fs.record loc).identity with
  | some n => (n, fs)
  | none =>
    let n := fs.records.foldl (fun n (_, r) => max n (r.identity.getD 0)) 0 + 1
    (n, fs.amend loc fun r => { r with identity := some n })

/-- A name of the file with a number. -/
def named? (fs : FileSystem) (identity : Nat) : Option Location :=
  (fs.records.find? fun (_, r) => r.identity == some identity).map Prod.fst

/-- Replaces what a location and its other names hold, at a time that a launched program can ask
for. `overwrite` is the same change for writers whose times nothing reads. -/
def write (fs : FileSystem) (loc : Location) (node : Node) (now : Int) : FileSystem :=
  (loc :: fs.twins loc).foldl
    (fun fs l => (fs.set l node).amend l fun r => { r with modified := some now }) fs

/-- Gives the file at a location one more name. -/
def addName (fs : FileSystem) (loc other : Location) (node : Node) : FileSystem :=
  let (_, fs) := fs.identify loc
  (fs.set other node).amend other fun _ => fs.record loc

/-- Puts what is at a location, with all below it, at another one. What was there is gone. -/
def rename (fs : FileSystem) (loc target : Location) : FileSystem :=
  let inside (l : Location) := loc.isPrefixOf l
  let placed (l : Location) := target ++ l.drop loc.length
  let taken := fs.entries.filter fun e => inside e.1
  let records := fs.records.filter fun e => inside e.1
  let rest := (fs.erase target).erase loc
  let moved := taken.foldl (fun fs (l, node) => fs.set (placed l) node) rest
  { moved with records := records.map (fun (l, r) => (placed l, r)) ++ moved.records }

end Codemod.FileSystem
