import Codemod.FileSystem.Scratch
import Codemod.Shell.Permission
import Codemod.Shell.Tool.Options
import Codemod.Shell.Tool.PathName

/-!
# Removing files and directories

- `Tool.remove` — files, and directories with what is in them
- `Tool.removeDirectory` — empty directories
- `Tool.unlink` — one file
-/

namespace Codemod.Shell.Tool

/-- Takes a line of the input as the answer to a question; whether it says yes. -/
def agrees (question : String) : Tool Bool := do
  modify fun b =>
    { b with written := (.complaint, Octets.ofString s!"{b.tool}: {question}? ") :: b.written }
  let (line, rest) := (← peek).span (· != '\n')
  leave (rest.drop 1)
  return line.head? == some 'y' || line.head? == some 'Y'

/-- What stands at a path itself, without following a link at its end. -/
def entryAt (disk : FileSystem) (path : Octets) : Except SystemError (Location × Node) :=
  match disk.resolve false path.toText with
  | .found loc node => .ok (loc, node)
  | .free _ _ => .error .notFound
  | .crossing _ _ _ => .error .linkLoop
  | .failed cause => .error cause

/-- What kind of thing a node is. -/
def kindName : Node → String
  | .file bytes => if bytes.size == 0 then "regular empty file" else "regular file"
  | .directory => "directory"
  | .link _ => "symbolic link"

/-- Something stands in a directory. -/
def hasEntries (disk : FileSystem) (loc : Location) : Bool :=
  disk.entries.any fun (l, _) => loc.isPrefixOf l && l.length > loc.length

/-- The names in a directory in their order. -/
def sortedNames (disk : FileSystem) (loc : Location) : List Octets :=
  ((disk.children loc).map fun (name, _) => Octets.ofString name).mergeSort Octets.le

/-- How things are removed. -/
structure Removing where
  recursive : Bool
  directories : Bool
  asks : Bool
  verbose : Bool
  force : Bool

/-- Removes an entry, a directory after all in it. The value tells whether that went well. -/
def removeEntry (r : Removing) (depth : Nat) (path : Octets) (loc : Location) (node : Node) :
    Tool Bool := do
  let erase (what : String) : Tool Bool := do
    modify fun b => { b with disk := b.disk.erase loc }
    if r.verbose then sayText s!"removed {what}{quoted path}\n"
    return true
  match depth, node with
  | 0, _ => return false
  | depth + 1, .directory =>
    let full := hasEntries (← get).disk loc
    if full && !r.recursive then
      blame s!"cannot remove {quoted path}: Directory not empty"
      return false
    else
      if full && r.asks then
        if !(← agrees s!"descend into directory {quoted path}") then return true
      let mut fine := true
      for name in sortedNames (← get).disk loc do
        let inner := loc ++ [name.toText]
        if let some child := (← get).disk.get? inner then
          let slash : Octets := if path.getLast? == some '/' then [] else ['/']
          if !(← removeEntry r depth (path ++ slash ++ name) inner child) then fine := false
      if r.asks then
        if !(← agrees s!"remove directory {quoted path}") then return fine
      if hasEntries (← get).disk loc then
        if fine then blame s!"cannot remove {quoted path}: Directory not empty"
        return false
      erase "directory "
  | _ + 1, node =>
    if r.asks then
      if !(← agrees s!"remove {kindName node} {quoted path}") then return true
    erase ""

/-- Removes files, and directories with what is in them. -/
def remove : List Octets → Tool Nat :=
  withOptions ("f,force i I interactive:: r,R,recursive d,dir v,verbose one-file-system "
    ++ "no-preserve-root preserve-root::") 1 fun o => do
  let force := o.last? ["f", "i", "I"] == some "f"
  let recursive := o.has "r"
  if o.operands.isEmpty then return ← if force then pure 0 else missingOperand 1
  if o.last? ["f", "i", "I"] == some "I" && (recursive || o.operands.length > 3) then
    let what := if o.operands.length == 1 then "1 argument" else s!"{o.operands.length} arguments"
    if !(← agrees (s!"remove {what}" ++ (if recursive then " recursively" else ""))) then return 0
  let r : Removing :=
    { recursive
      directories := o.has "d"
      asks := o.last? ["f", "i", "I"] == some "i"
      verbose := o.has "v"
      force }
  let mut status := 0
  for path in o.operands do
    let disk := (← get).disk
    let refuse (text : String) : Tool Unit := blame s!"cannot remove {quoted path}: {text}"
    match entryAt disk path with
    | .error cause =>
      if !(force && (cause == .notFound || cause == .notDirectory)) then
        refuse (reason cause)
        status := 1
    | .ok (loc, node) =>
      let last := lastPart path []
      if node == .directory && !recursive && !r.directories then
        refuse "Is a directory"
        status := 1
      else if node == .directory && (last == ['.'] || last == ['.', '.']) then
        blame s!"refusing to remove '.' or '..' directory: skipping {quoted path}"
        status := 1
      else if loc.isEmpty && !o.has "no-preserve-root" then
        blame s!"it is dangerous to operate recursively on {quoted path}"
        blame "use --no-preserve-root to override this failsafe"
        status := 1
      else if path.getLast? == some '/' && (entryAt disk (withoutEnd path)).toOption.any fun e =>
          e.2 != .directory then
        refuse "Not a directory"
        status := 1
      else if !(← removeEntry r (disk.entries.length + 1) path loc node) then status := 1
  return status

/-- Removes an empty directory. The value tells whether that went well. -/
def removeEmpty (o : Options) (path : Octets) (above : Bool) : Tool Bool := do
  if o.has "v" then sayText s!"{(← get).tool}: removing directory, {quoted path}\n"
  let disk := (← get).disk
  let what := if above then "directory " else ""
  let refuse (text : String) : Tool Bool := do
    blame s!"failed to remove {what}{quoted path}: {text}"
    return false
  match entryAt disk path with
  | .error cause => refuse (reason cause)
  | .ok (loc, .directory) =>
    if lastPart path [] == ['.'] then refuse "Invalid argument"
    else if hasEntries disk loc then
      if o.has "ignore-fail-on-non-empty" then return true else refuse "Directory not empty"
    else if loc.isEmpty then refuse "Device or resource busy"
    else
      modify fun b => { b with disk := b.disk.erase loc }
      return true
  | .ok _ => refuse "Not a directory"

/-- A path and the paths above it that it names. -/
def pathsUp (fuel : Nat) (path : Octets) : List Octets :=
  match fuel with
  | 0 => []
  | fuel + 1 =>
    let above := firstPart path
    if above == ['.'] || above == ['/'] then [path] else path :: pathsUp fuel above

/-- Removes empty directories, perhaps with those above them. -/
def removeDirectory : List Octets → Tool Nat :=
  withOptions "p,parents v,verbose ignore-fail-on-non-empty" 1 fun o => do
  if o.operands.isEmpty then return ← missingOperand 1
  let mut status := 0
  for path in o.operands do
    let paths := if o.has "p" then pathsUp path.length (withoutEnd path) else [path]
    let mut going := true
    for (path, i) in paths.zipIdx do
      if going then
        going ← removeEmpty o path (i > 0)
        if !going then status := 1
  return status

/-- Removes one file. -/
def unlink : List Octets → Tool Nat :=
  withOptions "" 1 fun o => do
  match o.operands with
  | [] => missingOperand 1
  | [path] =>
    if ← change s!"cannot unlink {quoted path}" (·.removeFile path.toText) then return 0
    else return 1
  | _ :: extra :: _ => extraOperand 1 extra

end Codemod.Shell.Tool

/-!
## What is known about an entry

- `Entry.size`, `Entry.blocks`, `Entry.links`, `Entry.row` — what tools tell of an entry
- `Measure.shown` — a size as it is shown
-/

namespace Codemod.Shell

/-- Something that stands in a directory, or a directory. -/
structure Entry where
  /-- The name under which it is shown. -/
  name : Octets
  loc : Location
  node : Node

namespace Entry

/-- Its size in bytes. -/
def size (e : Entry) : Nat :=
  match e.node with
  | .file bytes => bytes.size
  | .directory => 4096
  | .link target => target.utf8ByteSize

/-- How many blocks of 512 bytes it takes. -/
def blocks (e : Entry) : Nat :=
  match e.node with
  | .link _ => 0
  | _ => (e.size + 4095) / 4096 * 8

/-- How many names it has. -/
def links (disk : FileSystem) (e : Entry) : Nat :=
  match e.node with
  | .directory => 2 + ((disk.children e.loc).filter fun c => c.2 == .directory).length
  | _ => 1 + (disk.twins e.loc).length

/-- The letter of its kind. -/
def kindLetter (e : Entry) : Char :=
  match e.node with
  | .file _ => '-'
  | .directory => 'd'
  | .link _ => 'l'

/-- Its permission bits. -/
def mode (disk : FileSystem) (e : Entry) : Nat := disk.mode e.loc e.node

/-- Its kind and permissions as ten letters. -/
def row (disk : FileSystem) (e : Entry) : Octets :=
  e.kindLetter :: (Permission.row (e.mode disk)).toList

/-- Its number in the file system; names of one file share it. -/
def number (disk : FileSystem) (e : Entry) : Nat :=
  let first := (disk.twins e.loc).foldl (fun a b => if Location.le a b then a else b) e.loc
  let place := (disk.entries.map Prod.fst).idxOf first
  if e.loc.isEmpty then 2 else 1000 + place

/-- It is a file that may be executed. -/
def isExecutable (disk : FileSystem) (e : Entry) : Bool :=
  e.node.isFile && e.mode disk &&& 0o111 != 0

/-- What a path names; `follow` tells whether a link at its end is followed. -/
def at? (disk : FileSystem) (follow : Bool) (path : Octets) : Except SystemError Entry :=
  (if follow then disk.find path.toText else Tool.entryAt disk path).map fun (loc, node) =>
    ⟨path, loc, node⟩

end Entry

/-! ### Sizes -/

/-- How sizes are shown. -/
inductive Measure where
  /-- In units of so many bytes, with a text after the number. -/
  | units (bytes : Nat) (after : String)
  /-- In the unit of the size's magnitude, which is a power of a base. -/
  | scaled (base : Nat)

namespace Measure

/-- A size in the first of some units, each `base` times the one before, in which it has few
digits. -/
def inUnits (base unit bytes : Nat) : List Char → String
  | [] => toString bytes
  | c :: rest =>
    let tenths := (bytes * 10 + unit - 1) / unit
    let whole := (bytes + unit - 1) / unit
    if tenths < 100 then s!"{tenths / 10}.{tenths % 10}{String.singleton c}"
    else if whole < base || rest.isEmpty then s!"{whole}{String.singleton c}"
    else inUnits base (unit * base) bytes rest

/-- A size as it is shown, never less than it is. -/
def shown : Measure → Nat → String
  | units unit after, bytes => s!"{(bytes + unit - 1) / unit}{after}"
  | scaled base, bytes =>
    if bytes < base then toString bytes
    else inUnits base base bytes [if base == 1000 then 'k' else 'K', 'M', 'G', 'T', 'P', 'E']

/-- The units that a text describes. -/
def read? (text : Octets) : Option Measure :=
  if text == "human-readable".toList then some (.scaled 1024)
  else if text == "si".toList then some (.scaled 1000)
  else
    let (digits, letters) := text.span Char.isDigit
    match Size.unit? (String.ofList letters), Tool.natural? digits with
    | some 0, _ | none, _ | _, some 0 => none
    | some unit, some n => some (.units (n * unit) "")
    | some unit, none =>
      if letters.isEmpty || !digits.isEmpty then none
      else some (.units unit (String.ofList letters))

end Measure

end Codemod.Shell
