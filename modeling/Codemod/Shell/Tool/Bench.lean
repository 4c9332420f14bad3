import Codemod.FileSystem.Record
import Codemod.Shell.Octets

/-!
# The workbench of a tool

A tool reads its input and files, writes to two channels and changes files, and ends with a status.

- `Bench` — what a tool works on
- `Tool` — a tool between its arguments and its status
- `Tool.say`, `Tool.complain`, `Tool.readAll`, `Tool.contentOf` — what tools do
-/

namespace Codemod.Shell

/-- The two channels to which a tool writes. -/
inductive Channel where
  | output
  | complaint
deriving DecidableEq

/-- What a tool works on. -/
structure Bench where
  disk : FileSystem
  /-- The name of the tool. -/
  tool : String := ""
  /-- What the input holds when the tool is started. -/
  source : Thunk Octets := Thunk.pure []
  /-- Why the input cannot be read, if so. -/
  deaf : Option SystemError := none
  /-- More follows the source without an end. -/
  endless : Bool := false
  /-- The input is a file of this size, in which one can go back. -/
  inputSize : Option Nat := none
  /-- The file that is the input, if it is one. -/
  inputFile : Option Location := none
  /-- The file at whose end the output is written, when there is something before. -/
  growing : Option Location := none
  /-- The file to which the output is written, if it is one. -/
  outputFile : Option Location := none
  /-- What is left of the source; none as long as nothing was read. -/
  rest : Option Octets := none
  /-- The tool has taken no more than it says, even where it cannot go back. -/
  exact : Bool := false
  /-- The tool waits for the end of something that has none. -/
  stuck : Bool := false
  /-- What was written, latest first. -/
  written : List (Channel × Octets) := []
  environment : List (Octets × Octets) := []
  /-- The name by which the shell calls itself when a tool is a part of it. -/
  caller : Octets := []
  /-- The time, in nanoseconds since 1970. -/
  now : Int := 0
  /-- The permission bits that new files do not get. -/
  mask : Nat := 0o022
  /-- The path by which the working directory was entered. -/
  place : Octets := ['/']

/-- An activity of a tool. -/
abbrev Tool := StateM Bench

namespace Tool

/-- Writes to the output. -/
def say (text : Octets) : Tool Unit :=
  modify fun b => { b with written := (.output, text) :: b.written }

/-- Writes a text to the output. -/
def sayText (text : String) : Tool Unit := say (Octets.ofString text)

/-- Writes a line about a failure. -/
def complain (text : String) : Tool Unit :=
  modify fun b => { b with written := (.complaint, Octets.ofString (text ++ "\n")) :: b.written }

/-- Writes a line about a failure in the tool's name. -/
def blame (text : String) : Tool Unit := do complain s!"{(← get).tool}: {text}"

/-- What an error of the system is called by tools. -/
def reason : SystemError → String
  | .code n => SystemError.description n
  | .custom text => text

/-- What is left of the input, with none of it taken. -/
def peek : Tool Octets := do
  let b ← get
  return b.rest.getD b.source.get

/-- Leaves only a rest of the input. -/
def leave (rest : Octets) : Tool Unit := modify fun b => { b with rest := some rest }

/-- Takes all of the input. -/
def readAll : Tool Octets := do
  let text ← peek
  modify fun b => { b with rest := some [], stuck := b.stuck || b.endless }
  return text

/-- Takes what is there of an input that may have no end, for a tool that needs only its beginning;
`enough` tells whether that is all it needs. -/
def readSome (enough : Octets → Bool) : Tool Octets := do
  let text ← peek
  modify fun b => { b with rest := some [], stuck := b.stuck || (b.endless && !enough text) }
  return text

/-- How many octets are read of a file without an end: more than any reader takes. -/
def manyZeros : Nat := 2 ^ 16

/-- The paths of devices. -/
def devices : List String :=
  ["/dev/null", "/dev/zero", "/dev/full", "/dev/random", "/dev/urandom", "/dev/tty"]

/-- The paths that stand for the input. -/
def isInput (name : Octets) : Bool :=
  name == ['-'] || name == "/dev/stdin".toList || name == "/dev/fd/0".toList
    || name == "/proc/self/fd/0".toList

/-- The content of a file, of nothing for the null device, and of the input for a dash; `enough`
tells what is enough of an input that has no end. -/
def contentUpTo (enough : Octets → Bool) (name : Octets) : Tool (Except SystemError Octets) := do
  if isInput name then
    match (← get).deaf with
    | some cause => return .error cause
    | none => return .ok (← readSome enough)
  else if name == "/dev/null".toList then return .ok []
  else if name == "/dev/zero".toList || name == "/dev/urandom".toList
    || name == "/dev/random".toList then
    let text := List.replicate manyZeros (if name == "/dev/zero".toList then '\x00' else 'k')
    if !enough text then modify fun b => { b with stuck := true }
    return .ok text
  else return ((← get).disk.readBytes name.toText).map Octets.ofBytes

/-- The content of a file, of nothing for the null device, and of the input for a dash. -/
def contentOf (name : Octets) : Tool (Except SystemError Octets) :=
  contentUpTo (fun _ => false) name

/-- The location of a file that is read by a name. -/
def sourceOf (name : Octets) : Tool (Option Location) := do
  let b ← get
  if isInput name then return b.inputFile
  else return (b.disk.find name.toText).toOption.map Prod.fst

/-- Changes the disk; a failure is complained about. -/
def change (complaint : String) (f : FileSystem → Except SystemError FileSystem) : Tool Bool := do
  let b ← get
  match f b.disk with
  | .ok disk =>
    set { b with disk }
    return true
  | .error cause =>
    blame s!"{complaint}: {reason cause}"
    return false

/-- The contents of the named files one after another, or of the input when none is named. What
cannot be read is complained about; the status tells whether that happened. -/
def contents (complaint : String → String) (names : List Octets) :
    Tool (List (Octets × Octets) × Nat) := do
  if names.isEmpty then return ([(['-'], ← readAll)], 0)
  let mut found := []
  let mut status := 0
  for name in names do
    match ← contentOf name with
    | .ok text => found := (name, text) :: found
    | .error cause =>
      complain s!"{complaint name.toText}: {reason cause}"
      status := 1
  return (found.reverse, status)

/-- Puts a text into a file at a path, which is made if its directory exists. -/
def store (path : String) (text : Octets) : Tool (Except SystemError Unit) := do
  let b ← get
  if path == "/dev/null" then return .ok ()
  if path == "/dev/stdout" then
    say text
    return .ok ()
  if path == "/dev/stderr" then
    set { b with written := (.complaint, text) :: b.written }
    return .ok ()
  match b.disk.writeTarget path with
  | .error cause => return .error cause
  | .ok loc =>
    let isNew := (b.disk.get? loc).isNone
    let disk := b.disk.write loc (.file text.toContent) b.now
    let disk := if isNew && b.mask != 0o022 then
        disk.amend loc fun r => { r with mode := some (0o666 &&& (0o777 ^^^ b.mask)) }
      else disk
    set { b with disk }
    return .ok ()

/-- A number written in decimal digits. -/
def natural? (cs : Octets) : Option Nat :=
  if cs.isEmpty || !cs.all Char.isDigit then none
  else some (cs.foldl (fun n c => n * 10 + (c.toNat - 48)) 0)

end Tool

end Codemod.Shell
