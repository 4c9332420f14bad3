import Codemod.FileSystem.Record
import Codemod.Shell.Tool.Bench

/-!
# Lists of values

A variable of the rich language may hold a list: values by numbers, which need not follow each
other, or values by texts. Texts are kept in the order of a table with a fixed number of buckets.

- `Row` — a list of values
- `Row.get?`, `Row.set`, `Row.erase` — single values
- `Row.keyOf?` — the key of a number, which may count from the end
-/

namespace Codemod.Shell

/-- A list of values, each with its key. -/
structure Row where
  /-- The keys are texts; otherwise they are numbers. -/
  keyed : Bool := false
  entries : List (Octets × Octets) := []

namespace Row

/-- The bucket of a text. -/
def bucket (key : Octets) : Nat :=
  let start : UInt32 := 2166136261
  (key.foldl (fun n c => (n * 16777619) ^^^ UInt32.ofNat c.toNat) start).toNat % 1024

/-- What the order of the keys goes by. -/
def rank (r : Row) (key : Octets) : Nat :=
  if r.keyed then bucket key else (Tool.natural? key).getD 0

/-- The value of a key. -/
def get? (r : Row) (key : Octets) : Option Octets := r.entries.lookup key

/-- The list without a key. -/
def erase (r : Row) (key : Octets) : Row := { r with entries := r.entries.filter (·.1 != key) }

/-- The list with a value for a key. -/
def set (r : Row) (key value : Octets) : Row :=
  if (r.get? key).isSome then
    { r with entries := r.entries.map fun (k, v) => (k, if k == key then value else v) }
  else
    let (before, after) := r.entries.span fun (k, _) => r.rank k < r.rank key
    { r with entries := before ++ (key, value) :: after }

/-- The keys in their order. -/
def keys (r : Row) : List Octets := r.entries.map Prod.fst

/-- The values in the order of their keys. -/
def values (r : Row) : List Octets := r.entries.map Prod.snd

/-- The number after the greatest one. -/
def next (r : Row) : Nat :=
  match r.entries.getLast? with
  | some (key, _) => (Tool.natural? key).getD 0 + 1
  | none => 0

/-- The key of a number. A negative one is counted from the end. -/
def keyOf? (r : Row) (n : Int) : Option Octets :=
  let n := if n < 0 then n + r.next else n
  if n < 0 then none else some (Octets.ofNat n.toNat)

/-- The list with a value after its last one. -/
def push (r : Row) (value : Octets) : Row := r.set (Octets.ofNat r.next) value

/-- The list of values numbered from zero. -/
def ofList (values : List Octets) : Row :=
  { entries := values.zipIdx.map fun (value, i) => (Octets.ofNat i, value) }

/-- The value that counts when no key is named. -/
def main? (r : Row) : Option Octets := r.get? ['0']

end Row

end Codemod.Shell

/-!
## Streams

What a process reads from and writes to. Several streams of several processes may be the same
opening of a file, and then share the place in it.

- `Stream` — an opening of a file, an end of a pipe, or a device
- `Stream.contents` — what is still to be read from it
-/

namespace Codemod.Shell

/-- A file that was opened. -/
structure OpenFile where
  /-- The number of what the file holds. -/
  identity : Nat
  /-- What it held when it was opened, should it lose its last name. -/
  before : ByteArray
  /-- How many bytes lie before the place where it is read or written. -/
  offset : Nat := 0
  reads : Bool := false
  writes : Bool := false
  /-- Whatever is written goes to the end. -/
  appends : Bool := false

/-- What a process reads from or writes to. -/
inductive Stream where
  /-- One of the two streams that the shell was given. -/
  | own (channel : Channel)
  /-- Nothing is read, and what is written vanishes. -/
  | nowhere
  /-- Nothing more can be written. -/
  | full
  /-- A text to be read, and whether more follows without an end. -/
  | incoming (text : Octets) (endless : Bool)
  /-- A text that is kept. -/
  | kept (place : Nat)
  | directory
  | file (file : OpenFile)

namespace OpenFile

/-- What the file holds now, and a name of it if it still has one. -/
def held (disk : FileSystem) (f : OpenFile) : ByteArray × Option Location :=
  match disk.named? f.identity with
  | some loc =>
    match disk.get? loc with
    | some (.file bytes) => (bytes, some loc)
    | _ => (f.before, none)
  | none => (f.before, none)

/-- The bytes with a text written at a place in them. A gap is filled with zeros. -/
def overwritten (bytes : ByteArray) (offset : Nat) (text : ByteArray) : ByteArray :=
  if offset == bytes.size then bytes ++ text
  else if bytes.size < offset then
    bytes ++ ⟨Array.replicate (offset - bytes.size) 0⟩ ++ text
  else bytes.extract 0 offset ++ text ++ bytes.extract (offset + text.size) bytes.size

/-- The disk and the opening after a text was written. -/
def write (disk : FileSystem) (now : Int) (f : OpenFile) (text : Octets) : FileSystem × OpenFile :=
  let (bytes, loc) := f.held disk
  let place := if f.appends then bytes.size else f.offset
  let bytes := overwritten bytes place text.toContent
  let f := { f with offset := place + text.length }
  match loc with
  | some loc => (disk.write loc (.file bytes) now, f)
  | none => (disk, { f with before := bytes })

end OpenFile

namespace Stream

/-- What is still to be read from a stream, and whether more follows without an end. None when it
cannot be read. -/
def contents (disk : FileSystem) : Stream → Except SystemError (Octets × Bool)
  | own _ | kept _ => .error (.code 9)
  | directory => .error .isDirectory
  | nowhere => .ok ([], false)
  | full => .ok (List.replicate (2 ^ 16) '\x00', true)
  | incoming text endless => .ok (text, endless)
  | .file f =>
    if f.reads then
      let bytes := (f.held disk).1
      .ok (Octets.ofBytes (bytes.extract f.offset bytes.size), false)
    else .error (.code 9)

/-- Why it cannot be read, if so. -/
def unreadable? (disk : FileSystem) : Stream → Option SystemError
  | .file f => if f.reads then none else some (.code 9)
  | stream =>
    match contents disk stream with
    | .ok _ => none
    | .error cause => some cause

/-- The stream when only a rest of what was to be read is left. -/
def left (disk : FileSystem) (rest : Octets) : Stream → Stream
  | incoming _ endless => incoming rest endless
  | .file f => .file { f with offset := (f.held disk).1.size - rest.length }
  | stream => stream

/-- A reader may go back in it. -/
def isSeekable : Stream → Bool
  | .file _ => true
  | _ => false

end Stream

end Codemod.Shell
