import Codemod.Shell.Calendar
import Codemod.Shell.Tool.Format
import Codemod.Shell.Tool.Removal
import Codemod.Shell.Wildcard

/-!
# What entries are and how much room they take

- `EntryFormat.shown` — what is known about an entry, in a format
- `Tool.status` — what is known about entries
- `Tool.usage` — how much room entries take, each directory with what is in it
-/

namespace Codemod.Shell

namespace EntryFormat

/-- How many bytes are read and written at a time. -/
def blockBytes : Nat := 4096

/-- The number of the device that files are on. -/
def device : Nat := 65024

/-- The bits that tell the kind of an entry. -/
def kindBits (e : Entry) : Nat :=
  match e.node with
  | .file _ => 0o100000
  | .directory => 0o040000
  | .link _ => 0o120000

/-- A name between quotes, with where it leads. -/
def nameAndTarget (quote : Octets → Octets) (e : Entry) : Octets :=
  match e.node with
  | .link target => quote e.name ++ " -> ".toList ++ quote (Octets.ofString target)
  | _ => quote e.name

/-- A time in seconds with as many places as are asked for. -/
def seconds (c : Conversion) (time : Int) : Octets :=
  let whole := Octets.ofInt (time.fdiv (10 ^ 9))
  match c.precision, c.places? with
  | some _, some n =>
    let places := if n == 0 then 9 else n
    let digits := Octets.padLeft 9 (Octets.ofNat (time.fmod (10 ^ 9)).toNat) '0'
    c.padded (whole ++ '.' :: (digits ++ List.replicate (places - 9) '0').take places)
  | _, _ => c.padded whole

/-- What a letter of a format shows. -/
def field (disk : FileSystem) (e : Entry) (c : Conversion) : Octets :=
  let text (s : Octets) : Octets := c.text s
  let word (s : String) : Octets := c.text (Octets.ofString s)
  let number (n : Nat) : Octets := { c with letter := 'u' }.integer n
  let time := disk.modified e.loc
  match c.letter with
  | 'a' => { c with letter := 'o' }.integer (e.mode disk : Nat)
  | 'A' => text (e.row disk)
  | 'b' => number e.blocks
  | 'B' => number 512
  | 'd' => number device
  | 'D' => { c with letter := 'x' }.integer device
  | 'f' => { c with letter := 'x' }.integer (kindBits e + e.mode disk : Nat)
  | 'F' => word (Tool.kindName e.node)
  | 'g' | 'u' | 't' | 'T' | 'r' | 'R' => number 0
  | 'G' | 'U' => word "root"
  | 'h' => number (e.links disk)
  | 'i' => number (e.number disk)
  | 'm' => word "/"
  | 'n' => text e.name
  | 'N' => text (nameAndTarget Quote.always e)
  | 'o' => number blockBytes
  | 's' => number e.size
  | 'w' | 'x' | 'y' | 'z' =>
    text ((Moment.ofNanoseconds time).shown "%Y-%m-%d %H:%M:%S.%N %z")
  | 'W' | 'X' | 'Y' | 'Z' => seconds c time
  | _ => ['?']

/-- What is known about an entry in a format; `escapes` have a meaning, perhaps. -/
def shown (disk : FileSystem) (e : Entry) (escapes : Bool) (fuel : Nat) (format : Octets) :
    Octets :=
  match fuel, format with
  | 0, _ | _, [] => []
  | _, ['%'] => ['%']
  | fuel + 1, '%' :: '%' :: rest => '%' :: shown disk e escapes fuel rest
  | fuel + 1, '%' :: rest =>
    match Format.conversion? [] rest with
    | some (c, rest) => field disk e c ++ shown disk e escapes fuel rest
    | none => []
  | fuel + 1, cs =>
    let (text, rest) := cs.span (· != '%')
    (if escapes then Escape.replaced { rich := true, quotes := true } text else text)
      ++ shown disk e escapes fuel rest

/-- All that is usually shown of an entry. -/
def usual (disk : FileSystem) (e : Entry) : Octets :=
  let format := "  Size: %-10s\tBlocks: %-10b IO Block: %-6o %F\n"
    ++ "Device: 254,0\tInode: %-10i  Links: %h\n"
    ++ "Access: (%04a/%10.10A)  Uid: (%5u/%8U)   Gid: (%5g/%8G)\n"
    ++ "Access: %x\nModify: %y\nChange: %z\n Birth: %w\n"
  "  File: ".toList ++ nameAndTarget Quote.ifNeeded e ++ '\n'
    :: shown disk e false (format.length + 1) format.toList

/-- All that is known of an entry in one line. -/
def terse : Octets := "%n %s %b %f %u %g %D %i %h %t %T %X %Y %Z %W %o".toList

end EntryFormat

namespace Tool

/-- Tells what is known about entries. -/
def status : List Octets → Tool Nat :=
  withOptions "L,dereference f,file-system c,format: printf: t,terse cached:" 1 fun o => do
  if o.operands.isEmpty then return ← missingOperand 1
  let disk := (← get).disk
  let mut status := 0
  for name in o.operands do
    match Entry.at? disk (o.has "L") name with
    | .error cause =>
      let what := if o.has "f" then "read file system information for" else "statx"
      blame s!"cannot {what} {quoted name}: {reason cause}"
      status := 1
    | .ok e =>
      let inFormat (escapes : Bool) (format : Octets) : Octets :=
        EntryFormat.shown disk e escapes (format.length + 1) format
      match o.last? ["c", "printf"] with
      | some "c" => say (inFormat false ((o.value? "c").getD []) ++ ['\n'])
      | some _ => say (inFormat true ((o.value? "printf").getD []))
      | none =>
        if o.has "t" then say (inFormat false EntryFormat.terse ++ ['\n'])
        else say (EntryFormat.usual disk e)
  return status

/-! ### Room -/

/-- How room is counted. -/
structure Counting where
  /-- Sizes count, not the blocks that are taken. -/
  apparent : Bool
  /-- Entries are counted. -/
  entries : Bool
  /-- Directories do not count what is in the directories in them. -/
  separate : Bool
  /-- Names of one file count each. -/
  allNames : Bool
  /-- Patterns of names that do not count. -/
  excluded : List (Octets → Bool)

/-- What one entry counts alone. -/
def Counting.own (c : Counting) (e : Entry) : Nat :=
  if c.entries then 1
  else if c.apparent then (if e.node == .directory then 0 else e.size)
  else e.blocks * 512

/-- What is counted of an entry: a line for it and for each entry in it, those in it first, with its
depth. The second value is what counts for the directory around it. -/
def Counting.lines (c : Counting) (disk : FileSystem) (fuel depth : Nat) (e : Entry)
    (seen : List Location) : List (Nat × Bool × Nat × Octets) × Nat × List Location :=
  match fuel with
  | 0 => ([], 0, seen)
  | fuel + 1 =>
    let twins := disk.twins e.loc
    let isDirectory := e.node == .directory
    if seen.contains e.loc || (!c.allNames && twins.any seen.contains)
        || c.excluded.any fun p => p (lastPart e.name []) || p e.name then ([], 0, seen)
    else
      let seen := if isDirectory || !twins.isEmpty then e.loc :: seen else seen
      let own := c.own e
      if !isDirectory then ([(depth, false, own, e.name)], own, seen)
      else
        let slash : Octets := if e.name.getLast? == some '/' then [] else ['/']
        let (inner, total, inFiles, seen) := (disk.children e.loc).foldl
          (fun (acc : List (List (Nat × Bool × Nat × Octets)) × Nat × Nat × List Location) (name,
            node) =>
            let (lines, total, inFiles, seen) := acc
            let child : Entry := ⟨e.name ++ slash ++ Octets.ofString name, e.loc ++ [name], node⟩
            let (more, n, seen) := c.lines disk fuel (depth + 1) child seen
            (more :: lines, total + n, if node == .directory then inFiles else inFiles + n, seen))
          ([], own, own, seen)
      let shown := if c.separate then inFiles else total
      (inner.reverse.flatten ++ [(depth, true, shown, e.name)], total, seen)

/-- Tells how much room entries take. -/
def usage : List Octets → Tool Nat :=
  withOptions ("0,null a,all apparent-size B,block-size: b,bytes c,total D,dereference-args d,max-depth: "
    ++ "h,human-readable H inodes k L,dereference l,count-links m P,no-dereference S,separate-dirs si "
    ++ "s,summarize t,threshold: X,exclude-from: exclude: x,one-file-system time:: files0-from:") 1 fun o => do
  let b ← get
  let depth ← match o.value? "d" with
    | none => pure none
    | some text =>
      match natural? text with
      | some n => pure (some n)
      | none => return ← refuse 1 s!"invalid maximum depth {quoted text}"
  if o.has "s" && o.has "a" then
    return ← refuse 1 "cannot both summarize and show all entries"
  if o.has "s" && depth.any (· != 0) then
    let n := depth.getD 0
    return ← refuse 1 s!"warning: summarizing conflicts with --max-depth={n}"
  if o.has "s" && depth == some 0 then
    blame "warning: summarizing is the same as using --max-depth=0"
  let measure := match o.last? ["h", "si", "k", "m", "b", "B"] with
    | some "h" => Measure.scaled 1024
    | some "si" => .scaled 1000
    | some "m" => .units (1024 * 1024) ""
    | some "b" => .units 1 ""
    | some "B" => ((o.value? "B").bind Measure.read?).getD (.units 1024 "")
    | _ => .units 1024 ""
  let pattern (text : Octets) : Octets → Bool := fun name =>
    Wildcard.accepts (Wildcard.ofMarked (text.map fun c => (c, true))) name
  let c : Counting :=
    { apparent := o.has "apparent-size" || o.has "b"
      entries := o.has "inodes"
      separate := o.has "S"
      allNames := o.has "l"
      excluded := (o.values "exclude").map pattern }
  let most := if o.has "s" then some 0 else depth
  let isLarge (n : Nat) : Bool :=
    match o.value? "t" with
    | some ('-' :: text) => (Size.read? text).all (n ≤ ·)
    | some text => (Size.read? text).all (· ≤ n)
    | none => true
  let shown (n : Nat) : String := if c.entries then toString n else measure.shown n
  let ending := if o.has "0" then '\x00' else '\n'
  let line (n : Nat) (name : Octets) : Tool Unit :=
    say (Octets.ofString (shown n) ++ '\t' :: name ++ [ending])
  let mut status := 0
  let mut seen : List Location := []
  let mut total := 0
  for name in (if o.operands.isEmpty then [['.']] else o.operands) do
    match Entry.at? b.disk (o.has "L" || o.has "D" || o.has "H") name with
    | .error cause =>
      blame s!"cannot access {quoted name}: {reason cause}"
      status := 1
    | .ok e =>
      let (lines, n, now) := c.lines b.disk (b.disk.entries.length + 2) 0 e seen
      seen := now
      total := total + n
      for (depth, isDirectory, n, name) in lines do
        if (isDirectory || o.has "a" || depth == 0) && most.all (depth ≤ ·) && isLarge n then
          line n name
  if o.has "c" then line total "total".toList
  return status

end Tool

end Codemod.Shell
