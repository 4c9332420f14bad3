import Codemod.Environment
import Codemod.Shell.Command
import Codemod.Shell.Stream

/-!
# The state of a shell

A shell has variables, streams and a clock of its own. The clock stands still except while something
sleeps. What is printed is kept with the time, so that what runs in the background is put in its
place.

- `Machine` — the state of a shell, with what only the rich language knows in `Rich`
- `Stop` — why a script does not go on
- `Act` — a step of a script
-/

namespace Codemod.Shell

/-- A job in the background. -/
structure Job where
  /-- When it ends. -/
  ends : Nat
  status : Nat
  /-- The signal that ended it. -/
  signal : Option Nat := none

/-- A call of a function. -/
structure Frame where
  function : Octets
  /-- Where it was called. -/
  line : Nat
  file : Octets

/-- What is known of a variable. -/
structure Slot where
  value : Option Octets := none
  row : Option Row := none
  /-- What is special about it, by letters. -/
  marks : List Char := []
  /-- The variable that it stands for. -/
  refersTo : Option Octets := none

/-- What only a shell of the rich language keeps. -/
structure Rich where
  /-- The shell's scripts are in the rich language. -/
  isOn : Bool := false
  /-- The variables that are lists. -/
  rows : List (Octets × Row) := []
  /-- What is done to values when they are assigned: variables with letters. -/
  marks : List (Octets × Char) := []
  /-- Variables that stand for others. -/
  references : List (Octets × Octets) := []
  /-- The statuses of the last pipeline. -/
  statuses : List Nat := [0]
  /-- The options that are on, by their names. -/
  options : List String := []
  /-- A pipeline fails when one of its commands does. -/
  pipeFails : Bool := false
  /-- The functions around the current command, the innermost one first. -/
  frames : List Frame := []
  /-- The script was given as an argument. -/
  inline : Bool := false
  /-- The file that the current command stands in, when it is not the script itself. -/
  file : Option Octets := none
  /-- The command of the shell whose argument the current script is. -/
  nested : Option String := none
  /-- The last word of the last command. -/
  lastWord : Octets := []
  /-- The directories to which the shell may go back. -/
  stack : List Octets := []
  /-- How many numbers were drawn. -/
  drawn : Nat := 0
  /-- The files of processes that run beside the current command, with the scripts that read
  them. -/
  planted : List (Location × Option Octets) := []

/-- The state of a shell. -/
structure Machine where
  disk : FileSystem
  rich : Rich := {}
  bindings : List (Octets × Octets) := []
  exported : List Octets := []
  readOnly : List Octets := []
  /-- Inside a function, what its own variables were outside, latest first. -/
  locals : Option (List (Octets × Slot)) := none
  functions : List (Octets × Command) := []
  /-- The name of the script. -/
  name : Octets := ['s', 'h']
  /-- What stands between the line and the text of a complaint. -/
  speaker : Octets := []
  parameters : List Octets := []
  status : Nat := 0
  line : Nat := 1
  /-- The streams by their numbers: which opening each one is. -/
  streams : List (Nat × Nat) := [(0, 0), (1, 1), (2, 2)]
  openings : Array Stream := #[.nowhere, .own .output, .own .complaint]
  /-- The texts that are kept, each as pieces with their times, latest first. -/
  kept : List (List (Nat × Octets)) := []
  /-- What was printed to the streams that the shell was given, latest first, with its time. -/
  printed : List (Nat × Channel × Octets) := []
  /-- Nanoseconds since the shell was started. -/
  clock : Nat := 0
  /-- When the shell is ended from outside. -/
  deadline : Option Nat := none
  /-- Until when background jobs hold each of the two streams. -/
  outputHeld : Nat := 0
  complaintHeld : Nat := 0
  /-- The jobs in the background, first one first. -/
  jobs : List Job := []
  /-- A command that fails ends the script. -/
  strict : Bool := false
  /-- The current command may fail without ending a strict script. -/
  guarded : Bool := false
  /-- A variable that is not set is an error. -/
  noUnset : Bool := false
  /-- Paths are not looked up for wildcards. -/
  literalPaths : Bool := false
  /-- Files that exist are not written over. -/
  keepsFiles : Bool := false
  /-- Every variable that is assigned is handed on to commands. -/
  exportsAll : Bool := false
  /-- Commands are printed before they are run. -/
  traced : Bool := false
  /-- Commands are read and not run. -/
  unrun : Bool := false
  /-- Other options that are on, by their letters. -/
  idle : Octets := []
  aliases : List (Octets × Octets) := []
  /-- The programs that were found before, by their names. -/
  remembered : List Octets := []
  /-- The path by which the working directory was entered. -/
  entered : Octets := ['/']
  /-- The permission bits that new files do not get. -/
  mask : Nat := 0o022
  /-- How many loops are around the current command. -/
  loops : Nat := 0
  /-- How many functions are around the current command. -/
  calls : Nat := 0
  /-- Where in an argument the reading of options stands. -/
  optionPlace : Nat := 0
  /-- The scripts for signals; the one for zero runs at the end. -/
  traps : List (Nat × Octets) := []
  /-- Signals that came and whose scripts have not been run, first one first. -/
  raised : List Nat := []
  /-- The shell is a part of another one, with a copy of its state. -/
  inner : Bool := false
  /-- The status of the script whose output was put into the current command last. -/
  substituted : Option Nat := none

/-- Why a script does not go on. -/
inductive Stop where
  | exit (status : Nat)
  | signal (number : Nat)
  | leaveLoop (levels : Nat)
  | nextTurn (levels : Nat)
  | leaveFunction (status : Nat)
  /-- The current complete command is not carried out further. -/
  | abandoned
  /-- A command of the shell has failed. -/
  | refused (status : Nat)
  /-- The deadline came, or the script made too many steps. -/
  | expired
deriving DecidableEq

/-- A step of a script. -/
abbrev Act := EStateM Stop Machine

namespace Machine

/-- The number of the shell's own process. -/
def pid : Nat := 4242

/-- The variable that a name stands for. -/
def referent (m : Machine) (name : Octets) : Octets := (m.rich.references.lookup name).getD name

/-- The list that a variable holds. -/
def row? (m : Machine) (name : Octets) : Option Row := m.rich.rows.lookup (m.referent name)

/-- The value of a variable. -/
def get? (m : Machine) (name : Octets) : Option Octets :=
  match m.row? name with
  | some row => row.main?
  | none => m.bindings.lookup (m.referent name)

/-- The machine with a list for a variable, which holds no single value any longer. -/
def setRow (m : Machine) (name : Octets) (row : Row) : Machine :=
  let name := m.referent name
  { m with
    bindings := m.bindings.filter (·.1 != name)
    rich := { m.rich with rows := (name, row) :: m.rich.rows.filter (·.1 != name) } }

/-- The machine after an assignment. -/
def set (m : Machine) (name value : Octets) : Machine :=
  let name := m.referent name
  match m.rich.rows.lookup name with
  | some row => m.setRow name (row.set ['0'] value)
  | none => { m with bindings := (name, value) :: m.bindings.filter (·.1 != name) }

/-- The machine without a variable. -/
def unset (m : Machine) (name : Octets) : Machine :=
  let name := m.referent name
  { m with
    bindings := m.bindings.filter (·.1 != name)
    exported := m.exported.filter (· != name)
    rich := { m.rich with
      rows := m.rich.rows.filter (·.1 != name)
      marks := m.rich.marks.filter (·.1 != name) } }

/-- What is known of a variable. -/
def slot (m : Machine) (name : Octets) : Slot :=
  { value := m.bindings.lookup name
    row := m.rich.rows.lookup name
    marks := (m.rich.marks.filter (·.1 == name)).map Prod.snd
      ++ (if m.exported.contains name then ['x'] else [])
      ++ (if m.readOnly.contains name then ['r'] else [])
    refersTo := m.rich.references.lookup name }

/-- The machine without all that is known of a variable. -/
def forget (m : Machine) (name : Octets) : Machine :=
  { m with
    bindings := m.bindings.filter (·.1 != name)
    exported := m.exported.filter (· != name)
    readOnly := m.readOnly.filter (· != name)
    rich := { m.rich with
      rows := m.rich.rows.filter (·.1 != name)
      marks := m.rich.marks.filter (·.1 != name)
      references := m.rich.references.filter (·.1 != name) } }

/-- The machine with what was known of a variable. -/
def reinstate (m : Machine) (name : Octets) (s : Slot) : Machine :=
  let m := m.forget name
  { m with
    bindings := (s.value.toList.map fun v => (name, v)) ++ m.bindings
    exported := (if s.marks.contains 'x' then [name] else []) ++ m.exported
    readOnly := (if s.marks.contains 'r' then [name] else []) ++ m.readOnly
    rich := { m.rich with
      rows := (s.row.toList.map fun r => (name, r)) ++ m.rich.rows
      marks := ((s.marks.filter fun c => c != 'x' && c != 'r').map fun c => (name, c))
        ++ m.rich.marks
      references := (s.refersTo.toList.map fun r => (name, r)) ++ m.rich.references } }

/-- The variables that commands see. -/
def environment (m : Machine) : List (Octets × Octets) :=
  m.bindings.filter fun (name, _) => m.exported.contains name

/-- When the last job in the background ends. -/
def jobsEnd (m : Machine) : Nat := m.jobs.foldl (fun time job => max time job.ends) m.clock

/-- The path of the working directory without links in it. -/
def directory (m : Machine) : Octets :=
  Octets.ofString ("/" ++ Location.text m.disk.workingDirectory)

/-- What a complaint begins with: the script and the line. -/
def place (m : Machine) : String :=
  if m.rich.isOn then s!"{(m.rich.file.getD m.name).toText}: line {m.line}"
  else s!"{m.name.toText}: {m.line}"

/-- The time, in nanoseconds since 1970. -/
def now (m : Machine) : Int := FileSystem.beginning + 10 ^ 7 + m.clock

/-- The machine in a directory that was entered by a path. -/
def enterBy (m : Machine) (path : Octets) (loc : Location) : Machine :=
  { m with disk := m.disk.enter loc, entered := path }

/-- A shell in a directory with an environment. -/
def start (disk : FileSystem) (env : Environment) : Machine :=
  let bindings :=
    env.bindings.map fun (name, value) => (Octets.ofString name, Octets.ofString value)
  let given : Octets := (bindings.lookup "PWD".toList).getD []
  let isHere := given.head? == some '/'
    && (disk.find given.toText).toOption.any fun (loc, _) => loc == disk.workingDirectory
  { disk := disk
    bindings := bindings
    exported := bindings.map Prod.fst
    entered := if isHere then given
      else Octets.ofString ("/" ++ Location.text disk.workingDirectory) }

/-! ### Streams -/

/-- The stream of a number. -/
def stream? (m : Machine) (n : Nat) : Option Stream :=
  (m.streams.lookup n).bind fun opening => m.openings[opening]?

/-- The machine with a number that stands for an opening, or for none. -/
def bound (m : Machine) (n : Nat) (opening : Option Nat) : Machine :=
  { m with streams := (opening.toList.map fun o => (n, o)) ++ m.streams.filter (·.1 != n) }

/-- The machine with a new stream of a number. -/
def attach (m : Machine) (n : Nat) (stream : Stream) : Machine :=
  ({ m with openings := m.openings.push stream } : Machine).bound n (some m.openings.size)

/-- The machine after a text was written to a stream. -/
def write (m : Machine) (n : Nat) (text : Octets) : Machine :=
  if text.isEmpty then m
  else
    match m.streams.lookup n with
    | none => m
    | some opening =>
      match m.openings[opening]? with
      | some (.own channel) => { m with printed := (m.clock, channel, text) :: m.printed }
      | some (.kept place) => { m with kept := m.kept.modify place ((m.clock, text) :: ·) }
      | some (.file f) =>
        if f.writes then
          let (disk, f) := f.write m.disk m.now text
          { m with disk, openings := m.openings.set! opening (.file f) }
        else m
      | _ => m

/-- Why nothing can be written to a stream, if so. -/
def unwritable? (m : Machine) (n : Nat) : Option SystemError :=
  match m.stream? n with
  | none | some (.incoming _ _) => some (.code 9)
  | some .full => some (.code 28)
  | some (.file f) => if f.writes then none else some (.code 9)
  | _ => none

/-- What is still to be read from a stream, and whether more follows without an end. -/
def contents (m : Machine) (n : Nat) : Except SystemError (Octets × Bool) :=
  match m.stream? n with
  | some stream => stream.contents m.disk
  | none => .error (.code 9)

/-- The machine when only a rest of what was to be read from a stream is left. -/
def left (m : Machine) (n : Nat) (rest : Octets) : Machine :=
  match m.streams.lookup n with
  | none => m
  | some opening => { m with openings := m.openings.modify opening (Stream.left m.disk rest) }

/-- The machine when a part of its script that ran as a process of its own has ended. -/
def resumed (before after : Machine) : Machine :=
  { before with
    disk := after.disk.enter before.disk.workingDirectory
    openings := after.openings
    kept := after.kept
    printed := after.printed
    clock := after.clock
    outputHeld := after.outputHeld
    complaintHeld := after.complaintHeld
    raised := after.raised
    rich := { before.rich with drawn := after.rich.drawn } }

/-- The machine without the openings that were made since another one, when no stream is one of
them. -/
def cleared (before m : Machine) : Machine :=
  if m.streams.all fun (_, opening) => opening < before.openings.size then
    { m with openings := m.openings.extract 0 before.openings.size }
  else m

/-- What was printed to one of the streams, in the order of time. -/
def printedTo (m : Machine) (channel : Channel) : Octets :=
  let mine := m.printed.reverse.filter fun (_, c, _) => c == channel
  (mine.mergeSort fun (a, _) (b, _) => a ≤ b).flatMap fun (_, _, text) => text

end Machine

namespace Act

/-- Writes to the output. -/
def say (text : Octets) : Act Unit := modify fun m => m.write 1 text

/-- Writes a line to the stream for complaints. -/
def grumble (text : String) : Act Unit :=
  modify fun m => m.write 2 (Octets.ofString (text ++ "\n"))

/-- Writes a line about a failure in the shell's name. -/
def complain (text : String) : Act Unit := do
  let m ← get
  grumble s!"{m.place}: {m.speaker.toText}{text}"

/-- Ends a script because of an error. -/
def fail {α : Type} (text : String) : Act α := do
  complain text
  let rich := (← get).rich
  throw (.exit (if !rich.isOn then 2 else if rich.inline then 127 else 1))

/-- Ends the current complete command because of an error, in the plain language the script. -/
def abandon {α : Type} (text : String) : Act α := do
  complain text
  throw (if (← get).rich.isOn then .abandoned else .exit 2)

/-- Writes a line about a failure in the name of a command of the shell. -/
def protest (command text : String) : Act Unit := do
  let m ← get
  grumble s!"{m.place}: {command}: {text}"

/-- Ends a command of the shell because of an error. -/
def protested (command text : String) ( status : Nat := 2) : Act Nat := do
  protest command text
  return status

/-- Ends a script because of an error of a command of the shell, in the rich language only the
command. -/
def failAs {α : Type} (command text : String) : Act α := do
  protest command text
  throw (if (← get).rich.isOn then .refused 1 else .exit 2)

/-- Fails because a variable is read only, perhaps in the name of a command. -/
def failReadOnly {α : Type} (command : Option String) (name : Octets) : Act α := do
  let isRich := (← get).rich.isOn
  let text := name.toText ++ (if isRich then ": readonly variable" else ": is read only")
  match command with
  | some command => failAs command text
  | none => if isRich then abandon text else fail text

/-- Sets a variable; one that is read only makes the script fail, perhaps in the name of a
command. -/
def assign (command : Option String) (name value : Octets) : Act Unit := do
  let m ← get
  if m.readOnly.contains (m.referent name) then failReadOnly command name
  let m := if name == "OPTIND".toList then { m with optionPlace := 0 } else m
  let m := if m.exportsAll then { m with exported := name :: m.exported.filter (· != name) } else m
  set (m.set name value)

/-- Lets time pass. -/
def sleep (duration : Nat) : Act Unit := do
  let m ← get
  match m.deadline with
  | some deadline =>
    if deadline ≤ m.clock + duration then
      set { m with clock := deadline }
      throw .expired
    else set { m with clock := m.clock + duration }
  | none => set { m with clock := m.clock + duration }

/-- Runs a tool on the shell's streams and files; the shell may have it as a command of its
`own`. -/
def useTool (name : String) (tool : Tool Nat) ( own : Bool := false) : Act Nat := do
  let m ← get
  let stream := m.stream? 0
  let bench : Bench :=
    { disk := m.disk
      tool := name
      source := Thunk.mk fun _ => (((m.contents 0).toOption).map Prod.fst).getD []
      deaf := match stream with
        | none => some (.code 9)
        | some stream => stream.unreadable? m.disk
      endless := match stream with
        | some (.incoming _ endless) => endless
        | some .full => true
        | _ => false
      inputSize := match stream with
        | some (.file f) => some (f.held m.disk).1.size
        | _ => none
      inputFile := match stream with
        | some (.file f) => (f.held m.disk).2
        | _ => none
      growing := match m.stream? 1 with
        | some (.file f) =>
          if f.appends && (f.held m.disk).1.size != 0 then (f.held m.disk).2 else none
        | _ => none
      outputFile := match m.stream? 1 with
        | some (.file f) => (f.held m.disk).2
        | _ => none
      environment := m.environment
      caller := Octets.ofString m.place
      now := m.now
      mask := m.mask
      place := m.entered }
  let (status, bench) := tool.run bench
  let m := { m with disk := bench.disk }
  let m := match bench.rest with
    | none => m
    | some rest =>
      if bench.exact || stream.any Stream.isSeekable then m.left 0 rest else m.left 0 []
  let lost := bench.written.any (fun (channel, text) => channel == .output && !text.isEmpty)
  let m := bench.written.reverse.foldl
    (fun m (channel, text) => m.write (if channel == .output then 1 else 2) text) m
  set m
  if bench.stuck then
    match m.deadline with
    | some deadline => set { m with clock := max m.clock deadline }
    | none => pure ()
    throw .expired
  match if lost then m.unwritable? 1 else none with
  | none => return status
  | some cause =>
    if own then
      protest name
        (if m.rich.isOn then s!"write error: {Tool.reason cause}" else s!"{name}: I/O error")
      return 1
    modify fun m =>
      m.write 2 (Octets.ofString s!"{name}: write error: {Tool.reason cause}\n")
    let failure := if ["ls", "sort", "grep", "diff", "cmp"].contains name then 2 else 1
    return if status == 0 then failure else status

/-- Runs a part of a script as a process of its own: what it does to variables, streams and the
working directory ends with it. The value is its status. A signal to the shell ends the shell. -/
def apart (body : Act Unit) : Act Nat := do
  let before ← get
  let status ←
    try
      modify fun m => { m with inner := true, traps := m.traps.filter (·.1 != 0) }
      body
      pure (← get).status
    catch
      | .exit status | .leaveFunction status => pure status
      | .leaveLoop _ | .nextTurn _ => pure 0
      | .abandoned => pure 1
      | .refused status => pure status
      | stop => throw stop
  modify fun m => { before.resumed m with status }
  return status

/-- Runs a part of a script as a process that is ended after so many nanoseconds. The value is its
status, or 124 when it was ended. -/
def limited (duration : Nat) (body : Act Unit) : Act Nat := do
  let before ← get
  let limit := before.clock + duration
  if before.deadline.any (· ≤ limit) then apart body
  else
    try
      apart do
        modify fun m => { m with deadline := some limit }
        body
    catch
      | .expired => do
        modify fun m => { before.resumed m with status := 124, clock := max limit m.clock }
        return 124
      | stop => throw stop

/-- Runs a part of a script and gives what it writes to its output, in pieces with their times, its
status, and whether it would go on without an end. That is an error unless `mayBeEndless`. -/
def gathered (mayBeEndless : Bool) (body : Act Unit) : Act (List (Nat × Octets) × Nat × Bool) := do
  let m ← get
  let place := m.kept.length
  let (status, endless) ←
    try
      let status ← apart do
        modify fun m => { m with kept := m.kept ++ [[]] }.attach 1 (.kept place)
        body
      pure (status, false)
    catch
      | .expired =>
        if mayBeEndless then
          modify m.resumed
          pure (0, true)
        else throw .expired
      | stop => throw stop
  let after ← get
  let pieces := ((after.kept[place]?).getD []).reverse
  set (m.cleared { after with kept := after.kept.take place })
  return (pieces, status, endless)

/-- Runs a part of a script and gives what it writes to its output. NULs are dropped. -/
def captured (body : Act Unit) : Act Octets := do
  let before := (← get).status
  let (pieces, status, _) ← gathered false body
  modify fun m => { m with status := before, substituted := some status }
  return (pieces.flatMap Prod.snd).filter (· != '\x00')

/-- Makes a file for a process under a path of its own, which is the value; if there is a `sink`,
that script gets what is written to the file. -/
def plant (text : Octets) (sink : Option Octets) : Act Octets := do
  let m ← get
  let number := toString (63 - m.rich.planted.length)
  let loc : Location := ["dev", "fd", number]
  let disk := if (m.disk.get? ["dev"]).isSome then m.disk else m.disk.set ["dev"] .directory
  let disk := if (disk.get? ["dev", "fd"]).isSome then disk else disk.set ["dev", "fd"] .directory
  let disk := disk.write loc (.file text.toContent) m.now
  set { m with disk, rich := { m.rich with planted := (loc, sink) :: m.rich.planted } }
  return ("/dev/fd/" ++ number).toList

end Act

end Codemod.Shell
