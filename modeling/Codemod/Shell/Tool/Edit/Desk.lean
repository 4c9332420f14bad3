import Codemod.FileSystem.Basic
import Codemod.Shell.Tool.Edit.Reading

/-!
# Editing line after line

- `Edit.Desk` — where lines are edited
- `Edit.perform` — one command
- `Edit.work` — a script on all lines
-/

namespace Codemod.Shell.Edit

/-- A line, and whether its end is there. -/
structure Line where
  text : Octets := []
  complete : Bool := true

/-- What was written somewhere. -/
structure Sink where
  /-- The pieces, latest first. -/
  pieces : List Octets := []
  /-- The end of the last line is missing, and is added before anything else is written. -/
  lacking : Bool := false

/-- All that was written. -/
def Sink.text (s : Sink) : Octets := s.pieces.reverse.flatten

/-- A file to be edited: its name, and its lines, or why they are not there. -/
structure Source where
  name : Octets
  lines : Except SystemError (List Line)
  /-- More follows without an end. -/
  endless : Bool := false

/-- How far a range of lines is. -/
inductive RangeState where
  | before
  /-- Inside; perhaps up to a line that is known. -/
  | inside (stop : Option Nat)
  | past
deriving DecidableEq

/-- What is written after the current line. -/
inductive Appendix where
  | text (text : Octets)
  | file (path : Octets)

/-- How the editing is done. -/
structure Settings where
  /-- The name in which failures are reported. -/
  tool : String := "sed"
  quiet : Bool := false
  /-- Files are edited one by one. -/
  separate : Bool := false
  /-- A line is not printed when there is no other one to be joined to it. -/
  strict : Bool := false
  /-- Files are written over. -/
  inPlace : Bool := false
  ending : Char := '\n'
  width : Nat := 70
  /-- The input, for commands that read it. -/
  input : Octets := []

/-- Where lines are edited. -/
structure Desk where
  settings : Settings
  disk : FileSystem
  /-- The files that were not begun. -/
  sources : List Source
  /-- The current file: its name, and the lines that are left. -/
  name : Octets := ['-']
  left : List Line := []
  endless : Bool := false
  /-- A file is being edited. -/
  isOpen : Bool := false
  number : Nat := 0
  line : Line := {}
  kept : Line := {}
  replaced : Bool := false
  appendices : List Appendix := []
  ranges : Array RangeState
  /-- The expression that was used last. -/
  expression : Option Regex := none
  /-- What was written, latest first. -/
  written : List (Channel × Octets) := []
  /-- The end of the last line that was printed is missing, and of the last one that a command wrote
  to the output. -/
  outputLacks : Bool := false
  asideLacks : Bool := false
  /-- What the current file becomes. -/
  copy : Sink := {}
  files : List (Octets × Sink) := []
  /-- The files from which single lines are read, with what is left of them. -/
  readers : List (Octets × List Line) := []
  /-- The files that were edited in place, latest first. -/
  edited : List (Octets × Octets) := []
  status : Nat := 0
  /-- It waits for the end of something that has none. -/
  stuck : Bool := false

/-- An activity at a desk. -/
abbrev Editing := StateM Desk

/-- The lines of a text. -/
def linesOf (ending : Char) (text : Octets) : List Line :=
  (Octets.records ending text).map fun r =>
    if r.getLast? == some ending then ⟨r.dropLast, true⟩ else ⟨r, false⟩

/-! ### Writing -/

/-- The sink with one more text, which may lack the end of its line. -/
def Sink.put (ending : Char) (text : Octets) (lacking : Bool) (s : Sink) : Sink :=
  let gap := if s.lacking then [[ending]] else []
  { pieces := text :: (gap ++ s.pieces), lacking }

/-- Writes a text, which may lack the end of its line. -/
def put (target : Option Target) (text : Octets) (lacking : Bool) : Editing Unit :=
  modify fun d =>
    let ending := d.settings.ending
    let gap (lacks : Bool) : List (Channel × Octets) := if lacks then [(.output, [ending])] else []
    match target with
    | none =>
      if d.settings.inPlace then { d with copy := d.copy.put ending text lacking }
      else
        { d with
          written := (.output, text) :: (gap d.outputLacks ++ d.written), outputLacks := lacking }
    | some .output =>
      { d with written := (.output, text) :: (gap d.asideLacks ++ d.written),
               asideLacks := lacking }
    | some .complaints => { d with written := (.complaint, text) :: d.written }
    | some (.file path) =>
      let sink := ((d.files.lookup path).getD {}).put ending text lacking
      { d with files := (path, sink) :: d.files.filter (·.1 != path) }

/-- Writes a line. -/
def writeLine (target : Option Target) (line : Line) : Editing Unit := do
  let ending := (← get).settings.ending
  put target (if line.complete then line.text ++ [ending] else line.text) !line.complete

/-- Writes a text. -/
def writeText (text : Octets) : Editing Unit := put none text false

/-- Complains about something. -/
def protest (text : String) : Editing Unit :=
  modify fun d =>
    let said : Octets := Octets.ofString (d.settings.tool ++ ": " ++ text ++ "\n")
    { d with written := (.complaint, said) :: d.written }

/-- Writes what is to follow the current line. -/
def writeAppendices : Editing Unit := do
  for a in (← get).appendices do
    match a with
    | .text text => writeText text
    | .file path =>
      let d ← get
      if path == "/dev/stdin".toList then
        writeText d.settings.input
      else
        match d.disk.readBytes path.toText with
        | .ok bytes => if bytes.size != 0 then writeText (Octets.ofBytes bytes)
        | .error _ => pure ()
  modify fun d => { d with appendices := [] }

/-! ### Reading -/

/-- Puts a file away that was edited. -/
def closeFile : Editing Unit :=
  modify fun d =>
    if d.settings.inPlace && d.isOpen then
      { d with edited := (d.name, d.copy.text) :: d.edited, copy := {}, isOpen := false }
    else { d with isOpen := false }

/-- The state of a range before the first line. -/
def initialRange (c : Command) : RangeState :=
  match c.selection.first with
  | some (.number 0) => .inside none
  | _ => .before

/-- Takes the next line, of the next file if need be; tells whether there is one. An error that
nothing can follow ends with a status. -/
def nextLine (script : Script) (fuel : Nat) : Editing (Except Nat (Option Line)) :=
  match fuel with
  | 0 => return .ok none
  | fuel + 1 => do
    let d ← get
    match d.left with
    | line :: rest =>
      set { d with left := rest, number := d.number + 1 }
      return .ok (some line)
    | [] =>
      if d.endless then
        set { d with stuck := true }
        return .ok none
      closeFile
      let d ← get
      match d.sources with
      | [] => return .ok none
      | source :: rest =>
        set { d with sources := rest }
        match source.lines with
        | .ok lines =>
          modify fun d =>
            let d := { d with name := source.name, left := lines, endless := source.endless,
                              isOpen := true }
            if d.settings.separate then
              { d with number := 0, ranges := script.commands.map initialRange }
            else d
          nextLine script fuel
        | .error cause =>
          let name := source.name.toText
          if cause == .isDirectory then
            let what := if d.settings.inPlace then s!"couldn't edit {name}: not a regular file"
              else s!"read error on {name}: Is a directory"
            protest what
            return .error 4
          protest s!"can't read {name}: {Tool.reason cause}"
          modify fun d => { d with status := 2 }
          nextLine script fuel

/-- Goes on with the next line, after what belongs to the current one. -/
def advance (script : Script) : Editing (Except Nat (Option Line)) := do
  writeAppendices
  modify fun d => { d with replaced := false }
  nextLine script ((← get).sources.length + 2)

/-- The current line is the last one. -/
def isLast (d : Desk) : Bool :=
  d.left.isEmpty && !d.endless
    && (d.settings.separate || d.sources.all fun s =>
      match s.lines with
      | .ok lines => lines.isEmpty && !s.endless
      | .error _ => true)

/-! ### Selection -/

/-- The expression that is meant, which is then the last one that was used. -/
def meant (r : Option Regex) : Editing (Except Fault Regex) := do
  match r.or (← get).expression with
  | none => return .error .noExpressionBefore
  | some r =>
    modify fun d => { d with expression := some r }
    return .ok r

/-- The current line is marked. -/
def isMarked (m : Mark) : Editing (Except Fault Bool) := do
  let d ← get
  match m with
  | .number n => return .ok (d.number == n)
  | .every first step => return .ok (first ≤ d.number && (d.number - first) % step == 0)
  | .last => return .ok (isLast d)
  | .matching r =>
    match ← meant r with
    | .error fault => return .error fault
    | .ok r => return .ok (r.occursIn d.line.text)

/-- The state of a range after its last line. One that begins with a number never begins again. -/
def closed : Mark → RangeState
  | .number _ => .past
  | _ => .before

/-- The state of a range that begins on a line. -/
def opened (n : Nat) (first : Mark) : EndMark → RangeState
  | .mark (.number stop) => if stop ≤ n then closed first else .inside (some stop)
  | .after count => if count == 0 then closed first else .inside (some (n + count))
  | .multipleOf m => if m == 0 then closed first else .inside (some (n + m - n % m))
  | .mark _ => .inside none

/-- A range that has not begun begins on the current line. A number stands for all later lines too,
as the line itself may have been passed. -/
def begins (state : RangeState) (first : Mark) (last : EndMark) : Editing (Except Fault Bool) := do
  let n := (← get).number
  match first, last with
  | .number start, .mark (.number stop) =>
    return .ok (state != .past && start ≤ n && (n == start || n ≤ stop))
  | .number start, _ => return .ok (state != .past && start ≤ n)
  | first, _ => isMarked first

/-- The current line is in the range of a command at a place. -/
def isInRange (place : Nat) (first : Mark) (last : EndMark) : Editing (Except Fault Bool) := do
  let d ← get
  let become (state : RangeState) : Editing Unit :=
    modify fun d => { d with ranges := d.ranges.setIfInBounds place state }
  match d.ranges[place]?.getD .before, last with
  | .inside (some stop), last =>
    if stop ≤ d.number then become (closed first)
    match last with
    | .mark _ => return .ok (d.number ≤ stop)
    | _ => return .ok true
  | .inside none, .mark m =>
    match ← isMarked m with
    | .error fault => return .error fault
    | .ok ends =>
      if ends then become (closed first)
      return .ok true
  | .inside none, _ => return .ok true
  | state, last =>
    match ← begins state first last with
    | .error fault => return .error fault
    | .ok false => return .ok false
    | .ok true =>
      become (opened d.number first last)
      return .ok true

/-- The command at a place applies to the current line. -/
def applies (place : Nat) (s : Selection) : Editing (Except Fault Bool) := do
  match s.first, s.last with
  | none, _ => return .ok !s.negated
  | some first, none => return (← isMarked first).map (· != s.negated)
  | some first, some last => return (← isInRange place first last).map (· != s.negated)

/-! ### Commands -/

/-- What follows a command. -/
inductive Step where
  | go (place : Nat)
  /-- The line is done; it may be printed. -/
  | done (prints : Bool)
  /-- The script begins again with what is left of the line. -/
  | again
  | quit (status : Nat) (prints : Bool)
  | halt (fault : Fault)
  | fatal (status : Nat)

/-- The signs of one octet in a line that is shown. -/
def shownOctet (c : Char) : Octets :=
  match c with
  | '\\' => ['\\', '\\']
  | '\n' => ['\\', 'n']
  | '\t' => ['\\', 't']
  | '\r' => ['\\', 'r']
  | c =>
    if c == Char.ofNat 7 then ['\\', 'a']
    else if c == Char.ofNat 8 then ['\\', 'b']
    else if c == Char.ofNat 11 then ['\\', 'v']
    else if c == Char.ofNat 12 then ['\\', 'f']
    else if ' ' ≤ c && c ≤ '~' then [c]
    else
      let n := c.toNat
      ['\\', Char.ofNat (48 + n / 64), Char.ofNat (48 + n / 8 % 8), Char.ofNat (48 + n % 8)]

/-- A line with all its signs, in rows of a width; none of them is broken if the width is zero. -/
def shown (ending : Char) (width column : Nat) : Octets → Octets
  | [] => ['$', ending]
  | c :: rest =>
    let signs := shownOctet c
    if 0 < width && width - 1 < column + signs.length then
      '\\' :: '\n' :: (signs ++ shown ending width signs.length rest)
    else signs ++ shown ending width (column + signs.length) rest

/-- The line with matches replaced; the flag that tells so is set if there are any. -/
def substitute (s : Substitution) : Editing (Except Fault Unit) := do
  match ← meant s.pattern with
  | .error fault => return .error fault
  | .ok r =>
    let d ← get
    let text := d.line.text
    let groups := s.replacement.foldl (fun n p => max n (p.group.getD 0)) 0
    if r.groupCount < groups then return .error (.missingGroup groups)
    let chosen (i : Nat) : Bool := i == s.first || (s.every && s.first < i)
    let (result, count) :=
      r.replaced chosen (fun m => replacement m text .asTheyAre s.replacement) text
    if count == 0 then return .ok ()
    set { d with line := { d.line with text := result }, replaced := true }
    if s.prints then writeLine none (← get).line
    if let some target := s.target then writeLine (some target) (← get).line
    return .ok ()

/-- The place of a label; the end of the script for none. -/
def Script.place (script : Script) (label : Octets) : Nat :=
  if label.isEmpty then script.commands.size
  else (script.labels.lookup label).getD script.commands.size

/-- The next line of a file from which single lines are read. -/
def takeLine (path : Octets) : Editing (Option Line) := do
  let d ← get
  let lines :=
    match d.readers.lookup path with
    | some lines => lines
    | none =>
      match d.disk.readBytes path.toText with
      | .ok bytes => linesOf d.settings.ending (Octets.ofBytes bytes)
      | .error _ => []
  set { d with readers := (path, lines.drop 1) :: d.readers.filter (·.1 != path) }
  return lines.head?

/-- The first one of the lines that are joined in one. -/
def firstLine (ending : Char) (line : Line) : Line :=
  let text := line.text.takeWhile (· != ending)
  { text, complete := line.complete || text.length < line.text.length }

/-- Does what the command at a place says. -/
def perform (script : Script) (place : Nat) (c : Command) : Editing Step := do
  let d ← get
  let ending := d.settings.ending
  let onward := Step.go (place + 1)
  let setLine (line : Line) : Editing Step := do
    modify fun d => { d with line }
    return onward
  match c.action with
  | .block _ | .nothing => return onward
  | .append text =>
    modify fun d => { d with appendices := d.appendices ++ [.text text] }
    return onward
  | .insert text =>
    writeText text
    return onward
  | .change text =>
    let isInside := match d.ranges[place]?.getD .before with
      | .inside _ => c.selection.last.isSome && !c.selection.negated
      | _ => false
    if !isInside then writeText text
    return .done false
  | .delete => return .done false
  | .deleteLine =>
    match d.line.text.dropWhile (· != ending) with
    | [] => return .done false
    | _ :: rest =>
      modify fun d => { d with line := { d.line with text := rest } }
      return .again
  | .print =>
    writeLine none d.line
    return onward
  | .printLine =>
    writeLine none (firstLine ending d.line)
    return onward
  | .next =>
    if isLast d then return .done true
    if !d.settings.quiet then writeLine none d.line
    match ← advance script with
    | .error status => return .fatal status
    | .ok none => return .quit 0 false
    | .ok (some line) => setLine line
  | .joinNext =>
    if isLast d then return .done !d.settings.strict
    match ← advance script with
    | .error status => return .fatal status
    | .ok none => return .done true
    | .ok (some line) => setLine { line with text := d.line.text ++ ending :: line.text }
  | .keep =>
    modify fun d => { d with kept := d.line }
    return onward
  | .keepMore =>
    modify fun d =>
      { d with kept := { d.line with text := d.kept.text ++ ending :: d.line.text } }
    return onward
  | .fetch => setLine d.kept
  | .fetchMore => setLine { d.kept with text := d.line.text ++ ending :: d.kept.text }
  | .exchange =>
    modify fun d => { d with line := d.kept, kept := d.line }
    return onward
  | .empty => setLine { d.line with text := [] }
  | .quit status => return .quit status true
  | .leave status => return .quit status false
  | .number =>
    writeText (Octets.ofNat d.number ++ [ending])
    return onward
  | .name =>
    writeText (d.name ++ [ending])
    return onward
  | .show width =>
    writeText (shown ending (width.getD d.settings.width) 0 d.line.text)
    return onward
  | .readFile path =>
    modify fun d => { d with appendices := d.appendices ++ [.file path] }
    return onward
  | .readLine path =>
    match ← takeLine path with
    | none => return onward
    | some line =>
      let text := if line.complete then line.text ++ [ending] else line.text
      modify fun d => { d with appendices := d.appendices ++ [.text text] }
      return onward
  | .write target =>
    writeLine (some target) d.line
    return onward
  | .writeLine target =>
    writeLine (some target) (firstLine ending d.line)
    return onward
  | .transliterate table =>
    setLine { d.line with text := d.line.text.map fun c => (table.lookup c).getD c }
  | .substitute s =>
    match ← substitute s with
    | .error fault => return .halt fault
    | .ok _ => return onward
  | .jump label => return .go (script.place label)
  | .jumpIfReplaced label =>
    modify fun d => { d with replaced := false }
    return if d.replaced then .go (script.place label) else onward
  | .jumpUnlessReplaced label =>
    modify fun d => { d with replaced := false }
    return if d.replaced then onward else .go (script.place label)

/-- One command, if it applies to the current line. -/
def step (script : Script) (place : Nat) (c : Command) : Editing Step := do
  match ← applies place c.selection with
  | .error fault => return .halt fault
  | .ok true => perform script place c
  | .ok false =>
    match c.action with
    | .block stop => return .go stop
    | _ => return .go (place + 1)

/-- Runs a script from a place in it; the value is the status. -/
def run (script : Script) (fuel : Nat) (place : Nat) : Editing Nat :=
  match fuel with
  | 0 => do
    modify fun d => { d with stuck := true }
    return 0
  | fuel + 1 => do
    let outcome ← match script.commands[place]? with
      | some c => step script place c
      | none => pure (.done true)
    let prints : Editing Unit := do
      let d ← get
      if !d.settings.quiet then writeLine none d.line
    match outcome with
    | .go place => run script fuel place
    | .again =>
      writeAppendices
      run script fuel 0
    | .done isPrinted =>
      if isPrinted then prints
      match ← advance script with
      | .error status => return status
      | .ok none => return (← get).status
      | .ok (some line) =>
        modify fun d => { d with line }
        run script fuel 0
    | .quit status isPrinted =>
      if isPrinted then
        prints
        writeAppendices
      closeFile
      return status
    | .halt fault =>
      protest (script.origin.report 0 0 fault)
      return 1
    | .fatal status => return status

/-- How many commands are run at most: so many, and some more for each line. -/
def maxCommands (lines : Nat) : Nat := 20000 + 200 * lines

/-- Runs a script on all lines; the value is the status. -/
def work (script : Script) : Editing Nat := do
  let count := (← get).sources.foldl
    (fun n s => n + match s.lines with
      | .ok lines => lines.length
      | .error _ => 0) 0
  match ← advance script with
  | .error status => return status
  | .ok none => return (← get).status
  | .ok (some line) =>
    modify fun d => { d with line }
    run script (maxCommands count) 0

end Codemod.Shell.Edit
