import Codemod.Shell.Awk.Program
import Codemod.Shell.Awk.Token
import Codemod.Shell.Awk.Value
import Codemod.Shell.Runner

/-!
# The state of a running record program

- `Awk.Session` — variables, records, and what is read and written
- `Awk.Leave` — why an action does not go on
- `Awk.Eval` — a step of a running program
- `Awk.Eval.flush`, `Awk.Eval.write`, `Awk.Eval.close` — output
-/

namespace Codemod.Shell.Awk

/-- What a variable holds. -/
inductive Cell where
  | value (v : Value)
  | table (place : Nat)
  /-- Nothing yet; used as a table it is this one. -/
  | fresh (place : Nat)

/-- What is left of something that is read. -/
structure Stock where
  rest : Octets
  endless : Bool := false
  /-- The status of the command it came from. -/
  status : Nat := 0

/-- Something that is written to. -/
structure Sink where
  outlet : Outlet
  name : Octets
  /-- What was not written yet, latest first. -/
  pending : List Octets := []

/-- The state of a running program. -/
structure Session where
  /-- The name of the tool. -/
  tool : String
  program : Program
  shared : List (String × Cell) := []
  /-- The variables of the current function. -/
  own : Array Cell := #[]
  tables : Array Table := #[]
  record : Record := {}
  /-- What separated the fields when the record was read. -/
  fieldSeparator : Separator := .blanks
  /-- The next argument that may name a file. -/
  place : Nat := 1
  /-- The file that records come from. -/
  current : Option Octets := none
  /-- Some argument named a file. -/
  hadFile : Bool := false
  stocks : List ((Supply × Octets) × Stock) := []
  sinks : List Sink := []
  /-- What was not written to the output yet, latest first. -/
  pending : List Octets := []
  /-- The ranges that were begun. -/
  begun : Array Bool := #[]
  seed : Nat := 1
  random : Nat := 1
  /-- How many values are in use. -/
  height : Nat := 0
  status : Nat := 0

/-- Why an action does not go on. -/
inductive Leave where
  | next
  | nextFile
  | exit
  | loop
  | turn
  | function (v : Value)
  /-- Something went wrong that nothing can follow. -/
  | failed (text : String)

/-- A step of a running program. -/
abbrev Eval := ExceptT Leave (StateT Session Act)

namespace Eval

/-- Does something with the machine. -/
def onMachine {α : Type} (act : Act α) : Eval α := ExceptT.lift (StateT.lift act)

/-- The value of a variable that is no table. -/
def scalar (name : String) : Eval Value := do
  match (← get).shared.lookup name with
  | some (.value v) => return v
  | _ => return .unset

/-- The text of a variable. -/
def textOf (name : String) : Eval Octets := do return (← scalar name).toText "%.6g".toList

/-- Sets a variable. -/
def assign (name : String) (v : Value) : Eval Unit :=
  modify fun s => { s with shared := (name, .value v) :: s.shared.filter (·.1 != name) }

/-- How numbers become texts. -/
def format : Eval Octets := textOf "CONVFMT"

/-- Fails while the program runs. -/
def fault {α : Type} (text : String) : Eval α := do
  let name := (← textOf "FILENAME").toText
  let number (x : Value) : String := (x.toText "%.6g".toList).toText
  let fnr := number (← scalar "FNR")
  let nr := number (← scalar "NR")
  throw (.failed (s!"run time error: {text}\n\tFILENAME=\"{name}\" FNR={fnr} NR={nr}"))

/-- The separator of a text. -/
def separatorOf (cs : Octets) : Eval Separator := do
  match Separator.read cs with
  | .ok s => return s
  | .error e =>
    let cause := regexFault e
    fault s!"regular expression compile failed ({cause})\n{cs.toText}"

/-- The separator that a variable holds. -/
def separator (name : String) : Eval Separator := do separatorOf (← textOf name)

/-! ### Output -/

/-- Runs a tool's activity on a path. -/
def onDisk (body : Tool Nat) : Eval Nat := do
  let tool := (← get).tool
  onMachine (Act.useTool tool body)

/-- Runs a command with the usual shell; the value is its status. -/
def runCommand (launch : Launch) (command : Octets) : Act Ended := do
  match ← launch ["/bin/sh".toList, "-c".toList, command] with
  | .ok ended => return ended
  | .error _ => return .exited 127

/-- Writes all of a sink's text; a command is run on it. The value is the status. -/
def drain (launch : Launch) (ends : Bool) (s : Sink) : Eval Nat := do
  let text := s.pending.reverse.flatten
  match s.outlet with
  | .command =>
    if !ends then return 0
    onMachine do
      let before ← get
      modify fun m => m.attach 0 (.incoming text false)
      let ended ← runCommand launch s.name
      modify fun m => m.bound 0 (before.streams.lookup 0)
      return ended.status
  | _ =>
    if text.isEmpty then return 0
    onDisk do
      let b ← get
      let old := ((b.disk.readBytes s.name.toText).toOption.map Octets.ofBytes).getD []
      let _ ← Tool.store s.name.toText (old ++ text)
      return 0

/-- Writes what was not written yet, except to commands. -/
def flush (launch : Launch) : Eval Unit := do
  let s ← get
  set { s with pending := [] }
  onMachine (Act.say s.pending.reverse.flatten)
  for sink in s.sinks do
    let _ ← drain launch false sink
  modify fun s =>
    { s with
      sinks := s.sinks.map fun k => if k.outlet == .command then k else { k with pending := [] } }

/-- Writes a text to the output. -/
def say (text : Octets) : Eval Unit :=
  modify fun s => { s with pending := text :: s.pending }

/-- Writes a text to something that is opened when it was not yet. -/
def write (launch : Launch) (outlet : Outlet) (name text : Octets) : Eval Unit := do
  let path := name.toText
  if outlet != .command && (path == "/dev/stdout" || path == "-") then say text
  else if outlet != .command && path == "/dev/stderr" then
    onMachine (modify fun m => m.write 2 text)
  else
    let s ← get
    let isOpen := s.sinks.any fun k =>
      k.name == name && (k.outlet == .command) == (outlet == .command)
    if !isOpen then
      if outlet == .command then flush launch
      else
        let status ← onDisk do
          let b ← get
          let old : Octets := match outlet with
            | .appending => ((b.disk.readBytes path).toOption.map Octets.ofBytes).getD []
            | _ => []
          match ← Tool.store path old with
          | .ok _ => return 0
          | .error (.code n) => return n.natAbs
          | .error (.custom _) => return 5
        if status != 0 then
          let cause := SystemError.description status
          throw (.failed s!"cannot open \"{path}\" for output ({cause})")
      modify fun s => { s with sinks := s.sinks ++ [{ outlet, name }] }
    modify fun s =>
      { s with
        sinks := s.sinks.map fun k =>
          if k.name == name && (k.outlet == .command) == (outlet == .command) then
            { k with pending := text :: k.pending }
          else k }

/-- Closes whatever has a name; the value is the status, or minus one. -/
def close (launch : Launch) (name : Octets) : Eval Int := do
  let s ← get
  let closed := s.sinks.filter fun k => k.name == name
  let isRead (k : (Supply × Octets) × Stock) : Bool := k.1.2 == name && k.1.1 != Supply.records
  let read := s.stocks.filter isRead
  set { s with
    sinks := s.sinks.filter fun k => k.name != name
    stocks := s.stocks.filter (!isRead ·) }
  let mut status : Int := -1
  for (_, stock) in read do
    status := stock.status
  for sink in closed do
    status := (← drain launch true sink)
  return status

/-- Ends all output: commands first, then the output itself. -/
def finish (launch : Launch) : Eval Unit := do
  let s ← get
  for sink in s.sinks do
    let _ ← drain launch true sink
  let s ← get
  set { s with sinks := [], pending := [] }
  onMachine (Act.say s.pending.reverse.flatten)

end Eval

end Codemod.Shell.Awk

/-!
## Variables, tables and fields of a running program

- `Awk.Eval.cell`, `Awk.Eval.tableOf` — what a name stands for
- `Awk.Place` — what can be assigned to
- `Awk.Place.value`, `Awk.Place.put` — its value
-/

namespace Codemod.Shell.Awk

/-- What can be assigned to, with its subscripts known. -/
inductive Place where
  | named (name : Name)
  | element (table : Nat) (key : Key)
  | field (n : Nat)

namespace Eval

/-- What a variable holds. -/
def cell (name : Name) : Eval Cell := do
  let s ← get
  return match name with
    | .own i => (s.own[i]?).getD (.value .unset)
    | .shared name => (s.shared.lookup name).getD (.value .unset)

/-- Changes what a variable holds. -/
def setCell (name : Name) (c : Cell) : Eval Unit :=
  modify fun s =>
    match name with
    | .own i => { s with own := s.own.setIfInBounds i c }
    | .shared name => { s with shared := (name, c) :: s.shared.filter (·.1 != name) }

/-- A new table. -/
def newTable (t : Table) : Eval Nat := do
  let s ← get
  set { s with tables := s.tables.push t }
  return s.tables.size

/-- The table of a variable, which becomes one if it was not used yet. -/
def tableOf (name : Name) : Eval Nat := do
  match ← cell name with
  | .table place => return place
  | .fresh place =>
    setCell name (.table place)
    return place
  | .value _ =>
    let place ← newTable {}
    setCell name (.table place)
    return place

/-- What a variable hands over to a function. -/
def handed (name : Name) : Eval Cell := do
  match ← cell name with
  | .value .unset =>
    let place ← newTable {}
    setCell name (.fresh place)
    return .fresh place
  | c => return c

/-- A table. -/
def table (place : Nat) : Eval Table := do return ((← get).tables[place]?).getD {}

/-- Changes a table. -/
def changeTable (place : Nat) (f : Table → Table) : Eval Unit :=
  modify fun s => { s with tables := s.tables.modify place f }

/-- The key of subscripts. -/
def key (vs : List Value) : Eval Key := do
  match vs with
  | [.number x] =>
    match Number.whole? x with
    | some n => if n.natAbs < 2 ^ 63 then return .whole n
    | none => pure ()
    return .text (Number.formatted (← format) x)
  | [v] => return .text (v.toText [])
  | vs =>
    let format ← format
    let separator ← textOf "SUBSEP"
    return .text (List.intercalate separator (vs.map (Value.toText format)))

/-- The number of a field. -/
def fieldNumber (v : Value) : Eval Nat := do
  let n := Number.toInt v.toNumber
  if n < 0 then fault s!"negative field index ${n}"
  return min n.toNat (2 ^ 31 - 1)

/-- Makes a value the record. -/
def setRecord (v : Value) : Eval Unit := do
  let record := Record.ofValue (← separator "FS") (← format) v
  modify fun s => { s with record }

/-- Changes the fields of the record, which is put together from them again. -/
def changeRecord (f : Octets → Octets → Record → Record) : Eval Unit := do
  let separator ← textOf "OFS"
  let format ← format
  modify fun s => { s with record := f separator format s.record }

end Eval

namespace Place

open Eval

/-- The greatest number of fields that a record can be made to have. -/
def maxFields : Nat := 10 ^ 6

/-- What is at a place. -/
def value : Place → Eval Value
  | named (.shared "NF") => do return .ofInt (← get).record.fields.length
  | named name => do
    match ← cell name with
    | .value v => return v
    | _ => return .unset
  | element place key => do return (← table place).get key
  | field n => do return (← get).record.field n

/-- Changes what is at a place. -/
def put (p : Place) (v : Value) : Eval Unit := do
  match p with
  | named (.shared "NF") =>
    let count := Number.toInt v.toNumber
    if count < 0 then fault "negative value assigned to NF"
    changeRecord fun separator format r => r.resized separator format (min count.toNat maxFields)
  | named name => setCell name (.value v)
  | element place key => changeTable place (Table.set key v)
  | field 0 => setRecord v
  | field n =>
    changeRecord fun separator format r => r.withField separator format (min n maxFields) v

end Place

end Codemod.Shell.Awk

/-!
## The input of a running program

- `Awk.Eval.recordFrom` — the next record of a file or of the output of a command
- `Awk.Eval.nextRecord` — the next record of the files that the arguments name
-/

namespace Codemod.Shell.Awk

namespace Eval


/-- The name stands for the input. -/
def isInput (name : Octets) : Bool := name == ['-'] || name == "/dev/stdin".toList

/-- What a name leads to, as far as it was not read: a file, the output of a command, or the
input. -/
def open? (launch : Launch) (supply : Supply) (name : Octets) :
    Eval (Except SystemError Stock) := do
  let key : Supply × Octets :=
    if supply != .command && isInput name then (.file, ['-']) else (supply, name)
  match (← get).stocks.lookup key with
  | some stock => return .ok stock
  | none =>
    let found : Except SystemError Stock ←
      match supply with
      | .command =>
        flush launch
        let (pieces, status, endless) ← onMachine <| Act.gathered true do
          let ended ← runCommand launch name
          modify fun m => { m with status := ended.status }
        pure (.ok { rest := pieces.flatMap Prod.snd, endless, status })
      | _ =>
        if isInput name then
          onMachine do
            let m ← get
            match m.contents 0 with
            | .ok (rest, endless) =>
              set (m.left 0 [])
              return .ok { rest, endless }
            | .error cause => return .error cause
        else
          let disk ← onMachine (return (← get).disk)
          if name == "/dev/null".toList then pure (.ok { rest := [] })
          else pure ((disk.readBytes name.toText).map fun b => { rest := Octets.ofBytes b })
    match found with
    | .ok stock =>
      modify fun s => { s with stocks := (key, stock) :: s.stocks }
      return .ok stock
    | .error cause => return .error cause

/-- Waits for ever. -/
def starve (launch : Launch) : Eval Unit := do
  flush launch
  onMachine (throw .expired)

/-- The next record of something that is read; none at its end. -/
def recordFrom (launch : Launch) (supply : Supply) (name : Octets) :
    Eval (Except SystemError (Option Octets)) := do
  match ← open? launch supply name with
  | .error cause => return .error cause
  | .ok stock =>
    let key : Supply × Octets :=
      if supply != .command && isInput name then (.file, ['-']) else (supply, name)
    match takeRecord (← separatorOfRecords) stock.rest with
    | none =>
      if stock.endless then starve launch
      return .ok none
    | some (record, rest, separated) =>
      if stock.endless && !separated then starve launch
      modify fun s =>
        { s with
          stocks := (key, { stock with rest }) :: s.stocks.filter (·.1 != key) }
      return .ok (some record)
where
  /-- What separates records; a blank is an octet like others. -/
  separatorOfRecords : Eval Separator := do
    match ← separator "RS" with
    | .blanks => return .octet ' '
    | s => return s

/-- Adds one to a variable. -/
def count (name : String) : Eval Unit := do
  assign name (.number ((← scalar name).toNumber + 1))

/-- An argument is an assignment: the variable and its value. -/
def assignment? (argument : Octets) : Option (String × Octets) :=
  match argument.span (· != '=') with
  | (name, _ :: value) =>
    if !name.isEmpty && name.all isNameStart && !(name.headD '0').isDigit then
      some (String.ofList name, value)
    else none
  | _ => none
where
  /-- A character of a name. -/
  isNameStart (c : Char) : Bool := c.isAlphanum || c == '_'

/-- An argument of the tool. -/
def argument (n : Nat) : Eval (Option Octets) := do
  let s ← get
  match s.shared.lookup "ARGV" with
  | some (.table place) =>
    let t := (s.tables[place]?).getD {}
    let key := Key.whole n
    return if t.contains key then some ((t.get key).toText "%.6g".toList) else none
  | _ => return none

/-- How many arguments there are. -/
def argumentCount : Eval Nat := do return (Number.toInt (← scalar "ARGC").toNumber).toNat

/-- Goes on to the next file that an argument names, or to the input if none does; assignments among
the arguments are done on the way. There may be no further one. -/
def nextFile (fuel : Nat) : Eval Bool :=
  match fuel with
  | 0 => return false
  | fuel + 1 => do
    let s ← get
    let enter (name : Octets) : Eval Bool := do
      modify fun s => { s with current := some name, hadFile := true }
      assign "FILENAME" (.text name)
      assign "FNR" (.number 0)
      return true
    if s.place < (← argumentCount) then
      set { s with place := s.place + 1 }
      match ← argument s.place with
      | none | some [] => nextFile fuel
      | some text =>
        match assignment? text with
        | some (name, value) =>
          Place.put (.named (.shared name)) (.given (withoutEscapes (value.length + 1) value))
          nextFile fuel
        | none => enter text
    else if s.hadFile then return false
    else enter ['-']

/-- Leaves the file that records come from; it can be read again. -/
def skipFile : Eval Unit :=
  modify fun s =>
    match s.current with
    | none => s
    | some name =>
      if isInput name then { s with current := none }
      else
        { s with
          current := none
          stocks := s.stocks.filter fun k => !(k.1.1 == .records && k.1.2 == name) }

/-- The next record of the files that the arguments name; none at the end of the last one. -/
def nextRecord (launch : Launch) (fuel : Nat) : Eval (Option Octets) :=
  match fuel with
  | 0 => return none
  | fuel + 1 => do
    match (← get).current with
    | some name =>
      match ← recordFrom launch .records name with
      | .ok (some record) => return some record
      | .ok none =>
        skipFile
        nextRecord launch fuel
      | .error cause =>
        let path := name.toText
        if cause == .code 21 then throw (.failed s!"read error ({Tool.reason cause})")
        else throw (.failed s!"cannot open \"{path}\" ({Tool.reason cause})")
    | none =>
      let found ← nextFile ((← argumentCount) + 2)
      if found then nextRecord launch fuel else return none

/-- The next record of the files that the arguments name, counted. -/
def countedRecord (launch : Launch) : Eval (Option Octets) := do
  match ← nextRecord launch (2 * (← argumentCount) + 4) with
  | none => return none
  | some record =>
    count "NR"
    count "FNR"
    return some record

end Eval

end Codemod.Shell.Awk
