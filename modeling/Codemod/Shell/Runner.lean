import Codemod.Shell.BuiltIn.Declaration
import Codemod.Shell.BuiltIn.Naming
import Codemod.Shell.BuiltIn.Place
import Codemod.Shell.Signal
import Codemod.Shell.Tool.Batch

/-!
# Programs that run others

How a program is started is a parameter here.

- `Ended` — how a program has ended
- `Runner.environment`, `Runner.limit`, `Runner.plainly` — with another environment, in limited
  time, as it is
- `Runner.batch` — with arguments from the input
-/

namespace Codemod.Shell

/-- How a program has ended. -/
inductive Ended where
  | exited (status : Nat)
  | killed (signal : Nat)
deriving DecidableEq

/-- The status that a shell sees. -/
def Ended.status : Ended → Nat
  | exited status => status
  | killed signal => 128 + signal

/-- Starts a program with its arguments; or says why it cannot be started. -/
abbrev Launch := List Octets → Act (Except SystemError Ended)

namespace Runner

/-- Refuses to run anything. -/
def refuse (tool : String) (status : Nat) (text : String) : Act Ended := do
  return .exited (← Act.useTool tool (Tool.refuse status text))

/-- Says a line in a tool's name and ends it. -/
def complain (tool : String) (status : Nat) (text : String) : Act Ended := do
  Act.grumble s!"{tool}: {text}"
  return .exited status

/-- Starts a program; when it cannot be started, a tool says so. -/
def start (launch : Launch) (tool before : String) (command : List Octets) : Act Ended := do
  match ← launch command with
  | .ok ended => return ended
  | .error cause =>
    let name := Tool.quoted (command.headD [])
    complain tool (if cause == .notFound then 127 else 126) s!"{before}{name}: {Tool.reason cause}"

/-- Sets variables for a program, which is then started, or prints the environment. -/
def environment (launch : Launch) (tool : String) (arguments : List Octets) : Act Ended := do
  let known := "i,ignore-environment 0,null u,unset: C,chdir: S,split-string: v,debug help version"
  match Options.read (Options.known known) arguments false with
  | .error refusal => refuse tool 125 refusal.message
  | .ok o =>
    let split : List Octets := match o.value? "S" with
      | some text => (text.splitOn ' ').filter (!·.isEmpty)
      | none => []
    let (cleared, operands) := match split ++ o.operands with
      | ['-'] :: rest => (true, rest)
      | rest => (o.has "i", rest)
    let (assigned, command) := operands.span fun a => a.contains '='
    let prepare : Act Unit := do
      if cleared then modify fun m => { m with bindings := [], exported := [] }
      for name in o.values "u" do
        modify (·.unset name)
      for a in assigned do
        let (name, value) := a.span (· != '=')
        modify fun m =>
          let m := m.set name (value.drop 1)
          { m with exported := name :: m.exported.filter (· != name) }
    let before ← get
    prepare
    let moved ← match o.value? "C" with
      | none => pure true
      | some path =>
        match (← get).disk.find path.toText with
        | .ok (loc, .directory) =>
          modify fun m => m.enterBy (BuiltIn.logicalPath m.entered path) loc
          pure true
        | _ => pure false
    let ended ←
      if !moved then
        let target := Tool.quoted ((o.value? "C").getD [])
        complain tool 125 s!"cannot change directory to {target}: No such file or directory"
      else if command.isEmpty then
        let ending := if o.has "0" then ['\x00'] else ['\n']
        for (name, value) in (← get).environment.reverse do
          Act.say (name ++ '=' :: value ++ ending)
        pure (.exited 0)
      else start launch tool "" command
    modify before.resumed
    return ended

/-- Starts the program that stands first in the operands. -/
def plainly (launch : Launch) (tool known before : String) (missing : Act Ended)
    (arguments : List Octets) : Act Ended := do
  match Options.read (Options.known (known ++ " help version")) arguments false with
  | .error refusal => refuse tool 125 refusal.message
  | .ok o => if o.operands.isEmpty then missing else start launch tool before o.operands

/-- Runs a program in limited time. -/
def limit (launch : Launch) (tool : String) (arguments : List Octets) : Act Ended := do
  let known := "s,signal: k,kill-after: preserve-status foreground v,verbose help version"
  match Options.read (Options.known known) arguments false with
  | .error refusal => refuse tool 125 refusal.message
  | .ok o =>
    match o.operands with
    | duration :: command :: rest =>
      match BuiltIn.duration? duration with
      | none => refuse tool 125 s!"invalid time interval {Tool.quoted duration}"
      | some 0 => start launch tool "failed to run command " (command :: rest)
      | some time =>
        let before ← get
        let bound := before.clock + time
        if before.deadline.any (· ≤ bound) then
          start launch tool "failed to run command " (command :: rest)
        else
          let signal := ((o.value? "s").bind fun s => Signal.number? s.toText).getD 15
          try
            modify fun m => { m with deadline := some bound }
            let ended ← start launch tool "failed to run command " (command :: rest)
            modify fun m => { m with deadline := before.deadline }
            return ended
          catch
            | .expired => do
              modify fun m => { before.resumed m with clock := max bound m.clock }
              if o.has "preserve-status" then return .killed signal
              return if signal == 9 then .killed 9 else .exited 124
            | stop => throw stop
    | _ => do
      Act.grumble (Tool.advice tool)
      return .exited 125

/-! ### Arguments from the input -/

/-- Runs commands one after another until one says that it is enough. The status tells whether one
failed. -/
def runAll (launch : Launch) (tool : String) (shows : Bool) (status : Nat) :
    List (List Octets) → Act Nat
  | [] => return status
  | command :: rest => do
    let name := (command.headD []).toText
    if shows then
      Act.grumble (String.intercalate " " (command.map fun w => String.ofList (Quote.ifNeeded w)))
    let stop (status : Nat) (text : String) : Act Nat := do
      Act.grumble s!"{tool}: {name}: {text}"
      return status
    match ← launch command with
    | .error cause => stop (if cause == .notFound then 127 else 126) (Tool.reason cause)
    | .ok (.exited 0) => runAll launch tool shows status rest
    | .ok (.exited 255) => stop 124 "exited with status 255; aborting"
    | .ok (.exited _) => runAll launch tool shows 123 rest
    | .ok (.killed n) => stop 125 s!"terminated by signal {n}"

/-- Runs commands with arguments from the input. -/
def batch (launch : Launch) (tool : String) (arguments : List Octets) : Act Ended := do
  match Options.read (Options.known Batch.known) arguments false with
  | .error refusal => refuse tool 1 refusal.message
  | .ok o =>
    let source := o.value? "a"
    let b := Batch.ofOptions o
    let m ← get
    let text := match source with
      | some path => ((m.disk.readBytes path.toText).toOption.map Octets.ofBytes).getD []
      | none => ((m.contents 0).toOption.map Prod.fst).getD []
    if source.isNone then set (m.left 0 [])
    match b.commands text with
    | .error quote =>
      complain tool 1
        (s!"unmatched {quote} quote; by default quotes are special to xargs "
          ++ "unless you use the -0 option")
    | .ok commands =>
      let before ← get
      if source.isNone then set (before.attach 0 .nowhere)
      let status ← runAll launch tool (o.has "t") 0 commands
      modify fun m => m.bound 0 (before.streams.lookup 0)
      return .exited status

end Runner

end Codemod.Shell
