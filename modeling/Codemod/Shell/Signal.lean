import Codemod.Shell.Lookup
import Codemod.Shell.Octets
import Codemod.Shell.Token

/-!
# Signals

- `Signal.number?`, `Signal.name`, `Signal.description` — the signals by number
- `Signal.send` — a signal to the shell or to a job
- `Signal.setTraps`, `Signal.showTraps` — scripts for signals
-/

namespace Codemod.Shell.Signal

/-- The signals by number, with what is said when one has ended a process. Nothing is said about
some. -/
def table : List (Nat × String × String) :=
  [(0, "EXIT", ""), (1, "HUP", "Hangup"), (2, "INT", ""), (3, "QUIT", "Quit"),
    (4, "ILL", "Illegal instruction"), (5, "TRAP", "Trace/breakpoint trap"), (6, "ABRT", "Aborted"),
    (7, "BUS", "Bus error"), (8, "FPE", "Floating point exception"), (9, "KILL", "Killed"),
    (10, "USR1", "User defined signal 1"), (11, "SEGV", "Segmentation fault"),
    (12, "USR2", "User defined signal 2"), (13, "PIPE", ""), (14, "ALRM", "Alarm clock"),
    (15, "TERM", "Terminated"), (16, "16", "Stack fault"), (17, "CHLD", ""), (18, "CONT", ""),
    (19, "STOP", ""), (20, "TSTP", ""), (21, "TTIN", ""), (22, "TTOU", ""), (23, "URG", ""),
    (24, "XCPU", "CPU time limit exceeded"), (25, "XFSZ", "File size limit exceeded"),
    (26, "VTALRM", "Virtual timer expired"), (27, "PROF", "Profiling timer expired"),
    (28, "WINCH", ""), (29, "IO", "I/O possible"), (30, "PWR", "Power failure"),
    (31, "SYS", "Bad system call")]

/-- The names that are listed, by number from zero on. -/
def listed : List String :=
  let low := (table.map fun (_, name, _) => name).drop 1
  let after (base sign : String) (ns : List Nat) : List String :=
    ns.map fun n => s!"{base}{sign}{n}"
  "0" :: low ++ ["32", "33", "RTMIN"] ++ after "RTMIN" "+" ((List.range 15).map (· + 1))
    ++ after "RTMAX" "-" ((List.range 14).map (14 - ·)) ++ ["RTMAX"]

/-- Signals that do nothing to a process that does not ask for them. -/
def harmless : List Nat := [0, 17, 18, 19, 20, 21, 22, 23, 28]

/-- The number of a signal that is given by name or number. -/
def number? (text : String) : Option Nat :=
  match table.find? fun (_, name, _) => name == text || "SIG" ++ name == text with
  | some (n, _) => some n
  | none => (Tool.natural? text.toList).filter (· ≤ 64)

/-- The name of a signal. -/
def name (n : Nat) : String := ((table.lookup n).map Prod.fst).getD (toString n)

/-- The number under which the script for failed commands is kept. -/
def failure : Nat := 65

/-- The number under which the script for something is kept. -/
def trapNumber? ( isRich : Bool) (text : String) : Option Nat :=
  if isRich then
    match text with
    | "ERR" => some failure
    | "DEBUG" => some 66
    | "RETURN" => some 67
    | text => number? text.toUpper
  else number? text

/-- The name of a signal as a shell of the rich language prints it. -/
def fullName (n : Nat) : String :=
  match n with
  | 0 => "EXIT"
  | 65 => "ERR"
  | 66 => "DEBUG"
  | 67 => "RETURN"
  | n => "SIG" ++ name n

/-- The names of the signals in columns, as a shell of the rich language lists them. -/
def listedInColumns : String :=
  let all := listed.zipIdx.filter fun (_, n) => 0 < n && n != 32 && n != 33
  let cell (c : (String × Nat) × Nat) : String :=
    let ((name, n), i) := c
    String.ofList (Octets.padLeft 2 (Octets.ofNat n)) ++ ") SIG"
      ++ (if n == 16 then "STKFLT" else name)
      ++ (if i % 5 == 4 then "\n" else "\t")
  String.join (all.zipIdx.map cell) ++ "\n"

/-- What is said when a signal has ended a process. -/
def description (n : Nat) : String := ((table.lookup n).map Prod.snd).getD ""

/-- Says what has ended a process. -/
def report (n : Nat) : Act Unit :=
  let text := description n
  if text.isEmpty then pure () else modify fun m => m.write 2 (text ++ "\n").toList

/-- The signal reaches the shell. -/
def reach (n : Nat) : Act Unit := do
  let m ← get
  if harmless.contains n then pure ()
  else
    match if n == 9 then none else m.traps.lookup n with
    | some [] => pure ()
    | some _ => set { m with raised := m.raised ++ [n] }
    | none => throw (.signal n)

/-- The signal reaches a job. What the job would have printed later is not printed. -/
def reachJob (n index : Nat) : Act Unit := modify fun m =>
  let hit (job : Job) : Job :=
    if m.clock < job.ends then { ends := m.clock, status := 128 + n, signal := some n } else job
  { m with
    jobs := m.jobs.modify index hit
    printed := m.printed.filter fun (time, _) => time ≤ m.clock
    outputHeld := m.clock
    complaintHeld := m.clock }

/-- Sends a signal to a process; the value is the status of the command that does so. -/
def sendTo (n : Nat) (target : Octets) : Act Nat := do
  let m ← get
  match Tool.natural? target with
  | some pid =>
    if pid == Machine.pid then
      reach n
      return 0
    else if Machine.pid < pid && pid ≤ Machine.pid + m.jobs.length then
      if !harmless.contains n then reachJob n (pid - Machine.pid - 1)
      return 0
    else if m.rich.isOn then Act.protested "kill" s!"({pid}) - No such process" 1
    else Act.protested "kill" "No such process\n" 1
  | none =>
    match target with
    | '%' :: number =>
      match (Tool.natural? number).filter fun k => 0 < k && k ≤ m.jobs.length with
      | some k =>
        if !harmless.contains n then reachJob n (k - 1)
        return 0
      | none => Act.protested "kill" s!"No such job: {target.toText}"
    | '-' :: _ => Act.protested "kill" "No such process\n" 1
    | _ =>
      if m.rich.isOn then
        Act.protested "kill" s!"{target.toText}: arguments must be process or job IDs" 1
      else Act.protested "kill" s!"Illegal number: {target.toText}"

/-- Prints names of signals: those of statuses, or all. -/
def list (arguments : List Octets) : Act Nat := do
  let isRich := (← get).rich.isOn
  match arguments with
  | [] =>
    if isRich then
      Act.say listedInColumns.toList
      return 0
    for name in listed do
      Act.say (Octets.ofString (name ++ "\n"))
    return 0
  | text :: _ =>
    match Tool.natural? text with
    | some n =>
      let n := if 128 < n then n - 128 else n
      if 0 < n && n < 65 then
        Act.say (Octets.ofString (listed.getD n "" ++ "\n"))
        return 0
      else if isRich then Act.protested "kill" s!"{text.toText}: invalid signal specification" 1
      else Act.protested "kill" s!"invalid signal number or exit status: {text.toText}"
    | none =>
      if isRich then
        match number? text.toText.toUpper with
        | some n =>
          Act.say (Octets.ofNat n ++ ['\n'])
          return 0
        | none => Act.protested "kill" s!"{text.toText}: invalid signal specification" 1
      else Act.protested "kill" s!"Illegal number: {text.toText}"

/-- Sends a signal to the processes that arguments name. -/
def send (arguments : List Octets) : Act Nat := do
  let isRich := (← get).rich.isOn
  let unknown (name : String) : Act Nat :=
    Act.protested "kill" s!"{name}: invalid signal specification" 1
  let usage : Act Nat := do
    if isRich then
      Act.grumble ("kill: usage: kill [-s sigspec | -n signum | -sigspec] pid | jobspec ... "
        ++ "or kill -l [sigspec]")
      return 2
    Act.protested "kill"
      "Usage: kill [-s sigspec | -signum | -sigspec] [pid | job]... or\nkill -l [exitstatus]"
  let (signal, targets) ←
    match arguments with
    | ['-', 'l'] :: rest => return ← list rest
    | [['-', 's']] => return ← Act.protested "kill" "No arg for -s option"
    | ['-', 's'] :: name :: rest =>
      match number? (if isRich then name.toText.toUpper else name.toText) with
      | some n => pure (n, rest)
      | none =>
        if isRich then return ← unknown name.toText
        return ← Act.protested "kill" s!"invalid signal number or name: {name.toText}"
    | ['-', '-'] :: rest => pure (15, rest)
    | ('-' :: name) :: rest =>
      match number? (if isRich then (Octets.toText name).toUpper else Octets.toText name) with
      | some n => pure (n, rest)
      | none =>
        if isRich then return ← unknown (Octets.toText name)
        return ← Act.protested "kill" s!"Illegal option -{String.ofList (name.take 1)}"
    | targets => pure (15, targets)
  let targets := if targets.head? == some ['-', '-'] then targets.drop 1 else targets
  if targets.isEmpty then usage
  else
    let statuses ← targets.mapM (sendTo signal)
    return statuses.foldl max 0

/-- Prints the scripts for signals, or for those that are meant. -/
def showTraps ( isMeant : Nat → Bool := fun _ => true) : Act Unit := do
  let m ← get
  for (n, action) in (m.traps.filter fun (n, _) => isMeant n).mergeSort fun (a, _) (b, _) =>
    a ≤ b do
    if m.rich.isOn then
      Act.say ("trap -- ".toList ++ Quoting.single action ++ Octets.ofString s!" {fullName n}\n")
    else
      Act.say ("trap -- ".toList ++ Lookup.singleQuoted action ++ Octets.ofString s!" {name n}\n")

/-- Sets or takes away the scripts for signals. -/
def setTraps (arguments : List Octets) : Act Nat := do
  let isRich := (← get).rich.isOn
  if isRich then
    match arguments with
    | ['-', 'p'] :: names =>
      let meant := names.filterMap fun name => trapNumber? true name.toText
      showTraps fun n => names.isEmpty || meant.contains n
      return 0
    | ['-', 'l'] :: _ => return ← list []
    | _ => pure ()
  let arguments := if arguments.head? == some ['-', '-'] then arguments.drop 1 else arguments
  let (action, signals) :=
    match arguments with
    | [signal] => (none, [signal])
    | action :: signals =>
      if action == ['-'] || (Tool.natural? action).isSome then (none, signals)
      else (some action, signals)
    | [] => (none, [])
  if arguments.isEmpty then showTraps
  let mut status := 0
  for signal in signals do
    match trapNumber? isRich signal.toText with
    | some n => modify fun m =>
      let others := m.traps.filter (·.1 != n)
      { m with traps := match action with
          | some script => (n, script) :: others
          | none => others }
    | none =>
      if isRich then Act.protest "trap" s!"{signal.toText}: invalid signal specification"
      else Act.grumble s!"trap: {signal.toText}: bad trap"
      status := 1
  return status

/-- Waits for jobs, or for all when none is named. -/
def await (targets : List Octets) : Act Nat := do
  let m ← get
  if targets.isEmpty then
    Act.sleep (m.jobsEnd - m.clock)
    return 0
  let mut status := 0
  for target in targets do
    let (number, isJob) := match target with
      | '%' :: number => (Tool.natural? number, true)
      | number => (Tool.natural? number, false)
    match number with
    | none =>
      if m.rich.isOn then
        if target.head? == some '-' then
          Act.sleep (m.jobsEnd - m.clock)
          return (m.jobs.getLast?.map (·.status)).getD 127
        return ← Act.protested "wait" (ScriptError.shown target.toText
          ++ ": not a pid or valid job spec") 1
      return ← Act.protested "wait" s!"Illegal number: {target.toText}"
    | some n =>
      let index := if isJob then n else n - Machine.pid
      match if index == 0 then none else m.jobs[index - 1]? with
      | none =>
        if m.rich.isOn then
          let what := if isJob then s!"{target.toText}: no such job"
            else s!"pid {target.toText} is not a child of this shell"
          status ← Act.protested "wait" what 127
        else
          if isJob then return ← Act.protested "wait" s!"No such job: {target.toText}"
          status := 127
      | some job =>
        Act.sleep (job.ends - (← get).clock)
        if let some n := job.signal then if !m.rich.isOn then report n
        status := job.status
  return status

end Codemod.Shell.Signal
