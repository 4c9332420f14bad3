import Codemod.Shell.Brace
import Codemod.Shell.BuiltIn.Naming
import Codemod.Shell.Octets

/-!
# The order in which commands are run

- `Shell.checkStrict`, `Shell.unguarded` — failures that end a script
- `Shell.insideLoop`, `Shell.afterTurn`, `Shell.leaveLoops` — turns of loops
- `Shell.settle`, `Shell.trace` — what is noted of a command
-/

namespace Codemod.Shell

/-- The number of steps of a script after which it counts as endless. -/
def maxSteps : Nat := 60000

/-- A failure that ends a strict script. -/
def checkStrict (status : Nat) : Act Unit := do
  let m ← get
  if status != 0 && m.strict && !m.guarded then throw (.exit status)

/-- Runs a part that may fail without ending a strict script. -/
def unguarded (body : Act Nat) : Act Nat := do
  let before := (← get).guarded
  modify fun m => { m with guarded := true }
  let status ← body
  modify fun m => { m with guarded := before }
  return status

/-- What follows one turn of a loop: whether it goes on. -/
def afterTurn (body : Act Nat) : Act Bool := do
  try
    let _ ← body
    return true
  catch
    | .leaveLoop levels =>
      if levels ≤ 1 then
        modify fun m => { m with status := 0 }
        return false
      else throw (.leaveLoop (levels - 1))
    | .nextTurn levels =>
      if levels ≤ 1 then return true else throw (.nextTurn (levels - 1))
    | stop => throw stop

/-- Ends a command with a status. -/
def settle (status : Nat) : Act Nat := do
  modify fun m => { m with status, rich := { m.rich with statuses := [status] } }
  return status

/-- Prints a command before it is run, when that is asked for. -/
def trace (words : List Octets) : Act Unit := do
  let m ← get
  if m.traced && !words.isEmpty then
    let mark := (m.get? "PS4".toList).getD ['+', ' ']
    let words := if !m.rich.isOn then words
      else words.map fun w => if w.isEmpty then ['\'', '\''] else Quoting.value w
    set (m.write 2 (mark ++ List.intercalate [' '] words ++ ['\n']))

/-- How many functions may be around a command. -/
def maxCalls : Nat := 1000

/-- Runs a body with one more loop around it. -/
def insideLoop (body : Act Nat) : Act Nat := do
  let loops := (← get).loops
  modify fun m => { m with loops := loops + 1 }
  try
    let status ← body
    modify fun m => { m with loops }
    return status
  catch stop =>
    modify fun m => { m with loops }
    throw stop

/-- Runs a body whose failures are reported in the name of a command. -/
def speakingAs (speaker : String) (body : Act Nat) : Act Nat := do
  let before := (← get).speaker
  modify fun m => { m with speaker := Octets.ofString speaker }
  try
    let status ← body
    modify fun m => { m with speaker := before }
    return status
  catch stop =>
    modify fun m => { m with speaker := before }
    throw stop

/-- Leaves so many loops, or all that are around. Outside of loops nothing happens. -/
def leaveLoops (command : String) (arguments : List Octets) (stop : Nat → Stop) : Act Nat := do
  let m ← get
  if m.rich.isOn then
    let text := (arguments.headD []).toText
    if m.loops == 0 then
      Act.protest command (s!"only meaningful in a " ++ ScriptError.shown "for" ++ ", "
        ++ ScriptError.shown "while" ++ ", or " ++ ScriptError.shown "until" ++ " loop")
      return 0
    match if arguments.isEmpty then some 1 else Brace.integer? (arguments.headD []) with
    | none =>
      Act.protest command s!"{text}: numeric argument required"
      throw (.exit 128)
    | some n =>
      if n < 1 then
        Act.protest command s!"{text}: loop count out of range"
        throw (.leaveLoop m.loops)
      else throw (stop (min n.toNat m.loops))
  let n ← BuiltIn.numberArgument command 1 arguments
  if n == 0 then Act.failAs command s!"Illegal number: {(arguments.headD []).toText}"
  let loops := (← get).loops
  if loops == 0 then return 0 else throw (stop (min n loops))

/-- How long it takes until a job in the background gets to work, and until a program does, in
nanoseconds. -/
def jobDelay : Nat := 500000

@[inherit_doc jobDelay]
def programDelay : Nat := 1000000

/-- When so many octets of a text in pieces are there. -/
def availableAt (start : Nat) (count : Nat) : List (Nat × Octets) → Nat
  | [] => start
  | (time, text) :: rest =>
    if count ≤ text.length then max start time else availableAt start (count - text.length) rest

end Codemod.Shell
