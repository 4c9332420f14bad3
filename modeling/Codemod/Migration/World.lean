import Codemod.Burndown.Basic
import Codemod.FileSystem.Text
import Codemod.Model.Answer

/-!
# The surroundings of a run

A run reads and writes files, asks a language model, runs verification commands, and looks at a
cancellation flag and a clock. The model and the verifier are arbitrary functions with a memory of
their own, which may change files and ask for cancellation, and the volume may break off any write.
Everything that happens is kept in order.

- `World` — the files and the memory of the agents
- `Agents` — the model, the verifier, the clock and the volume
- `Session` — a world, the flag, the history and the events so far
- `Activity` — a step of a run, which an overflow may end
-/

namespace Codemod.Migration

/-- What the agents of a run can change. -/
structure World (σ : Type) where
  disk : FileSystem
  /-- The memory of the model and the verifier. -/
  memory : σ

/-- What a call of an agent gives. -/
structure Reply (σ α : Type) where
  value : α
  world : World σ
  /-- The run was asked to stop during the call. -/
  cancels : Bool := false

/-- The result of a verification command. -/
structure Verification where
  passed : Bool
  output : String
deriving DecidableEq, Inhabited

/-- Whom a run calls. -/
structure Agents (σ : Type) where
  /-- The language model's answer to a prompt. -/
  complete : World σ → (prompt : String) → Reply σ (Except ModelError String)
  /-- The run of a command in a directory. -/
  verify : World σ → (command directory : String) → Reply σ Verification
  /-- The clock. -/
  now : World σ → Timestamp
  /-- What breaks off a write of a text to a path, if anything does, and the memory after it. -/
  volume : World σ → (path text : String) → Option Fault × σ := fun w _ _ => (none, w.memory)

/-- Something that happened. -/
inductive Event where
  | log (line : String)
  | read (path : String)
  | asked (prompt : String)
  | verified (command directory : String) (passed : Bool)
  | wrote (path text : String) (succeeded : Bool)
deriving DecidableEq

/-- The state of a run. -/
structure Session (σ : Type) where
  world : World σ
  /-- Set once, and never cleared. -/
  cancelled : Bool := false
  history : History := .empty
  /-- What happened, oldest first. -/
  trace : List Event := []

namespace Session

variable {σ : Type}

/-- Adds an event. -/
def record (s : Session σ) (e : Event) : Session σ := { s with trace := s.trace ++ [e] }

/-- Takes over what a call left behind. -/
def absorb {α : Type} (s : Session σ) (r : Reply σ α) : Session σ :=
  { s with world := r.world, cancelled := s.cancelled || r.cancels }

end Session

/-- A step of a run. It ends in a value or in an overflow, and in either case leaves a session. -/
abbrev Activity (σ : Type) := EStateM Overflow (Session σ)

variable {σ : Type}

/-- Adds a line to the log. -/
def log (line : String) : Activity σ Unit := modify fun s => s.record (.log line)

/-- Asks the model. -/
def ask (agents : Agents σ) (prompt : String) : Activity σ (Except ModelError String) := do
  let s ← get
  let reply := agents.complete s.world prompt
  set ((s.record (.asked prompt)).absorb reply)
  return reply.value

/-- Runs a verification command. -/
def check (agents : Agents σ) (command directory : String) : Activity σ Verification := do
  let s ← get
  let reply := agents.verify s.world command directory
  set ((s.record (.verified command directory reply.value.passed)).absorb reply)
  return reply.value

/-- Reads a text file. -/
def readFile (path : String) : Activity σ (Except FileError String) := do
  let s ← get
  set (s.record (.read path))
  return s.world.disk.readText path

/-- What becomes of a write of a text. -/
def Agents.write (agents : Agents σ) (w : World σ) (path text : String) :
    Reply σ (Except FileError Unit) :=
  let (fault?, memory) := agents.volume w path text
  match w.disk.writeText path text, fault? with
  | .ok disk, none => { value := .ok (), world := { disk, memory } }
  | .ok _, some fault =>
    { value := .error (.write path fault.cause)
      world := { disk := w.disk.writePart path text fault, memory } }
  | .error cause, _ => { value := .error cause, world := { w with memory } }

/-- Writes a text file. -/
def writeFile (agents : Agents σ) (path text : String) : Activity σ (Except FileError Unit) := do
  let s ← get
  let reply := agents.write s.world path text
  set ((s.record (.wrote path text reply.value.isOk)).absorb reply)
  return reply.value

/-- Whether the run was asked to stop. -/
def isCancelled : Activity σ Bool := return (← get).cancelled

/-- Takes over the result of checked arithmetic. -/
def checked {α : Type} : Except Overflow α → Activity σ α
  | .ok value => return value
  | .error overflow => throw overflow

end Codemod.Migration
