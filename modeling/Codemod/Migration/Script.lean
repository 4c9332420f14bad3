import Codemod.FileSystem.Basic
import Codemod.Migration.World
import Codemod.Text.Search

/-!
# Scripted agents

A script rehearses a run: the model's answers stand in one queue per kind of prompt, the results of
verification commands in one queue per command. Before an answer is given its effects happen.

- `Script` — the queues
- `Script.agents` — the model and the verifier that follow a script
-/

namespace Codemod.Migration

/-- What happens before an answer. -/
inductive Effect where
  /-- A file is written, with its directories. -/
  | write (path : String) (bytes : ByteArray)
  /-- A file or a tree is removed. -/
  | remove (path : String)
  /-- A file is replaced by an empty directory. -/
  | block (path : String)
  /-- The run is asked to stop. -/
  | cancel

/-- An answer and what happens before it. -/
structure Turn (α : Type) where
  value : α
  effects : List Effect := []

/-- The kinds of prompt. -/
inductive PromptKind where
  | count
  | transform
  | fix
deriving DecidableEq

/-- The name of a kind. -/
def PromptKind.name : PromptKind → String
  | count => "count"
  | transform => "rewrite"
  | fix => "fix"

/-- The kind of a prompt, by the task that its first line names. -/
def PromptKind.ofPrompt (prompt : String) : PromptKind :=
  let line := String.ofList (prompt.toList.takeWhile (· != '\n'))
  if Text.occursIn "code analyzer" line then .count
  else if Text.occursIn "migrate code from one pattern" line then .transform
  else .fix

/-- The answers that are still to be given. -/
structure Script where
  /-- The directory to which the paths of effects are relative. -/
  root : String
  counts : List (Turn (Except ModelError String)) := []
  transforms : List (Turn (Except ModelError String)) := []
  fixes : List (Turn (Except ModelError String)) := []
  checks : List (String × List (Turn Verification)) := []

/-- One effect on the files. Effects that cannot happen do nothing. -/
def Effect.apply (root : String) (fs : FileSystem) : Effect → FileSystem
  | .write path bytes =>
    let path := Path.join root path
    let fs :=
      match (Path.parent? path).map fs.createDirectories with
      | some (.ok fs) => fs
      | _ => fs
    (fs.writeBytes path bytes).toOption.getD fs
  | .remove path => (fs.removeTree (Path.join root path)).toOption.getD fs
  | .block path =>
    let path := Path.join root path
    let fs := (fs.removeTree path).toOption.getD fs
    (fs.createDirectory path).toOption.getD fs
  | .cancel => fs

/-- The effect asks the run to stop. -/
def Effect.cancels : Effect → Bool
  | .cancel => true
  | _ => false

namespace Script

/-- The reply of a turn. -/
def reply {α : Type} (w : World Script) (memory : Script) (turn : Turn α) : Reply Script α where
  value := turn.value
  world := { disk := turn.effects.foldl (Effect.apply w.memory.root) w.disk, memory }
  cancels := turn.effects.any Effect.cancels

/-- The queue of a kind of prompt. -/
def queue (s : Script) : PromptKind → List (Turn (Except ModelError String))
  | .count => s.counts
  | .transform => s.transforms
  | .fix => s.fixes

/-- The script after the first answer of a kind was given. -/
def drop (s : Script) : PromptKind → Script
  | .count => { s with counts := s.counts.drop 1 }
  | .transform => { s with transforms := s.transforms.drop 1 }
  | .fix => { s with fixes := s.fixes.drop 1 }

/-- What the model says when its script has ended. -/
def exhausted : Turn (Except ModelError String) :=
  { value := .error (.exit "script" (some 99) "script exhausted") }

/-- The model of a script. -/
def complete (w : World Script) (prompt : String) : Reply Script (Except ModelError String) :=
  let kind := PromptKind.ofPrompt prompt
  reply w (w.memory.drop kind) ((w.memory.queue kind).head?.getD exhausted)

/-- Takes the first result off the queue of a command; without one the command passes. -/
def takeCheck (command : String) : List (String × List (Turn Verification)) →
    Turn Verification × List (String × List (Turn Verification))
  | [] => ({ value := ⟨true, ""⟩ }, [])
  | (name, queue) :: rest =>
    if name == command then
      match queue with
      | [] => ({ value := ⟨true, ""⟩ }, (name, []) :: rest)
      | turn :: queue => (turn, (name, queue) :: rest)
    else
      let (turn, rest) := takeCheck command rest
      (turn, (name, queue) :: rest)

/-- The verifier of a script. -/
def verify (w : World Script) (command _directory : String) : Reply Script Verification :=
  let (turn, checks) := takeCheck command w.memory.checks
  reply w { w.memory with checks } turn

/-- The agents that follow a script, with a clock that stands still. -/
def agents (now : Timestamp) : Agents Script where
  complete := complete
  verify := verify
  now _ := now

end Script

end Codemod.Migration
