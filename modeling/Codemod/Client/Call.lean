import Codemod.FileSystem.Scratch
import Codemod.FileSystem.Text
import Codemod.Log
import Codemod.Model.Answer
import Codemod.Retry
import Codemod.Stream.Transcript

/-!
# How the model's tool is launched

- `ClientOptions` — the program, its arguments, and how long to wait for it
- `ClientOptions.promptPlace` — what stands for the prompt's file in an argument
- `ClientOptions.defaultArguments` — the arguments of the default tool
-/

namespace Codemod

/-- How to launch the tool and how long to wait for it. -/
structure ClientOptions where
  program : String
  arguments : List String
  timeout : Duration
  heartbeat : Duration
  retry : RetryPolicy
  /-- Where prompt files go; the system's place for temporary files when there is none. -/
  scratchDirectory : Option String := none
  /-- Where the tool works; where the caller works when there is none. -/
  workingDirectory : Option String := none

namespace ClientOptions

/-- What stands for the path of the prompt's file in an argument. -/
def promptPlace : String := "\x7bprompt_file\x7d"

/-- The arguments that ask the default tool for structured output as it comes. -/
def defaultArguments : List String :=
  ["-p", promptPlace, "--output-format", "stream-json", "--dangerously-skip-permissions"]

end ClientOptions

end Codemod

/-!
## One logical call of the model's tool

The prompt is written to a scratch file, whose path is a part of the arguments. The tool is launched
until a launch succeeds or the attempts are used up; the answer is the transcript of what the
successful launch printed. The scratch file is the same for all launches and is gone afterwards.

How a launch goes is left open: a `Launcher` is any function of the arguments and of what the tool
can see, with a memory of its own.

- `Client.Desk` — the files, the log and the memory of the tool
- `Client.Launcher` — how a launch goes
- `Client.arguments` — the arguments of a launch
- `Client.complete` — the call
-/

namespace Codemod.Client

/-- What a call and the launches in it work on. -/
structure Desk (σ : Type) where
  disk : FileSystem
  memory : σ
  log : Log := {}

/-- How a launch with arguments goes: a failure, or the bytes that the tool printed before it ended
with zero. -/
abbrev Launcher (σ : Type) := List String → StateM (Desk σ) (Except ModelError (List UInt8))

variable {σ : Type}

/-- Adds a line to the log. -/
def note (line : String) : StateM (Desk σ) Unit :=
  modify fun d => { d with log := d.log.add line }

/-- The arguments of a launch: the path of the prompt's file in its places, or else at the end. -/
def arguments (options : ClientOptions) (promptFile : String) : List String :=
  let place := ClientOptions.promptPlace
  if options.arguments.any (Text.occursIn place) then
    options.arguments.map (Text.replaceAll place promptFile)
  else options.arguments ++ [promptFile]

/-- Removes the scratch file; what cannot be removed stays. -/
def removePrompt (path : String) : StateM (Desk σ) Unit :=
  modify fun d => { d with disk := (d.disk.removeFile path).toOption.getD d.disk }

/-- The bytes that arrive in a file, all of them unless the write is broken off. -/
def arriving (bytes : ByteArray) : Option Fault → ByteArray
  | none => bytes
  | some fault => bytes.extract 0 (fault.arrived.getD 0)

/-- Writes the prompt to a new scratch file and gives its path. The file goes again when the write
is broken off. -/
def writePrompt (directory prompt : String) (fault : Option Fault) :
    StateM (Desk σ) (Except SystemError String) := do
  let d ← get
  let bytes := arriving prompt.toUTF8 fault
  match d.disk.createScratch directory "gfactor-prompt-" ".txt" bytes with
  | .error cause => return .error cause
  | .ok (path, disk) =>
    set { d with disk }
    match fault with
    | none => return .ok path
    | some fault =>
      removePrompt path
      return .error fault.cause

/-- One launch: the answer that the tool printed. -/
def attempt (launcher : Launcher σ) (options : ClientOptions) (promptFile : String) (number : Nat) :
    StateM (Desk σ) (Except ModelError String) := do
  note s!"Running {options.program} (attempt {number}/{options.retry.maxAttempts.toNat})"
  match ← launcher (arguments options promptFile) with
  | .ok output => return .ok (Stream.Transcript.ofBytes output).finish
  | .error cause => return .error cause

/-- Logs that another attempt follows. -/
def announceRetry (options : ClientOptions) (number : Nat) (cause : ModelError) :
    StateM (Desk σ) (Except ModelError Unit) := do
  let total := options.retry.maxAttempts.toNat
  note s!"Attempt {number}/{total} failed: {cause.message}. Retrying..."
  return .ok ()

/-- The launches with a prompt's file, up to the first that succeeds. -/
def launchAll (launcher : Launcher σ) (options : ClientOptions) (promptFile : String) :
    StateM (Desk σ) (Except ModelError String) :=
  options.retry.run (attempt launcher options promptFile) (fun cause => return cause.isRetryable)
    (announceRetry options) (fun _ => return ())

/-- The answer to a prompt. Prompt files go to `scratchDirectory`; the write of one may be broken
off by a fault. -/
def complete (launcher : Launcher σ) (options : ClientOptions) (scratchDirectory prompt : String)
    (fault : Option Fault := none) : StateM (Desk σ) (Except ModelError String) := do
  match ← writePrompt scratchDirectory prompt fault with
  | .error cause => return .error (.scratch cause)
  | .ok promptFile =>
    let result ← launchAll launcher options promptFile
    match result with
    | .ok _ => pure ()
    | .error cause => note s!"All LLM attempts failed. Last error: {cause.message}"
    removePrompt promptFile
    return result

end Codemod.Client
