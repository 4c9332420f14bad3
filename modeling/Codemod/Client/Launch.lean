import Codemod.Client.Call
import Codemod.Shell.Program
import Codemod.Text.Utf8

/-!
# One launch of the model's tool

The tool is watched from its launch on. It has to close its output, end and close its stream of
complaints before the deadline; while it runs, a heartbeat is logged.

- `Client.judge` — what a run of the tool comes to
- `Client.launch` — the launcher that runs programs
- `Client.scratchDirectory` — where prompt files go
-/

namespace Codemod.Client

/-- The shortest period of the heartbeat, in nanoseconds. -/
def minHeartbeat : Nat := 10 * 10 ^ 6

/-- The lines of the heartbeat before a moment, in nanoseconds since the launch. -/
def heartbeats (options : ClientOptions) (moment : Nat) : List String :=
  let period := max options.heartbeat.nanoseconds minHeartbeat
  let beats := min (moment / period) ((options.timeout.nanoseconds - 1) / period)
  (List.range beats).map fun n =>
    s!"LLM process {Shell.Machine.pid} still running ({(n + 1) * period / 10 ^ 9}s elapsed)"

/-- What a run comes to, with the lines to log. -/
def judge (options : ClientOptions) (ran : Shell.Ran) :
    List String × Except ModelError (List UInt8) :=
  let deadline := options.timeout.nanoseconds
  let ended := max ran.finished ran.outputHeld
  let late := (ModelError.timeout options.program options.timeout)
  let process := s!"LLM process {Shell.Machine.pid}"
  let after := options.timeout.text
  if ran.ending = .running || deadline ≤ ended then
    (heartbeats options deadline
      ++ [s!"{process} timed out after {after}; terminating"], .error late)
  else
    let beats := heartbeats options ended
    if deadline < ran.complaintHeld then
      (beats ++ [s!"{process} exited but its stderr stayed open past {after}; giving up"],
        .error late)
    else
      let code :=
        match ran.ending with
        | .exited status => some (Int.ofNat status)
        | _ => none
      if code = some 0 then (beats, .ok ran.output)
      else
        (beats ++ [s!"LLM tool exited with {ModelError.describeExit code}"],
          .error (.exit options.program code (Text.Utf8.decodeText ran.complaints)))

/-- Launches the program with the arguments in its directory. -/
def launch {σ : Type} (env : Environment) (options : ClientOptions) : Launcher σ :=
  fun arguments => do
    let d ← get
    let directory := options.workingDirectory.getD "."
    match Shell.Program.launch env d.disk directory options.program arguments
        (some options.timeout.nanoseconds) with
    | .error cause =>
      if cause = .notFound then note s!"LLM tool `{options.program}` was not found on PATH"
      return .error (.spawn options.program cause)
    | .ok ran =>
      let (lines, result) := judge options ran
      set { d with disk := ran.disk, log := ⟨d.log.lines ++ lines⟩ }
      return result

/-- Where prompt files go: to the directory of the options, or to the system's place for temporary
files. -/
def scratchDirectory (env : Environment) (options : ClientOptions) : String :=
  options.scratchDirectory.getD ((env.get? "TMPDIR").getD "/tmp")

end Codemod.Client
