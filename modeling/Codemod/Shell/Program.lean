import Codemod.Migration.World
import Codemod.Shell.Run
import Codemod.Text.Utf8

/-!
# Launching programs

A run launches the tool of the model, and the shell that runs the commands of a verification. What
these programs do is not a part of the migration, which takes them as parameters
(`Migration.Agents`, `Client.Launcher`): what is proved of a run holds for every model and every
verifier.

The modules below `Codemod.Shell` stand in for such programs, so that a command line can be answered
as a whole, from its words to its exit status, with no system underneath. They read scripts, keep
the state of a shell, and do to the files what the usual tools do. The migration, the settings, the
history and what is proved of them import none of this. Only what launches programs does, and only
by this module: `Client.launch`, and the verifier that `Cli.run` passes on.

A program is launched in a directory with arguments and an environment, without input, and may be
ended from outside at a deadline.

- `Program.launch` — a run from its launch to its end
- `Verifier.run` — verification by shell commands
-/

namespace Codemod.Shell.Program

/-- The text could not be handed to a program. -/
def holdsNul (text : String) : Bool := text.toList.contains '\x00'

/-- The cause when a text with a NUL is to be handed to a program. -/
def nulFound : SystemError := .custom "nul byte found in provided data"

/-- Launches a program in a directory; a deadline is counted in nanoseconds from the launch. What it
leaves on the disk is seen from the caller's directory again. -/
def launch (env : Environment) (disk : FileSystem) (directory : String) (program : String)
    (arguments : List String) (deadline : Option Nat) : Except SystemError Ran := do
  if (program :: directory :: arguments).any holdsNul then throw nulFound
  let place ←
    match disk.find directory with
    | .ok (place, .directory) => pure place
    | .ok _ => throw .notDirectory
    | .error cause => throw cause
  let searched := (env.get? "PATH").getD "/bin:/usr/bin"
  let (path, found) ← Lookup.program (some searched) (disk.enter place) program
  if deadline == some 0 then
    return { disk, output := [], complaints := [], ending := .running, finished := 0,
             outputHeld := 0
             complaintHeld := 0 }
  let machine := { Machine.start (disk.enter place) env with deadline }
  let ran := runAll machine path found (Octets.ofString program) (arguments.map Octets.ofString)
  return { ran with disk := ran.disk.enter disk.workingDirectory }

end Codemod.Shell.Program

/-!
## Verification by shell commands

A command passes when the shell that runs it ends with zero. What it complained about is its output,
or, when there is nothing but blanks, what it printed. A command that cannot be launched has failed.
-/

namespace Codemod.Shell.Verifier

/-- What is made of a run. -/
def verdict (ran : Ran) : Migration.Verification :=
  let complaints := Text.Utf8.decodeText ran.complaints
  { passed := ran.ending = .exited 0
    output :=
      if Text.isBlankText complaints then Text.Utf8.decodeText ran.output else complaints }

/-- Runs a command in a directory: the verdict and the disk after it. -/
def run (env : Environment) (disk : FileSystem) (command directory : String) :
    Migration.Verification × FileSystem :=
  match Program.launch env disk directory "sh" ["-c", command] none with
  | .ok ran => (verdict ran, ran.disk)
  | .error cause => (⟨false, s!"failed to run `{command}`: {cause.message}"⟩, disk)

end Codemod.Shell.Verifier
