import Codemod.Cli.Completion
import Codemod.Cli.Failure
import Codemod.Cli.Parse
import Codemod.Client.Launch
import Codemod.Json.Printer
import Codemod.Migration.Report
import Codemod.Model.Prompt
import Codemod.Request.Basic
import Codemod.Shell.Program

/-!
# What a command line asks for

- `Command` — the commands with their options
- `Invocation` — a command with the flags that stand anywhere
- `Invocation.ofWords` — from the words of a command line
-/

namespace Codemod.Cli

/-- A command with its options. -/
inductive Command where
  | migrate (action : Action) (options : MigrateOptions)
  | init (path : String) (force : Bool)
  | completions (shell : CompletionShell) (directory : Option String) (toOutput : Bool)
deriving DecidableEq

/-- What a command line asks for. -/
structure Invocation where
  command : Command
  noColor : Bool := false
  quiet : Bool := false
  verbose : Bool := false
deriving DecidableEq

namespace Invocation

/-- The options of counting and migrating. -/
def migrateOptions (p : Parsed) : MigrateOptions where
  files := (p.value? "files").getD ""
  find := (p.value? "find").getD ""
  replace := p.value? "replace"
  lint := p.value? "lint"
  test := p.value? "test"
  stop := (p.value? "stop").bind StopPolicy.ofName?
  workspace := (p.value? "workspace").getD "."
  history := p.value? "history"
  json := p.isOn "json"

/-- The command of a command line that has been read. -/
def commandOf (p : Parsed) : Command :=
  match Action.all.find? fun a => commandName a == p.command.name with
  | some action => .migrate action (migrateOptions p)
  | none =>
    if p.command = initCommand then .init ((p.value? "path").getD ".") (p.isOn "force")
    else
      .completions (((p.value? "shell").bind CompletionShell.ofName?).getD .bash) (p.value? "out-dir")
        (p.isOn "stdout")

/-- What the words of a command line ask for. -/
def ofWords (words : List String) : Except UsageError Invocation :=
  (program.parse words).map fun p =>
    { command := commandOf p
      noColor := p.isOn "no-color"
      quiet := p.isOn "quiet"
      verbose := p.isOn "verbose" }

end Invocation

end Codemod.Cli

/-!
## The summary of a run

- `Style` — how a text is marked on a terminal
- `Summary.ofReport` — the text that is printed when a run is over
-/

namespace Codemod.Cli

/-- How a text is marked on a terminal. -/
inductive Style where
  | bold
  | red
  | green
  | yellow
deriving DecidableEq

namespace Style

/-- A control sequence with a number. -/
def sequence (number : Nat) : String := s!"\x1b[{number}m"

/-- The text under a style. -/
def apply : Style → String → String
  | bold, text => sequence 1 ++ text ++ sequence 0
  | red, text => sequence 31 ++ text ++ sequence 39
  | green, text => sequence 32 ++ text ++ sequence 39
  | yellow, text => sequence 33 ++ text ++ sequence 39

end Style

namespace Summary

/-- The text under a style, unless colours are off. -/
def styled (noColor : Bool) (style : Style) (text : String) : String :=
  if noColor then text else style.apply text

/-- The summary of a count. -/
def ofCount (noColor : Bool) (r : Migration.CountReport) : String :=
  let total := styled noColor .bold (toString r.total)
  let note := if r.cancelled then " (cancelled)" else ""
  s!"{total} pattern occurrences in {r.filesWithPatterns} of {r.filesScanned} files{note}\n"

/-- The summary of a migration. -/
def ofRun (noColor quiet : Bool) (r : Migration.RunReport) : String :=
  let mark := if r.failed = 0 then styled noColor .green "✓" else styled noColor .red "✗"
  s!"{mark} {r.processed} processed: {r.succeeded} succeeded, {r.failed} failed, {r.skipped} skipped\n"
    ++ (if quiet then "" else s!"  patterns fixed: {r.patternsFixed}, remaining: {r.remaining}\n")
    ++ (if r.cancelled then styled noColor .yellow "  run was cancelled" ++ "\n"
        else if r.stoppedEarly then "  stopped early per --stop policy\n"
        else "")

/-- The summary of a report. -/
def ofReport (noColor quiet json : Bool) (r : Migration.Report) : String :=
  if json then r.toJson.pretty ++ "\n"
  else
    match r with
    | .counted r => ofCount noColor r
    | .migrated r => ofRun noColor quiet r

end Summary

end Codemod.Cli

/-!
## The program

A command line is read and its command carried out on a file system, against an environment and a
clock that stands still.

- `Terminal` — what commands change
- `Task` — a command under way, which a failure may end
- `run` — a command line from its words to the status of the program
-/

namespace Codemod.Cli

/-- What commands change: the files and what is printed. -/
structure Terminal where
  disk : FileSystem
  /-- What is printed as the result. -/
  output : String := ""
  /-- What is said about the progress. -/
  notes : String := ""

/-- Why a command did not come to its end. -/
inductive Interruption where
  | failure (cause : Failure)
  | overflow (cause : Overflow)

/-- A command under way. -/
abbrev Task := EStateM Interruption Terminal

/-- How a program ended. -/
structure Exit where
  status : Nat
  terminal : Terminal
  /-- What is said about a failure. -/
  complaint : String := ""

/-- Takes over a result. -/
def settled {ε α : Type} (wrap : ε → Failure) : Except ε α → Task α
  | .ok value => return value
  | .error cause => throw (.failure (wrap cause))

/-- Prints to the output. -/
def print (text : String) : Task Unit := modify fun t => { t with output := t.output ++ text }

/-- Prints a line about the progress. -/
def remark (line : String) : Task Unit :=
  modify fun t => { t with notes := t.notes ++ line ++ "\n" }

/-- The agents of a run: the model's tool and the shell, which remember nothing. -/
def agents (env : Environment) (options : ClientOptions) (now : Timestamp) :
    Migration.Agents Unit where
  complete world prompt :=
    let (value, desk) := (Client.complete (Client.launch env options) options
      (Client.scratchDirectory env options) prompt).run { disk := world.disk,
                                                          memory := world.memory }
    { value, world := { world with disk := desk.disk } }
  verify world command directory :=
    let (value, disk) := Shell.Verifier.run env world.disk command directory
    { value, world := { world with disk } }
  now _ := now

/-- The lines that were logged. -/
def loggedLines (trace : List Migration.Event) : List String :=
  trace.filterMap fun
    | .log line => some line
    | _ => none

/-- The documentation for prompts; there is none where there is no workspace. -/
def contextOf (env : Environment) (fs : FileSystem) (workspace : String) (settings : Settings)
    (walker : Walker) : Except PatternError String :=
  if fs.isDirectory workspace then projectContext walker fs workspace settings.contextGlob env
  else .ok ""

/-- Runs an action: its report and the history. -/
def execute (agents : Migration.Agents Unit) (setup : Migration.Setup) (request : Request)
    (quiet : Bool) : Task (Migration.Report × History) := do
  let disk := (← get).disk
  let keep (s : Migration.Session Unit) : Task Unit := do
    modify fun t => { t with disk := s.world.disk }
    if !quiet then (loggedLines s.trace).forM remark
  match (Migration.run agents setup request).run { world := ⟨disk, ()⟩ } with
  | .ok result s =>
    keep s
    return (← settled Failure.run result, s.history)
  | .error cause s =>
    keep s
    throw (.overflow cause)

/-- Counts or migrates. -/
def migrate (env : Environment) (now : Timestamp) (i : Invocation) (action : Action)
    (options : MigrateOptions) : Task Unit := do
  let workspace ← settled Failure.workspace (Workspace.resolve env options.workspace)
  let disk := (← get).disk
  let settings ← settled Failure.settings (Settings.load env disk workspace)
  let request ← settled Failure.options (options.request action settings.commands)
  let walker ← settled Failure.pattern (Walker.ofPatterns settings.ignorePatterns)
  let context ← settled Failure.pattern (contextOf env disk workspace settings walker)
  let setup : Migration.Setup :=
    { workspace, context, walker, maxFixAttempts := settings.verify.maxFixAttempts
      credential := settings.tool.credential, environment := env }
  let agents := agents env (settings.tool.clientOptions workspace) now
  let (report, history) ← execute agents setup request i.quiet
  match options.history, report with
  | some path, .migrated _ =>
    let disk ← settled Failure.history (history.write (← get).disk path)
    modify fun t => { t with disk }
  | _, _ => pure ()
  print (Summary.ofReport i.noColor i.quiet options.json report)

/-- Writes a settings file. -/
def initialise (i : Invocation) (directory : String) (force : Bool) : Task Unit := do
  let disk ← settled Failure.init (Settings.create (← get).disk directory force)
  modify fun t => { t with disk }
  if !i.quiet then print s!"Created config file at {Settings.createdPath directory}\n"

/-- Prints completions or writes them into a directory. -/
def complete (i : Invocation) (shell : CompletionShell) (directory : Option String)
    (toOutput : Bool) : Task Unit := do
  if toOutput then print (Completion.script shell)
  else
    let (path, disk) ← settled id (Completion.write (← get).disk shell directory)
    modify fun t => { t with disk }
    if !i.quiet then remark s!"Wrote completion to {path}"

/-- Carries out what a command line asks for. -/
def perform (env : Environment) (now : Timestamp) (i : Invocation) : Task Unit :=
  match i.command with
  | .migrate action options => migrate env now i action options
  | .init directory force => initialise i directory force
  | .completions shell directory toOutput => complete i shell directory toOutput

/-- The end of a program whose command line gave nothing to do. -/
def exitOfUsage (disk : FileSystem) (e : UsageError) : Exit :=
  match e with
  | .helpWanted command => ⟨0, { disk, output := program.helpText command }, ""⟩
  | .versionWanted => ⟨0, { disk, output := program.versionText }, ""⟩
  | .nothingWanted => ⟨2, { disk }, program.helpText none⟩
  | e => ⟨2, { disk }, program.complaint e⟩

/-- Runs the program with the words of a command line. -/
def run (env : Environment) (now : Timestamp) (disk : FileSystem) (words : List String) : Exit :=
  match Invocation.ofWords words with
  | .error e => exitOfUsage disk e
  | .ok i =>
    match (perform env now i).run { disk } with
    | .ok () terminal => ⟨0, terminal, ""⟩
    | .error (.failure e) terminal => ⟨1, terminal, e.report⟩
    | .error (.overflow e) terminal => ⟨101, terminal, e.message ++ "\n"⟩

end Codemod.Cli
