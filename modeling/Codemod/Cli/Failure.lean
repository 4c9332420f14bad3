import Codemod.Burndown.Json
import Codemod.Cli.Parse
import Codemod.Environment
import Codemod.Migration.Run
import Codemod.Request.Basic
import Codemod.Settings.Document

/-!
# The command line of the program

- `CompletionShell` — the shells for which there are completions
- `program` — the program, its commands and their flags
-/

namespace Codemod.Cli

/-- A shell for which completions can be written. -/
inductive CompletionShell where
  | bash
  | zsh
  | fish
  | powerShell
  | elvish
deriving DecidableEq, Inhabited

namespace CompletionShell

/-- All shells. -/
def all : List CompletionShell := [bash, zsh, fish, powerShell, elvish]

/-- The shell as a value on the command line. -/
def name : CompletionShell → String
  | bash => "bash"
  | zsh => "zsh"
  | fish => "fish"
  | powerShell => "power-shell"
  | elvish => "elvish"

/-- The shell as its makers write it. -/
def title : CompletionShell → String
  | bash => "Bash"
  | zsh => "Zsh"
  | fish => "Fish"
  | powerShell => "PowerShell"
  | elvish => "Elvish"

/-- The shell of a name. -/
def ofName? (name : String) : Option CompletionShell := all.find? fun s => s.name == name

end CompletionShell

/-- What a stop policy means. -/
def stopHelp : StopPolicy → String
  | .afterEachFix => "Stop after the first file whose fix was verified"
  | .afterEachFile => "Stop after the first file that was processed, success or not"
  | .whenComplete => "Process every file"

/-- The flags of counting and migrating. -/
def migrateFlags : List Flag :=
  [{ name := "files", isRequired := true, value := some { label := "GLOB" }
     help := "Glob selecting the files to migrate (e.g. \"src/**/*.ts\")" },
   { name := "find", isRequired := true, value := some { label := "TEXT" }
     help := "Natural-language description of the code to find" },
   { name := "replace", value := some { label := "TEXT" }
     help := "Natural-language description of the replacement" },
   { name := "lint", value := some { label := "CMD" }
     help := "Lint/compile command; defaults to [commands].lint in the config" },
   { name := "test", value := some { label := "CMD" }
     help := "Test command; defaults to [commands].test in the config" },
   { name := "stop"
     value := some { label := "STOP",
                     kind := .choice (StopPolicy.all.map fun p => ⟨p.name, stopHelp p⟩) }
     help := "When to stop; defaults depend on the subcommand" },
   { name := "workspace", value := some { label := "WORKSPACE", default := some "." }
     help := "Workspace root (`~` and `$VAR` are expanded)" },
   { name := "history", value := some { label := "PATH", kind := .path }
     help := "Write the burndown history as JSON to this path" },
   { name := "json", help := "Print the final report as JSON" }]

/-- The word for an action on the command line. -/
def commandName : Action → String
  | .countOnly => "count"
  | .migrateOneFile => "migrate-one"
  | .migrateAllFiles => "migrate-all"

/-- What an action does. -/
def actionHelp : Action → String
  | .countOnly => "Count pattern occurrences across the matching files"
  | .migrateOneFile => "Migrate the first file that contains the pattern"
  | .migrateAllFiles => "Migrate every matching file"

/-- The command that writes a settings file. -/
def initCommand : CommandSpec where
  name := "init"
  help := "Initialize a gfactor.toml config file"
  flags := [{ name := "force", help := "Overwrite existing config file" }]
  positional := some
    { name := "path", help := "Directory to initialize config in"
      value := { label := "PATH", kind := .path, default := some "." } }

/-- The command that writes completions. -/
def completionsCommand : CommandSpec where
  name := "completions"
  help := "Generate shell completions"
  flags :=
    [{ name := "out-dir", value := some { label := "OUT_DIR", kind := .path }
       help := "Output directory; if omitted and --stdout not set, prints error" },
     { name := "stdout", help := "Print completion script to stdout instead of a file" }]
  positional := some
    { name := "shell", help := "Target shell", isRequired := true
      value := { label := "SHELL", kind := .choice (CompletionShell.all.map fun s =>
        ⟨s.name, ""⟩) } }

/-- The program. -/
def program : ProgramSpec where
  name := "gfactor"
  version := "0.1.0"
  help := "LLM-driven code migration: count, rewrite, lint, test, and revert on failure"
  globals :=
    [{ name := "no-color", help := "Disable colored output" },
     { name := "quiet", help := "Only print warnings and the final summary",
       conflicts := ["verbose"] },
     { name := "verbose", letter := some 'v', help := "Include debug diagnostics in the log" }]
  commands :=
    Action.all.map (fun a => ⟨commandName a, actionHelp a, migrateFlags, none⟩)
      ++ [initCommand, completionsCommand]

end Codemod.Cli

/-!
## Failures of a command

- `Failure` — why a command failed
- `Failure.message`, `Failure.causes` — what is said about it
- `Failure.report` — the text that is printed
-/

namespace Codemod.Cli

/-- Why a command failed. -/
inductive Failure where
  | workspace (cause : WorkspaceError)
  | settings (cause : Settings.LoadError)
  | options (cause : MissingOptions)
  | pattern (cause : PatternError)
  | run (cause : Migration.RunError)
  | history (cause : History.WriteError)
  | init (cause : Settings.CreateError)
  /-- Completions were asked for without a place for them. -/
  | noDirectory
  | directory (path : String) (cause : SystemError)
  | completions (shell : CompletionShell) (directory : String) (cause : SystemError)

namespace Failure

/-- What failed. -/
def message : Failure → String
  | workspace e => e.message
  | settings e => e.message
  | options e => e.message
  | pattern e => e.message
  | run e => e.message
  | history e => e.message
  | init e => e.message
  | noDirectory => "--out-dir is required unless --stdout is set"
  | directory path _ => s!"Failed to create {path}"
  | completions shell path _ => s!"Failed to write {shell.title} completions to {path}"

/-- Why it failed, outermost cause first. -/
def causes : Failure → List String
  | workspace e => e.causes
  | settings e => e.causes
  | options _ | noDirectory => []
  | pattern e => [e.cause.message]
  | run e => e.causes
  | history e => [e.cause.message]
  | init e => e.causes
  | .directory _ cause | .completions _ _ cause => [cause.message]

/-- A text whose later lines are set in by so many blanks. -/
def setIn (width : Nat) (text : String) : String :=
  Text.replaceAll "\n" (String.ofList ('\n' :: List.replicate width ' ')) text

/-- The lines of the causes: numbered when there are several. -/
def causeLines : List String → List String
  | [] => []
  | [cause] => ["    " ++ setIn 4 cause]
  | causes =>
    causes.mapIdx fun n cause =>
      let number := toString n
      String.ofList (List.replicate (5 - number.length) ' ') ++ number ++ ": " ++ setIn 7 cause

/-- The report of a failure. -/
def report (e : Failure) : String :=
  let causes := causeLines e.causes
  let list :=
    if causes.isEmpty then ""
    else "\n\nCaused by:" ++ String.join (causes.map fun line => "\n" ++ line)
  "Error: " ++ e.message ++ list ++ "\n"

end Failure

end Codemod.Cli
