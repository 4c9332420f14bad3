import Codemod.Text.Blank

/-!
# What a run is asked to do

- `Action`, `StopPolicy` — what to do and when to stop
- `Request` — the input of a run
- `Request.missing` — required texts that are blank
-/

namespace Codemod

/-- When a run stops by itself. -/
inductive StopPolicy where
  /-- After the first file whose change was verified. -/
  | afterEachFix
  /-- After the first file that was processed. -/
  | afterEachFile
  /-- After the last file. -/
  | whenComplete
deriving DecidableEq, Inhabited

namespace StopPolicy

/-- All policies. -/
def all : List StopPolicy := [afterEachFix, afterEachFile, whenComplete]

/-- The policy as an option value. -/
def name : StopPolicy → String
  | afterEachFix => "after-each-fix"
  | afterEachFile => "after-each-file"
  | whenComplete => "when-complete"

/-- The policy of a name. -/
def ofName? (name : String) : Option StopPolicy := all.find? fun p => p.name == name

end StopPolicy

/-- What a run does. -/
inductive Action where
  | countOnly
  | migrateOneFile
  | migrateAllFiles
deriving DecidableEq, Inhabited

namespace Action

/-- All actions. -/
def all : List Action := [countOnly, migrateOneFile, migrateAllFiles]

/-- The action as a value of the request format. -/
def name : Action → String
  | countOnly => "count-only"
  | migrateOneFile => "migrate-one-file"
  | migrateAllFiles => "migrate-all-files"

/-- The action of a name. -/
def ofName? (name : String) : Option Action := all.find? fun a => a.name == name

/-- The stop policy when none is chosen. -/
def defaultStopPolicy : Action → StopPolicy
  | migrateOneFile => .afterEachFile
  | countOnly | migrateAllFiles => .whenComplete

end Action

/-- The input of a run. -/
structure Request where
  lintCommand : String
  testCommand : String
  fileGlob : String
  find : String
  replace : String
  stopPolicy : StopPolicy
  action : Action
deriving DecidableEq, Inhabited

namespace Request

/-- The texts that an action requires, by option name. -/
def required (r : Request) : List (String × String) :=
  [("files", r.fileGlob), ("find", r.find)]
    ++ if r.action = .countOnly then []
       else [("lint", r.lintCommand), ("test", r.testCommand), ("replace", r.replace)]

/-- The names of required texts that are blank. -/
def missing (r : Request) : List String :=
  (r.required.filter fun entry => Text.isBlankText entry.2).map Prod.fst

end Request

end Codemod

/-!
## Requests from options

The options of a command become a request; commands that are not given come from the configuration.
-/

namespace Codemod

/-- The options of the counting and migrating commands. -/
structure MigrateOptions where
  files : String
  find : String
  replace : Option String := none
  lint : Option String := none
  test : Option String := none
  stop : Option StopPolicy := none
  workspace : String := "."
  history : Option String := none
  json : Bool := false
deriving DecidableEq

/-- Commands to use when an option does not give them. -/
structure DefaultCommands where
  lint : Option String := none
  test : Option String := none
deriving DecidableEq

/-- Required options that are blank. -/
structure MissingOptions where
  names : List String
deriving DecidableEq

/-- How missing options are reported. -/
def MissingOptions.message (e : MissingOptions) : String :=
  "missing required options: " ++ String.intercalate ", " (e.names.map fun name => "--" ++ name)

namespace MigrateOptions

/-- The request of an action with these options, complete or not. -/
def draft (o : MigrateOptions) (action : Action) (commands : DefaultCommands) : Request where
  lintCommand := (o.lint <|> commands.lint).getD ""
  testCommand := (o.test <|> commands.test).getD ""
  fileGlob := o.files
  find := o.find
  replace := o.replace.getD ""
  stopPolicy := o.stop.getD action.defaultStopPolicy
  action := action

/-- The request of an action with these options. -/
def request (o : MigrateOptions) (action : Action) (commands : DefaultCommands) :
    Except MissingOptions Request :=
  let r := o.draft action commands
  if r.missing.isEmpty then .ok r else .error ⟨r.missing⟩

end MigrateOptions

end Codemod
