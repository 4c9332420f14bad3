import Codemod.Json.Printer
import Codemod.Settings.Load

/-!
# Writing a settings file

- `Settings.document` — the text of a settings file with given settings
- `Settings.create` — writes the default settings into a directory
- `Settings.CreateError` — why that failed
-/

namespace Codemod.Settings

/-! ### The document -/

/-- A text between quotes. -/
def quotedText (s : String) : String := String.ofList (Json.quote s)

/-- A line that assigns a value. -/
def assignment (key value : String) : String := key ++ " = " ++ value ++ "\n"

/-- A line that assigns a value, if there is one. -/
def optionalAssignment (key : String) (value : Option String) : String :=
  match value with
  | some text => assignment key (quotedText text)
  | none => ""

/-- A list of texts, one a line. -/
def textList (texts : List String) : String :=
  if texts.isEmpty then "[]"
  else "[\n" ++ String.join (texts.map fun t => "    " ++ quotedText t ++ ",\n") ++ "]"

/-- The lines of the tool's section. -/
def toolLines (s : ToolSettings) : String :=
  assignment "program" (quotedText s.program)
    ++ assignment "args" (textList s.arguments)
    ++ assignment "timeout_secs" (toString s.timeoutSeconds.toNat)
    ++ assignment "heartbeat_secs" (toString s.heartbeatSeconds.toNat)
    ++ assignment "max_attempts" (toString s.maxAttempts.toNat)
    ++ assignment "retry_backoff_ms" (toString s.retryBackoffMilliseconds.toNat)
    ++ optionalAssignment "scratch_dir" s.scratchDirectory
    ++ optionalAssignment "api_key_env" s.credential

/-- The text of a settings file. Settings that are not set are left out. -/
def document (s : Settings) : String :=
  assignment "ignore_patterns" (textList s.ignorePatterns)
    ++ assignment "context_glob" (quotedText s.contextGlob)
    ++ "\n[llm]\n" ++ toolLines s.tool
    ++ "\n[verify]\n" ++ assignment "max_fix_attempts" (toString s.verify.maxFixAttempts.toNat)
    ++ "\n[commands]\n" ++ optionalAssignment "lint" s.commands.lint
    ++ optionalAssignment "test" s.commands.test

/-! ### Creating a settings file -/

/-- Why no settings file was created. -/
inductive CreateError where
  | alreadyThere (path : String)
  | notWritten (cause : SystemError)
deriving DecidableEq

namespace CreateError

/-- How the error is reported. -/
def message : CreateError → String
  | alreadyThere path => s!"Config file already exists at {path}. Use --force to overwrite."
  | notWritten _ => "Failed to write config file"

/-- The causes of the error. -/
def causes : CreateError → List String
  | alreadyThere _ => []
  | notWritten cause => [cause.message]

end CreateError

/-- The path of the settings file that is created in a directory. -/
def createdPath (directory : String) : String := Path.join directory "gfactor.toml"

/-- Writes the default settings into a directory. A file that is there is overwritten only when
forced. -/
def create (fs : FileSystem) (directory : String) (force : Bool) : Except CreateError FileSystem :=
  let path := createdPath directory
  if fs.pathExists path && !force then .error (.alreadyThere path)
  else (fs.writeBytes path (document {}).toUTF8).mapError .notWritten

end Codemod.Settings
