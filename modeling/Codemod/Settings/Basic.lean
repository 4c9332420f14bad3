import Codemod.Client.Call
import Codemod.Json.Basic
import Codemod.Request.Basic
import Codemod.Walk

/-!
# Settings

The settings of a workspace, grouped in sections. Every setting has a default.

- `Settings`, `ToolSettings`, `VerifySettings` — the settings
- `Settings.toJson` — all settings, those that are not set as null
- `ToolSettings.clientOptions` — how the tool is launched for a workspace
-/

namespace Codemod

/-- The settings of the model's tool. -/
structure ToolSettings where
  program : String := "claude"
  arguments : List String := ClientOptions.defaultArguments
  timeoutSeconds : UInt64 := 300
  heartbeatSeconds : UInt64 := 10
  /-- Launches for one question, the first one included. -/
  maxAttempts : UInt32 := 4
  retryBackoffMilliseconds : UInt64 := 500
  scratchDirectory : Option String := none
  /-- The environment variable that must hold the tool's credential. -/
  credential : Option String := none
deriving DecidableEq

/-- The settings of the fix loop. -/
structure VerifySettings where
  maxFixAttempts : UInt32 := 5
deriving DecidableEq

/-- The settings of a workspace. -/
structure Settings where
  /-- Files to leave out, beyond those that the ignore files name. -/
  ignorePatterns : List String := Walker.defaultIgnores
  /-- The documentation that every prompt includes. -/
  contextGlob : String := "**/*.mdc"
  tool : ToolSettings := {}
  verify : VerifySettings := {}
  commands : DefaultCommands := {}
deriving DecidableEq

namespace ToolSettings

/-- How the tool is launched when it works inside a directory. -/
def clientOptions (s : ToolSettings) (workingDirectory : String) : ClientOptions where
  program := s.program
  arguments := s.arguments
  timeout := .ofSeconds s.timeoutSeconds
  heartbeat := .ofSeconds s.heartbeatSeconds
  retry := (RetryPolicy.attempts s.maxAttempts).withBackoff
    (.ofMilliseconds s.retryBackoffMilliseconds)
  scratchDirectory := s.scratchDirectory
  workingDirectory := some workingDirectory

/-- The section's settings as a record. -/
def toJson (s : ToolSettings) : Json :=
  .object [("program", .string s.program), ("args", .array (s.arguments.map .string)),
    ("timeout_secs", .int s.timeoutSeconds.toNat),
    ("heartbeat_secs", .int s.heartbeatSeconds.toNat), ("max_attempts", .int s.maxAttempts.toNat),
    ("retry_backoff_ms", .int s.retryBackoffMilliseconds.toNat),
    ("scratch_dir", (s.scratchDirectory.map Json.string).getD .null),
    ("api_key_env", (s.credential.map Json.string).getD .null)]

end ToolSettings

/-- The section's settings as a record. -/
def VerifySettings.toJson (s : VerifySettings) : Json :=
  .object [("max_fix_attempts", .int s.maxFixAttempts.toNat)]

/-- The section's settings as a record. -/
def DefaultCommands.toJson (s : DefaultCommands) : Json :=
  .object [("lint", (s.lint.map Json.string).getD .null),
    ("test", (s.test.map Json.string).getD .null)]

namespace Settings

/-- All settings as a record. -/
def toJson (s : Settings) : Json :=
  .object [("ignore_patterns", .array (s.ignorePatterns.map .string)),
    ("context_glob", .string s.contextGlob), ("llm", s.tool.toJson), ("verify", s.verify.toJson),
    ("commands", s.commands.toJson)]

end Settings

end Codemod
