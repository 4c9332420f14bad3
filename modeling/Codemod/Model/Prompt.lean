import Codemod.Text.Blank
import Codemod.Walk

/-!
# Project documentation for prompts

Every prompt carries the project's documentation: the matching files of the workspace, each under a
heading that names it. Files that cannot be read are passed over.
-/

namespace Codemod

/-- The section of one document. -/
def documentSection (label text : String) : String :=
  "# " ++ label ++ "\n" ++ Text.trimmedEnd text ++ "\n\n"

/-- The documentation below a root: all files that match the pattern and can be read. -/
def projectContext (w : Walker) (fs : FileSystem) (root pattern : String)
    (env : SystemEnvironment := {}) : Except PatternError String :=
  (w.matching fs root pattern env).map fun locs =>
    String.join <| locs.filterMap fun loc =>
      match fs.readString (Path.join root (Location.text loc)) with
      | .ok text => some (documentSection (Location.text loc) text)
      | .error _ => none

end Codemod

/-!
## Prompts

A prompt names the task, gives the project's documentation and the file's label, and then the
contents in fenced blocks. The first block always holds what the model is asked about; a prompt for
a repair adds the attempted content and the failure output after it.

- `Brief` — what every prompt of a request repeats
- `Prompt.count`, `Prompt.transform`, `Prompt.fix` — the three kinds of prompt
-/

namespace Codemod

/-- Which verification a command belongs to. -/
inductive Stage where
  | lint
  | test
deriving DecidableEq, Inhabited

namespace Stage

/-- The stage in running text. -/
def name : Stage → String
  | lint => "lint"
  | test => "test"

/-- The stage at the beginning of a line. -/
def label : Stage → String
  | lint => "Linter"
  | test => "Tests"

/-- The stage as an activity. -/
def activity : Stage → String
  | lint => "linter"
  | test => "tests"

end Stage

/-- The texts of a request that its prompts repeat. -/
structure Brief where
  find : String
  replace : String
  context : String

namespace Prompt

/-- What stands for missing documentation. -/
def noContext : String := "No project context files found."

/-- The beginning of every prompt. -/
def header (task context : String) : String :=
  let shown := if Text.isBlankText context then noContext else context
  "You are an expert " ++ task ++ "\n\n# Project context:\n" ++ shown ++ "\n\n"

/-- A section that names the file. -/
def fileSection (title label : String) : String := "# " ++ title ++ ":\n" ++ label ++ "\n\n"

/-- A titled block between fences. -/
def block (title body : String) : String := "# " ++ title ++ ":\n```\n" ++ body ++ "\n```\n\n"

/-- Asks how often `find` occurs in the content. -/
def count (content find label context : String) : String :=
  header "code analyzer. Your task is to count how many instances of a specific pattern exist in the code."
      context
    ++ fileSection "File to analyze" label
    ++ block "Current content" content
    ++ "# Pattern to find:\n" ++ find ++ "\n\n"
    ++ "Count how many instances of the specified pattern exist.\n"
    ++ "Return ONLY a single number representing the count, with no additional text or explanation.\n"

/-- Asks for the content transformed as the brief says. -/
def transform (content label : String) (brief : Brief) : String :=
  header "code refactoring assistant. Your task is to migrate code from one pattern to another."
      brief.context
    ++ fileSection "File to refactor" label
    ++ block "Current content" content
    ++ "# Pattern to find:\n" ++ brief.find ++ "\n\n# How to replace:\n" ++ brief.replace ++ "\n\n"
    ++ "Refactor the code according to the specified pattern. "
    ++ "Return ONLY the refactored code without any explanations or markdown formatting.\n"

/-- The task of a repair. -/
def fixTask : Stage → String
  | .lint =>
    "code refactoring assistant. Your task is to fix linter/compiler errors in code that was just refactored."
  | .test =>
    "code refactoring assistant. Your task is to fix test failures in code that was just refactored."

/-- The title of the content that failed. -/
def failingTitle : Stage → String
  | .lint => "Refactored content with linter errors"
  | .test => "Refactored content with test failures"

/-- The title of the failure output. -/
def outputTitle : Stage → String
  | .lint => "Linter/compiler errors"
  | .test => "Test failure output"

/-- What is to be repaired. -/
def failures : Stage → String
  | .lint => "linter/compiler errors"
  | .test => "test failures"

/-- Asks for a repair of the attempted content, given the output of the failed stage and the content
before the migration. -/
def fix (stage : Stage) (initial attempted label output : String) (brief : Brief) : String :=
  header (fixTask stage) brief.context
    ++ fileSection "File that was refactored" label
    ++ block "Original content before refactoring" initial
    ++ block (failingTitle stage) attempted
    ++ block (outputTitle stage) output
    ++ "# Pattern that was being migrated:\n" ++ brief.find
    ++ "\n\n# How it was replaced:\n" ++ brief.replace ++ "\n\n"
    ++ "Fix the " ++ failures stage ++ " while preserving the intent of the refactoring. "
    ++ "Return ONLY the fixed code without any explanations or markdown formatting.\n"

end Prompt

end Codemod
