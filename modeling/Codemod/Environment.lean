import Codemod.Text.Quoted
import Codemod.Text.Utf8

/-!
# Environment variables and their expansion

The environment is a list of named values. A text is expanded against it in two passes: first the
references to variables, then a tilde at the front. A value is never expanded again.

- `Environment` — the variables, with `get?`, `set`, `unset`
- `Environment.home` — the user's directory
- `SystemEnvironment` — the variables as the system keeps them, with `text?`
- `Expansion.Error` — a reference to a variable that is not set
- `Environment.expandVariables`, `Environment.expandTilde`, `Environment.expand`
-/

namespace Codemod

/-- Named values, each name at most once when built by `set`. -/
structure Environment where
  bindings : List (String × String) := []
deriving DecidableEq, Repr

namespace Environment

/-- The value of a variable. -/
def get? (env : Environment) (name : String) : Option String := env.bindings.lookup name

/-- The environment without a variable. -/
def unset (env : Environment) (name : String) : Environment :=
  ⟨env.bindings.filter (·.1 != name)⟩

/-- The environment in which a variable has a value. -/
def set (env : Environment) (name value : String) : Environment :=
  ⟨(env.unset name).bindings ++ [(name, value)]⟩

/-- The directory of the superuser, for when the environment names none. -/
def defaultHome : String := "/root"

/-- The user's directory: `HOME`, unless it is missing or empty. -/
def home (env : Environment) : String :=
  match env.get? "HOME" with
  | some "" | none => defaultHome
  | some path => path

end Environment

/-- Named values as the system keeps them: a value is any sequence of bytes. -/
structure SystemEnvironment where
  bindings : List (String × ByteArray) := []
deriving DecidableEq

namespace SystemEnvironment

/-- The value of a variable that is set, if it is a text. -/
def text? (env : SystemEnvironment) (name : String) : Option String :=
  (env.bindings.lookup name).bind String.fromUTF8?

end SystemEnvironment

/-- An environment of texts as the system keeps it. -/
def Environment.toSystem (env : Environment) : SystemEnvironment :=
  ⟨env.bindings.map fun (name, value) => (name, value.toUTF8)⟩

instance : Coe Environment SystemEnvironment := ⟨Environment.toSystem⟩

/-- The system's view of an environment of texts shows the same values. -/
@[simp] theorem Environment.toSystem_text? (env : Environment) (name : String) :
    env.toSystem.text? name = env.get? name := by
  unfold SystemEnvironment.text? get? toSystem
  induction env.bindings with
  | nil => rfl
  | cons binding rest ih =>
    obtain ⟨other, value⟩ := binding
    rw [List.map_cons, List.lookup_cons, List.lookup_cons]
    split
    · exact Text.fromUTF8?_toUTF8 value
    · exact ih

/-- A reference to a variable that is not set. -/
structure ExpansionError where
  name : String
deriving DecidableEq, Repr

namespace ExpansionError

/-- Why a look-up has no value. -/
def reason : String := "environment variable not found"

/-- How the error is reported. -/
def message (e : ExpansionError) : String := s!"error looking key '{e.name}' up: {reason}"

end ExpansionError

namespace Expansion

/-- What stands at a place of a text that is expanded. -/
inductive Piece where
  | plain (text : List Char)
  | variable (name : List Char) (default : Option (List Char))
deriving DecidableEq, Repr

/-- Splits a list at the first place where a pair of characters stands, which is dropped. -/
def splitAtPair? (a b : Char) : List Char → Option (List Char × List Char)
  | x :: y :: rest =>
    if x == a && y == b then some ([], rest)
    else (splitAtPair? a b (y :: rest)).map fun (before, after) => (x :: before, after)
  | _ => none

/-- The reference inside braces: a name, and a default after the first `:-`. A default needs a
name. -/
def braced (inner : List Char) : Piece :=
  match splitAtPair? ':' '-' inner with
  | some (name@(_ :: _), default) => .variable name (some default)
  | _ => .variable inner none

/-- The piece after a dollar sign, and what follows it. An unclosed brace and a dollar sign without
a name are plain; a second dollar sign is dropped. -/
def afterDollar : List Char → Piece × List Char
  | '{' :: rest =>
    if rest.contains '}' then
      (braced (rest.takeWhile (· != '}')), (rest.dropWhile (· != '}')).drop 1)
    else (.plain ['$', '{'], rest)
  | '$' :: rest => (.plain ['$'], rest)
  | c :: rest =>
    if Text.isNameCharacter c then
      (.variable (c :: rest.takeWhile Text.isNameCharacter) none,
        rest.dropWhile Text.isNameCharacter)
    else (.plain ['$'], c :: rest)
  | [] => (.plain ['$'], [])

/-- Dropping a part of a list does not make it longer. -/
theorem length_dropWhile_le {α : Type} (p : α → Bool) (xs : List α) :
    (xs.dropWhile p).length ≤ xs.length :=
  (List.dropWhile_sublist p).length_le

/-- What follows the piece after a dollar sign is a part of what followed the sign. -/
theorem length_afterDollar_le (cs : List Char) : (afterDollar cs).2.length ≤ cs.length := by
  unfold afterDollar
  split
  · split
    · simp only [List.length_drop, List.length_cons]
      have := length_dropWhile_le (· != '}') ‹List Char›
      omega
    · simp
  · simp
  · split
    · have := length_dropWhile_le Text.isNameCharacter ‹List Char›
      simp only [List.length_cons]
      omega
    · simp
  · simp

/-- The pieces of a text, from left to right. -/
def pieces : List Char → List Piece
  | '$' :: rest => (afterDollar rest).1 :: pieces (afterDollar rest).2
  | c :: rest => .plain [c] :: pieces rest
  | [] => []
termination_by cs => cs.length
decreasing_by
  · have := length_afterDollar_le rest
    simp only [List.length_cons]
    omega
  · simp

/-- The text of a piece. -/
def Piece.value (env : Environment) : Piece → Except ExpansionError String
  | .plain text => .ok (String.ofList text)
  | .variable name default =>
    match env.get? (String.ofList name), default with
    | some value, _ => .ok value
    | none, some default => .ok (String.ofList default)
    | none, none => .error ⟨String.ofList name⟩

end Expansion

namespace Environment

/-- The text with the values of the variables it refers to. -/
def expandVariables (env : Environment) (text : String) : Except ExpansionError String := do
  let values ← (Expansion.pieces text.toList).mapM (Expansion.Piece.value env)
  return String.join values

/-- The text with the user's directory for a tilde that is the first component of the path. -/
def expandTilde (env : Environment) (text : String) : String :=
  match text.toList with
  | '~' :: rest =>
    if rest.isEmpty || rest.head? == some '/' then env.home ++ String.ofList rest else text
  | _ => text

/-- The text with its variables and its tilde expanded. A tilde that a value brought in stays. -/
def expand (env : Environment) (text : String) : Except ExpansionError String := do
  let expanded ← env.expandVariables text
  return if text.startsWith "~" then env.expandTilde expanded else expanded

end Environment

end Codemod

/-!
## The workspace named by a user

- `Workspace.resolve` — the path that a user's text stands for
- `WorkspaceError` — why it stands for none
-/

namespace Codemod

/-- A workspace path that refers to a variable that is not set. -/
structure WorkspaceError where
  raw : String
  cause : ExpansionError
deriving DecidableEq, Repr

namespace WorkspaceError

/-- How the error is reported. -/
def message (e : WorkspaceError) : String := s!"Failed to expand workspace path: {e.raw}"

/-- The causes of the error, outermost first. -/
def causes (e : WorkspaceError) : List String := [e.cause.message, ExpansionError.reason]

end WorkspaceError

namespace Workspace

/-- The path of the workspace that a user wrote, with variables and tilde expanded. -/
def resolve (env : Environment) (raw : String) : Except WorkspaceError String :=
  (env.expand raw).mapError fun cause => ⟨raw, cause⟩

end Workspace

end Codemod
