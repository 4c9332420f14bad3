import Codemod.Shell.Machine
import Codemod.Shell.Tool.Catalogue

/-!
# What a name means

A name is a function, a command of the shell itself, or a program: one that is kept in one of the
usual places, or a file that may be executed.

- `Lookup.program` — the program of a name
- `Lookup.find` — what a name means to a shell
- `Lookup.describe`, `Lookup.locate` — what a shell says about a name
-/

namespace Codemod.Shell

/-- A program. -/
inductive Program where
  /-- One that is kept in one of the usual places. -/
  | kept (name : String)
  /-- A file with what it holds. -/
  | file (bytes : ByteArray)

/-- What a name means to a shell. -/
inductive Meaning where
  | function (body : Command)
  /-- A command of the shell itself. -/
  | builtIn (name : String)
  /-- A program with its path. -/
  | program (path : String) (program : Program)
  /-- It cannot be run: what is said about it, and the status. -/
  | failed (text : String) (status : Nat)

namespace Lookup

/-- The directories where programs are kept. -/
def places : List String := ["/usr/bin", "/bin"]

/-- Words that are a part of the language. -/
def keywords : List String :=
  ["!", "\x7b", "\x7d", "case", "do", "done", "elif", "else", "esac", "fi", "for", "if", "in",
    "then",
    "until", "while"]

/-- Commands of the shell that change the shell. -/
def special : List String :=
  [".", ":", "break", "continue", "eval", "exec", "exit", "export", "readonly", "return", "set",
    "shift",
    "times", "trap", "unset"]

/-- Other commands of the shell. -/
def ordinary : List String :=
  ["[", "alias", "bg", "cd", "command", "echo", "false", "fg", "getopts", "hash", "jobs", "kill",
    "local", "printf", "pwd", "read", "test", "true", "type", "ulimit", "umask", "unalias", "wait"]

/-- Words that are a part of the rich language alone. -/
def richKeywords : List String := ["[[", "]]", "coproc", "function", "select", "time"]

/-- Commands that only a shell of the rich language has. -/
def richOnly : List String :=
  ["bind", "builtin", "caller", "compgen", "complete", "compopt", "declare", "dirs", "disown",
    "enable",
    "fc", "help", "history", "let", "logout", "mapfile", "popd", "pushd", "readarray", "shopt",
      "source",
    "suspend", "typeset"]

/-- A command of the shell has the name. -/
def isOwn (m : Machine) (name : String) : Bool :=
  special.contains name || ordinary.contains name || (m.rich.isOn && richOnly.contains name)

/-- Programs that run others or that wait. -/
def runners : List String :=
  ["awk", "bash", "dash", "env", "find", "kill", "mawk", "nawk", "nice", "nohup", "rbash", "setsid", "sh",
    "sleep",
    "stdbuf", "timeout", "which", "xargs"]

/-- A program of this name is kept in the usual places. -/
def isKept (name : String) : Bool := runners.contains name || (Tool.find? name).isSome

/-- The name of a program without the directory where programs are kept. -/
def kept? (path : String) : Option String :=
  let below (place : String) : Option String :=
    if path.startsWith (place ++ "/") then
      some (String.ofList (path.toList.drop (place.length + 1)))
    else none
  (places.findSome? below).filter isKept

/-- The permission to execute, for anyone. -/
def mayExecute (mode : Nat) : Bool := mode &&& 0o111 != 0

/-- The program at a path. -/
def atPath (disk : FileSystem) (path : String) : Except SystemError Program :=
  match disk.find path with
  | .ok (loc, .file bytes) =>
    if mayExecute (disk.mode loc (.file bytes)) then .ok (.file bytes) else .error .denied
  | .ok _ => .error .denied
  | .error cause =>
    match kept? path with
    | some name => .ok (.kept name)
    | none => .error cause

/-- The first program among directories, or the worst that was found there. -/
def among (disk : FileSystem) (name : String) (worst : SystemError) :
    List String → Except SystemError (String × Program)
  | [] => .error worst
  | directory :: rest =>
    let path := if directory.isEmpty then name else Path.join directory name
    match atPath disk path with
    | .ok program => .ok (path, program)
    | .error cause =>
      among disk name (if cause == .notFound || cause == .notDirectory then worst else cause) rest

/-- The program that a name or path means, with its path. Without directories to search, only a path
means one. -/
def program (searched : Option String) (disk : FileSystem) (name : String) :
    Except SystemError (String × Program) :=
  if name.toList.contains '/' then (atPath disk name).map fun program => (name, program)
  else if name.isEmpty then .error .notFound
  else if FileSystem.maxNameBytes < name.utf8ByteSize then .error .nameTooLong
  else
    match searched with
    | none => .error .notFound
    | some path => among disk name .notFound ((path.toList.splitOn ':').map String.ofList)

/-- Where a shell looks for programs. -/
def searched (m : Machine) : Option String := (m.get? "PATH".toList).map Octets.toText

/-- What a name means to a shell. -/
def find (m : Machine) (name : Octets) : Meaning :=
  match m.functions.lookup name with
  | some body => .function body
  | none =>
    if isOwn m name.toText then .builtIn name.toText
    else if name.isEmpty then
      if m.rich.isOn then .failed "command not found" 127 else .failed "Permission denied" 127
    else
      match program (searched m) m.disk name.toText with
      | .ok (path, program) => .program path program
      | .error cause =>
        if m.rich.isOn then
          if !name.contains '/' && cause == .notFound then .failed "command not found" 127
          else if m.disk.isDirectory name.toText then .failed "Is a directory" 126
          else .failed (Tool.reason cause) (if cause == .notFound then 127 else 126)
        else if cause == .notFound || cause == .notDirectory then .failed "not found" 127
        else .failed (Tool.reason cause) (if cause == .denied then 126 else 127)

/-- A value in single quotes, as the shell prints it; single quotes in it stand between double
ones. -/
def singleQuoted (text : Octets) : Octets :=
  let (chunk, rest) := text.span (· != '\'')
  let (quotes, after) := rest.span (· == '\'')
  let tail :=
    if h : after.length < text.length ∧ after ≠ [] then
      have := h.1
      singleQuoted after
    else []
  '\'' :: chunk ++ '\'' :: (if quotes.isEmpty then [] else '"' :: quotes ++ ['"']) ++ tail
termination_by text.length

/-- An assignment with its value in quotes. -/
def assignment (name value : Octets) : Octets := name ++ '=' :: singleQuoted value

/-- What a shell says about a name in full; none when it means nothing. -/
def describe (m : Machine) (name : Octets) : Option Octets :=
  let text (s : String) : Option Octets := some (Octets.ofString s)
  if keywords.contains name.toText then text "a shell keyword"
  else
    match m.aliases.lookup name with
    | some value => some ("an alias for ".toList ++ value)
    | none =>
      match find m name with
      | .function _ => text "a shell function"
      | .builtIn own =>
        text (if special.contains own then "a special shell builtin" else "a shell builtin")
      | .program path _ =>
        text (if m.remembered.contains name then "a tracked alias for " ++ path else path)
      | .failed _ _ => none

/-- What a shell gives as the short answer about a name. -/
def locate (m : Machine) (name : Octets) : Option Octets :=
  if keywords.contains name.toText then some name
  else
    match m.aliases.lookup name with
    | some value => some ("alias ".toList ++ assignment name value)
    | none =>
      match find m name with
      | .function _ | .builtIn _ => some name
      | .program path _ => some (Octets.ofString path)
      | .failed _ _ => none

end Lookup

end Codemod.Shell
