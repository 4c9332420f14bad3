import Codemod.Instance

/-!
# Parts of a command line

- `ValueKind` — which values are allowed
- `Flag` — a named part, with a value or without
- `Positional` — a part that is known by its place
- `CommandSpec` — a command with its parts
-/

namespace Codemod.Cli

/-- A value out of a few, and what it means. -/
structure Choice where
  name : String
  help : String := ""
deriving DecidableEq

/-- Which values are allowed. -/
inductive ValueKind where
  | text
  /-- A path, which is not empty. -/
  | path
  | choice (choices : List Choice)
deriving DecidableEq

namespace ValueKind

/-- The values to choose from, if there is a choice. -/
def choices : ValueKind → List Choice
  | choice cs => cs
  | text | path => []

/-- The value is allowed. -/
def admits (kind : ValueKind) (value : String) : Bool :=
  match kind with
  | text => true
  | path => !value.isEmpty
  | choice cs => cs.any (·.name == value)

end ValueKind

/-- What a value is called in the help, and which values are allowed. -/
structure ValueSpec where
  label : String
  kind : ValueKind := .text
  default : Option String := none
deriving DecidableEq

/-- A part of a command line that begins with dashes. -/
structure Flag where
  name : String
  letter : Option Char := none
  help : String
  /-- The value after it; none for a switch. -/
  value : Option ValueSpec := none
  isRequired : Bool := false
  /-- The flags that must not stand beside it. -/
  conflicts : List String := []
deriving DecidableEq

/-- The values of the flag are explained one by one. -/
def Flag.explains (f : Flag) : Bool :=
  match f.value with
  | some v => v.kind.choices.any fun c => !c.help.isEmpty
  | none => false

/-- A part of a command line that is known by its place. -/
structure Positional where
  name : String
  help : String
  value : ValueSpec
  isRequired : Bool := false
deriving DecidableEq

/-- A command with its parts. -/
structure CommandSpec where
  name : String
  help : String
  flags : List Flag := []
  positional : Option Positional := none
deriving DecidableEq

/-- A program with its commands. -/
structure ProgramSpec where
  name : String
  version : String
  help : String
  /-- The flags that stand before a command or after it. -/
  globals : List Flag
  commands : List CommandSpec
deriving DecidableEq

/-- The flag that asks for help. There is more to see when values are explained. -/
def helpFlag (detailed : Bool) : Flag where
  name := "help"
  letter := some 'h'
  help := if detailed then "Print help (see more with '--help')" else "Print help"

/-- The flag that asks for the version. -/
def versionFlag : Flag where
  name := "version"
  letter := some 'V'
  help := "Print version"

namespace ProgramSpec

/-- The flags with the one that asks for help. -/
def withHelp (flags : List Flag) : List Flag := flags ++ [helpFlag (flags.any Flag.explains)]

/-- The flags before a command. -/
def rootFlags (p : ProgramSpec) : List Flag := withHelp p.globals ++ [versionFlag]

/-- The flags after a command. -/
def flagsOf (p : ProgramSpec) (c : CommandSpec) : List Flag := withHelp (c.flags ++ p.globals)

/-- The command of a name. -/
def find? (p : ProgramSpec) (name : String) : Option CommandSpec :=
  p.commands.find? (·.name == name)

end ProgramSpec

end Codemod.Cli

/-!
## Reading a command line

A command line is read from left to right. Flags stand anywhere; a value that a flag still waits for
is the next word without a dash in front; after a double dash every word counts by its place. The
words of a command are read and checked before what stands in front of the command is checked.

- `UsageError` — what is wrong with a command line, or that help is asked for
- `Findings` — the flags and values of one command
- `Parsed` — a whole command line
- `ProgramSpec.parse` — from words to a command line
-/

namespace Codemod.Cli

/-- Why a command line gives nothing to do. -/
inductive UsageError where
  | unknownArgument (word : String)
  | invalidSubcommand (word : String)
  /-- A value that is missing or not allowed. -/
  | invalidValue (argument : String) (value : Option String)
  | tooManyValues (argument value : String)
  | argumentConflict (argument other : String)
  | missingRequired (arguments : List String)
  | missingSubcommand
  /-- Help on the program or on a command is asked for. -/
  | helpWanted (command : Option String)
  | versionWanted
  /-- Nothing at all is asked for. -/
  | nothingWanted
deriving DecidableEq

/-- A part that is still to be closed, with its value once there is one. -/
inductive Pending where
  | flag (flag : Flag) (value : Option String)
  | positional (positional : Positional) (value : String)

/-- What has been found for one command. -/
structure Findings where
  switches : List String := []
  values : List (String × String) := []
  pending : Option Pending := none

namespace Findings

/-- Takes a value that is allowed. -/
def take (f : Findings) (name : String) (spec : ValueSpec) (value : String) :
    Except UsageError Findings :=
  if spec.kind.admits value then .ok { f with values := f.values ++ [(name, value)] }
  else .error (.invalidValue name (some value))

/-- Takes the value of a flag, which may have but one. -/
def takeFlag (f : Findings) (flag : Flag) (spec : ValueSpec) (value : String) :
    Except UsageError Findings :=
  if (f.values.lookup flag.name).isSome then .error (.argumentConflict flag.name flag.name)
  else f.take flag.name spec value

/-- Closes what is pending. -/
def close (f : Findings) : Except UsageError Findings :=
  let rest := { f with pending := none }
  match f.pending with
  | none => .ok f
  | some (.flag flag value) =>
    match flag.value, value with
    | some spec, some value => rest.takeFlag flag spec value
    | _, _ => .error (.invalidValue flag.name none)
  | some (.positional positional value) => rest.take positional.name positional.value value

/-- A flag waits for its value. -/
def waiting? (f : Findings) : Option Flag :=
  match f.pending with
  | some (.flag flag none) => some flag
  | _ => none

/-- Takes a switch, which may stand but once. -/
def switchOn (f : Findings) (command : Option String) (flag : Flag) :
    Except UsageError Findings := do
  let f ← f.close
  if flag.name == "help" then throw (.helpWanted command)
  if flag = versionFlag then throw .versionWanted
  if f.switches.contains flag.name then throw (.argumentConflict flag.name flag.name)
  return { f with switches := f.switches ++ [flag.name] }

/-- Takes a flag by its name, with a value attached or not. -/
def long (f : Findings) (command : Option String) (flags : List Flag) (name : String)
    (value : Option String) : Except UsageError Findings := do
  match flags.find? (·.name == name) with
  | none => throw (.unknownArgument ("--" ++ name))
  | some flag =>
    match flag.value, value with
    | some spec, some value => (← f.close).takeFlag flag spec value
    | some _, none => return { ← f.close with pending := some (.flag flag none) }
    | none, some value => throw (.tooManyValues name value)
    | none, none => f.switchOn command flag

/-- Takes flags by their letters. -/
def letters (f : Findings) (command : Option String) (flags : List Flag) :
    List Char → Except UsageError Findings
  | [] => .ok f
  | c :: cs =>
    match flags.find? (·.letter == some c) with
    | some flag => do (← f.switchOn command flag).letters command flags cs
    | none => .error (.unknownArgument (String.ofList ['-', c]))

/-- What is set, with and without a value. -/
def names (f : Findings) : List String := f.switches ++ f.values.map Prod.fst

/-- Checks that no two flags are in conflict. -/
def checkConflicts (f : Findings) (flags : List Flag) : Except UsageError Unit :=
  let clash (flag : Flag) : Option (String × String) :=
    if f.names.contains flag.name then
      (flag.conflicts.find? f.names.contains).map fun other => (flag.name, other)
    else none
  match flags.findSome? clash with
  | some (name, other) => .error (.argumentConflict name other)
  | none => .ok ()

/-- Checks that nothing is missing. -/
def checkRequired (f : Findings) (c : CommandSpec) : Except UsageError Unit :=
  let required := (c.flags.filter (·.isRequired)).map (·.name)
    ++ (c.positional.toList.filter (·.isRequired)).map (·.name)
  match required.filter (!f.names.contains ·) with
  | [] => .ok ()
  | missing => .error (.missingRequired missing)

end Findings

/-- The shape of a word. -/
inductive Shape where
  | doubleDash
  | long (name : String) (value : Option String)
  | letters (cs : List Char)
  | plain
deriving DecidableEq

/-- The shape of a word: a name after two dashes may be followed by an equals sign and a value. -/
def shape (word : String) : Shape :=
  match word.toList with
  | ['-', '-'] => .doubleDash
  | '-' :: '-' :: cs =>
    match cs.span (· != '=') with
    | (name, []) => .long (String.ofList name) none
    | (name, _ :: value) => .long (String.ofList name) (some (String.ofList value))
  | '-' :: c :: cs => .letters (c :: cs)
  | _ => .plain

/-- A whole command line. -/
structure Parsed where
  command : CommandSpec
  /-- What stands in front of the command. -/
  before : Findings
  /-- What stands after it. -/
  after : Findings

namespace Parsed

/-- A switch is on; those that stand anywhere may stand in front. -/
def isOn (p : Parsed) (name : String) : Bool :=
  p.after.switches.contains name || p.before.switches.contains name

/-- The value of a part of the command. -/
def value? (p : Parsed) (name : String) : Option String := p.after.values.lookup name

end Parsed

namespace ProgramSpec

/-- Reads a word by its place. -/
def placed (c : CommandSpec) (f : Findings) (word : String) : Except UsageError Findings :=
  match c.positional with
  | some positional =>
    if f.names.contains positional.name || f.pending matches some (.positional ..) then
      .error (.unknownArgument word)
    else do return { ← f.close with pending := some (.positional positional word) }
  | none => .error (.unknownArgument word)

/-- Reads the words after a command. -/
def readAfter (p : ProgramSpec) (c : CommandSpec) :
    (trailing : Bool) → Findings → List String → Except UsageError Findings
  | _, f, [] => f.close
  | true, f, word :: words => do p.readAfter c true (← placed c f word) words
  | false, f, word :: words => do
    match shape word with
    | .doubleDash => p.readAfter c true f words
    | .long name value =>
      p.readAfter c false (← f.long (some c.name) (p.flagsOf c) name value) words
    | .letters cs => p.readAfter c false (← f.letters (some c.name) (p.flagsOf c) cs) words
    | .plain =>
      match f.waiting? with
      | some flag => p.readAfter c false { f with pending := some (.flag flag (some word)) } words
      | none => p.readAfter c false (← placed c f word) words

/-- Reads and checks the words after a command. -/
def commandFindings (p : ProgramSpec) (c : CommandSpec) (words : List String) :
    Except UsageError Findings := do
  let f ← p.readAfter c false {} words
  f.checkConflicts (p.flagsOf c)
  f.checkRequired c
  return f

/-- The help that the words after the help command ask for. -/
def helpOn (p : ProgramSpec) : List String → UsageError
  | [] => .helpWanted none
  | [word] =>
    if word == "help" then .helpWanted none
    else if (p.find? word).isSome then .helpWanted (some word)
    else .invalidSubcommand word
  | word :: next :: _ =>
    if word == "help" || (p.find? word).isSome then .invalidSubcommand next
    else .invalidSubcommand word

/-- Reads words in front of a command and the command. -/
def readBefore (p : ProgramSpec) (f : Findings) : List String → Except UsageError Parsed
  | [] => .error (if f.switches.isEmpty then .nothingWanted else .missingSubcommand)
  | word :: words => do
    match p.find? word with
    | some command =>
      let after ← p.commandFindings command words
      f.checkConflicts p.rootFlags
      return { command, before := f, after }
    | none =>
      if word == "help" then throw (p.helpOn words)
      match shape word with
      | .doubleDash =>
        match words with
        | [] => p.readBefore f []
        | next :: _ =>
          throw (if (p.find? next).isSome || next == "help" then .unknownArgument next
            else .invalidSubcommand next)
      | .long name value => p.readBefore (← f.long none p.rootFlags name value) words
      | .letters cs => p.readBefore (← f.letters none p.rootFlags cs) words
      | .plain => throw (.invalidSubcommand word)

/-- Reads a command line. -/
def parse (p : ProgramSpec) (words : List String) : Except UsageError Parsed :=
  p.readBefore {} words

end ProgramSpec

end Codemod.Cli

/-!
## Help and complaints about usage

- `ProgramSpec.helpText` — the help on the program or on a command
- `ProgramSpec.complaint` — what is said about a command line that gives nothing to do
-/

namespace Codemod.Cli

/-- A value as it is named in the help. -/
def ValueSpec.shown (v : ValueSpec) : String := s!"<{v.label}>"

/-- What a value may be, after its help. -/
def ValueSpec.remark (v : ValueSpec) : String :=
  let choices := v.kind.choices.map (·.name)
  let names := String.intercalate ", " choices
  (match v.default with
    | some text => s!" [default: {text}]"
    | none => "")
    ++ (if choices.isEmpty then "" else s!" [possible values: {names}]")

/-- A flag with its value. -/
def Flag.shown (f : Flag) : String :=
  "--" ++ f.name ++ (match f.value with
    | some v => " " ++ v.shown
    | none => "")

/-- A flag with its letter in front, or with blanks in its place. -/
def Flag.entry (f : Flag) : String :=
  (match f.letter with
    | some c => String.ofList ['-', c, ',', ' ']
    | none => "    ") ++ f.shown

/-- What a flag does and which values it takes. -/
def Flag.remark (f : Flag) : String :=
  f.help ++ (match f.value with
    | some v => v.remark
    | none => "")

/-- A positional part in the line on usage. -/
def Positional.shown (p : Positional) : String :=
  if p.isRequired then p.value.shown else s!"[{p.value.label}]"

/-- A section with lines of two columns. -/
def columns (title : String) (entries : List (String × String)) : String :=
  let width := (entries.map fun e => e.1.length).foldl max 0
  let line (e : String × String) : String :=
    "  " ++ e.1 ++ String.ofList (List.replicate (width - e.1.length + 2) ' ') ++ e.2 ++ "\n"
  if entries.isEmpty then "" else "\n" ++ title ++ ":\n" ++ String.join (entries.map line)

namespace ProgramSpec

/-- The line on the usage of the program or of a command. -/
def usage (p : ProgramSpec) : Option CommandSpec → String
  | none => s!"Usage: {p.name} [OPTIONS] <COMMAND>\n"
  | some c =>
    let required := (c.flags.filter (·.isRequired)).map Flag.shown
    let words :=
      [p.name, c.name, "[OPTIONS]"] ++ required ++ c.positional.toList.map Positional.shown
    "Usage: " ++ String.intercalate " " words ++ "\n"

/-- The flags of the program or of a command. -/
def flagsShown (p : ProgramSpec) : Option CommandSpec → List Flag
  | none => p.rootFlags
  | some c => p.flagsOf c

/-- The help on the program or on a command. -/
def helpOf (p : ProgramSpec) (c : Option CommandSpec) : String :=
  let about := (c.map (·.help)).getD p.help
  let commands :=
    match c with
    | none =>
      p.commands.map (fun c => (c.name, c.help))
        ++ [("help", "Print this message or the help of the given subcommand(s)")]
    | some _ => []
  let positional := (c.bind (·.positional)).toList
  about ++ "\n\n" ++ p.usage c
    ++ columns "Commands" commands
    ++ columns "Arguments" (positional.map fun a => (a.shown, a.help ++ a.value.remark))
    ++ columns "Options" ((p.flagsShown c).map fun f => (f.entry, f.remark))

/-- The help on the program or on the command of a name. -/
def helpText (p : ProgramSpec) (command : Option String) : String := p.helpOf (command.bind p.find?)

/-- The name and the version. -/
def versionText (p : ProgramSpec) : String := s!"{p.name} {p.version}\n"

end ProgramSpec

/-- What is wrong with a command line. -/
def UsageError.message : UsageError → String
  | unknownArgument word => s!"unexpected argument '{word}' found"
  | invalidSubcommand word => s!"unrecognized subcommand '{word}'"
  | invalidValue argument (some value) => s!"invalid value '{value}' for '{argument}'"
  | invalidValue argument none => s!"a value is required for '--{argument}' but none was supplied"
  | tooManyValues argument value => s!"unexpected value '{value}' for '--{argument}' found"
  | argumentConflict argument other =>
    if argument = other then s!"the argument '--{argument}' cannot be used multiple times"
    else s!"the argument '--{argument}' cannot be used with '--{other}'"
  | missingRequired arguments =>
    "the following required arguments were not provided:" ++
      String.join (arguments.map fun name => "\n  " ++ name)
  | missingSubcommand => "a subcommand is required but one was not provided"
  | helpWanted _ | versionWanted | nothingWanted => ""

/-- What is said about a command line that is wrong. -/
def ProgramSpec.complaint (p : ProgramSpec) (e : UsageError) : String :=
  s!"error: {e.message}\n\n{p.usage none}\nFor more information, try '--help'.\n"

end Codemod.Cli
