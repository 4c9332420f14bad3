import Codemod.Shell.BuiltIn.Declaration
import Codemod.Shell.Tool.Options

/-!
# Scripts of their own

- `Script` — a script that a shell of its own is to run
- `scriptOf` — the script that a shell's arguments give
- `childMachine` — the shell it starts in
- `interpreter?` — the program that a file names in its first line
-/

namespace Codemod.Shell

/-- A script that a shell of its own is to run. -/
structure Script where
  name : Octets
  parameters : List Octets := []
  /-- The letters of the options that are on. -/
  letters : Octets := []
  text : Octets
  /-- The script is in the rich language. -/
  isRich : Bool := false
  /-- Options that have only names, and whether they are on. -/
  named : List (String × Bool) := []
  /-- The script was given as an argument. -/
  inline : Bool := false

/-- Where programs are looked for when nothing else is said. -/
def usualPath : Octets := "/usr/local/sbin:/usr/local/bin:/usr/sbin:/usr/bin:/sbin:/bin".toList

/-- The machine in which a shell of the rich language starts, after one with the same streams and
files. -/
def richMachine (m : Machine) (script : Script) : Machine :=
  let texts : List (String × String) :=
    [("BASH", "/usr/bin/bash"), ("BASH_VERSION", "5.2.21(1)-release"), ("UID", "0"), ("EUID", "0"),
      ("HOSTNAME", "localhost"), ("HOSTTYPE", "x86_64"), ("MACHTYPE", "x86_64-pc-linux-gnu"),
      ("OSTYPE", "linux-gnu"), ("OPTERR", "1")]
  let depth := ((m.get? "SHLVL".toList).bind Tool.natural?).getD 0
  let m : Machine := texts.foldl (fun m (name, value) => m.set name.toList value.toList) m
  let m := (m.unset "PS1".toList).unset "PS2".toList
  let m := m.set "SHLVL".toList (Octets.ofNat (depth + 1))
  let shlvl := "SHLVL".toList
  let old := "OLDPWD".toList
  let m : Machine :=
    { m with
      exported := [shlvl, old] ++ m.exported.filter fun n => n != shlvl && n != old
      readOnly := ["UID", "EUID", "PPID"].map String.toList
      rich :=
        { isOn := true
          options := Preference.shopDefaults
          inline := script.inline
          lastWord := "/usr/bin/bash".toList } }
  let version := ["5", "2", "21", "1", "release", "x86_64-pc-linux-gnu"]
  let m := m.setRow "BASH_VERSINFO".toList (Row.ofList (version.map String.toList))
  script.named.foldl
    (fun m (name, on) =>
      match Preference.known.lookup name with
      | some letter => Preference.turned m on name letter
      | none => Preference.withNamed m on name) m

/-- The machine that a script of its own starts with: only what is exported is handed on, with the
path of the working directory. -/
def childMachine (m : Machine) (script : Script) : Machine :=
  let environment := m.environment.filter fun (name, _) => BuiltIn.isName name
  let pwd : Octets := ['P', 'W', 'D']
  let path := "PATH".toList
  let given := (environment.lookup pwd).getD []
  let isHere := given.head? == some '/'
    && (m.disk.find given.toText).toOption.any fun (loc, _) => loc == m.disk.workingDirectory
  let entered := if isHere then given else m.directory
  let usual : List (Octets × Octets) :=
    [("IFS".toList, [' ', '\t', '\n']), ("OPTIND".toList, ['1']), ("PS1".toList, "# ".toList),
      ("PS2".toList, "> ".toList), ("PS4".toList, "+ ".toList), ("PPID".toList, "4241".toList)]
      ++ (if (environment.lookup path).isNone then [(path, usualPath)] else [])
  let kept := environment.filter fun (name, _) => name != pwd && (usual.lookup name).isNone
  let base : Machine :=
    { disk := m.disk
      bindings := (pwd, entered) :: usual ++ kept
      exported := pwd :: (kept.map Prod.fst)
      name := script.name
      parameters := script.parameters
      streams := m.streams
      openings := m.openings
      kept := m.kept
      printed := m.printed
      clock := m.clock
      deadline := m.deadline
      outputHeld := m.outputHeld
      complaintHeld := m.complaintHeld
      mask := m.mask
      entered
      traps := m.traps.filter fun (n, action) => n != 0 && action.isEmpty }
  let base := if script.isRich then richMachine base script else base
  script.letters.foldl (fun m c => (BuiltIn.withOption m true c).getD m) base

/-- What a shell's arguments say before the script. -/
structure Invocation where
  letters : Octets := []
  /-- The script is the next argument. -/
  isText : Bool := false
  fromInput : Bool := false
  rest : List Octets := []

namespace Invocation

/-- What is said after the letters of one argument. -/
def adding (on : Bool) (i : Invocation) : Octets → Except String Invocation
  | [] => .ok i
  | 'c' :: cs => adding on { i with isText := true } cs
  | 's' :: cs => adding on { i with fromInput := true } cs
  | c :: cs =>
    if "efnuvxaCImbVEip".toList.contains c then
      adding on { i with letters := (if on then [c] else []) ++ i.letters.filter (· != c) } cs
    else .error s!"Illegal option -{String.singleton c}"

/-- What is said after the option of a name. -/
def naming (sign : Char) (i : Invocation) (name : Octets) : Except String Invocation :=
  match BuiltIn.optionNames.lookup name.toText with
  | some c => i.adding (sign == '-') [c]
  | none => .error s!"Illegal option {String.singleton sign}o {name.toText}"

/-- Reads arguments up to the first that is no option. -/
def read (i : Invocation) (arguments : List Octets) : Except String Invocation := do
  match arguments with
  | [] => return i
  | first :: rest =>
    match first with
    | ['-', '-'] | ['-'] => return { i with rest }
    | sign :: letters =>
      if sign != '-' && sign != '+' then return { i with rest := arguments }
      else
        let (before, named) := letters.span (· != 'o')
        let i ← i.adding (sign == '-') before
        match named, rest with
        | ['o'], [] => return i
        | ['o'], name :: rest => read (← i.naming sign name) rest
        | named, rest => read (← i.adding (sign == '-') named) rest
    | [] => return { i with rest := arguments }
termination_by arguments.length

end Invocation

/-- The script that a shell's arguments give, as a text, as a file or as the input; or the status
with which the shell ends without one. The shell was called by a name. -/
def scriptOf (called : Octets) (arguments : List Octets) : Act (Except Nat Script) := do
  let m ← get
  let refuse (complaint : String) : Act (Except Nat Script) := do
    Act.grumble s!"{called.toText}: 0: {complaint}"
    return .error 2
  match Invocation.read {} arguments with
  | .error complaint => refuse complaint
  | .ok i =>
    if i.isText then
      match i.rest with
      | [] => refuse "-c requires an argument"
      | text :: rest =>
        return .ok
          { name := rest.headD called, parameters := rest.drop 1, letters := i.letters, text }
    else
      match i.fromInput, i.rest with
      | false, path :: rest =>
        let script (text : Octets) : Script :=
          { name := path, parameters := rest, letters := i.letters, text }
        match m.disk.readBytes path.toText with
        | .ok bytes => return .ok (script (Octets.ofBytes bytes))
        | .error cause =>
          if cause == .isDirectory then return .ok (script [])
          let what :=
            if cause == .notFound || cause == .notDirectory then "No such file"
            else Tool.reason cause
          refuse s!"cannot open {path.toText}: {what}"
      | _, parameters =>
        let text := ((m.contents 0).toOption.map Prod.fst).getD []
        set (m.left 0 [])
        return .ok { name := called, parameters, letters := i.letters, text }

/-! ### The rich language -/

/-- What the arguments of a shell of the rich language say before the script. -/
structure RichInvocation where
  letters : Octets := []
  named : List (String × Bool) := []
  isText : Bool := false
  fromInput : Bool := false
  tells : Bool := false
  rest : List Octets := []

namespace RichInvocation

/-- What is said after the letters of one argument; the error is the text of what is not known. The
value tells how many names have still to come, with the sign. -/
def adding (sign : Char) (i : RichInvocation) (later : List Char) : Octets →
    Except String (RichInvocation × List Char)
  | [] => .ok (i, later)
  | 'c' :: cs => adding sign { i with isText := true } later cs
  | 's' :: cs => adding sign { i with fromInput := true } later cs
  | 'o' :: cs => adding sign i (later ++ ['o']) cs
  | 'O' :: cs => adding sign i (later ++ ['O']) cs
  | c :: cs =>
    if "abefhiklmnprtuvxBCDEHPT".toList.contains c then
      let known := "aefnuvxC".toList.contains c
      let letters := (if sign == '-' && known then [c] else []) ++ i.letters.filter (· != c)
      adding sign { i with letters } later cs
    else .error s!"{sign}{c}"

/-- The long options without a value. -/
def long : List String :=
  ["debug", "debugger", "dump-po-strings", "dump-strings", "login", "noediting", "noprofile",
    "norc",
    "posix", "pretty-print", "restricted", "verbose"]

/-- Takes the names that options ask for from the arguments. -/
def taking (sign : Char) (i : RichInvocation) :
    List Char → List Octets → RichInvocation × List Octets
  | _ :: later, name :: rest =>
    taking sign { i with named := i.named ++ [(name.toText, sign == '-')] } later rest
  | _, rest => (i, rest)

/-- Reads arguments up to the first that is no option. -/
def read (fuel : Nat) (i : RichInvocation) (arguments : List Octets) :
    Except String RichInvocation := do
  match fuel, arguments with
  | 0, _ | _, [] => return { i with rest := arguments }
  | fuel + 1, first :: rest =>
    match first with
    | ['-', '-'] | ['-'] => return { i with rest }
    | '-' :: '-' :: name =>
      let text := String.ofList name
      if text == "version" then return { i with tells := true }
      else if text == "rcfile" || text == "init-file" then read fuel i (rest.drop 1)
      else if long.contains text then read fuel i rest
      else throw s!"--{text}"
    | sign :: letters =>
      if (sign != '-' && sign != '+') || letters.isEmpty then return { i with rest := arguments }
      else
        let (i, later) ← adding sign i [] letters
        let (i, rest) := taking sign i later rest
        read fuel i rest
    | [] => return { i with rest := arguments }

end RichInvocation

/-- The script that the arguments of a shell of the rich language give, or the status with which the
shell ends without one. -/
def richScriptOf (called : Octets) (arguments : List Octets) : Act (Except Nat Script) := do
  let m ← get
  match RichInvocation.read (arguments.length + 1) {} arguments with
  | .error option =>
    Act.grumble s!"{called.toText}: {option}: invalid option"
    return .error 2
  | .ok i =>
    if i.tells then
      Act.say "GNU bash, version 5.2.21(1)-release (x86_64-pc-linux-gnu)\n".toList
      return .error 0
    let script (name text : Octets) (parameters : List Octets) : Script :=
      { name, text, parameters, letters := i.letters, named := i.named, isRich := true
        inline := i.isText }
    if i.isText then
      match i.rest with
      | [] =>
        Act.grumble s!"{called.toText}: -c: option requires an argument"
        return .error 2
      | text :: rest => return .ok (script (rest.headD called) text (rest.drop 1))
    else
      match i.fromInput, i.rest with
      | false, path :: rest =>
        match m.disk.readBytes path.toText with
        | .ok bytes => return .ok (script path (Octets.ofBytes bytes) rest)
        | .error cause =>
          Act.grumble s!"{called.toText}: {path.toText}: {Tool.reason cause}"
          return .error (if cause == .isDirectory || cause == .denied then 126 else 127)
      | _, parameters =>
        let text := ((m.contents 0).toOption.map Prod.fst).getD []
        set (m.left 0 [])
        return .ok (script called text parameters)

/-- The program that a file names in its first line, with the argument that stands there. -/
def interpreter? (bytes : ByteArray) : Option (Octets × List Octets) :=
  match Octets.ofBytes (bytes.extract 0 256) with
  | '#' :: '!' :: rest =>
    let line := Octets.trim (rest.takeWhile (· != '\n'))
    let (program, argument) := line.span fun c => c != ' ' && c != '\t'
    let argument := Octets.trim argument
    if program.isEmpty then none
    else some (program, if argument.isEmpty then [] else [argument])
  | _ => none

end Codemod.Shell
