import Codemod.Shell.BuiltIn.Reading
import Codemod.Shell.Lookup
import Codemod.Shell.Permission

/-!
# Where a shell is

- `BuiltIn.changeDirectory`, `BuiltIn.printDirectory` — the working directory
- `BuiltIn.changeMask` — the permissions of new files
-/

namespace Codemod.Shell.BuiltIn

/-- The names of a path with the names that lead back taken away, after names before it. -/
def straightened (before : List Octets) : List Octets → List Octets
  | [] => before
  | name :: rest =>
    if name.isEmpty || name == ['.'] then straightened before rest
    else if name == ['.', '.'] then straightened before.dropLast rest
    else straightened (before ++ [name]) rest

/-- The path by which a path leads from a directory, without going through links backwards. -/
def logicalPath (entered path : Octets) : Octets :=
  let names (cs : Octets) : List Octets := (cs.splitOn '/').filter (!·.isEmpty)
  let before := if path.head? == some '/' then [] else names entered
  '/' :: List.intercalate ['/'] (straightened before (names path))

/-- Goes to a directory; whether that went well. -/
def enter (physical : Bool) (path : Octets) : Act Bool := do
  let m ← get
  let target := if physical then path else logicalPath m.entered path
  match m.disk.find target.toText with
  | .ok (loc, .directory) =>
    let moved := m.enterBy target loc
    let moved := if physical then moved.enterBy moved.directory loc else moved
    let old := m.entered
    let handedOn := ["PWD".toList, "OLDPWD".toList]
    let moved := { moved with exported := handedOn ++ moved.exported.filter (!handedOn.contains ·) }
    set ((moved.set "OLDPWD".toList old).set "PWD".toList moved.entered)
    return true
  | _ => return false

/-- The directories in which relative paths are looked for, if there are any. -/
def searchPath (m : Machine) (path : Octets) : List Octets :=
  let dotted := path.take 2 == ['.', '/'] || path.take 3 == ['.', '.', '/'] || path == ['.']
    || path == ['.', '.'] || path.head? == some '/'
  match m.get? "CDPATH".toList with
  | some directories => if dotted then [] else directories.splitOn ':'
  | none => []

/-- Goes to another directory. -/
def changeDirectory (arguments : List Octets) : Act Nat := do
  let m ← get
  let (letters, rest) := arguments.span fun a => a == ['-', 'P'] || a == ['-', 'L']
  let physical := letters.getLast? == some ['-', 'P']
  let rest := if rest.head? == some ['-', '-'] then rest.drop 1 else rest
  let (target, shows) :=
    match rest with
    | [] => ((m.get? "HOME".toList).getD [], false)
    | ['-'] :: _ => ((m.get? "OLDPWD".toList).getD m.entered, true)
    | ('-' :: _) :: _ => (rest.headD [], false)
    | target :: _ => (target, false)
  if rest.head?.any fun a => a.head? == some '-' && a.length > 1 then
    return ← Act.protested "cd" s!"Illegal option -{String.ofList ((rest.headD []).drop 1 |>.take 1)}"
  let path := if target.isEmpty then ['.'] else target
  for directory in searchPath m path do
    let joined := if directory.isEmpty then path else directory ++ '/' :: path
    if m.disk.isDirectory (logicalPath m.entered joined).toText then
      if ← enter physical joined then
        if !directory.isEmpty then Act.say ((← get).entered ++ ['\n'])
        return 0
  if ← enter physical path then
    if shows then Act.say ((← get).entered ++ ['\n'])
    return 0
  Act.protested "cd" s!"can't cd to {target.toText}"

/-- Prints the working directory. -/
def printDirectory (arguments : List Octets) : Act Nat := do
  let m ← get
  Act.useTool "pwd" (do
    Tool.say ((if arguments.getLast? == some ['-', 'P'] then m.directory else m.entered) ++ ['\n'])
    return 0) true

/-! ### Permissions of new files -/

/-- Shows or changes the permissions that new files do not get. -/
def changeMask (arguments : List Octets) : Act Nat := do
  let m ← get
  match arguments with
  | [] =>
    Act.say (Octets.ofString (Permission.octal 4 m.mask ++ "\n"))
    return 0
  | ['-', 'S'] :: _ =>
    Act.say (Octets.ofString (Permission.symbolic (0o777 ^^^ m.mask) ++ "\n"))
    return 0
  | text :: _ =>
    if (text : Octets).head?.any Char.isDigit then
      match Permission.octal? text with
      | some n =>
        set { m with mask := n % 0o1000 }
        return 0
      | none => Act.protested "umask" s!"Illegal number: {Octets.toText text}"
    else
      match Permission.changed? false m.mask (0o777 ^^^ m.mask) text with
      | some mode =>
        set { m with mask := 0o777 ^^^ (mode &&& 0o777) }
        return 0
      | none => Act.protested "umask" s!"Illegal mode: {Octets.toText text}"

end Codemod.Shell.BuiltIn

/-!
## Where a shell of the rich language is

- `Travel.go` — to another directory
- `Travel.push`, `Travel.pop`, `Travel.list` — directories to which the shell may go back
-/

namespace Codemod.Shell.Travel

/-- Says that an option is not known. -/
def badOption (command usage : String) (c : Char) : Act Nat := do
  Act.protest command s!"-{c}: invalid option"
  Act.grumble s!"{command}: usage: {usage}"
  return 2

/-- Goes to a directory in the name of a command. -/
def enter (command : String) (physical : Bool) (path : Octets) : Act Nat := do
  if ← BuiltIn.enter physical (if path.isEmpty then ['.'] else path) then return 0
  let cause := match (← get).disk.find path.toText with
    | .ok _ => SystemError.notDirectory
    | .error cause => cause
  Act.protested command s!"{path.toText}: {Tool.reason cause}" 1

/-- Goes to another directory. -/
def go (arguments : List Octets) : Act Nat := do
  let (letters, operands) := match arguments with
    | ['-'] :: rest => (([] : Octets), ['-'] :: rest)
    | arguments => BuiltIn.leadingOptions arguments
  match letters.find? fun c => !"LPe@".toList.contains c with
  | some c => return ← badOption "cd" "cd [-L|[-P [-e]] [-@]] [dir]" c
  | none => pure ()
  let physical := (letters.filter fun c => c == 'P' || c == 'L').getLast? == some 'P'
  let m ← get
  match operands with
  | [] =>
    match m.get? "HOME".toList with
    | some home => enter "cd" physical home
    | none => Act.protested "cd" "HOME not set" 1
  | [['-']] =>
    match m.get? "OLDPWD".toList with
    | some old => do
      let status ← enter "cd" physical old
      if status == 0 then Act.say ((← get).entered ++ ['\n'])
      return status
    | none => Act.protested "cd" "OLDPWD not set" 1
  | [path] =>
    for directory in BuiltIn.searchPath m path do
      let joined := if directory.isEmpty then path else directory ++ '/' :: path
      if m.disk.isDirectory (BuiltIn.logicalPath m.entered joined).toText then
        if ← BuiltIn.enter physical joined then
          if !directory.isEmpty then Act.say ((← get).entered ++ ['\n'])
          return 0
    enter "cd" physical path
  | _ => Act.protested "cd" "too many arguments" 1

/-- Prints the working directory. -/
def tell (arguments : List Octets) : Act Nat := do
  let (letters, _) := BuiltIn.leadingOptions arguments
  match letters.find? fun c => c != 'L' && c != 'P' with
  | some c => badOption "pwd" "pwd [-LP]" c
  | none => BuiltIn.printDirectory (letters.map fun c => ['-', c])

/-- Prints the directories, the working directory first. -/
def list (arguments : List Octets) : Act Nat := do
  let (letters, _) := BuiltIn.leadingOptions arguments
  let m ← get
  if letters.contains 'c' then
    set { m with rich := { m.rich with stack := [] } }
    return 0
  let home := (m.get? "HOME".toList).getD []
  let short (path : Octets) : Octets :=
    if letters.contains 'l' || home.isEmpty then path
    else if path == home then ['~']
    else if (home ++ ['/']).isPrefixOf path then '~' :: path.drop home.length
    else path
  let all := (m.entered :: m.rich.stack).map short
  if letters.contains 'v' then
    for (path, i) in all.zipIdx do
      Act.say (Octets.padLeft 2 (Octets.ofNat i) ++ ' ' :: ' ' :: path ++ ['\n'])
  else
    let between := if letters.contains 'p' then ['\n'] else [' ']
    Act.say (List.intercalate between all ++ ['\n'])
  return 0

/-- Goes to a directory and keeps the one before; without one, changes the two latest. -/
def push (arguments : List Octets) : Act Nat := do
  let m ← get
  let back := m.entered
  match arguments with
  | [] =>
    match m.rich.stack with
    | [] => Act.protested "pushd" "no other directory" 1
    | target :: rest => do
      let status ← enter "pushd" false target
      if status != 0 then return status
      modify fun m => { m with rich := { m.rich with stack := back :: rest } }
      list []
  | path :: _ => do
    let status ← enter "pushd" false path
    if status != 0 then return status
    modify fun m => { m with rich := { m.rich with stack := back :: m.rich.stack } }
    list []

/-- Goes back to the directory that was kept last. -/
def pop : Act Nat := do
  match (← get).rich.stack with
  | [] => Act.protested "popd" "directory stack empty" 1
  | target :: rest => do
    let status ← enter "popd" false target
    if status != 0 then return status
    modify fun m => { m with rich := { m.rich with stack := rest } }
    list []

/-- Shows or changes the permissions that new files do not get. -/
def changeMask (arguments : List Octets) : Act Nat := do
  let (letters, operands) := BuiltIn.leadingOptions arguments
  match letters.find? fun c => c != 'S' && c != 'p' with
  | some c => return ← badOption "umask" "umask [-p] [-S] [mode]" c
  | none => pure ()
  let m ← get
  match operands with
  | [] =>
    let shown := if letters.contains 'S' then Permission.symbolic (0o777 ^^^ m.mask)
      else Permission.octal 4 m.mask
    let before :=
      if !letters.contains 'p' then "" else if letters.contains 'S' then "umask -S " else "umask "
    Act.say (Octets.ofString (before ++ shown ++ "\n"))
    return 0
  | text :: _ =>
    if (text : Octets).head?.any Char.isDigit then
      match Permission.octal? text with
      | some n =>
        set { m with mask := n % 0o1000 }
        return 0
      | none => Act.protested "umask" s!"{Octets.toText text}: octal number out of range" 1
    else
      match Permission.changed? false m.mask (0o777 ^^^ m.mask) text with
      | some mode =>
        set { m with mask := 0o777 ^^^ (mode &&& 0o777) }
        return 0
      | none =>
        let sign := Octets.toText (text.take 1)
        Act.protested "umask" (ScriptError.shown sign ++ ": invalid symbolic mode operator") 1

end Codemod.Shell.Travel
