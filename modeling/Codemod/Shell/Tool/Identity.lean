import Codemod.Shell.Tool.Lines

/-!
# Who and where one is

- `Account.all` — the users that there are
- `Tool.identity`, `Tool.groups`, `Tool.userName` — users
- `Tool.systemName`, `Tool.printVariables`, `Tool.printPlace` — the system, the environment, the
  directory
-/

namespace Codemod.Shell

/-- A user. -/
structure Account where
  name : String
  number : Nat
  group : String
  groupNumber : Nat

namespace Account

/-- A user whose group has the user's name and number. -/
def plain (name : String) (number : Nat) : Account := ⟨name, number, name, number⟩

/-- The users that there are. The first one is the user who runs everything. -/
def all : List Account :=
  [plain "root" 0, plain "daemon" 1, plain "bin" 2, plain "sys" 3, ⟨"sync", 4, "nogroup", 65534⟩,
    ⟨"games", 5, "games", 60⟩, ⟨"man", 6, "man", 12⟩, plain "lp" 7, plain "mail" 8, plain "news" 9,
    plain "uucp" 10, plain "proxy" 13, plain "www-data" 33, plain "backup" 34, plain "list" 38,
    plain "irc" 39, ⟨"_apt", 42, "nogroup", 65534⟩, ⟨"nobody", 65534, "nogroup", 65534⟩]

/-- The user of a name or a number. -/
def find? (name : Octets) : Option Account :=
  all.find? fun a => a.name == name.toText || toString a.number == name.toText

/-- All that is known of a user. -/
def shown (a : Account) : String :=
  let group := s!"{a.groupNumber}({a.group})"
  s!"uid={a.number}({a.name}) gid={group} groups={group}"

end Account

namespace Tool

/-- Tells who a user is. -/
def identity : List Octets → Tool Nat :=
  withOptions "a Z,context g,group G,groups n,name r,real u,user z,zero" 1 fun o => do
  let kinds := ["u", "g", "G", "Z"].filter o.has
  let refused (text : String) : Tool Nat := do
    blame text
    return 1
  if kinds.length > 1 then refused "cannot print \"only\" of more than one choice"
  else if kinds.isEmpty && (o.has "n" || o.has "r") then
    refused "cannot print only names or real IDs in default format"
  else if kinds.isEmpty && o.has "z" then refused "option --zero not permitted in default format"
  else if o.has "Z" then
    refused "--context (-Z) works only on an SELinux-enabled kernel"
  else
    let ending := if o.has "z" then '\x00' else '\n'
    let text (a : Account) : String :=
      if o.has "u" then (if o.has "n" then a.name else toString a.number)
      else if kinds.isEmpty then a.shown
      else if o.has "n" then a.group else toString a.groupNumber
    let mut status := 0
    for name in (if o.operands.isEmpty then ["root".toList] else o.operands) do
      match Account.find? name with
      | some a => say (Octets.ofString (text a) ++ [ending])
      | none =>
        blame s!"{quoted name}: no such user"
        status := 1
    return status

/-- Prints the groups of users. -/
def groups : List Octets → Tool Nat :=
  withOptions "" 1 fun o => do
  if o.operands.isEmpty then
    sayText "root\n"
    return 0
  else
    let mut status := 0
    for name in o.operands do
      match Account.find? name with
      | some a => sayText s!"{name.toText} : {a.group}\n"
      | none =>
        blame s!"{quoted name}: no such user"
        status := 1
    return status

/-- A tool that takes no operands. -/
def plainly (known : String) (status : Nat) (body : Options → Tool Nat) : List Octets → Tool Nat :=
  withOptions known status fun o =>
    match o.operands with
    | [] => body o
    | extra :: _ => extraOperand status extra

/-- A tool without operands that prints a line. -/
def saying (line : String) : List Octets → Tool Nat :=
  plainly "" 1 fun _ => do
  sayText (line ++ "\n")
  return 0

/-- Prints the name of the user. -/
def userName : List Octets → Tool Nat := saying "root"

/-- Tells that nobody has logged in. -/
def loginName : List Octets → Tool Nat :=
  plainly "" 1 fun _ => do
  blame "no login name"
  return 1

/-- Tells that the input is no terminal. -/
def terminal : List Octets → Tool Nat :=
  plainly "s,silent,quiet" 2 fun o => do
  if !o.has "s" then sayText "not a tty\n"
  return 1

/-- Prints what the system is. -/
def systemName : List Octets → Tool Nat :=
  plainly ("a,all s,kernel-name n,nodename r,kernel-release v,kernel-version m,machine p,processor "
    ++ "i,hardware-platform o,operating-system") 1 fun o => do
  let parts :=
    [("s", "Linux"), ("n", "localhost"), ("r", "6.1.0"), ("v", "#1 SMP"), ("m", "x86_64"),
    ("p", "unknown"), ("i", "unknown"), ("o", "GNU/Linux")]
  let asked := parts.filter fun (letter, text) =>
    if o.has "a" then text != "unknown" else o.has letter || (o.given.isEmpty && letter == "s")
  sayText (String.intercalate " " (asked.map Prod.snd) ++ "\n")
  return 0

/-- Prints how many processors there are. -/
def processors : List Octets → Tool Nat :=
  plainly "all ignore:" 1 fun o => do
  match o.value? "ignore" with
  | none =>
    sayText "4\n"
    return 0
  | some text =>
    match natural? text with
    | some n =>
      sayText s!"{max 1 (4 - n)}\n"
      return 0
    | none =>
      blame s!"invalid number: {quoted text}"
      return 1

/-- Makes sure that all is written, which it always is. -/
def synchronise : List Octets → Tool Nat :=
  withOptions "d,data f,file-system" 1 fun o => do
  let mut status := 0
  for name in o.operands do
    if let .error cause := (← get).disk.find name.toText then
      blame s!"error opening {quoted name}: {reason cause}"
      status := 1
  return status

/-- Prints variables of the environment. -/
def printVariables (arguments : List Octets) : Tool Nat := do
  match Options.read (Options.known "0,null help version") arguments false with
  | .error refusal => refuse 2 refusal.message
  | .ok o =>
    let environment := (← get).environment
    let ending := if o.has "0" then '\x00' else '\n'
    if o.operands.isEmpty then
      for (name, value) in environment.reverse do
        say (name ++ '=' :: value ++ [ending])
      return 0
    else
      let mut status := 0
      for name in o.operands do
        match environment.lookup name with
        | some value => say (value ++ [ending])
        | none => status := 1
      return status

/-- Prints the working directory. -/
def printPlace : List Octets → Tool Nat :=
  withOptions "L,logical P,physical" 1 fun o => do
  let b ← get
  if !o.operands.isEmpty then blame "ignoring non-option arguments"
  let own := Octets.ofString ("/" ++ Location.text b.disk.workingDirectory)
  let given := (b.environment.lookup "PWD".toList).getD []
  let isHere := given.head? == some '/'
    && (b.disk.find given.toText).toOption.any fun e => e.1 == b.disk.workingDirectory
  let logical := o.last? ["L", "P"] == some "L"
    || (o.given.isEmpty && (b.environment.lookup "POSIXLY_CORRECT".toList).isSome)
  say ((if logical && isHere then given else own) ++ ['\n'])
  return 0

/-- Prints a limit of the system. -/
def limits (arguments : List Octets) : Tool Nat := do
  let values :=
    [("PATH_MAX", "4096"), ("NAME_MAX", "255"), ("ARG_MAX", "2097152"), ("PAGESIZE", "4096"),
    ("PAGE_SIZE", "4096"), ("LONG_BIT", "64"), ("WORD_BIT", "32"), ("CHAR_BIT", "8"),
    ("INT_MAX", "2147483647"), ("INT_MIN", "-2147483648"), ("_NPROCESSORS_ONLN", "4"),
    ("_NPROCESSORS_CONF", "4"), ("OPEN_MAX", "1024"), ("PIPE_BUF", "4096"), ("CLK_TCK", "100"),
    ("PATH", "/bin:/usr/bin"), ("CS_PATH", "/bin:/usr/bin"), ("LINK_MAX", "127")]
  let name := (arguments.headD []).toText
  match values.lookup name with
  | some value =>
    sayText (value ++ "\n")
    return 0
  | none =>
    let opening := String.singleton (Char.ofNat 96)
    blame (s!"Unrecognized variable {opening}{name}" ++ "'")
    return 2

/-- Ends without a word: nobody is logged in. -/
def nobodyHere : List Octets → Tool Nat :=
  withOptions "a b d H l m p q r s t T u w" 1 fun _ => return 0

end Tool

end Codemod.Shell
