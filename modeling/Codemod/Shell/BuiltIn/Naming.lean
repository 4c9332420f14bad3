import Codemod.Shell.BuiltIn.Reading
import Codemod.Shell.Lookup
import Codemod.Shell.Octets
import Codemod.Shell.Token

/-!
# Names and their meanings

- `BuiltIn.defineAliases`, `BuiltIn.dropAliases` — words that stand for others
- `BuiltIn.describeNames`, `BuiltIn.rememberPrograms`, `BuiltIn.programPaths` — what names mean
- `BuiltIn.numberArgument`, `BuiltIn.duration?` — arguments that are numbers and durations
-/

namespace Codemod.Shell.BuiltIn

/-- The place of an alias in the order in which they are listed. -/
def aliasKey (name : Octets) : Nat :=
  ((name.headD '\x00').toNat * 16 + (name.map Char.toNat).foldl (· + ·) 0) % 39

/-- Defines aliases, or prints them. -/
def defineAliases (arguments : List Octets) : Act Nat := do
  let m ← get
  if arguments.isEmpty then
    for (name, value) in m.aliases.mergeSort fun a b => aliasKey a.1 ≤ aliasKey b.1 do
      Act.say (Lookup.assignment name value ++ ['\n'])
    return 0
  let mut status := 0
  for argument in arguments do
    let (name, value) := argument.span (· != '=')
    let m ← get
    match value, m.aliases.lookup name with
    | _ :: value, some _ =>
      set { m with
        aliases := m.aliases.map fun (other, old) => (other, if other == name then value else old) }
    | _ :: value, none => set { m with aliases := m.aliases ++ [(name, value)] }
    | [], some value => Act.say (Lookup.assignment name value ++ ['\n'])
    | [], none =>
      Act.grumble s!"alias: {Octets.toText name} not found"
      status := 1
  return status

/-- Takes the meaning from aliases. -/
def dropAliases (arguments : List Octets) : Act Nat := do
  if arguments.head? == some ['-', 'a'] then
    modify fun m => { m with aliases := [] }
    return 0
  let mut status := 0
  for name in arguments do
    let m ← get
    if (m.aliases.lookup name).isSome then
      set { m with aliases := m.aliases.filter (·.1 != name) }
    else
      Act.grumble s!"unalias: {name.toText} not found"
      status := 1
  return status

/-- Says what names mean in full. -/
def describeNames (targets : List Octets) : Act Nat := do
  let mut status := 0
  for target in targets do
    match Lookup.describe (← get) target with
    | some text => Act.say (target ++ " is ".toList ++ text ++ ['\n'])
    | none =>
      modify fun m => m.write 2 (target ++ ": not found\n".toList)
      status := 127
  return status

/-- Remembers where programs are, or prints what is remembered. -/
def rememberPrograms (arguments : List Octets) : Act Nat := do
  let m ← get
  if arguments.isEmpty then
    for name in m.remembered.reverse do
      if let some path := Lookup.locate m name then Act.say (path ++ ['\n'])
    return 0
  if arguments.head? == some ['-', 'r'] then
    set { m with remembered := [] }
    return 0
  let mut status := 0
  for name in arguments do
    match Lookup.find m name with
    | .failed _ _ => status ← Act.protested "hash" s!"{name.toText}: not found" 1
    | .program _ _ =>
      modify fun m => { m with remembered := name :: m.remembered.filter (· != name) }
    | _ => pure ()
  return status

/-- Prints the paths of programs. -/
def programPaths (arguments : List Octets) : Act Nat := do
  let (letters, targets) := leadingOptions arguments
  let mut status := if targets.isEmpty then 1 else 0
  for target in targets do
    let m ← get
    let directories := ((Lookup.searched m).getD "").toList.splitOn ':' |>.map String.ofList
    let found :=
      if target.contains '/' then
        if (Lookup.atPath m.disk target.toText).isOk then [target.toText] else []
      else
        (directories.map fun d => Path.join (if d.isEmpty then "." else d) target.toText).filter
          fun path => (Lookup.atPath m.disk path).isOk
    let found := if letters.contains 'a' then found else found.take 1
    if found.isEmpty then status := 1
    if !letters.contains 's' then
      for path in found do
        Act.say (Octets.ofString (path ++ "\n"))
  return status

/-- The number that an argument gives, or a failure. -/
def numberArgument (command : String) (usual : Nat) (arguments : List Octets) : Act Nat :=
  match arguments with
  | [] => return usual
  | argument :: _ =>
    match Tool.natural? argument with
    | some n =>
      if n < 2 ^ 31 then return n
      else Act.failAs command s!"Illegal number: {argument.toText}"
    | none => Act.failAs command s!"Illegal number: {argument.toText}"

/-- A duration in seconds with a fraction and a unit, as nanoseconds. -/
def duration? (cs : Octets) : Option Nat := do
  let (cs, factor) :=
    match cs.getLast? with
    | some 's' => (cs.dropLast, 1)
    | some 'm' => (cs.dropLast, 60)
    | some 'h' => (cs.dropLast, 3600)
    | some 'd' => (cs.dropLast, 86400)
    | _ => (cs, 1)
  if cs == "infinity".toList || cs == "inf".toList then return 10 ^ 18
  let (whole, rest) := cs.span Char.isDigit
  let fraction := rest.drop 1
  if (rest.head?.any (· != '.')) || !fraction.all Char.isDigit || (whole ++ fraction).isEmpty then
    none
  let n ← Tool.natural? (whole ++ fraction)
  return n * factor * 10 ^ 9 / 10 ^ fraction.length

/-- Lets time pass as arguments say. -/
def pause (arguments : List Octets) : Act Nat :=
  let refuse (text : String) : Act Nat := Act.useTool "sleep" (Tool.refuse 1 text)
  match Options.read (Options.known "help version") arguments true with
  | .error refusal => refuse refusal.message
  | .ok o =>
    match o.operands.filter fun a => (duration? a).isNone with
    | [] =>
      if o.operands.isEmpty then refuse "missing operand"
      else do
        Act.sleep ((o.operands.filterMap duration?).foldl (· + ·) 0)
        return 0
    | wrong =>
      refuse (String.intercalate "\nsleep: "
        (wrong.map fun a => s!"invalid time interval '{a.toText}'"))

end Codemod.Shell.BuiltIn

/-!
## What names mean in the rich language

- `Inquiry.describe` — what names mean, in full or in a word
- `Inquiry.locate` — the short answer about names
- `Inquiry.remember` — the programs that were found before
-/

namespace Codemod.Shell.Inquiry

/-- What a name may mean. -/
inductive Sense where
  | aliased (value : Octets)
  | keyword
  | function
  | builtIn
  | file (path : String)

/-- What a name means, the first meaning first. -/
def senses (m : Machine) (name : Octets) : List Sense :=
  let own := match m.aliases.lookup name with
    | some value => if m.rich.options.contains "expand_aliases" then [Sense.aliased value] else []
    | none => []
  let word := name.toText
  let keyword :=
    if (Lookup.keywords ++ Lookup.richKeywords).contains word then [Sense.keyword] else []
  let function := if (m.functions.lookup name).isSome then [Sense.function] else []
  let builtIn := if Lookup.isOwn m word then [Sense.builtIn] else []
  let isProgram (path : String) : Bool := (Lookup.atPath m.disk path).isOk
  let files :=
    if name.isEmpty then []
    else if name.contains '/' then [word].filter isProgram
    else
      let directories := ((Lookup.searched m).getD "").toList.splitOn ':' |>.map String.ofList
      (directories.map fun d => Path.join (if d.isEmpty then "." else d) word).filter isProgram
  own ++ keyword ++ function ++ builtIn ++ files.map Sense.file

/-- A sense in one word. -/
def Sense.kind : Sense → String
  | aliased _ => "alias"
  | keyword => "keyword"
  | function => "function"
  | builtIn => "builtin"
  | file _ => "file"

/-- A sense in full. -/
def Sense.text (m : Machine) (name : Octets) : Sense → String
  | aliased value => "is aliased to " ++ ScriptError.shown value.toText
  | keyword => "is a shell keyword"
  | function => "is a function"
  | builtIn => "is a shell builtin"
  | file path => if m.remembered.contains name then s!"is hashed ({path})" else s!"is {path}"

/-- Says what names mean. -/
def describe (command : String) (arguments : List Octets) : Act Nat := do
  let (letters, names) := BuiltIn.leadingOptions arguments
  let mut status := 0
  for name in names do
    let m ← get
    let all := senses m name
    let all := if letters.contains 'f' then all.filter (·.kind != "function") else all
    let all := if letters.contains 'P' then all.filter (·.kind == "file") else all
    let chosen := if letters.contains 'a' then all else all.take 1
    if chosen.isEmpty then
      if !letters.contains 't' && !letters.contains 'p' && !letters.contains 'P' then
        Act.protest command s!"{name.toText}: not found"
      status := 1
    for sense in chosen do
      match sense with
      | .file path =>
        if letters.contains 'p' || letters.contains 'P' then
          Act.say (Octets.ofString (path ++ "\n"))
        else if letters.contains 't' then Act.say "file\n".toList
        else Act.say (name ++ ' ' :: Octets.ofString (sense.text m name ++ "\n"))
      | sense =>
        if letters.contains 't' then Act.say (Octets.ofString (sense.kind ++ "\n"))
        else if !letters.contains 'p' then
          Act.say (name ++ ' ' :: Octets.ofString (sense.text m name ++ "\n"))
  return status

/-- Gives the short answer about names. -/
def locate (names : List Octets) : Act Nat := do
  let mut status := 1
  for name in names do
    let m ← get
    match senses m name with
    | .aliased value :: _ =>
      Act.say ("alias ".toList ++ name ++ '=' :: Quoting.single value ++ ['\n'])
      status := 0
    | .file path :: _ =>
      Act.say (Octets.ofString (path ++ "\n"))
      status := 0
    | _ :: _ =>
      Act.say (name ++ ['\n'])
      status := 0
    | [] => pure ()
  return status

/-- Remembers where programs are, or prints what is remembered. -/
def remember (arguments : List Octets) : Act Nat := do
  let m ← get
  match arguments with
  | [] =>
    if m.remembered.isEmpty then
      Act.grumble "hash: hash table empty"
      return 0
    Act.say "hits\tcommand\n".toList
    for name in m.remembered.reverse do
      if let some path := Lookup.locate m name then Act.say ("   0\t".toList ++ path ++ ['\n'])
    return 0
  | ['-', 'r'] :: _ =>
    set { m with remembered := [] }
    return 0
  | names =>
    let mut status := 0
    for name in names do
      let m ← get
      match Lookup.program (Lookup.searched m) m.disk name.toText with
      | .ok _ => set { m with remembered := name :: m.remembered.filter (· != name) }
      | .error _ =>
        if !Lookup.isOwn m name.toText then
          status ← Act.protested "hash" s!"{name.toText}: not found" 1
    return status

/-- Defines aliases, or prints them. -/
def defineAliases (arguments : List Octets) : Act Nat := do
  let line (name value : Octets) : Octets :=
    "alias ".toList ++ name ++ '=' :: Quoting.single value ++ ['\n']
  let names := if arguments.head? == some ['-', 'p'] then arguments.drop 1 else arguments
  if names.isEmpty then
    for (name, value) in (← get).aliases.mergeSort fun a b => Octets.le a.1 b.1 do
      Act.say (line name value)
    return 0
  let mut status := 0
  for argument in names do
    let (name, value) := argument.span (· != '=')
    let m ← get
    match value, m.aliases.lookup name with
    | _ :: value, _ => set { m with aliases := (name, value) :: m.aliases.filter (·.1 != name) }
    | [], some value => Act.say (line name value)
    | [], none => status ← Act.protested "alias" s!"{Octets.toText name}: not found" 1
  return status

/-- Takes the meaning from aliases. -/
def dropAliases (arguments : List Octets) : Act Nat := do
  if arguments.head? == some ['-', 'a'] then
    modify fun m => { m with aliases := [] }
    return 0
  let mut status := 0
  for name in arguments do
    let m ← get
    if (m.aliases.lookup name).isSome then
      set { m with aliases := m.aliases.filter (·.1 != name) }
    else status ← Act.protested "unalias" s!"{name.toText}: not found" 1
  return status

end Codemod.Shell.Inquiry
