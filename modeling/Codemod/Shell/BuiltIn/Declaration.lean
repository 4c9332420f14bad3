import Codemod.Shell.Assignment
import Codemod.Shell.BuiltIn.Reading
import Codemod.Shell.Lookup

/-!
# Variables and options of a shell

- `BuiltIn.exportVariables`, `BuiltIn.protectVariables`, `BuiltIn.keepVariables` — marks of
  variables
- `BuiltIn.unsetNames` — names that mean nothing any longer
- `BuiltIn.setOptions` — options and positional parameters
-/

namespace Codemod.Shell.BuiltIn

/-- Variables in the order of their names. -/
def sorted (bindings : List (Octets × Octets)) : List (Octets × Octets) :=
  bindings.mergeSort fun a b => Octets.le a.1 b.1

/-- Marks variables in the name of a command, which may give them values too. Without a name the
marked ones are printed. -/
def declare (command : String) (marked : Machine → List Octets) (mark : Machine → Octets → Machine)
    (arguments : List Octets) : Act Nat := do
  let names := if arguments.head? == some ['-', '-'] then arguments.drop 1 else arguments
  if names.isEmpty || names == [['-', 'p']] then
    let m ← get
    for name in (marked m).mergeSort Octets.le do
      let shown := match m.get? name with
        | some value => Lookup.assignment name value
        | none => name
      Act.say (Octets.ofString (command ++ " ") ++ shown ++ ['\n'])
    return 0
  let names := if names.head? == some ['-', 'p'] then names.drop 1 else names
  for argument in names do
    let (name, value) := argument.span (· != '=')
    if !isName name then Act.failAs command s!"{Octets.toText argument}: bad variable name"
    else
      if !value.isEmpty then Act.assign (some command) name (value.drop 1)
      modify fun m => mark m name
  return 0

/-- Marks variables for the environment of commands. -/
def exportVariables : List Octets → Act Nat :=
  declare "export" (·.exported) fun m name =>
    { m with exported := name :: m.exported.filter (· != name) }

/-- Marks variables that are not to change. -/
def protectVariables : List Octets → Act Nat :=
  declare "readonly" (·.readOnly) fun m name =>
    { m with readOnly := name :: m.readOnly.filter (· != name) }

/-- Makes variables a function's own. -/
def keepVariables (arguments : List Octets) : Act Nat := do
  if (← get).locals.isNone then Act.failAs "local" "not in a function"
  for argument in arguments do
    let (name, value) := argument.span (· != '=')
    if !isName name then Act.failAs "local" s!"{Octets.toText argument}: bad variable name"
    modify fun m => { m with locals := m.locals.map ((name, m.slot name) :: ·) }
    if !value.isEmpty then Act.assign (some "local") name (value.drop 1)
  return 0

/-- The machine after a function: its own variables are again what they were. -/
def afterFunction (before m : Machine) : Machine :=
  let m := (m.locals.getD []).foldl (fun m (name, slot) => m.reinstate name slot) m
  { m with
    rich := { m.rich with frames := before.rich.frames, file := before.rich.file }
    parameters := before.parameters
    locals := before.locals
    calls := before.calls
    loops := before.loops
    optionPlace := before.optionPlace }

/-- Takes the meaning from names of variables or functions. -/
def unsetNames (arguments : List Octets) : Act Nat := do
  let (letters, names) := leadingOptions arguments
  match letters.find? fun c => c != 'v' && c != 'f' with
  | some c => Act.failAs "unset" s!"Illegal option -{String.singleton c}"
  | none => pure ()
  for name in names do
    if letters.getLast? == some 'f' then
      modify fun m => { m with functions := m.functions.filter (·.1 != name) }
    else
      let m ← get
      if !isName name then Act.failAs "unset" s!"{name.toText}: bad variable name"
      if m.readOnly.contains name then Act.failAs "unset" s!"{name.toText}: is read only"
      set (m.unset name)
  return 0

/-! ### Options -/

/-- The options by their long names and letters, in the order in which they are listed. -/
def optionNames : List (String × Char) :=
  [("errexit", 'e'), ("noglob", 'f'), ("ignoreeof", 'I'), ("interactive", 'i'), ("monitor", 'm'),
    ("noexec", 'n'), ("stdin", 's'), ("xtrace", 'x'), ("verbose", 'v'), ("vi", 'V'), ("emacs", 'E'),
    ("noclobber", 'C'), ("allexport", 'a'), ("notify", 'b'), ("nounset", 'u'), ("privileged", 'p'),
    ("nolog", 'l'), ("debug", 'd')]

/-- The options by their letters. -/
def withOption (m : Machine) (on : Bool) : Char → Option Machine
  | 'e' => some { m with strict := on }
  | 'u' => some { m with noUnset := on }
  | 'f' => some { m with literalPaths := on }
  | 'x' => some { m with traced := on }
  | 'n' => some { m with unrun := on }
  | 'C' => some { m with keepsFiles := on }
  | 'a' => some { m with exportsAll := on }
  | c =>
    if "ImsvVEbip".toList.contains c then
      some { m with idle := (if on then [c] else []) ++ m.idle.filter (· != c) }
    else none

/-- An option is on. -/
def isOn (m : Machine) : Char → Bool
  | 'e' => m.strict
  | 'u' => m.noUnset
  | 'f' => m.literalPaths
  | 'x' => m.traced
  | 'n' => m.unrun
  | 'C' => m.keepsFiles
  | 'a' => m.exportsAll
  | c => m.idle.contains c

/-- Lists the options, in a form that can be read back if that is asked for. -/
def listOptions (readable : Bool) : Act Unit := do
  let m ← get
  if readable then
    for (name, c) in optionNames do
      let sign := if isOn m c then "-" else "+"
      Act.say (Octets.ofString s!"set {sign}o {name}\n")
  else
    Act.say "Current option settings\n".toList
    for (name, c) in optionNames do
      Act.say (Octets.padRight 16 name.toList
        ++ Octets.ofString (if isOn m c then "on\n" else "off\n"))

/-- Sets options from their letters. -/
def setLetters (on : Bool) : Octets → Act Unit
  | [] => pure ()
  | c :: rest => do
    match withOption (← get) on c with
    | some m =>
      set m
      setLetters on rest
    | none => Act.failAs "set" s!"Illegal option -{String.singleton c}"

/-- Sets the option of a name. -/
def setNamed (sign : Char) (name : Octets) : Act Unit :=
  match optionNames.lookup name.toText with
  | some c => setLetters (sign == '-') [c]
  | none => Act.failAs "set" s!"Illegal option {String.singleton sign}o {name.toText}"

/-- Changes options and positional parameters. -/
def changeOptions (arguments : List Octets) : Act Nat := do
  match arguments with
  | [] => return 0
  | first :: rest =>
    let keep (parameters : List Octets) : Act Nat := do
      modify fun m => { m with parameters, optionPlace := 0 }
      return 0
    match first with
    | ['-', '-'] => keep rest
    | ['-'] => do
      modify fun m => { m with traced := false, idle := m.idle.filter (· != 'v') }
      if rest.isEmpty then return 0 else keep rest
    | sign :: letters =>
      if sign != '-' && sign != '+' then keep arguments
      else
        let (before, named) := letters.span (· != 'o')
        setLetters (sign == '-') before
        match named, rest with
        | ['o'], [] =>
          listOptions (sign == '+')
          return 0
        | ['o'], name :: rest =>
          setNamed sign name
          changeOptions rest
        | named, rest =>
          setLetters (sign == '-') named
          changeOptions rest
    | [] => keep arguments
termination_by arguments.length

/-- Changes options and positional parameters, or prints the variables. -/
def setOptions (arguments : List Octets) : Act Nat := do
  if arguments.isEmpty then
    for (name, value) in sorted (← get).bindings do
      Act.say (Lookup.assignment name value ++ ['\n'])
    return 0
  changeOptions arguments

end Codemod.Shell.BuiltIn

/-!
## Declarations of the rich language

- `Declaration.run` — variables with marks, in the name of one of five commands
- `Declaration.unset` — names that mean nothing any longer
- `Declaration.listAll` — all variables with their values
-/

namespace Codemod.Shell.Declaration

/-- The commands that declare variables. -/
def commands : List String := ["declare", "typeset", "local", "export", "readonly"]

/-- What is asked for. -/
structure Wish where
  /-- The marks that are put on, and those that are taken off. -/
  on : List Char := []
  off : List Char := []
  /-- Declarations are printed. -/
  prints : Bool := false
  /-- Functions are meant. -/
  functions : Bool := false
  namesOnly : Bool := false
  /-- Variables outside of functions are meant. -/
  everywhere : Bool := false
  operands : List Operand := []

/-- The usage of a command. -/
def usage (command : String) : String :=
  match command with
  | "export" => "export: usage: export [-fn] [name[=value] ...] or export -p"
  | "readonly" => "readonly: usage: readonly [-aAf] [name[=value] ...] or readonly -p"
  | "local" => "local: usage: local [option] name[=value] ..."
  | command =>
    command ++ ": usage: " ++ command
      ++ " [-aAfFgiIlnrtux] [name[=value] ...] or " ++ command ++ " -p [-aAfFilnrtux] [name ...]"

/-- The letters of the options of a command. -/
def letters (command : String) : String :=
  match command with
  | "export" => "fnp"
  | "readonly" => "aAfp"
  | _ => "aAfFgiIlnprtux"

/-- The wish after an option letter. -/
def Wish.adding (command : String) (plus : Bool) (w : Wish) (c : Char) : Wish :=
  match c with
  | 'p' => { w with prints := true }
  | 'f' => { w with functions := true }
  | 'F' => { w with functions := true, namesOnly := true }
  | 'g' => { w with everywhere := true }
  | 'I' => w
  | 'n' =>
    if command == "export" then { w with off := 'x' :: w.off }
    else if plus then { w with off := 'n' :: w.off }
    else { w with on := 'n' :: w.on }
  | c => if plus then { w with off := c :: w.off } else { w with on := c :: w.on }

/-- Reads options; the error is the one that is not known. -/
def wish (command : String) (w : Wish) : List Operand → Except String Wish
  | .text ['-', '-'] :: rest => .ok { w with operands := rest }
  | .text (sign :: c :: cs) :: rest =>
    if sign != '-' && sign != '+' then .ok { w with operands := .text (sign :: c :: cs) :: rest }
    else
      match (c :: cs).find? fun c => !(letters command).toList.contains c with
      | some bad => .error s!"{sign}{bad}"
      | none => wish command ((c :: cs).foldl (Wish.adding command (sign == '+')) w) rest
  | operands => .ok { w with operands }

/-- The letters of what is known of a variable, in their order. -/
def flags (s : Slot) : String :=
  let letters := (s.row.toList.map fun r => if r.keyed then 'A' else 'a') ++ s.marks
    ++ (if s.refersTo.isSome then ['n'] else [])
  let shown := "aAfinrtxclu".toList.filter letters.contains
  "-" ++ (if shown.isEmpty then "-" else String.ofList shown)

/-- A list with its keys, as declarations show it. -/
def shownRow (row : Row) : Octets :=
  let keyOf (key : Octets) : Octets :=
    if row.keyed && Quoting.needsQuotes key then Quoting.declared key else key
  let entries :=
    row.entries.map fun (key, value) => '[' :: keyOf key ++ "]=".toList ++ Quoting.declared value
  let ending : Octets := if row.keyed && !entries.isEmpty then [' '] else []
  '(' :: List.intercalate [' '] entries ++ ending ++ [')']

/-- The declaration of a variable. -/
def shown (name : Octets) (s : Slot) : Octets :=
  let value : Octets :=
    match s.row, s.refersTo, s.value with
    | some row, _, _ => '=' :: shownRow row
    | none, some target, _ => '=' :: Quoting.declared target
    | none, none, some value => '=' :: Quoting.declared value
    | none, none, none => []
  Octets.ofString s!"declare {flags s} " ++ name ++ value ++ ['\n']

/-- All names of variables, in their order. -/
def names (m : Machine) : List Octets :=
  let all := m.bindings.map Prod.fst ++ m.rich.rows.map Prod.fst ++ m.exported ++ m.readOnly
    ++ m.rich.references.map Prod.fst
  (all.mergeSort Octets.le).foldr
    (fun name rest => if rest.head? == some name then rest else name :: rest) []

/-- Prints declarations: of all variables with the marks that are asked for, or of those that are
named. -/
def print (command : String) (w : Wish) : Act Nat := do
  let m ← get
  let marks := w.on ++ (match command with
    | "export" => ['x']
    | "readonly" => ['r']
    | _ => [])
  if w.operands.isEmpty then
    for name in names m do
      let s := m.slot name
      let has (c : Char) : Bool :=
        s.marks.contains c || (c == 'a' && s.row.any (!·.keyed))
          || (c == 'A' && s.row.any (·.keyed))
      if marks.all has then Act.say (shown name s)
    return 0
  let mut status := 0
  for operand in w.operands do
    let name := match operand with
      | .text name => name
      | .assignment a => a.name
    let s := (← get).slot name
    if s.value.isNone && s.row.isNone && s.marks.isEmpty && s.refersTo.isNone then
      Act.protest command s!"{name.toText}: not found"
      status := 1
    else Act.say (shown name s)
  return status

/-- Prints the names of functions, or tells by the status that some are there. -/
def printFunctions (w : Wish) : Act Nat := do
  let m ← get
  let texts := w.operands.filterMap fun
    | .text name => some name
    | .assignment _ => none
  if texts.isEmpty then
    for (name, _) in m.functions.mergeSort fun a b => Octets.le a.1 b.1 do
      if w.namesOnly then Act.say ("declare -f ".toList ++ name ++ ['\n'])
    return 0
  let mut status := 0
  for name in texts do
    if (m.functions.lookup name).isSome then
      if w.namesOnly then Act.say (name ++ ['\n'])
    else status := 1
  return status

/-- The marks that are kept with a variable. -/
def keptMarks : List Char := ['i', 'l', 'u', 't']

/-- Makes a variable a function's own, unless it is already. -/
def localise (name : Octets) : Act Unit := modify fun m =>
  match m.locals with
  | none => m
  | some found =>
    if found.any (·.1 == name) then m
    else { m.forget name with locals := some ((name, m.slot name) :: found) }

/-- Puts marks on a variable and takes others off. -/
def mark (w : Wish) (name : Octets) : Act Unit := modify fun m =>
  let asRow (keyed : Bool) (m : Machine) : Machine :=
    match m.row? name with
    | some _ => m
    | none =>
      let entries := ((m.get? name).map fun value => ((['0'] : Octets), value)).toList
      m.setRow name { keyed, entries }
  let m :=
    if w.on.contains 'A' then asRow true m else if w.on.contains 'a' then asRow false m else m
  let added := (w.on.filter keptMarks.contains).map fun c => (name, c)
  let gone (n : Octets) (c : Char) : Bool :=
    n == name && (w.off.contains c || w.on.contains c || (c == 'l' && w.on.contains 'u')
      || (c == 'u' && w.on.contains 'l'))
  let marks := added ++ m.rich.marks.filter fun (n, c) => !gone n c
  let exported :=
    m.exported.filter fun n => !(n == name && (w.off.contains 'x' || w.on.contains 'x'))
  { m with
    rich := { m.rich with marks }
    exported := if w.on.contains 'x' then name :: exported else exported }

/-- Declares one variable; the value is a status. -/
def one (capture : Expand.Capture) (command : String) (w : Wish) (operand : Operand) : Act Nat := do
  let a : Assignment × Bool :=
    match operand with
    | .assignment a => (a, true)
    | .text text =>
      let (name, value) := text.span (· != '=')
      let appends := !value.isEmpty && name.getLast? == some '+'
      let name := if appends then name.dropLast else name
      ({ name, appends, value := [.literal (value.drop 1)] }, !value.isEmpty)
  let (a, assigns) := a
  if !BuiltIn.isName a.name then
    let shown := match operand with
      | .text text => text
      | .assignment a => a.name
    Act.protest command (ScriptError.shown shown.toText ++ ": not a valid identifier")
    return 1
  let m ← get
  if m.readOnly.contains a.name && (assigns || !w.on.contains 'r') && command != "export" then
    Act.protest command s!"{a.name.toText}: readonly variable"
    return 1
  let isOwn := command != "export" && command != "readonly" && !w.everywhere && m.locals.isSome
  if isOwn then localise a.name
  if w.on.contains 'n' then
    let target ← Expand.assigned capture a.value
    modify fun m =>
      let others := m.rich.references.filter (·.1 != a.name)
      { m with rich := { m.rich with
          references := if target.isEmpty then others else (a.name, target) :: others } }
    return 0
  mark w a.name
  if assigns then
    let speaker := if command == "export" || command == "readonly" then none else some command
    let _ ← Assignment.perform capture speaker a
  if w.on.contains 'r' then
    modify fun m => { m with readOnly := a.name :: m.readOnly.filter (· != a.name) }
  return 0

/-- Carries out a command that declares variables. -/
def run (capture : Expand.Capture) (command : String) (operands : List Operand) : Act Nat := do
  match wish command {} operands with
  | .error option =>
    Act.protest command s!"{option}: invalid option"
    Act.grumble (usage command)
    return 2
  | .ok w =>
    let w := match command with
      | "export" => if w.off.contains 'x' then w else { w with on := 'x' :: w.on }
      | "readonly" => { w with on := 'r' :: w.on }
      | _ => w
    if command == "local" && (← get).locals.isNone then
      Act.protest command "can only be used in a function"
      return 1
    if w.functions then
      if command == "export" then return 0
      return ← printFunctions w
    if command == "local" && w.operands.isEmpty then return 0
    if w.operands.isEmpty || (w.prints && command != "export" && command != "readonly") then
      return ← print command w
    let mut status := 0
    for operand in w.operands do
      let found ←
        try one capture command w operand
        catch
          | .refused n => pure n
          | .abandoned => pure 1
          | stop => throw stop
      if found != 0 then status := found
    return status

/-- Takes the meaning from names of variables, elements of lists, or functions. -/
def unset (capture : Expand.Capture) (arguments : List Octets) : Act Nat := do
  let (options, targets) := BuiltIn.leadingOptions arguments
  match options.find? fun c => !"vfn".toList.contains c with
  | some c =>
    Act.protest "unset" s!"-{c}: invalid option"
    Act.grumble "unset: usage: unset [-f] [-v] [-n] [name ...]"
    return 2
  | none => pure ()
  let mut status := 0
  for target in targets do
    let m ← get
    let name : Octets := target.takeWhile (· != '[')
    let subscript := target.drop name.length
    if options.contains 'f' then
      set { m with functions := m.functions.filter (·.1 != name) }
    else if options.contains 'n' then
      set { m with rich := { m.rich with references := m.rich.references.filter (·.1 != name) } }
    else if m.readOnly.contains (m.referent name) then
      Act.protest "unset" s!"{name.toText}: cannot unset: readonly variable"
      status := 1
    else
      match subscript, m.row? name with
      | '[' :: inner, some row =>
        let key := inner.dropLast
        if (key == ['@'] || key == ['*']) && !row.keyed then set (m.unset name)
        else
          match ← Expand.keyOf capture Expand.maxDepth name row [.literal key] with
          | some key => modify fun m => m.setRow name (row.erase key)
          | none => status := 1
      | [], _ =>
        if (m.row? name).isNone && (m.get? name).isNone && !options.contains 'v'
            && (m.functions.lookup name).isSome then
          set { m with functions := m.functions.filter (·.1 != name) }
        else set (m.unset name)
      | _, _ => pure ()
  return status

/-- Prints all variables with their values. -/
def listAll : Act Unit := do
  let m ← get
  for name in names m do
    let s := m.slot name
    match s.row, s.value with
    | some row, _ => Act.say (name ++ '=' :: shownRow row ++ ['\n'])
    | none, some value => Act.say (name ++ '=' :: Quoting.value value ++ ['\n'])
    | none, none => pure ()

end Codemod.Shell.Declaration

/-!
## Options of the rich language

- `Preference.change` — options and positional parameters
- `Preference.shop` — options that have only names
-/

namespace Codemod.Shell.Preference

/-- The options by their names and letters, in the order in which they are listed. -/
def known : List (String × Option Char) :=
  [("allexport", some 'a'), ("braceexpand", some 'B'), ("emacs", none), ("errexit", some 'e'),
    ("errtrace", some 'E'), ("functrace", some 'T'), ("hashall", some 'h'),
      ("histexpand", some 'H'),
    ("history", none), ("ignoreeof", none), ("interactive-comments", none), ("keyword", some 'k'),
    ("monitor", some 'm'), ("noclobber", some 'C'), ("noexec", some 'n'), ("noglob", some 'f'),
    ("nolog", none), ("notify", some 'b'), ("nounset", some 'u'), ("onecmd", some 't'),
    ("physical", some 'P'), ("pipefail", none), ("posix", none), ("privileged", some 'p'),
    ("verbose", some 'v'), ("vi", none), ("xtrace", some 'x')]

/-- The options that are on from the start and stay on. -/
def alwaysOn : List String := ["braceexpand", "hashall", "interactive-comments"]

/-- An option is on. -/
def isOn (m : Machine) (name : String) (letter : Option Char) : Bool :=
  if name == "pipefail" then m.rich.pipeFails
  else
    match letter with
    | some 'B' | some 'h' => !m.rich.options.contains ("no " ++ name)
    | some c => BuiltIn.isOn m c
    | none => alwaysOn.contains name || m.rich.options.contains ("set " ++ name)

/-- The machine with options that have only names. -/
def withNamed (m : Machine) (on : Bool) (name : String) : Machine :=
  let others := m.rich.options.filter (· != name)
  { m with rich := { m.rich with options := if on then name :: others else others } }

/-- The machine with an option turned on or off. -/
def turned (m : Machine) (on : Bool) (name : String) (letter : Option Char) : Machine :=
  if name == "pipefail" then { m with rich := { m.rich with pipeFails := on } }
  else
    match letter with
    | some 'B' | some 'h' => withNamed m (!on) ("no " ++ name)
    | some c =>
      match BuiltIn.withOption m on c with
      | some m => m
      | none => { m with idle := (if on then [c] else []) ++ m.idle.filter (· != c) }
    | none => withNamed m on ("set " ++ name)

/-- Lists the options, perhaps in a form that can be read back. -/
def list (readable : Bool) : Act Unit := do
  let m ← get
  for (name, letter) in known do
    let on := isOn m name letter
    if readable then
      Act.say (Octets.ofString ("set " ++ (if on then "-" else "+") ++ "o " ++ name ++ "\n"))
    else
      Act.say (Octets.padRight 15 name.toList
        ++ '\t' :: Octets.ofString ((if on then "on" else "off") ++ "\n"))

/-- Says how options are set. -/
def usage : Act Nat := do
  Act.grumble
    "set: usage: set [-abefhkmnptuvxBCEHPT] [-o option-name] [--] [-] [arg ...]"
  return 2

/-- Changes options and positional parameters. -/
def changed (arguments : List Octets) : Act Nat := do
  match arguments with
  | [] => return 0
  | first :: rest =>
    let keep (parameters : List Octets) : Act Nat := do
      modify fun m => { m with parameters, optionPlace := 0 }
      return 0
    match first with
    | ['-', '-'] => keep rest
    | ['-'] => do
      modify fun m => { m with traced := false, idle := m.idle.filter (· != 'v') }
      if rest.isEmpty then return 0 else keep rest
    | sign :: letters =>
      if (sign != '-' && sign != '+') || letters.isEmpty then keep arguments
      else
        match letters.find? fun c => !"abefhkmnoptuvxBCEHPT".toList.contains c with
        | some c =>
          Act.protest "set" s!"{sign}{c}: invalid option"
          usage
        | none => do
          for c in letters do
            match known.find? fun (_, letter) => letter == some c with
            | some (name, letter) => modify fun m => turned m (sign == '-') name letter
            | none => pure ()
          if letters.contains 'o' then
            match rest with
            | [] =>
              list (sign == '+')
              return 0
            | name :: rest =>
              match known.lookup name.toText with
              | some letter =>
                modify fun m => turned m (sign == '-') name.toText letter
                changed rest
              | none =>
                Act.protest "set" s!"{name.toText}: invalid option name"
                return 2
          else changed rest
    | [] => keep arguments
termination_by arguments.length

/-- Changes options and positional parameters, or prints the variables. -/
def change (arguments : List Octets) : Act Nat := do
  if arguments.isEmpty then
    Declaration.listAll
    return 0
  changed arguments

/-! ### Options that have only names -/

/-- Their names, and whether they are on from the start. -/
def shopNames : List (String × Bool) :=
  [("autocd", false), ("assoc_expand_once", false), ("cdable_vars", false), ("cdspell", false),
    ("checkhash", false), ("checkjobs", false), ("checkwinsize", true), ("cmdhist", true),
    ("compat31", false), ("compat32", false), ("compat40", false), ("compat41", false),
    ("compat42", false), ("compat43", false), ("compat44", false), ("complete_fullquote", true),
    ("direxpand", false), ("dirspell", false), ("dotglob", false), ("execfail", false),
    ("expand_aliases", false), ("extdebug", false), ("extglob", false), ("extquote", true),
    ("failglob", false), ("force_fignore", true), ("globasciiranges", true), ("globskipdots", true),
    ("globstar", false), ("gnu_errfmt", false), ("histappend", false), ("histreedit", false),
    ("histverify", false), ("hostcomplete", true), ("huponexit", false), ("inherit_errexit", false),
    ("interactive_comments", true), ("lastpipe", false), ("lithist", false),
      ("localvar_inherit", false),
    ("localvar_unset", false), ("login_shell", false), ("mailwarn", false),
    ("no_empty_cmd_completion", false), ("nocaseglob", false), ("nocasematch", false),
    ("noexpand_translation", false), ("nullglob", false), ("patsub_replacement", true),
    ("progcomp", true), ("progcomp_alias", false), ("promptvars", true),
      ("restricted_shell", false),
    ("shift_verbose", false), ("sourcepath", true), ("varredir_close", false), ("xpg_echo", false)]

/-- The options that are on from the start. -/
def shopDefaults : List String := (shopNames.filter (·.2)).map Prod.fst

/-- Shows or changes options that have only names. -/
def shop (arguments : List Octets) : Act Nat := do
  let (letters, names) := BuiltIn.leadingOptions arguments
  match letters.find? fun c => !"supqo".toList.contains c with
  | some c =>
    Act.protest "shopt" s!"-{c}: invalid option"
    Act.grumble "shopt: usage: shopt [-pqsu] [-o] [optname ...]"
    return 2
  | none => pure ()
  let on := letters.contains 's'
  let off := letters.contains 'u'
  if on && off then
    Act.protest "shopt" "cannot set and unset shell options simultaneously"
    return 1
  let report (name : String) (value : Bool) : Act Unit := do
    if letters.contains 'p' then
      Act.say (Octets.ofString ("shopt " ++ (if value then "-s " else "-u ") ++ name ++ "\n"))
    else if !letters.contains 'q' then
      Act.say (Octets.padRight 15 name.toList
        ++ '\t' :: Octets.ofString ((if value then "on" else "off") ++ "\n"))
  if letters.contains 'o' then
    let mut status := 0
    for name in names do
      match known.lookup name.toText with
      | some letter =>
        if on || off then modify fun m => turned m on name.toText letter
        else
          let value := isOn (← get) name.toText letter
          report name.toText value
          if !value then status := 1
      | none =>
        Act.protest "shopt" s!"{name.toText}: invalid option name"
        status := 1
    return status
  if names.isEmpty then
    for (name, _) in shopNames do
      let value := (← get).rich.options.contains name
      if (!on && !off) || value == on then report name value
    return 0
  let mut status := 0
  for name in names do
    if (shopNames.lookup name.toText).isNone then
      Act.protest "shopt" s!"{name.toText}: invalid shell option name"
      status := 1
    else if on || off then modify fun m => withNamed m on name.toText
    else
      let value := (← get).rich.options.contains name.toText
      report name.toText value
      if !value then status := 1
  return status

end Codemod.Shell.Preference
