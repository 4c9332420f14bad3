import Codemod.Shell.Assignment
import Codemod.Shell.Expand

/-!
# Reading lines and options

- `BuiltIn.readLine` — a line of the input as variables
- `BuiltIn.nextOption` — the next option among arguments
-/

namespace Codemod.Shell.BuiltIn

/-- A character of a line, and whether a backslash stood before it. -/
abbrev Typed := Char × Bool

/-- Takes a line of a text without its line feed; what follows it, and whether there was a line
feed. -/
def takeLine (raw : Bool) (line : List Typed) : Octets → List Typed × Octets × Bool
  | [] => (line.reverse, [], false)
  | '\n' :: rest => (line.reverse, rest, true)
  | '\\' :: rest =>
    if raw then takeLine raw (('\\', false) :: line) rest
    else
      match rest with
      | [] => (line.reverse, [], false)
      | '\n' :: rest => takeLine raw line rest
      | c :: rest => takeLine raw ((c, true) :: line) rest
  | c :: rest => takeLine raw ((c, false) :: line) rest

/-- How far a line has been divided. -/
structure Division where
  /-- The fields that are complete, latest first. -/
  complete : List Octets := []
  /-- The current field, last character first. -/
  current : Octets := []
  /-- What follows the current field and belongs to it only if more follows. -/
  trailing : Option Octets := none
  /-- How many fields may still begin. -/
  left : Nat
  /-- A blank has just ended a field. -/
  closed : Bool := false

namespace Division

/-- The division after one more character. -/
def step (separators : Octets) (d : Division) : Typed → Division
  | (c, escaped) =>
    let separates := !escaped && separators.contains c
    let blank := separates && Expand.isBlank c
    if d.left == 0 then
      if blank then { d with trailing := some (c :: d.trailing.getD []) }
      else if separates && d.closed then
        { d with
          closed := false
          current := if d.trailing.isNone then c :: d.current else d.current
          trailing := d.trailing.map (c :: ·) }
      else
        { d with current := c :: (d.trailing.getD [] ++ d.current), trailing := none,
                 closed := false }
    else if d.closed then
      if blank then d
      else if separates then { d with closed := false }
      else { d with current := [c], closed := false }
    else if separates then
      if blank && d.current.isEmpty then d
      else if d.left == 1 then { d with left := 0, trailing := some [c], closed := blank }
      else
        { d with
          complete := d.current.reverse :: d.complete
          current := []
          left := d.left - 1
          closed := blank }
    else { d with current := c :: d.current }

/-- The fields of a line, of which there are at most so many. -/
def fields (d : Division) : List Octets :=
  (if d.current.isEmpty then d.complete else d.current.reverse :: d.complete).reverse

end Division

/-- Assigns the fields of a line to names; the last name takes what is left. -/
def assignFields (m : Machine) (names : List Octets) (fields : List Octets) : Machine :=
  (names.zipIdx).foldl (fun m (name, i) => m.set name (fields.getD i [])) m

/-- A text is the name of a variable. -/
def isName (name : Octets) : Bool := name.head?.any Scan.startsName && name.all Scan.isNameChar

/-- Splits options of single letters from the front of arguments. -/
def leadingOptions (arguments : List Octets) : Octets × List Octets :=
  match arguments with
  | ['-', '-'] :: rest => ([], rest)
  | ('-' :: c :: cs) :: rest =>
    let (letters, others) := leadingOptions rest
    (c :: cs ++ letters, others)
  | rest => ([], rest)

/-- Reads a line into variables. -/
def readLine (arguments : List Octets) : Act Nat := do
  let (raw, prompted, names) :=
    match arguments with
    | ['-', 'r'] :: ['-', 'p'] :: _ :: names => (true, true, names)
    | ['-', 'p'] :: _ :: ['-', 'r'] :: names => (true, true, names)
    | ['-', 'r'] :: names => (true, false, names)
    | ['-', 'p'] :: _ :: names => (false, true, names)
    | names => (false, false, names)
  let _ := prompted
  let (letters, names) := leadingOptions names
  match letters with
  | c :: _ => return ← Act.protested "read" s!"Illegal option -{String.singleton c}"
  | [] => pure ()
  let m ← get
  if names.isEmpty then return ← Act.protested "read" "arg count"
  let text := ((m.contents 0).toOption.map Prod.fst).getD []
  let (line, rest, ended) := takeLine raw [] text
  let endless := ((m.contents 0).toOption.map Prod.snd).getD false
  if !ended && endless then throw .expired
  set (m.left 0 rest)
  let line := line.filter (·.1 != '\x00')
  let d := line.foldl (Division.step (Expand.separators m)) { left := names.length }
  for (name, value) in names.zip (d.fields ++ List.replicate names.length []) do
    if !isName name then return ← Act.protested "read" s!"{name.toText}: bad variable name"
    let m ← get
    if m.readOnly.contains name then
      return ← Act.protested "read" s!"{name.toText}: is read only"
    set (m.set name value)
  return if ended then 0 else 1

/-- The next option among arguments: a letter of `known`, where a colon marks those with a value. -/
def nextOption (arguments : List Octets) : Act Nat := do
  match arguments with
  | known :: name :: given => do
    let m ← get
    let words := if given.isEmpty then m.parameters else given
    let index := ((m.get? "OPTIND".toList).bind Tool.natural?).getD 1
    let index := max index 1
    let place := m.optionPlace
    let quiet := known.head? == some ':'
    let finish (letter : Octets) (value : Option Octets) (index place status : Nat) : Act Nat := do
      modify fun m =>
        let m := match value with
          | some value => m.set "OPTARG".toList value
          | none => { m with bindings := m.bindings.filter (·.1 != "OPTARG".toList) }
        { (m.set "OPTIND".toList (Octets.ofNat index)).set name letter with optionPlace := place }
      return status
    let argument := words.getD (index - 1) []
    let ended := finish ['?'] none index 0 1
    if place == 0 then
      if argument.head? != some '-' || argument.length < 2 then return ← ended
      if argument == ['-', '-'] then return ← finish ['?'] none (index + 1) 0 1
    let place := max place 1
    match argument.drop place with
    | [] => ended
    | c :: more =>
      let (index, place) := if more.isEmpty then (index + 1, 0) else (index, place + 1)
      let found := (known.dropWhile (· != c))
      if c == ':' || found.isEmpty then
        if quiet then finish ['?'] (some [c]) index place 0
        else
          if !m.rich.isOn then Act.grumble s!"Illegal option -{String.singleton c}"
          else if m.get? "OPTERR".toList != some ['0'] then
            Act.grumble s!"{m.name.toText}: illegal option -- {String.singleton c}"
          finish ['?'] none index place 0
      else if found[1]? == some ':' then
        if !more.isEmpty then finish [c] (some more) (index + 1) 0 0
        else
          match words[index - 1]? with
          | some value => finish [c] (some value) (index + 1) 0 0
          | none =>
            if quiet then finish [':'] (some [c]) index 0 0
            else
              if !m.rich.isOn then Act.grumble s!"No arg for -{String.singleton c} option"
              else if m.get? "OPTERR".toList != some ['0'] then
                Act.grumble s!"{m.name.toText}: option requires an argument -- {String.singleton c}"
              finish ['?'] none index 0 0
      else finish [c] (some []) index place 0
  | _ => do
    if (← get).rich.isOn then
      Act.grumble "getopts: usage: getopts optstring name [arg ...]"
      return 2
    Act.protested "getopts" "Usage: getopts optstring var [arg...]"

end Codemod.Shell.BuiltIn

/-!
## Reading the input in the rich language

- `Intake.line` — a line of the input as variables or as a list
- `Intake.lines` — the lines of the input as a list
-/

namespace Codemod.Shell.Intake

/-- Options with letters, some of which take a value. -/
structure Letters where
  found : List (Char × Octets) := []
  operands : List Octets := []

/-- Reads options; the error is what is wrong with one. -/
def letters (flags valued : String) (l : Letters) : List Octets → Except (Bool × Char) Letters
  | ['-', '-'] :: rest => .ok { l with operands := rest }
  | ('-' :: c :: cs) :: rest => do
    match word c cs l with
    | .error e => .error e
    | .ok (l, none) => letters flags valued l rest
    | .ok (l, some c) =>
      match rest with
      | value :: rest => letters flags valued { l with found := (c, value) :: l.found } rest
      | [] => .error (true, c)
  | rest => .ok { l with operands := rest }
where
  /-- The letters of one word, and the last one if its value is still to come. -/
  word (c : Char) (cs : Octets) (l : Letters) : Except (Bool × Char) (Letters × Option Char) :=
    if valued.toList.contains c then
      if cs.isEmpty then .ok (l, some c) else .ok ({ l with found := (c, cs) :: l.found }, none)
    else if flags.toList.contains c then
      let l := { l with found := (c, []) :: l.found }
      match cs with
      | d :: cs => word d cs l
      | [] => .ok (l, none)
    else .error (false, c)
  termination_by structural cs

/-- The value of an option. -/
def Letters.value? (l : Letters) (c : Char) : Option Octets := l.found.lookup c

/-- The option is given. -/
def Letters.has (l : Letters) (c : Char) : Bool := (l.found.lookup c).isSome

/-- Says what is wrong with an option. -/
def refuse (command usage : String) (e : Bool × Char) : Act Nat := do
  Act.protest command (s!"-{e.2}: "
    ++ (if e.1 then "option requires an argument" else "invalid option"))
  Act.grumble s!"{command}: usage: {usage}"
  return 2

/-- Takes characters up to a delimiter, or so many of them. The rest follows, and whether what was
asked for was there. -/
def take (raw exact : Bool) (delimiter : Char) (taken : List BuiltIn.Typed) (most : Option Nat) :
    Octets → List BuiltIn.Typed × Octets × Bool
  | [] => (taken.reverse, [], false)
  | c :: rest =>
    if most == some 0 then (taken.reverse, c :: rest, true)
    else
      let less := most.map (· - 1)
      if c == delimiter && !exact then (taken.reverse, rest, true)
      else if c == '\\' && !raw then
        match rest with
        | [] => (taken.reverse, [], false)
        | '\n' :: rest => take raw exact delimiter taken most rest
        | d :: rest =>
          if less == some 0 then ((d, true) :: taken |>.reverse, rest, true)
          else take raw exact delimiter ((d, true) :: taken) less rest
      else if less == some 0 then ((c, false) :: taken |>.reverse, rest, true)
      else take raw exact delimiter ((c, false) :: taken) less rest

/-- How reading a line is asked for. -/
def lineUsage : String :=
  "read [-ers] [-a array] [-d delim] [-i text] [-n nchars] [-N nchars] [-p prompt] [-t timeout] "
    ++ "[-u fd] [name ...]"

/-- Reads a line of the input into variables or a list. -/
def line (arguments : List Octets) : Act Nat := do
  match letters "ers" "adinNptu" {} arguments with
  | .error e => refuse "read" lineUsage e
  | .ok l =>
    let stream := ((l.value? 'u').bind Tool.natural?).getD 0
    let m ← get
    for name in l.operands do
      if !BuiltIn.isName (name.takeWhile (· != '[')) then
        return ← Act.protested "read" (ScriptError.shown name.toText
          ++ ": not a valid identifier") 1
    match m.stream? stream with
    | none =>
      return ← Act.protested "read" s!"{stream}: invalid file descriptor: Bad file descriptor" 1
    | some _ => pure ()
    let (text, endless) := ((m.contents stream).toOption).getD ([], false)
    if l.value? 't' == some ['0'] then return if text.isEmpty && !endless then 1 else 0
    let exact := l.has 'N'
    let most := ((l.value? 'N').or (l.value? 'n')).bind Tool.natural?
    let delimiter := match l.value? 'd' with
      | some (c :: _) => c
      | some [] => '\x00'
      | none => '\n'
    let (typed, rest, ended) := take (l.has 'r') exact delimiter [] most text
    if !ended && endless then throw .expired
    set (m.left stream rest)
    let typed := typed.filter (·.1 != '\x00')
    let separators := if exact then [] else Expand.separators m
    let status := if ended then 0 else 1
    match l.value? 'a', l.operands with
    | some name, _ => do
      let d := typed.foldl (BuiltIn.Division.step separators) { left := typed.length + 1 }
      if m.readOnly.contains name then Act.failReadOnly none name
      modify fun m => m.setRow name (Row.ofList d.fields)
      return status
    | none, [] => do
      Act.store none "REPLY".toList none false (typed.map Prod.fst)
      return status
    | none, names => do
      let d := typed.foldl (BuiltIn.Division.step separators) { left := names.length }
      for (name, value) in names.zip (d.fields ++ List.replicate names.length []) do
        let m ← get
        if m.readOnly.contains name then
          Act.complain s!"{name.toText}: readonly variable"
          return 1
        match name.span (· != '[') with
        | (name, '[' :: index) =>
          let row := (m.row? name).getD {}
          match ← Expand.keyOf (fun _ =>
            pure []) Expand.maxDepth name row [.plain index.dropLast] with
          | some key => Act.store none name (some key) false value
          | none => pure ()
        | (name, _) => Act.store none name none false value
      return status

/-- Reads the lines of the input into a list. -/
def lines (command : String) (arguments : List Octets) : Act Nat := do
  let usage :=
    command ++ " [-d delim] [-n count] [-O origin] [-s count] [-t] [-u fd] [-C callback] "
    ++ "[-c quantum] [array]"
  match letters "t" "dnOsuCc" {} arguments with
  | .error e => refuse command usage e
  | .ok l =>
    let number (c : Char) : Nat := ((l.value? c).bind Tool.natural?).getD 0
    let stream := number 'u'
    let name := l.operands.headD "MAPFILE".toList
    let m ← get
    let delimiter := match l.value? 'd' with
      | some (c :: _) => c
      | some [] => '\x00'
      | none => '\n'
    let (text, endless) := ((m.contents stream).toOption).getD ([], false)
    if endless && number 'n' == 0 then throw .expired
    let all := (Octets.records delimiter text).drop (number 's')
    let chosen := if number 'n' == 0 then all else all.take (number 'n')
    let left := if number 'n' == 0 then [] else (all.drop (number 'n')).flatten
    let values := if !l.has 't' then chosen
      else chosen.map fun r => if r.getLast? == some delimiter then r.dropLast else r
    set (m.left stream left)
    let origin := number 'O'
    let start : Row := if l.has 'O' then (m.row? name).getD {} else {}
    let row :=
      values.zipIdx.foldl (fun row (value, i) => row.set (Octets.ofNat (origin + i)) value) start
    modify fun m => m.setRow name row
    return 0

end Codemod.Shell.Intake
