import Codemod.Shell.Octets
import Codemod.Shell.Regex.Reading
import Codemod.Shell.Tool.Options

/-!
# Names in messages

A name in a message is written so that a shell would read it back: between quotes, with the octets
that cannot be printed as escapes.

- `Quote.always` — a name between quotes
- `Quote.ifNeeded` — a name, between quotes only when a shell would not read it as it stands
-/

namespace Codemod.Shell.Quote

/-- The octet can be printed. -/
def isPrintable (c : Char) : Bool := ' ' ≤ c && c ≤ '~'

/-- The escape of an octet that cannot be printed. -/
def escape (c : Char) : Octets :=
  match c.toNat with
  | 7 => "\\a".toList
  | 8 => "\\b".toList
  | 9 => "\\t".toList
  | 10 => "\\n".toList
  | 11 => "\\v".toList
  | 12 => "\\f".toList
  | 13 => "\\r".toList
  | n => '\\' :: [n / 64 % 8, n / 8 % 8, n % 8].map fun d => Char.ofNat (48 + d)

/-- The rest of a name after its opening quote; `escaping` tells that an escape was written last. -/
def inside (escaping : Bool) : Octets → Octets
  | [] => ['\'']
  | c :: rest =>
    if !isPrintable c then
      (if escaping then [] else "'$'".toList) ++ escape c ++ inside true rest
    else if c == '\'' then "'\\''".toList ++ inside false rest
    else (if escaping then "''".toList else []) ++ c :: inside false rest

/-- The octet has no meaning between double quotes, when it stands at this place of a name. -/
def isTame (place length : Nat) (c : Char) : Bool :=
  c.isAlphanum || "%+,-./:]_ '".toList.contains c || (place == 0 && (c == '#' || c == '~'))
    || (length == 1 && (c == '\x7b' || c == '\x7d'))

/-- A name between quotes. -/
def always (name : Octets) : Octets :=
  if name.contains '\'' && name.zipIdx.all fun (c, i) => isTame i name.length c then
    '"' :: name ++ ['"']
  else '\'' :: inside false name

/-- The octet has a meaning to a shell, when it stands at this place of a name. -/
def isActive (place length : Nat) (c : Char) : Bool :=
  !isPrintable c || " !\"$&'()*;<=>?[^`|\\:".toList.contains c
    || (place == 0 && (c == '#' || c == '~'))
    || (length == 1 && (c == '\x7b' || c == '\x7d'))

/-- A name, between quotes when a shell would not read it as it stands. -/
def ifNeeded (name : Octets) : Octets :=
  if name.isEmpty || name.zipIdx.any fun (c, i) => isActive i name.length c then always name
  else name

end Codemod.Shell.Quote

/-!
## Tools that pass lines on

- `Tool.cat`, `Tool.tac`, `Tool.rev`, `Tool.number` — all lines, as they are, backwards, or numbered
- `Tool.tee` — the input, also into files
-/

namespace Codemod.Shell.Tool

/-- A name in a complaint. -/
def shown (name : Octets) : String := String.ofList (Quote.ifNeeded name)

/-- A name between quotes in a complaint. -/
def quoted (name : Octets) : String := String.ofList (Quote.always name)

/-- Complains that something happened to a name. -/
def blameFor (name : Octets) (cause : SystemError) : Tool Unit :=
  blame s!"{shown name}: {reason cause}"

/-- The contents of named files. What cannot be read is complained about in the tool's usual way;
the status tells whether that happened. -/
def texts (names : List Octets) : Tool (List (Octets × Octets) × Nat) := do
  let mut found := []
  let mut status := 0
  for name in names do
    match ← contentOf name with
    | .ok text => found := (name, text) :: found
    | .error cause =>
      blameFor name cause
      status := 1
  return (found.reverse, status)

/-- An octet as it is shown when it cannot be printed. -/
def visible (c : Char) : Octets :=
  let low (n : Nat) : Octets :=
    if n < 32 then ['^', Char.ofNat (n + 64)] else if n == 127 then ['^', '?'] else [Char.ofNat n]
  if c.toNat < 128 then low c.toNat else 'M' :: '-' :: low (c.toNat - 128)

/-- How lines are passed on. -/
structure Passing where
  numbered : Bool
  numberedUnlessEmpty : Bool
  squeezed : Bool
  ends : Bool
  tabs : Bool
  visible : Bool

/-- The output for lines; `count` have been numbered, and `empty` tells that the last one was
empty. -/
def Passing.lines (p : Passing) (count : Nat) (empty : Bool) : List Octets → Octets
  | [] => []
  | line :: rest =>
    let complete := line.getLast? == some '\n'
    let bare := if complete then line.dropLast else line
    if p.squeezed && empty && line == ['\n'] then p.lines count true rest
    else
      let counts := if p.numberedUnlessEmpty then line != ['\n'] else p.numbered
      let front := if counts then Octets.padLeft 6 (Octets.ofNat (count + 1)) ++ ['\t'] else []
      let body := bare.flatMap fun c =>
        if c == '\t' then (if p.tabs then ['^', 'I'] else [c])
        else if p.visible then Tool.visible c
        else [c]
      let body :=
        if p.ends && !p.visible && complete && bare.getLast? == some '\r' then
          body.dropLast ++ ['^', 'M']
        else body
      front ++ body ++ (if complete then (if p.ends then ['$', '\n'] else ['\n']) else [])
        ++ p.lines (if counts then count + 1 else count) (line == ['\n']) rest

/-- Prints files one after another. -/
def cat : List Octets → Tool Nat :=
  withOptions
    "n,number b,number-nonblank s,squeeze-blank E,show-ends T,show-tabs v,show-nonprinting A,show-all e t u"
    1 fun o => do
  let growing := (← get).growing
  let mut found : List Octets := []
  let mut status := 0
  for name in o.sources do
    if growing.isSome && (← sourceOf name) == growing then
      blame s!"{shown name}: input file is output file"
      status := 1
    else
      match ← contentOf name with
      | .ok text => found := text :: found
      | .error cause =>
        blameFor name cause
        if name == ['-'] && cause == .code 9 then
          blame "closing standard input: Bad file descriptor"
        status := 1
  let text := found.reverse.flatten
  let shows := ["A", "e", "t", "v"].any o.has
  let p : Passing :=
    { numbered := o.has "n"
      numberedUnlessEmpty := o.has "b"
      squeezed := o.has "s"
      ends := ["A", "e", "E"].any o.has
      tabs := ["A", "t", "T"].any o.has
      visible := shows }
  let plain := !(p.numbered || p.numberedUnlessEmpty || p.squeezed || p.ends || p.tabs || p.visible)
  say (if plain then text else p.lines 0 false (Octets.records '\n' text))
  return status

/-- Prints the lines of files backwards. -/
def tac : List Octets → Tool Nat :=
  withOptions "b,before r,regex s,separator:" 1 fun o => do
  let mut status := 0
  for name in o.sources do
    match ← contentOf name with
    | .ok text =>
      let separator := (o.value? "s").bind (·.head?) |>.getD '\n'
      let records := Octets.records separator text
      if o.has "b" then
        let pieces := (text.splitOn separator)
        let first := pieces.headD []
        say ((pieces.drop 1).reverse.flatMap (separator :: ·) ++ first)
      else say records.reverse.flatten
    | .error cause =>
      if cause == .isDirectory then blame s!"{shown name}: read error: Is a directory"
      else blame s!"failed to open {quoted name} for reading: {reason cause}"
      status := 1
  return status

/-- Prints each line backwards. -/
def rev : List Octets → Tool Nat :=
  withOptions "" 1 fun o => do
  let mut status := 0
  for name in o.sources do
    match ← contentOf name with
    | .ok text =>
      for line in Octets.records '\n' text do
        say (if line.getLast? == some '\n' then line.dropLast.reverse ++ ['\n'] else line.reverse)
    | .error cause =>
      blame s!"cannot open {name.toText}: {reason cause}"
      status := 1
  return status

/-- Which lines get a number. -/
inductive Numbering where
  | all
  | filled
  | never
  | matching (r : Regex)

/-- Numbers lines. -/
def number : List Octets → Tool Nat :=
  withOptions
    ("b,body-numbering: n,number-format: w,number-width: s,number-separator: v,starting-line-number: "
      ++ "i,line-increment: h,header-numbering: f,footer-numbering: d,section-delimiter: p,no-renumber "
      ++ "l,join-blank-lines:")
    1 fun o => do
  let (found, status) ← texts o.sources
  let natural (name : String) (usual : Nat) : Nat := ((o.value? name).bind natural?).getD usual
  let width := natural "w" 6
  let separator := (o.value? "s").getD ['\t']
  let step := natural "i" 1
  let style ←
    match o.value? "b" with
    | none | some ['t'] => pure Numbering.filled
    | some ['a'] => pure .all
    | some ['n'] => pure .never
    | some ('p' :: text) =>
      match Regex.read .basic text with
      | .ok r => pure (.matching r)
      | .error e =>
        blame e.message
        return 1
    | some text =>
      blame s!"invalid body numbering style: {quoted text}"
      complain (advice "nl")
      return 1
  let written (n : Nat) : Octets :=
    match o.value? "n" with
    | some ['l', 'n'] => Octets.padRight width (Octets.ofNat n)
    | some ['r', 'z'] => Octets.padLeft width (Octets.ofNat n) '0'
    | _ => Octets.padLeft width (Octets.ofNat n)
  let mut n := natural "v" 1
  let mut out : List Octets := []
  for line in Octets.records '\n' (found.flatMap Prod.snd) do
    let bare := if line.getLast? == some '\n' then line.dropLast else line
    let counts := match style with
      | .all => true
      | .filled => !bare.isEmpty
      | .never => false
      | .matching r => r.occursIn bare
    if counts then
      out := (written n ++ separator ++ bare ++ ['\n']) :: out
      n := n + step
    else out := (List.replicate (width + separator.length) ' ' ++ bare ++ ['\n']) :: out
  say out.reverse.flatten
  return status

/-- Passes the input on, also into files. -/
def tee : List Octets → Tool Nat :=
  withOptions "a,append i,ignore-interrupts p output-error::" 1 fun o => do
  let text ← readAll
  say text
  let mut status := 0
  for name in o.operands do
    let path := name.toText
    let disk := (← get).disk
    let old : Octets :=
      if o.has "a" then ((disk.readBytes path).toOption.map Octets.ofBytes).getD [] else []
    match ← store path (old ++ text) with
    | .ok () => pure ()
    | .error cause =>
      blameFor name cause
      status := 1
  return status

end Codemod.Shell.Tool

/-!
## Options with few values

Some options have one of a few values, each with one or more names. A name may be shortened as long
as only one value is meant.

- `Choice.find` — the value of a name
- `Tool.chosen` — the value that was given to a tool
-/

namespace Codemod.Shell

/-- The values of an option, each with its names. -/
structure Choice (α : Type) where
  /-- What the option is called in a complaint. -/
  called : String
  values : List (List String × α)

namespace Choice

variable {α : Type}

/-- Why a name stands for no value. -/
inductive Fault where
  | unknown
  | ambiguous

/-- The value of a name. -/
def find (c : Choice α) (given : String) : Except Fault α :=
  match c.values.find? fun v => v.1.contains given with
  | some (_, value) => .ok value
  | none =>
    match c.values.filter fun v => v.1.any (·.startsWith given) with
    | [(_, value)] => .ok value
    | [] => .error .unknown
    | _ => .error .ambiguous

/-- The names of all values, those of one value on one line. -/
def listed (c : Choice α) : String :=
  String.intercalate "\n" (c.values.map fun (names, _) =>
    "  - " ++ String.intercalate ", " (names.map fun n => s!"'{n}'"))

end Choice

namespace Tool

variable {α : Type}

/-- The value that was given for an option, or the usual one. A name without a value is complained
about. -/
def chosen (c : Choice α) (o : Options) (name : String) (usual : α) : Tool (Option α) := do
  match o.value? name with
  | none => return some usual
  | some given =>
    match c.find given.toText with
    | .ok value => return some value
    | .error fault =>
      let what := match fault with
        | .unknown => "invalid"
        | .ambiguous => "ambiguous"
      let _ ← refuse 1
        s!"{what} argument {quoted given} for '{c.called}'\nValid arguments are:\n{c.listed}"
      return none

end Tool

end Codemod.Shell
