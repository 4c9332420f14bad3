import Codemod.Shell.Tool.Bench

/-!
# Options of the tools

Options are letters after a dash or words after two, and may stand anywhere among the operands up to
a double dash. What a tool knows is written as one text: `"n,lines: q,quiet color::"` has two
options with a letter and a word, the first with a value, and one with a word and a value that may
be left out.

- `Options.known` — the options of a text
- `Options.read` — options and operands of arguments
- `Tool.withOptions` — a tool that refuses what it does not know
-/

namespace Codemod.Shell

/-- Whether an option has a value. -/
inductive Takes where
  | nothing
  | value
  /-- It may be left out, and otherwise follows directly. -/
  | perhaps
deriving DecidableEq

/-- An option that a tool knows. -/
structure Flag where
  /-- Its letters and words; it is called by the first one. -/
  names : List String
  takes : Takes

/-- What was given to a tool. -/
structure Options where
  /-- The options in their order, by their first names. -/
  given : List (String × Octets) := []
  operands : List Octets := []

namespace Options

/-- The options of a text. -/
def known (text : String) : List Flag :=
  (text.toList.splitOn ' ').filterMap fun word =>
    let bare := word.filter (· != ':')
    let takes := match word.length - bare.length with
      | 0 => Takes.nothing
      | 1 => .value
      | _ => .perhaps
    if bare.isEmpty then none else some ⟨(bare.splitOn ',').map String.ofList, takes⟩

/-- The option was given. -/
def has (o : Options) (name : String) : Bool := o.given.any (·.1 == name)

/-- The last value that was given. -/
def value? (o : Options) (name : String) : Option Octets :=
  (o.given.reverse.find? (·.1 == name)).map Prod.snd

/-- All values that were given. -/
def values (o : Options) (name : String) : List Octets :=
  (o.given.filter (·.1 == name)).map Prod.snd

/-- Of some options the one that was given last. -/
def last? (o : Options) (names : List String) : Option String :=
  (o.given.reverse.find? fun (name, _) => names.contains name).map Prod.fst

/-- One more option. -/
def adding (name : String) (value : Octets) (o : Options) : Options :=
  { o with given := (name, value) :: o.given }

/-- The files to be read: the operands, or the input when there is none. -/
def sources (o : Options) : List Octets := if o.operands.isEmpty then [['-']] else o.operands

/-- Why arguments are refused. -/
inductive Refusal where
  | letter (c : Char)
  | letterValue (c : Char)
  | word (text : String)
  | wordValue (name : String)
  | noValue (name : String)
  | ambiguous (text : String) (names : List String)

/-- What a tool says. -/
def Refusal.message : Refusal → String
  | letter c => s!"invalid option -- '{String.singleton c}'"
  | letterValue c => s!"option requires an argument -- '{String.singleton c}'"
  | word text => s!"unrecognized option '--{text}'"
  | wordValue name => s!"option '--{name}' requires an argument"
  | noValue name => s!"option '--{name}' doesn't allow an argument"
  | ambiguous text names =>
    let shown := names.map fun name => s!" '--{name}'"
    s!"option '--{text}' is ambiguous; possibilities:{String.join shown}"

/-- The option of a word, which may be shortened as long as only one is meant. -/
def ofWord? (flags : List Flag) (text : String) : Except Refusal (Flag × String) :=
  let words (f : Flag) := f.names.filter (·.length > 1)
  match flags.find? fun f => (words f).contains text with
  | some f => .ok (f, text)
  | none =>
    let fitting := flags.filterMap fun f =>
      ((words f).find? (·.startsWith text)).map fun name => (f, name)
    match fitting with
    | [found] => .ok found
    | [] => .error (.word text)
    | several => .error (.ambiguous text (several.map Prod.snd))

/-- The letters of one argument, and what is left of the others. -/
def letters (flags : List Flag) (cs : Octets) (rest : List Octets) (o : Options) :
    Except Refusal (Options × List Octets) :=
  match cs with
  | [] => .ok (o, rest)
  | c :: more =>
    match flags.find? fun f => f.names.contains (String.singleton c) with
    | none => .error (.letter c)
    | some f =>
      let name := f.names.headD ""
      match f.takes with
      | .nothing => letters flags more rest (o.adding name [])
      | .perhaps => .ok (o.adding name more, rest)
      | .value =>
        if !more.isEmpty then .ok (o.adding name more, rest)
        else
          match rest with
          | value :: rest => .ok (o.adding name value, rest)
          | [] => .error (.letterValue c)

/-- One argument that is a word after two dashes, and what is left of the others. -/
def word (flags : List Flag) (text : Octets) (rest : List Octets) (o : Options) :
    Except Refusal (Options × List Octets) := do
  let (name, value) := text.span (· != '=')
  let (f, full) ← match ofWord? flags (Octets.toText name) with
    | .error (.word _) => .error (.word text.toText)
    | found => found
  let key := f.names.headD ""
  match f.takes, value with
  | .nothing, [] => return (o.adding key [], rest)
  | .nothing, _ => throw (.noValue full)
  | .perhaps, value => return (o.adding key (value.drop 1), rest)
  | .value, _ :: value => return (o.adding key value, rest)
  | .value, [] =>
    match rest with
    | value :: rest => return (o.adding key value, rest)
    | [] => throw (.wordValue full)

/-- Reads arguments one after another. Unless `anywhere`, the first operand ends the options. -/
def readFrom (flags : List Flag) (anywhere : Bool) (fuel : Nat) (arguments : List Octets)
    (o : Options) : Except Refusal Options :=
  let finished (o : Options) (rest : List Octets) : Options :=
    ⟨o.given.reverse, o.operands.reverse ++ rest⟩
  match fuel, arguments with
  | 0, rest => .ok (finished o rest)
  | _, [] => .ok (finished o [])
  | fuel + 1, argument :: rest =>
    match argument with
    | ['-', '-'] => .ok (finished o rest)
    | '-' :: '-' :: text => do
      let (o, rest) ← word flags text rest o
      readFrom flags anywhere fuel rest o
    | '-' :: c :: more => do
      let (o, rest) ← letters flags (c :: more) rest o
      readFrom flags anywhere fuel rest o
    | operand =>
      if anywhere then
        readFrom flags anywhere fuel rest { o with operands := operand :: o.operands }
      else .ok (finished o (operand :: rest))

/-- Options and operands of arguments. -/
def read (flags : List Flag) (arguments : List Octets) (anywhere : Bool) : Except Refusal Options :=
  readFrom flags anywhere (arguments.length + 1) arguments {}

end Options

namespace Tool

/-- The advice after a complaint about arguments. -/
def advice (tool : String) : String := s!"Try '{tool} --help' for more information."

/-- Refuses to work, with a status. -/
def refuse (status : Nat) (text : String) : Tool Nat := do
  let tool := (← get).tool
  complain s!"{tool}: {text}\n{advice tool}"
  return status

/-- A tool that knows some options. Other ones are refused with a status. -/
def withOptions (known : String) (status : Nat) (body : Options → Tool Nat)
    (arguments : List Octets) :
    Tool Nat :=
  match Options.read (Options.known (known ++ " help version")) arguments true with
  | .error refusal => refuse status refusal.message
  | .ok o => body o

/-- Says that an operand is missing. -/
def missingOperand (status : Nat) : Tool Nat := refuse status "missing operand"

/-- Says that there are too many operands. -/
def extraOperand (status : Nat) (operand : Octets) : Tool Nat :=
  refuse status s!"extra operand '{operand.toText}'"

end Tool

end Codemod.Shell

/-!
## Numbers of lines and bytes

- `Size.read?` — a number with a unit
- `Size.Amount`, `Size.amount?` — so many of something, from one end or the other
-/

namespace Codemod.Shell.Size

/-- What a unit stands for. -/
def unit? (text : String) : Option Nat :=
  let power (base n : Nat) : Option Nat := some (base ^ n)
  match text with
  | "" => some 1
  | "b" => some 512
  | "k" | "K" | "KiB" | "kiB" => power 1024 1
  | "kB" | "KB" => power 1000 1
  | "m" | "M" | "MiB" | "miB" => power 1024 2
  | "mB" | "MB" => power 1000 2
  | "g" | "G" | "GiB" => power 1024 3
  | "GB" => power 1000 3
  | "t" | "T" | "TiB" => power 1024 4
  | "TB" => power 1000 4
  | "P" | "PiB" => power 1024 5
  | "PB" => power 1000 5
  | "E" | "EiB" => power 1024 6
  | "EB" => power 1000 6
  | _ => none

/-- A number with a unit. -/
def read? (cs : Octets) : Option Nat := do
  let (ds, rest) := cs.span Char.isDigit
  let factor ← unit? (String.ofList rest)
  return (← Tool.natural? ds) * factor

/-- So many of something. -/
structure Amount where
  count : Nat
  /-- The sign that stood in front. -/
  sign : Option Char := none

/-- A number with a unit and perhaps a sign. -/
def amount? (cs : Octets) : Option Amount :=
  match cs with
  | '+' :: ds => (read? ds).map fun n => ⟨n, some '+'⟩
  | '-' :: ds => (read? ds).map fun n => ⟨n, some '-'⟩
  | ds => (read? ds).map fun n => ⟨n, none⟩

end Codemod.Shell.Size
