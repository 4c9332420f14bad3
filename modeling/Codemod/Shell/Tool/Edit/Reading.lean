import Codemod.Shell.Tool.Bench
import Codemod.Shell.Tool.Edit.Command
import Codemod.Shell.Tool.Search

/-!
# Reading editing scripts

- `Edit.Reader` — a part of a script while it is read
- `Edit.readParts` — the commands of all parts
- `Edit.readScript` — the script that they make up, and the files it writes
-/

namespace Codemod.Shell.Edit

/-- How scripts are written. -/
structure Manner where
  /-- Few signs of expressions need a backslash. -/
  extended : Bool := false
  /-- Lines end with NULs. -/
  nul : Bool := false
  /-- Commands that touch other files are refused. -/
  sandboxed : Bool := false

/-- Where a part of a script comes from. -/
inductive Origin where
  | argument (n : Nat)
  | file (name : Octets)

/-- A text that goes on in the next part: what kind of command it is for, and what there is of
it. -/
structure Pending where
  place : Nat
  text : Octets

/-- A part of a script while it is read. -/
structure Reader where
  manner : Manner
  origin : Origin
  rest : Octets
  /-- How many octets were read. -/
  taken : Nat := 0
  line : Nat := 1
  commands : Array Command := #[]
  /-- The blocks around, innermost first: their places, and where they begin. -/
  blocks : List (Nat × Origin × Nat) := []
  labels : List (Octets × Nat) := []
  pending : Option Pending := none
  quiet : Bool := false
  /-- The files to which lines are written. -/
  targets : List Octets := []

/-- A step of reading. -/
abbrev Reading := EStateM Fault Reader

namespace Reading

/-- The next octet, if there is one, without taking it. -/
def peek : Reading (Option Char) := do return (← get).rest.head?

/-- Takes the next octet. -/
def take : Reading (Option Char) := do
  let r ← get
  match r.rest with
  | [] => return none
  | c :: rest =>
    set { r with rest, taken := r.taken + 1, line := if c == '\n' then r.line + 1 else r.line }
    return some c

/-- Takes octets as long as they are of a kind. -/
def takeWhile (p : Char → Bool) : Reading Octets := do
  let r ← get
  let (found, rest) := r.rest.span p
  set { r with rest, taken := r.taken + found.length, line := r.line + found.count '\n' }
  return found

/-- Takes blanks. -/
def skipBlanks : Reading Unit := do let _ ← takeWhile fun c => c == ' ' || c == '\t'

/-- Takes the next octet that is no blank. -/
def takeVisible : Reading (Option Char) := do
  skipBlanks
  take

/-- A number; none is zero. -/
def number : Reading Nat := do
  return (← takeWhile Char.isDigit).foldl (fun n c => n * 10 + (c.toNat - 48)) 0

/-- The end of a command. -/
def endOfCommand : Reading Unit := do
  skipBlanks
  match ← peek with
  | some '\x7d' | some '#' | none => return
  | some c =>
    let _ ← take
    if c != '\n' && c != ';' then throw .extraCharacters

/-- A label: all up to a blank or the end of a command. -/
def label : Reading Octets := do
  skipBlanks
  takeWhile fun c => !(c == ' ' || ('\t' ≤ c && c ≤ '\r') || c == ';' || c == '\x7d' || c == '#')

/-- The name of a file: all up to the end of the line. -/
def fileName : Reading Octets := do
  skipBlanks
  let name ← takeWhile (· != '\n')
  if name.isEmpty then throw .missingFile
  return name

/-- A file to which lines are written. -/
def target : Reading Target := do
  let name ← fileName
  if name == "/dev/stdout".toList then return .output
  if name == "/dev/stderr".toList then return .complaints
  modify fun r => { r with targets := name :: r.targets.filter (· != name) }
  return .file name

/-! ### Texts between delimiters -/

/-- The text up to a delimiter, and how much was read; a backslash makes the delimiter a sign as any
other. In an expression the delimiter does so between brackets too. -/
def delimited? (expression : Bool) (delimiter : Char) (fuel : Nat) (count : Nat) (text : Octets)
    (cs : Octets) : Option Octets × Nat × Octets :=
  match fuel, cs with
  | 0, cs => (none, count, cs)
  | _, [] => (none, count, [])
  | _, '\n' :: rest => (none, count, '\n' :: rest)
  | fuel + 1, '\\' :: c :: rest =>
    if delimiter == '\\' then (some text.reverse, count + 1, c :: rest)
    else
    let added :=
      if c == delimiter then (if !expression && c == '&' then [c, '\\'] else [c])
      else if c == 'n' && expression then ['\n']
      else if c == '\n' then (if expression then ['\n'] else ['\n', '\\'])
      else [c, '\\']
    delimited? expression delimiter fuel (count + 2) (added ++ text) rest
  | fuel + 1, c :: rest =>
    if c == delimiter then (some text.reverse, count + 1, rest)
    else if c == '[' && expression then
      let opening := if rest.head? == some '^' then ['^', '['] else ['[']
      inBrackets fuel (count + opening.length) (opening
        ++ text) true (rest.drop (opening.length - 1))
    else delimited? expression delimiter fuel (count + 1) (c :: text) rest
where
  /-- The same between brackets. -/
  inBrackets (fuel : Nat) (count : Nat) (text : Octets) (first : Bool) (cs : Octets) :
      Option Octets × Nat × Octets :=
    match fuel, cs with
    | 0, cs => (none, count, cs)
    | _, [] => (none, count, [])
    | _, '\n' :: rest => (none, count, '\n' :: rest)
    | fuel + 1, ']' :: rest =>
      if first then inBrackets fuel (count + 1) (']' :: text) false rest
      else delimited? expression delimiter fuel (count + 1) (']' :: text) rest
    | fuel + 1, '[' :: c :: rest =>
      if c == ':' || c == '.' || c == '=' then
        inName fuel c (count + 2) (c :: '[' :: text) rest
      else inBrackets fuel (count + 1) ('[' :: text) false (c :: rest)
    | fuel + 1, c :: rest => inBrackets fuel (count + 1) (c :: text) false rest
  /-- The same in the name of a class. -/
  inName (fuel : Nat) (sign : Char) (count : Nat) (text : Octets) (cs : Octets) :
      Option Octets × Nat × Octets :=
    match fuel, cs with
    | 0, cs => (none, count, cs)
    | _, [] => (none, count, [])
    | _, '\n' :: rest => (none, count, '\n' :: rest)
    | fuel + 1, c :: ']' :: rest =>
      if c == sign then inBrackets fuel (count + 2) (']' :: c :: text) false rest
      else inName fuel sign (count + 1) (c :: text) (']' :: rest)
    | fuel + 1, c :: rest => inName fuel sign (count + 1) (c :: text) rest

/-- The text up to a delimiter, or a fault. -/
def delimited (expression : Bool) (delimiter : Char) (fault : Fault) : Reading Octets := do
  let r ← get
  let (text, count, rest) := delimited? expression delimiter (r.rest.length + 1) 0 [] r.rest
  set { r with rest, taken := r.taken + count, line := r.line + (r.rest.take count).count '\n' }
  match text with
  | some text => return text
  | none => throw fault

/-! ### Expressions -/

/-- What is asked of an expression beside its text. -/
structure Modifiers where
  caseless : Bool := false
  /-- Lines inside the text have beginnings and ends. -/
  inLines : Bool := false

/-- The expression in which nothing but a line feed itself matches one. -/
def withinLines : Regex → Regex
  | .any => .oneOf true [('\n', '\n')]
  | .oneOf true rs => .oneOf true (('\n', '\n') :: rs)
  | .both a b => .both (withinLines a) (withinLines b)
  | .either a b => .either (withinLines a) (withinLines b)
  | .times a least most => .times (withinLines a) least most
  | .group n a => .group n (withinLines a)
  | r => r

/-- The expression of a text; an empty one stands for the one that was used last. -/
def expression (text : Octets) (m : Modifiers) (groups : Nat) : Reading (Option Regex) := do
  if text.isEmpty then
    if m.caseless || m.inLines then throw .modifiedEmpty
    return none
  let manner := (← get).manner
  let text := escaped .expression (text.length + 1) text
  if Matcher.hasClassAlone (text.length + 1) text then throw .classAlone
  let style := if manner.extended then RegexStyle.extended else .strictBasic
  let found :=
    if m.inLines && !manner.nul then Regex.readLines style text else Regex.read style text
  match found with
  | .error e => throw (.regex e)
  | .ok r =>
    if r.groupCount < groups then throw (.missingGroup groups)
    let r := if m.caseless then r.caseless else r
    return some (if m.inLines then withinLines r else r)

/-- The modifiers after the expression of an address. -/
def modifiers (fuel : Nat) (m : Modifiers) : Reading Modifiers :=
  match fuel with
  | 0 => return m
  | fuel + 1 => do
    skipBlanks
    match ← peek with
    | some 'I' =>
      let _ ← take
      modifiers fuel { m with caseless := true }
    | some 'M' =>
      let _ ← take
      modifiers fuel { m with inLines := true }
    | _ => return m

/-! ### Addresses -/

/-- An address that begins with an octet which was taken, if it does. -/
def address? (c : Option Char) : Reading (Option EndMark) := do
  match c with
  | some '/' => matching '/'
  | some '\\' =>
    match ← take with
    | some delimiter => matching delimiter
    | none => throw .unterminatedAddress
  | some '$' => return some (.mark .last)
  | some '+' =>
    skipBlanks
    return some (.after (← number))
  | some '~' =>
    skipBlanks
    return some (.multipleOf (← number))
  | some c =>
    if !c.isDigit then return none
    let more ← takeWhile Char.isDigit
    let first := (c :: more).foldl (fun n c => n * 10 + (c.toNat - 48)) 0
    skipBlanks
    if (← peek) != some '~' then return some (.mark (.number first))
    let _ ← take
    skipBlanks
    let step ← number
    return some (.mark (if step == 0 then .number first else .every first step))
  | none => return none
where
  /-- An expression up to a delimiter. -/
  matching (delimiter : Char) : Reading (Option EndMark) := do
    let text ← delimited true delimiter .unterminatedAddress
    let m ← modifiers (text.length + 1000) {}
    return some (.mark (.matching (← expression text m 0)))

/-- The lines to which a command applies, and its first octet after that. -/
def selection (c : Option Char) : Reading (Selection × Option Char) := do
  match ← address? c with
  | none => negation {} c
  | some (.mark first) =>
    let isZero := match first with
      | .number 0 => true
      | _ => false
    let c ← takeVisible
    if c == some ',' then
      match ← address? (← takeVisible) with
      | none => throw .strayComma
      | some last =>
        let c ← takeVisible
        let toMatch := match last with
          | .mark (.matching _) => true
          | _ => false
        if isZero && !toMatch then throw .lineZero
        negation { first := some first, last := some last } c
    else
      if isZero then throw .lineZero
      negation { first := some first } c
  | some _ => throw .relativeFirst
where
  /-- The sign for all other lines. -/
  negation (s : Selection) (c : Option Char) : Reading (Selection × Option Char) := do
    if c != some '!' then return (s, c)
    let c ← takeVisible
    if c == some '!' then throw .repeatedNegation
    return ({ s with negated := true }, c)

/-! ### Commands -/

/-- A text up to the end of a line, and whether it goes on in the next part. -/
def textLines (fuel : Nat) (text : Octets) : Reading (Octets × Bool) :=
  match fuel with
  | 0 => return (text, false)
  | fuel + 1 => do
    match ← take with
    | none | some '\n' => return (text ++ ['\n'], false)
    | some '\\' =>
      match ← take with
      | none => return (text ++ ['\n'], true)
      | some c => textLines fuel (text ++ ['\\', c])
    | some c => textLines fuel (text ++ [c])

/-- A text as it is printed. -/
def plainText (text : Octets) : Octets := unescaped (escaped .text (text.length + 1) text)

/-- Reads the text of a command at a place; it may go on in the next part. -/
def textFor (place : Nat) (before : Octets) : Reading Octets := do
  let (text, goesOn) ← textLines ((← get).rest.length + 1) before
  if goesOn then modify fun r => { r with pending := some ⟨place, text⟩ }
  return plainText text

/-- The text of a command that adds one. -/
def addedText (place : Nat) : Reading Octets := do
  skipBlanks
  match ← peek with
  | none => throw .missingText
  | some '\\' =>
    let _ ← take
    match ← peek with
    | none =>
      modify fun r => { r with pending := some ⟨place, []⟩ }
      return []
    | some '\n' =>
      let _ ← take
      if (← peek).isNone then return []
      textFor place []
    | some _ => textFor place []
  | some _ => textFor place []

/-- The options of a substitution. -/
def options (fuel : Nat) (s : Substitution) (m : Modifiers) (numbered : Bool) :
    Reading (Substitution × Modifiers) :=
  match fuel with
  | 0 => return (s, m)
  | fuel + 1 => do
    let again := options fuel
    match ← peek with
    | none | some '\x7d' | some '#' => return (s, m)
    | some c =>
      if c.isDigit then
        if numbered then
          let _ ← take
          throw .repeatedNumber
        let n ← number
        if n == 0 then throw .numberZero
        again { s with first := n } m true
      else
        let _ ← take
        if (← get).manner.sandboxed && (c == 'w' || c == 'e') then throw .disallowed
        match c with
        | '\n' | ';' => return (s, m)
        | ' ' => again s m numbered
        | '\t' => again s m numbered
        | 'i' | 'I' => again s { m with caseless := true } numbered
        | 'm' | 'M' => again s { m with inLines := true } numbered
        | 'e' => again s m numbered
        | 'g' =>
          if s.every then throw (.repeatedOption 'g')
          again { s with every := true } m numbered
        | 'p' =>
          if s.prints then throw (.repeatedOption 'p')
          again { s with prints := true } m numbered
        | 'w' => return ({ s with target := some (← target) }, m)
        | _ => throw .unknownOption

/-- A substitution after its letter. -/
def substitution : Reading Substitution := do
  match ← take with
  | none => throw .unterminatedSubstitution
  | some delimiter =>
    let pattern ← delimited true delimiter .unterminatedSubstitution
    let text ← delimited false delimiter .unterminatedSubstitution
    let found := pieces {} (escaped .replacement (text.length + 1) text)
    let (s, m) ←
      options ((← get).rest.length + 1) { pattern := none, replacement := found } {} false
    let groups := found.foldl (fun n p => max n (p.group.getD 0)) 0
    return { s with pattern := ← expression pattern m groups }

/-- The pairs of a transliteration after its letter. -/
def transliteration : Reading (List (Char × Char)) := do
  match ← take with
  | none => throw .unterminatedStrings
  | some delimiter =>
    let side : Reading Octets := do
      let text ← delimited false delimiter .unterminatedStrings
      return unescaped (escaped .text (text.length + 1) text)
    let before ← side
    let after ← side
    if before.length != after.length then throw .unequalStrings
    endOfCommand
    return (before.zip after).reverse

/-- A version, part by part, is not later than the one that is known. -/
def isKnownVersion (version : Octets) : Bool :=
  match (version.splitOn '.').map Tool.natural? with
  | [] => true
  | some major :: rest => major < 4 || (major == 4 && (rest.headD (some 0)).any fun n => n ≤ 9)
  | none :: _ => version.isEmpty

/-- What a command does whose letter was taken. -/
def action (place : Nat) (s : Selection) (c : Char) : Reading Action := do
  if (← get).manner.sandboxed && ['r', 'w', 'R', 'W', 'e'].contains c then throw .disallowed
  let plain (a : Action) : Reading Action := do
    endOfCommand
    return a
  let status : Reading Nat := do
    if s.last.isSome then throw .oneAddressOnly
    skipBlanks
    let n ← number
    endOfCommand
    return n % 256
  match c with
  | 'a' => return .append (← addedText place)
  | 'i' => return .insert (← addedText place)
  | 'c' => return .change (← addedText place)
  | 'd' => plain .delete
  | 'D' => plain .deleteLine
  | 'p' => plain .print
  | 'P' => plain .printLine
  | 'n' => plain .next
  | 'N' => plain .joinNext
  | 'h' => plain .keep
  | 'H' => plain .keepMore
  | 'g' => plain .fetch
  | 'G' => plain .fetchMore
  | 'x' => plain .exchange
  | 'z' => plain .empty
  | '=' => plain .number
  | 'F' => plain .name
  | 'q' => return .quit (← status)
  | 'Q' => return .leave (← status)
  | 'l' =>
    skipBlanks
    let isGiven := (← peek).any Char.isDigit
    let n ← number
    endOfCommand
    return .show (if isGiven then some n else none)
  | 'r' => return .readFile (← fileName)
  | 'R' => return .readLine (← fileName)
  | 'w' => return .write (← target)
  | 'W' => return .writeLine (← target)
  | 's' => return .substitute (← substitution)
  | 'y' => return .transliterate (← transliteration)
  | 'b' => return .jump (← label)
  | 't' => return .jumpIfReplaced (← label)
  | 'T' => return .jumpUnlessReplaced (← label)
  | c => throw (.unknownCommand c)

/-- Adds a command. -/
def add (command : Command) : Reading Unit :=
  modify fun r => { r with commands := r.commands.push command }

/-- One command, of which the first octet was taken. -/
def command (isFirst : Bool) (c : Char) : Reading Unit := do
  let (s, c) ← selection (some c)
  let place := (← get).commands.size
  match c with
  | none => throw .missingCommand
  | some '#' =>
    if s.first.isSome then throw .addressedComment
    let comment ← takeWhile (· != '\n')
    if isFirst && comment.head? == some 'n' then
      modify fun r => { r with quiet := true }
  | some 'v' =>
    let version ← label
    if !isKnownVersion version then throw .tooNew
  | some '\x7b' =>
    modify fun r => { r with blocks := (place, r.origin, r.line) :: r.blocks }
    add { selection := s, action := .block 0 }
  | some '\x7d' =>
    match (← get).blocks with
    | [] => throw .strayClosing
    | (opening, _) :: rest =>
      if s.first.isSome then throw .addressedClosing
      endOfCommand
      modify fun r =>
        { r with
          blocks := rest
          commands := r.commands.modify opening fun c => { c with action := .block place } }
  | some ':' =>
    if s.first.isSome then throw .addressedLabel
    let name ← label
    if name.isEmpty then throw .missingLabel
    modify fun r => { r with labels := r.labels ++ [(name, place)] }
  | some c =>
    let a ← action place s c
    add { selection := s, action := a }

/-- All commands that are left. -/
def commandsFrom (isFirst : Bool) (fuel : Nat) : Reading Unit :=
  match fuel with
  | 0 => return
  | fuel + 1 => do
    let between ← takeWhile fun c => c == ';' || c == ' ' || ('\t' ≤ c && c ≤ '\r')
    match ← take with
    | none => return
    | some c =>
      command (isFirst && between.isEmpty) c
      commandsFrom isFirst fuel

/-- An action with another text. -/
def withText (text : Octets) : Action → Action
  | .append _ => .append text
  | .insert _ => .insert text
  | .change _ => .change text
  | a => a

/-- The commands of a part. The text at the end of the part before may go on in it. -/
def part (isFirst : Bool) : Reading Unit := do
  let r ← get
  if let some ⟨place, before⟩ := r.pending then
    set { r with pending := none }
    let text ← textFor place before
    modify fun r =>
      { r with
        commands := r.commands.modify place fun c => { c with action := withText text c.action } }
  commandsFrom isFirst (r.rest.length + 1)

end Reading

/-! ### Whole scripts -/

/-- How a fault in a part is reported. -/
def Origin.report (o : Origin) (taken line : Nat) (fault : Fault) : String :=
  let text := fault.message
  if fault.isPlaceless then text
  else
    match o with
    | argument n => s!"-e expression #{n}, char {taken}: {text}"
    | file name =>
      let called := name.toText
      s!"file {called} line {line}: {text}"

/-- A script that was read. -/
structure Script where
  commands : Array Command
  /-- The places to which one can jump. -/
  labels : List (Octets × Nat)
  /-- The script begins with the line that turns off printing. -/
  quiet : Bool
  /-- Where its last part came from. -/
  origin : Origin

/-- Why a script is refused: what is said, and the status. -/
structure Refusal where
  text : String
  status : Nat

/-- A fault of a part as a refusal. -/
def refusal (o : Origin) (taken line : Nat) (fault : Fault) : Refusal :=
  ⟨o.report taken line fault, if fault.isPlaceless then 4 else 1⟩

/-- Reads parts one after another. -/
def readParts (isFirst : Bool) (r : Reader) : List (Origin × Octets) → Except Refusal Reader
  | [] => .ok r
  | (origin, text) :: rest =>
    match Reading.part isFirst |>.run { r with origin, rest := text, taken := 0, line := 1 } with
    | .error fault r => .error (refusal origin r.taken r.line fault)
    | .ok _ r => readParts false r rest

/-- A label to which there is a jump and that is nowhere. -/
def missingLabel? (r : Reader) : Option Octets :=
  r.commands.toList.findSome? fun c =>
    match c.action with
    | .jump label | .jumpIfReplaced label | .jumpUnlessReplaced label =>
      if label.isEmpty || r.labels.any (·.1 == label) then none else some label
    | _ => none

/-- The script of some parts, and the files to which it writes. -/
def readScript (manner : Manner) (parts : List (Origin × Octets)) :
    Except Refusal (Script × List Octets) := do
  let r ← readParts true { manner, origin := .argument 1, rest := [] } parts
  let last := r.origin
  if let (_, origin, line) :: _ := r.blocks then throw (refusal origin 0 line .unclosedBlock)
  if let some label := missingLabel? r then throw (refusal last 0 0 (.unknownLabel label))
  return ({ commands := r.commands, labels := r.labels, quiet := r.quiet, origin := last },
    r.targets.reverse)

end Codemod.Shell.Edit
