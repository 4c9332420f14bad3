import Codemod.FileSystem.Scratch
import Codemod.Shell.Brace
import Codemod.Shell.Calculation
import Codemod.Shell.Octets
import Codemod.Shell.Wildcard

/-!
# Expanding words

A word becomes texts: parameters, outputs of scripts and arithmetic are replaced by their values;
what came from them outside quotes is split into fields; fields with wildcards become the paths they
match. How a script is run is a parameter here.

- `Expand.atoms` — the characters of a word, each with its rights
- `Expand.text`, `Expand.fields`, `Expand.pattern` — a word as one text, as several, as a pattern
-/

namespace Codemod.Shell.Expand

/-- An element of an expanded word. -/
inductive Atom where
  /-- A character that stands for itself. -/
  | literal (c : Char)
  /-- A character of the word outside quotes. -/
  | plain (c : Char)
  /-- A character of a value outside quotes, where fields are split. -/
  | value (c : Char)
  /-- Quotes stood here, so there is a field even without characters. -/
  | mark
  /-- A field ends here. -/
  | gap
deriving DecidableEq

/-- Runs a script and gives its output. -/
abbrev Capture := Octets → Act Octets

/-- The characters at which fields are split. -/
def separators (m : Machine) : Octets := (m.get? "IFS".toList).getD [' ', '\t', '\n']

/-- The atoms of a value. -/
def ofValue (quoted : Bool) (text : Octets) : List Atom :=
  if quoted then .mark :: text.map .literal else text.map .value

/-- The text of atoms. -/
def toText (atoms : List Atom) : Octets :=
  atoms.filterMap fun
    | .literal c | .plain c | .value c => some c
    | .mark => none
    | .gap => some ' '

/-- The pattern of atoms: quoted characters stand for themselves. -/
def toPattern (atoms : List Atom) : List Wildcard :=
  Wildcard.ofMarked <| atoms.filterMap fun
    | .literal c => some (c, false)
    | .plain c | .value c => some (c, true)
    | .mark | .gap => none

/-- The positional parameters one by one. -/
def allParameters (quoted : Bool) (parameters : List Octets) : List Atom :=
  List.intercalate [.gap] (parameters.map (ofValue quoted))

/-- What a parameter stands for. -/
inductive Found where
  | one (value : Option Octets)
  /-- Several values, which may be `joined` to one. -/
  | many (joined : Bool) (values : List Octets)

namespace Found

/-- Nothing is set. -/
def isUnset : Found → Bool
  | one value => value.isNone
  | many _ values => values.isEmpty

/-- All is empty. -/
def isEmpty : Found → Bool
  | one value => (value.getD []).isEmpty
  | many _ values => values.flatten.isEmpty && values.length < 2

/-- What it stands for with every value changed. -/
def map (f : Octets → Octets) : Found → Found
  | one value => one (some (f (value.getD [])))
  | many joined values => many joined (values.map f)

/-- Its atoms. -/
def atoms (m : Machine) (quoted : Bool) : Found → List Atom
  | one value => ofValue quoted (value.getD [])
  | many joined values =>
    if quoted && joined then ofValue true (List.intercalate ((separators m).take 1) values)
    else allParameters quoted values

end Found

/-- The piece stands for words of their own even between quotes. -/
def isSeveral (m : Machine) (piece : Piece) : Bool :=
  match piece with
  | .parameter ['@'] .value => true
  | .parameter ['@'] .length => false
  | .parameter ['@'] _ => m.rich.isOn
  | .parameter _ (.names joined) => !joined
  | .element _ .each .length => false
  | .element _ .each _ => true
  | _ => false

/-- A replacement whose parts outside quotes may hold the sign for the match. -/
def replacing (atoms : List Atom) (found : Octets) : Octets :=
  atoms.flatMap fun
    | .literal c => [c]
    | .plain c | .value c => if c == '&' then found else [c]
    | .mark => []
    | .gap => [' ']

/-- The value of a text with the escapes of dollar quotes. -/
def unescaped (fuel : Nat) (cs : Octets) : Octets :=
  match fuel, cs with
  | 0, cs => cs
  | _, [] => []
  | fuel + 1, '\\' :: rest =>
    let (text, rest) := Scan.dollarEscape rest
    text ++ unescaped fuel rest
  | fuel + 1, c :: rest => c :: unescaped fuel rest

/-- A value transformed as a letter says. -/
def transformed (m : Machine) (name : Octets) (letter : Char) (cs : Octets) : Octets :=
  match letter with
  | 'Q' => Quoting.reusable cs
  | 'U' => cs.map Char.toUpper
  | 'u' => Wildcard.cased .upper false [] cs
  | 'L' => cs.map Char.toLower
  | 'E' => unescaped (cs.length + 1) cs
  | 'A' => name ++ '=' :: Quoting.reusable cs
  | 'a' =>
    let s := m.slot name
    (match s.row with
      | some row => [if row.keyed then 'A' else 'a']
      | none => []) ++ s.marks
  | _ => cs

/-- A part of a list from a place on; places before its beginning count from its end. -/
def portion (values : List Octets) (offset : Int) (length : Option Int) : List Octets :=
  let start := if offset < 0 then offset + values.length else offset
  if start < 0 then []
  else
    let rest := values.drop start.toNat
    match length with
    | some n => rest.take n.toNat
    | none => rest

/-- How the name of a parameter is shown in complaints. -/
def label (name : Octets) (key : Option Octets) : String :=
  match key with
  | some key => s!"{name.toText}[{key.toText}]"
  | none => if name.all Char.isDigit then "$" ++ name.toText else name.toText

/-- The use takes the positional parameters one by one in the plain language. -/
def isListed : Use → Bool
  | .value | .default _ _ | .alternative _ _ | .assign _ _ | .require _ _ => true
  | _ => false

mutual

/-- The atoms of a word. -/
def atoms (capture : Capture) (fuel : Nat) (quoted : Bool) (word : Word) : Act (List Atom) :=
  match fuel with
  | 0 => throw .expired
  | fuel + 1 =>
    match word with
    | [] => return []
    | piece :: rest => do
      let first ← pieceAtoms capture fuel quoted piece
      let more ← atoms capture fuel quoted rest
      return first ++ more

/-- The atoms of a piece. -/
def pieceAtoms (capture : Capture) (fuel : Nat) (quoted : Bool) (piece : Piece) : Act (List Atom) :=
  match fuel with
  | 0 => throw .expired
  | fuel + 1 =>
    match piece with
    | .plain text => return text.map (if quoted then .literal else .plain)
    | .literal text => return .mark :: text.map .literal
    | .quotes inner => do
      let found ← atoms capture fuel true inner
      match inner with
      | [piece] => return if isSeveral (← get) piece then found else .mark :: found
      | _ => return .mark :: found
    | .output script => do
      let text ← capture script
      return ofValue quoted (text.reverse.dropWhile (· == '\n')).reverse
    | .process reads script => do
      let text ← if reads then capture script else pure []
      return ofValue quoted (← Act.plant text (if reads then none else some script))
    | .list _ => return []
    | .target name subscript => do
      let inner ← atoms capture fuel quoted subscript
      return (name.map Atom.plain) ++ .plain '[' :: inner ++ [.plain ']']
    | .arithmetic inner => do
      let text := toText (← atoms capture fuel true inner)
      if (← get).rich.isOn then
        return ofValue quoted (Octets.ofInt (← Act.calculated (text.filter (· != '"'))))
      let refuse (what : String) : Act (List Atom) :=
        Act.fail s!"arithmetic expression: {what}: \"{text.toText}\""
      match Arithmetic.parse text with
      | .error missing => refuse s!"expecting {missing.text}"
      | .ok e =>
        match Arithmetic.evaluate (← get).bindings e with
        | .error .malformed => refuse "expecting primary"
        | .error .divisionByZero => refuse "division by zero"
        | .error (.illegalNumber text) => Act.fail s!"Illegal number: {text.toText}"
        | .ok (n, bindings) =>
          modify fun m => { m with bindings }
          return ofValue quoted (Octets.ofInt n)
    | .parameter name use => do
      let m ← get
      let isWhole := name == ['@'] || name == ['*']
      let found : Found :=
        if isWhole && (m.rich.isOn || isListed use) then .many (name == ['*']) m.parameters
        else .one (Parameter.value? m name)
      if m.rich.isOn && name == "RANDOM".toList then
        set { m with rich := { m.rich with drawn := m.rich.drawn + 1 } }
      used capture fuel quoted name none none found use
    | .element name index use => do
      let row := (Parameter.row? (← get) name).getD {}
      match index with
      | .each => used capture fuel quoted name none (some row) (.many false row.values) use
      | .joined => used capture fuel quoted name none (some row) (.many true row.values) use
      | .place subscript => do
        match ← keyOf capture fuel name row subscript with
        | some key => used capture fuel quoted name (some key) none (.one (row.get? key)) use
        | none => used capture fuel quoted name none none (.one (some [])) use

/-- The key that a subscript stands for in a list. -/
def keyOf (capture : Capture) (fuel : Nat) (name : Octets) (row : Row) (subscript : Word) :
    Act (Option Octets) :=
  match fuel with
  | 0 => throw .expired
  | fuel + 1 => do
    let text := toText (← atoms capture fuel false subscript)
    if row.keyed then return some text
    let n ← Act.calculated text
    match row.keyOf? n with
    | some key => return some key
    | none =>
      Act.complain s!"{name.toText}: bad array subscript"
      return none

/-- The value of an expression in a parameter. -/
def numberOf (capture : Capture) (fuel : Nat) (word : Word) : Act Int :=
  match fuel with
  | 0 => throw .expired
  | fuel + 1 => do Act.calculated (toText (← atoms capture fuel true word))

/-- The atoms of what is taken of a parameter. `key` is the element's key and `row` the list that is
meant as a whole. -/
def used (capture : Capture) (fuel : Nat) (quoted : Bool) (name : Octets) (key : Option Octets)
    (row : Option Row) (found : Found) (use : Use) : Act (List Atom) :=
  match fuel with
  | 0 => throw .expired
  | fuel + 1 => do
    let m ← get
    let give (found : Found) : Act (List Atom) := return found.atoms m quoted
    let other (orEmpty : Bool) : Bool := found.isUnset || (orEmpty && found.isEmpty)
    let known : Act Unit := do
      match found with
      | .one none =>
        if m.noUnset && name != ['!'] then
          if m.rich.isOn then Act.fail (label name key ++ ": unbound variable")
          else Act.fail s!"{name.toText}: parameter not set"
      | _ => pure ()
    match use with
    | .invalid text =>
      if m.rich.isOn then
        Act.abandon (Octets.toText ("$\x7b".toList ++ text ++ ['\x7d']) ++ ": bad substitution")
      else Act.fail "Bad substitution"
    | .value => do
      known
      give found
    | .length =>
      match found with
      | .one value => do
        if m.rich.isOn then known
        give (.one (some (Octets.ofNat (value.getD []).length)))
      | .many _ values => give (.one (some (Octets.ofNat values.length)))
    | .default orEmpty word => if other orEmpty then atoms capture fuel quoted word else give found
    | .alternative orEmpty word =>
      if other orEmpty then give (.one none) else atoms capture fuel quoted word
    | .assign orEmpty word =>
      if other orEmpty then do
        let text := toText (← atoms capture fuel quoted word)
        match key with
        | none => Act.assign none name text
        | some key => modify fun m => m.setRow name (((m.row? name).getD {}).set key text)
        give (.one (some text))
      else give found
    | .require orEmpty word =>
      if other orEmpty then do
        let text := toText (← atoms capture fuel quoted word)
        let text :=
          if !text.isEmpty then text.toText
          else if !orEmpty then "parameter not set"
          else if m.rich.isOn then "parameter null or not set"
          else "parameter not set or null"
        Act.fail s!"{name.toText}: {text}"
      else give found
    | .trimFront longest word => do
      if m.rich.isOn then known
      let pattern := toPattern (← atoms capture fuel false word)
      give (found.map (Wildcard.trimFront longest pattern))
    | .trimEnd longest word => do
      if m.rich.isOn then known
      let pattern := toPattern (← atoms capture fuel false word)
      give (found.map (Wildcard.trimEnd longest pattern))
    | .replace scope word replacement => do
      known
      let pattern := toPattern (← atoms capture fuel false word)
      let made ← atoms capture fuel false replacement
      give (found.map (Wildcard.replace scope pattern (replacing made)))
    | .cased change all word => do
      known
      let pattern := toPattern (← atoms capture fuel false word)
      give (found.map (Wildcard.cased change all pattern))
    | .transformed letter =>
      match found with
      | .one none => give found
      | found => give (found.map (transformed m name letter))
    | .slice offset length => do
      known
      let offset ← numberOf capture fuel offset
      let length ← match length with
        | none => pure none
        | some word => do pure (some (← numberOf capture fuel word))
      let tooShort (n : Int) : Act (List Atom) := Act.abandon s!"{n}: substring expression < 0"
      match found, row with
      | .one value, _ => do
        let text := value.getD []
        let start := if offset < 0 then offset + text.length else offset
        if start < 0 || text.length < start then give (.one (some []))
        else
          match length with
          | none => give (.one (some (text.drop start.toNat)))
          | some n =>
            let stop := if n < 0 then text.length + n else start + n
            if stop < start then tooShort n
            else give (.one (some ((text.drop start.toNat).take (stop - start).toNat)))
      | .many joined _, some row =>
        let start := if offset < 0 then offset + row.next else offset
        let kept :=
          row.entries.filter fun (k, _) => row.keyed || start ≤ ((Tool.natural? k).getD 0 : Int)
        if length.any (· < 0) then tooShort (length.getD 0)
        else
          let values := kept.map Prod.snd
          give (.many joined (if start < 0 then []
            else portion values (if row.keyed then offset else 0) length))
      | .many joined values, none =>
        if length.any (· < 0) then tooShort (length.getD 0)
        else
          let all := m.name :: values
          give (.many joined (portion all offset length))
    | .keys =>
      match found, row with
      | .many joined _, some row => give (.many joined row.keys)
      | _, _ => give found
    | .names joined => give (.many joined (Parameter.namesLike m name))
    | .referred use =>
      match found with
      | .one (some target) =>
        match Scan.bracedName target with
        | (name, []) =>
          if name.isEmpty then Act.abandon s!"{target.toText}: invalid variable name"
          else pieceAtoms capture fuel quoted (.parameter name use)
        | (name, '[' :: rest) =>
          match Scan.subscript? 0 rest with
          | some (['@'], []) => pieceAtoms capture fuel quoted (.element name .each use)
          | some (['*'], []) => pieceAtoms capture fuel quoted (.element name .joined use)
          | some (text, []) =>
            pieceAtoms capture fuel quoted (.element name (.place [.plain text]) use)
          | _ => Act.abandon s!"{target.toText}: invalid variable name"
        | _ => Act.abandon s!"{target.toText}: invalid variable name"
      | _ => Act.abandon s!"{name.toText}: invalid indirect expansion"

end

/-- The directory of a user, of the one who runs the shell when there is no name. -/
def homeOf? (m : Machine) (user : Octets) : Option Octets :=
  match String.ofList user with
  | "" => m.get? "HOME".toList
  | "root" => some "/root".toList
  | "nobody" => some "/nonexistent".toList
  | "daemon" => some "/usr/sbin".toList
  | "bin" => some "/bin".toList
  | _ => none

/-- A part of a word with a tilde and a user's name at its front replaced by the user's directory. A
part that is not `complete` goes on where no name can end. -/
def homeSegment (m : Machine) (complete : Bool) (segment : Octets) : Word :=
  match segment with
  | '~' :: text =>
    let (user, after) := text.span (· != '/')
    match if after.isEmpty && !complete then none else homeOf? m user with
    | some home => [.literal home, .plain after]
    | none => [.plain segment]
  | segment => [.plain segment]

/-- The word with a tilde at its front replaced by the user's directory. -/
def withHome (m : Machine) (word : Word) : Word :=
  match word with
  | .plain text :: rest => homeSegment m rest.isEmpty text ++ rest
  | word => word

/-- The word of an assignment, where tildes stand at the front and after colons. -/
def withHomes (m : Machine) (front : Bool) : Word → Word
  | [] => []
  | .plain text :: rest =>
    let segments := text.splitOn ':'
    let last := segments.length - 1
    let pieces := segments.zipIdx.map fun (segment, i) =>
      if 0 < i || front then homeSegment m (i < last || rest.isEmpty) segment else [.plain segment]
    List.intercalate [.plain [':']] pieces
      ++ withHomes m (0 < last && segments.getLast? == some []) rest
  | piece :: rest => piece :: withHomes m false rest

/-- How deep the pieces of a word may be nested. -/
def maxDepth : Nat := 10000

/-- The atoms of a whole word. -/
def whole (capture : Capture) (word : Word) : Act (List Atom) := do
  atoms capture maxDepth false (withHome (← get) word)

/-- A word as one text. -/
def text (capture : Capture) (word : Word) : Act Octets := return toText (← whole capture word)

/-- The word of an assignment as one text. -/
def assigned (capture : Capture) (word : Word) : Act Octets := do
  return toText (← atoms capture maxDepth false (withHomes (← get) true word))

/-- A word as a pattern. -/
def pattern (capture : Capture) (word : Word) : Act (List Wildcard) :=
  return toPattern (← whole capture word)

/-! ### Fields -/

/-- A field that is being gathered, last character first; none before its first one. -/
abbrev Open := Option (List Wildcard.Marked)

/-- A separator that is a blank too: a run of them counts as one. -/
def isBlank (c : Char) : Bool := c == ' ' || c == '\t' || c == '\n'

/-- The fields of atoms. `closed` tells that blanks have just ended a field, to which one more
separator still belongs. -/
def split (separators : Octets) (current : Open) (closed : Bool) :
    List Atom → List (List Wildcard.Marked)
  | [] => (current.map List.reverse).toList
  | .literal c :: rest => split separators (some ((c, false) :: current.getD [])) false rest
  | .plain c :: rest => split separators (some ((c, true) :: current.getD [])) false rest
  | .mark :: rest => split separators (some (current.getD [])) false rest
  | .gap :: rest => (current.map List.reverse).toList ++ split separators none false rest
  | .value c :: rest =>
    if !separators.contains c then split separators (some ((c, true) :: current.getD [])) false rest
    else
      match current with
      | some field => field.reverse :: split separators none (isBlank c) rest
      | none =>
        if isBlank c then split separators none closed rest
        else if closed then split separators none false rest
        else [] :: split separators none false rest

/-- How paths are looked up. -/
structure Looking where
  disk : FileSystem
  /-- Names that begin with a dot are found too. -/
  dots : Bool := false
  /-- The two names that every directory has are found too. -/
  both : Bool := true
  /-- Two stars stand for directories at any depth. -/
  deep : Bool := false

/-- The names of a directory, without those that begin with a dot unless the pattern does. -/
def namesFor (k : Looking) (directory : Octets) (pattern : List Wildcard.Marked) :
    List Octets :=
  match k.disk.find (if directory.isEmpty then "." else directory.toText) with
  | .ok (loc, .directory) =>
    let hidden := k.dots || pattern.head?.map Prod.fst == some '.'
    let names := (if k.both then [".", ".."] else []) ++ (k.disk.children loc).map Prod.fst
    ((names.map Octets.ofString).filter fun name => hidden || name.head? != some '.').mergeSort
      Octets.le
  | _ => []

/-- The directories below a directory, each after the one it is in, as paths that end in a slash. -/
def depths (k : Looking) (fuel : Nat) (below : Octets) : List Octets :=
  match fuel with
  | 0 => []
  | fuel + 1 =>
    let names := (namesFor { k with both := false } below []).filter fun n =>
      match k.disk.resolve false (below ++ n).toText with
      | .found _ .directory => true
      | _ => false
    below :: names.flatMap fun n => depths k fuel (below ++ n ++ ['/'])

/-- The paths that match the names of a path one by one, below a path. -/
def matching (k : Looking) (below : Octets) : List (List Wildcard.Marked) → List Octets
  | [] => [below]
  | name :: rest =>
    let slash := if rest.isEmpty then [] else ['/']
    if k.deep && name == [('*', true), ('*', true)] then
      (depths k 50 below).flatMap fun below' =>
        if rest.isEmpty then
          (if below' == below then [] else [below'.dropLast])
            ++ ((namesFor { k with both := false } below' []).filter fun n =>
              !k.disk.isDirectory (below' ++ n).toText).map (below' ++ ·)
        else matching k below' rest
    else if Wildcard.isActive name then
      let pattern := Wildcard.ofMarked name
      let found := (namesFor k below name).filter (Wildcard.accepts pattern)
      let found := if rest.isEmpty then found
        else found.filter fun n => k.disk.isDirectory (below ++ n).toText
      found.flatMap fun n => matching k (below ++ n ++ slash) rest
    else
      let path := below ++ name.map Prod.fst
      if rest.isEmpty && !name.isEmpty && !k.disk.isTaken path.toText then []
      else matching k (path ++ slash) rest

/-- Splits a marked text at its slashes. -/
def atSlashes (field : List Wildcard.Marked) : List (List Wildcard.Marked) :=
  field.splitOnP fun (c, _) => c == '/'

/-- The paths that a field matches, or the field itself; with an option of the rich language
nothing. -/
def paths (m : Machine) (field : List Wildcard.Marked) : Act (List Octets) := do
  let plain : Octets := field.map Prod.fst
  if m.literalPaths || !Wildcard.isActive field then return [plain]
  let isOn (option : String) : Bool := m.rich.options.contains option
  let k : Looking :=
    { disk := m.disk, dots := isOn "dotglob", both := !m.rich.isOn, deep := isOn "globstar" }
  match matching k [] (atSlashes field) with
  | [] =>
    if isOn "failglob" then Act.abandon s!"no match: {plain.toText}"
    else return if isOn "nullglob" then [] else [plain]
  | found => return if k.deep then found.mergeSort Octets.le else found

/-- A word without alternatives in braces as fields. -/
def fieldsOf (capture : Capture) (word : Word) : Act (List Octets) := do
  let atoms ← whole capture word
  let m ← get
  let found ← (split (separators m) none false atoms).mapM (paths m)
  return found.flatten

/-- A word as fields. -/
def fields (capture : Capture) (word : Word) : Act (List Octets) := do
  if (← get).rich.isOn then
    let found ← (Brace.words word).mapM (fieldsOf capture)
    return found.flatten
  else fieldsOf capture word

end Codemod.Shell.Expand
