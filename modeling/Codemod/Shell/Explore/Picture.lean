import Codemod.Shell.Calendar
import Codemod.Shell.Regex.Reading
import Codemod.Shell.Tool.Format
import Codemod.Shell.Tool.Identity
import Codemod.Shell.Tool.Removal
import Codemod.Shell.Wildcard

/-!
# Queries about entries

A query is made of tests and actions; each of them holds or does not.

- `Explore.Test` — what is asked of an entry
- `Explore.Action` — what is done with it
- `Explore.Query` — their combinations
-/

namespace Codemod.Shell.Explore

/-- What is asked of a number. -/
inductive Amount where
  | exactly (n : Nat)
  | more (n : Nat)
  | fewer (n : Nat)
deriving DecidableEq

/-- A number is as it is asked for. -/
def Amount.admits (a : Amount) (n : Nat) : Bool :=
  match a with
  | exactly m => n == m
  | more m => m < n
  | fewer m => n < m

/-- How permission bits are asked for. -/
inductive Matching where
  | exactly
  | all
  | any
deriving DecidableEq

/-- What is asked of an entry. -/
inductive Test where
  | constant (b : Bool)
  /-- Its name has a pattern, `folded` without regard to cases. -/
  | name (folded : Bool) (pattern : List Wildcard)
  | path (folded : Bool) (pattern : List Wildcard)
  /-- It is a link, and its target has a pattern. -/
  | target (folded : Bool) (pattern : List Wildcard)
  | regex (r : Regex)
  /-- Its kind is one of some letters; for a link that may be that of its target. -/
  | kind (ofTarget : Bool) (letters : List Char)
  | empty
  /-- Its size in units of so many bytes. -/
  | size (a : Amount) (unit : Nat)
  | changedAfter (time : Int)
  /-- Its age in units of so many nanoseconds; the last unit that was begun counts or does not. -/
  | age (a : Amount) (unit : Nat) (counted : Bool)
  | permission (m : Matching) (bits : Nat)
  | links (a : Amount)
  | number (a : Amount)
  | sameAs (path : Octets)
  | executable

/-- Where text goes. -/
inductive Outlet where
  | output
  | file (path : Octets)
deriving DecidableEq

/-- A part of what is printed about an entry. -/
inductive Piece where
  | text (cs : Octets)
  | field (c : Conversion)
  /-- A time: which one, and how it is shown. -/
  | time (c : Conversion) (form : Char)
  | stop

/-- How a command is run. -/
structure Errand where
  /-- Errands are told apart by their numbers. -/
  id : Nat
  command : List Octets
  /-- It is run in the directory of the entry. -/
  inPlace : Bool := false
  asks : Bool := false
  /-- It is run with all entries at once. -/
  gathers : Bool := false

/-- What is done with an entry. -/
inductive Action where
  | print (outlet : Outlet) (ending : Char)
  | describe (outlet : Outlet) (format : List Piece)
  | list (outlet : Outlet)
  | delete
  | run (errand : Errand)
  | prune
  | quit

/-- A query. -/
inductive Query where
  | test (t : Test)
  | act (a : Action)
  | not (q : Query)
  | both (p q : Query)
  | either (p q : Query)
  /-- The first is only for what it does. -/
  | after (p q : Query)

/-- Which links are followed. -/
inductive Following where
  | never
  /-- Those among the starting points. -/
  | atStart
  | always
deriving DecidableEq

/-- What is looked for, and where. -/
structure Search where
  following : Following := .never
  starts : List Octets := []
  query : Query := .test (.constant true)
  least : Nat := 0
  most : Option Nat := none
  /-- What is in a directory comes before it. -/
  insideFirst : Bool := false
  /-- Files that are written to. -/
  files : List Octets := []

/-- Why nothing is looked for. -/
inductive Refusal where
  | unknownPredicate (word : Octets)
  | invalidPredicate (word : Octets)
  | missingArgument (word : Octets)
  | notBeforeExpression (word : Octets) (unquotedAfter : Option Octets)
  | notInteger (option argument : Octets)
  | invalidArgument (option argument : Octets)
  | kindLetter (option : Octets) (c : Char)
  | kindSeparator (option : Octets)
  | noKind (option : Octets)
  | openKinds (option : Octets)
  | sizeUnit (unit : Octets)
  | regexStyle (name : Octets)
  | regex (e : RegexError)
  | mode (text : Octets)
  | user (name : Octets)
  | group (name : Octets)
  | time (text : Octets)
  | file (name : Octets) (cause : SystemError)
  | twice (option : Octets)
  | joined (option argument : Octets)
  | nothingBefore (operator : Octets)
  | nothingAfter (operator : Octets)
  | unclosed
  | unopened
  | emptyParentheses
  | formatEnd

end Codemod.Shell.Explore

/-!
## What is printed about an entry

- `Explore.Point` — an entry that was come upon
- `Explore.Piece.read` — the pieces of a format
- `Explore.Point.described`, `Explore.Point.row` — an entry in a format, or with all that is usual
-/

namespace Codemod.Shell.Explore

/-- An entry that was come upon. -/
structure Point where
  /-- From where the way began. -/
  start : Octets
  path : Octets
  depth : Nat
  loc : Location
  node : Node

namespace Point

/-- The entry itself. -/
def entry (p : Point) : Entry := ⟨p.path, p.loc, p.node⟩

/-- The last name of the path, with a slash if one follows. -/
def base (p : Point) : Octets :=
  let bare := Tool.withoutEnd p.path
  if bare.isEmpty then p.path.take 1
  else
    (bare.reverse.takeWhile (· != '/')).reverse
      ++ (if bare.length < p.path.length then ['/'] else [])

/-- The name without slashes. -/
def name (p : Point) : Octets :=
  let bare := Tool.withoutEnd p.path
  if bare.isEmpty then p.path.take 1 else (bare.reverse.takeWhile (· != '/')).reverse

/-- The path to the directory around the entry. -/
def around (p : Point) : Octets :=
  let bare := Tool.withoutEnd p.path
  let front := bare.reverse.dropWhile (· != '/')
  if front.isEmpty then (if bare.length < p.path.length then p.path.dropLast else ['.'])
  else (front.drop 1).reverse

/-- The path from the start on. -/
def below (p : Point) : Octets := (p.path.drop p.start.length).dropWhile (· == '/')

/-- What a link leads to. -/
def behind (disk : FileSystem) (p : Point) : Except SystemError Node :=
  match p.node with
  | .link _ => (disk.find p.path.toText).map Prod.snd
  | node => .ok node

end Point

/-! ### Formats -/

/-- The letter of a kind. -/
def kindOf : Node → Char
  | .file _ => 'f'
  | .directory => 'd'
  | .link _ => 'l'

/-- The letters of fields. -/
def fieldLetters : List Char := "bdDfFgGhHiklmMnpPsStuUyYZac".toList

/-- The octet of an escape in a format. -/
def escaped? (c : Char) : Option Char := if c == 'e' then none else Escape.letter? c

/-- The pieces of a format, and what is warned about. -/
def Piece.read (fuel : Nat) (cs : Octets) : Except Refusal (List Piece × List String) :=
  match fuel, cs with
  | 0, _ | _, [] => .ok ([], [])
  | fuel + 1, '\\' :: c :: rest => do
    let keep (text rest : Octets) (warnings : List String) : Except Refusal (List Piece × List String) := do
      let (pieces, more) ← read fuel rest
      return (.text text :: pieces, warnings ++ more)
    if c == 'c' then return ([.stop], [])
    else if Escape.isOctal c then
      let (octet, rest) := Escape.octal 3 (c :: rest)
      keep [octet] rest []
    else
      match escaped? c with
      | some octet => keep [octet] rest []
      | none =>
        let sign := "\x60"
        keep ['\\', c] rest [s!"warning: unrecognized escape {sign}\\" ++ String.singleton c ++ "'"]
  | _, ['%'] => .error .formatEnd
  | fuel + 1, '%' :: '%' :: rest => do
    let (pieces, warnings) ← read fuel rest
    return (.text ['%'] :: pieces, warnings)
  | fuel + 1, '%' :: rest => do
    let keep (text rest : Octets) (warnings : List String) : Except Refusal (List Piece × List String) := do
      let (pieces, more) ← read fuel rest
      return (.text text :: pieces, warnings ++ more)
    match Format.conversion? [] rest with
    | none => keep ('%' :: rest) [] []
    | some (c, after) =>
      let whole : Octets := '%' :: rest.take (rest.length - after.length)
      let shown := "\x60" ++ String.ofList whole ++ "'"
      if ['A', 'B', 'C', 'T'].contains c.letter then
        match after with
        | [] =>
          keep whole [] [s!"warning: format directive {shown} should be followed by another character"]
        | form :: after =>
          let (pieces, warnings) ← read fuel after
          return (.time c form :: pieces, warnings)
      else if fieldLetters.contains c.letter then
        let (pieces, warnings) ← read fuel after
        return (.field c :: pieces, warnings)
      else if c.letter == '%' then keep whole.dropLast after []
      else keep whole after [s!"warning: unrecognized format directive {shown}"]
  | fuel + 1, c :: rest => do
    let (pieces, warnings) ← read fuel rest
    return (.text [c] :: pieces, warnings)

namespace Point

/-- A time in one of its forms. -/
def timeShown (time : Int) (form : Char) : Octets :=
  let m := Moment.ofNanoseconds time
  let exact := "%S.%N0"
  match form with
  | '@' => m.shown "%s.%N0"
  | '+' => m.shown ("%Y-%m-%d+%H:%M:" ++ exact)
  | 'S' => m.shown exact
  | 'X' => m.shown ("%H:%M:" ++ exact)
  | 'T' => m.shown ("%H:%M:" ++ exact)
  | 'c' => m.shown "%a %b %e %H:%M:%S %Y"
  | form =>
    if "HIklMprsZaAbBdDhjmUwWxyY".toList.contains form then m.inFormat ['%', form] else ['%', form]

/-- A field of an entry. -/
def field (disk : FileSystem) (p : Point) (c : Conversion) : Octets :=
  let e := p.entry
  let text (cs : Octets) : Octets := c.text cs
  let count (n : Nat) : Octets := c.text (Octets.ofNat n)
  match c.letter with
  | 'p' => text p.path
  | 'f' => text p.base
  | 'h' => text p.around
  | 'P' => text p.below
  | 'H' => text p.start
  | 'd' => c.integer p.depth
  | 's' => count e.size
  | 'b' => count e.blocks
  | 'k' => count ((e.blocks + 1) / 2)
  | 'm' => { c with letter := 'o' }.integer (e.mode disk : Nat)
  | 'M' => text (e.row disk)
  | 'u' | 'g' => text "root".toList
  | 'U' | 'G' => text ['0']
  | 'y' => text [kindOf p.node]
  | 'Y' =>
    text [match p.behind disk with
      | .ok node => kindOf node
      | .error cause => if cause == .linkLoop then 'L' else 'N']
  | 'l' =>
    text (match p.node with
      | .link target => Octets.ofString target
      | _ => [])
  | 'n' => count (e.links disk)
  | 'i' => count (e.number disk)
  | 'D' => text "65024".toList
  | 'F' => text "ext4".toList
  | 'S' => text (if e.size == 0 then ['1'] else "1".toList)
  | 't' | 'a' | 'c' =>
    let m := Moment.ofNanoseconds (disk.modified p.loc)
    text (m.shown "%a %b %e %H:%M:%S.%N0 %Y")
  | _ => []

/-- An entry in a format. -/
def described (disk : FileSystem) (p : Point) : List Piece → Octets
  | [] => []
  | .text cs :: rest => cs ++ described disk p rest
  | .field c :: rest => p.field disk c ++ described disk p rest
  | .time c form :: rest => c.text (timeShown (disk.modified p.loc) form) ++ described disk p rest
  | .stop :: _ => []

/-- A name with backslashes in front of what could be mistaken. -/
def guarded (name : Octets) : Octets :=
  name.flatMap fun c =>
    match c with
    | ' ' | '\\' | '"' => ['\\', c]
    | '\n' => ['\\', 'n']
    | '\t' => ['\\', 't']
    | c => [c]

/-- All that is usually told about an entry, in a line. -/
def row (disk : FileSystem) (now : Int) (p : Point) : Octets :=
  let e := p.entry
  let time := disk.modified p.loc
  let isRecent := now - 31556952 / 2 * 10 ^ 9 < time && time ≤ now
  let date := (Moment.ofNanoseconds time).shown (if isRecent then "%b %e %H:%M" else "%b %e  %Y")
  let target : Octets := match p.node with
    | .link target => " -> ".toList ++ guarded (Octets.ofString target)
    | _ => []
  let count (width n : Nat) : Octets := Octets.padLeft width (Octets.ofNat n)
  let owner := Octets.padRight 8 "root".toList
  count 9 (e.number disk) ++ ' ' :: count 6 ((e.blocks + 1) / 2) ++ ' ' :: e.row disk
    ++ ' ' :: count 3 (e.links disk) ++ ' ' :: owner ++ ' ' :: owner ++ ' ' :: count 8 e.size
    ++ ' ' :: date ++ ' ' :: guarded p.path ++ target ++ ['\n']

end Point

end Codemod.Shell.Explore
