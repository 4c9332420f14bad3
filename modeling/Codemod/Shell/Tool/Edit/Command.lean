import Codemod.Shell.Regex.Reading

/-!
# Editing commands

A script edits one line after another. Its commands stand in one row; a block is a command that
skips what is in it on lines that are not selected.

- `Edit.Selection` — the lines to which a command applies
- `Edit.Action` — what a command does
- `Edit.Fault` — why a script is none
- `Edit.escaped`, `Edit.pieces` — the text of an expression, a replacement and a text to be added
-/

namespace Codemod.Shell.Edit

/-- Lines that are marked. -/
inductive Mark where
  | number (n : Nat)
  | every (first step : Nat)
  | last
  /-- An expression matches, or the one that was used last. -/
  | matching (r : Option Regex)

/-- Where a range of lines ends. -/
inductive EndMark where
  | mark (m : Mark)
  | after (count : Nat)
  | multipleOf (n : Nat)

/-- The lines to which a command applies. -/
structure Selection where
  first : Option Mark := none
  last : Option EndMark := none
  negated : Bool := false

/-- What is done to the case of letters. -/
inductive Letters where
  | asTheyAre
  | upper
  | lower
deriving DecidableEq

/-- A letter in a case. -/
def Letters.apply : Letters → Char → Char
  | asTheyAre, c => c
  | upper, c => c.toUpper
  | lower, c => c.toLower

/-- A piece of a replacement: a text, and what a group matched. -/
structure Piece where
  text : Octets := []
  /-- The case of the first letter, and of all. -/
  first : Letters := .asTheyAre
  all : Letters := .asTheyAre
  group : Option Nat := none

/-- Where lines are written beside the output. -/
inductive Target where
  | output
  | complaints
  | file (path : Octets)
deriving DecidableEq

/-- What is put in the place of matches. -/
structure Substitution where
  /-- None: the expression that was used last. -/
  pattern : Option Regex
  replacement : List Piece
  /-- The number of the first match to be replaced. -/
  first : Nat := 1
  /-- All later matches are replaced too. -/
  every : Bool := false
  prints : Bool := false
  target : Option Target := none

/-- What a command does. -/
inductive Action where
  /-- A block: on lines that are not selected the commands up to a place are skipped. -/
  | block (stop : Nat)
  | nothing
  | append (text : Octets)
  | insert (text : Octets)
  | change (text : Octets)
  | delete
  | deleteLine
  | print
  | printLine
  | next
  | joinNext
  | keep
  | keepMore
  | fetch
  | fetchMore
  | exchange
  | empty
  | quit (status : Nat)
  | leave (status : Nat)
  | number
  | name
  | show (width : Option Nat)
  | readFile (path : Octets)
  | readLine (path : Octets)
  | write (target : Target)
  | writeLine (target : Target)
  | transliterate (table : List (Char × Char))
  | substitute (s : Substitution)
  | jump (label : Octets)
  | jumpIfReplaced (label : Octets)
  | jumpUnlessReplaced (label : Octets)

/-- A command. -/
structure Command where
  selection : Selection := {}
  action : Action := .nothing

/-- Why a script is none, or cannot go on. -/
inductive Fault where
  | unterminatedSubstitution
  | unknownOption
  | repeatedOption (c : Char)
  | repeatedNumber
  | numberZero
  | unknownCommand (c : Char)
  | missingCommand
  | extraCharacters
  | strayComma
  | strayClosing
  | unclosedBlock
  | unterminatedAddress
  | lineZero
  | relativeFirst
  | repeatedNegation
  | addressedComment
  | addressedClosing
  | addressedLabel
  | oneAddressOnly
  | missingText
  | unequalStrings
  | unterminatedStrings
  | missingLabel
  | missingFile
  | missingGroup (n : Nat)
  | noExpressionBefore
  | modifiedEmpty
  | tooNew
  | disallowed
  | regex (e : RegexError)
  | classAlone
  | unknownLabel (label : Octets)
  | unopened (path : Octets) (cause : String)

/-- What is said about it. -/
def Fault.message : Fault → String
  | unterminatedSubstitution => "unterminated \x60s' command"
  | unknownOption => "unknown option to \x60s'"
  | repeatedOption c => s!"multiple \x60{String.singleton c}' options to \x60s' command"
  | repeatedNumber => "multiple number options to \x60s' command"
  | numberZero => "number option to \x60s' command may not be zero"
  | unknownCommand c => s!"unknown command: \x60{String.singleton c}'"
  | missingCommand => "missing command"
  | extraCharacters => "extra characters after command"
  | strayComma => "unexpected \x60,'"
  | strayClosing => "unexpected \x60\x7d'"
  | unclosedBlock => "unmatched \x60\x7b'"
  | unterminatedAddress => "unterminated address regex"
  | lineZero => "invalid usage of line address 0"
  | relativeFirst => "invalid usage of +N or ~N as first address"
  | repeatedNegation => "multiple \x60!'s"
  | addressedComment => "comments don't accept any addresses"
  | addressedClosing => "\x60\x7d' doesn't want any addresses"
  | addressedLabel => ": doesn't want any addresses"
  | oneAddressOnly => "command only uses one address"
  | missingText => "expected \\ after \x60a', \x60c' or \x60i'"
  | unequalStrings => "strings for \x60y' command are different lengths"
  | unterminatedStrings => "unterminated \x60y' command"
  | missingLabel => "\":\" lacks a label"
  | missingFile => "missing filename in r/R/w/W commands"
  | missingGroup n => s!"invalid reference \\{n} on \x60s' command's RHS"
  | noExpressionBefore => "no previous regular expression"
  | modifiedEmpty => "cannot specify modifiers on empty regexp"
  | tooNew => "expected newer version of sed"
  | disallowed => "e/r/w commands disabled in sandbox mode"
  | regex e => e.message
  | classAlone => "character class syntax is [[:space:]], not [:space:]"
  | unknownLabel label => s!"can't find label for jump to \x60{label.toText}'"
  | unopened path cause => s!"couldn't open file {path.toText}: {cause}"

/-- The fault is found where no place in the script can be told. -/
def Fault.isPlaceless : Fault → Bool
  | classAlone | unknownLabel _ | unopened _ _ => true
  | _ => false

/-! ### Escapes -/

/-- What a text with escapes is for. -/
inductive EscapedIn where
  | expression
  | replacement
  | text
deriving DecidableEq

/-- The octet of a number in some base at the front of a text, if there is one, and what follows. -/
def numbered? (base most : Nat) (cs : Octets) : Option (Char × Octets) :=
  let value (c : Char) : Nat :=
    if c.isDigit then c.toNat - 48
    else if 'a' ≤ c && c ≤ 'f' then c.toNat - 87
    else if 'A' ≤ c && c ≤ 'F' then c.toNat - 55
    else 99
  let digits := (cs.take most).takeWhile fun c => value c < base
  if digits.isEmpty then none
  else
    let n := digits.foldl (fun n c => n * base + value c) 0
    some (Char.ofNat (n % 256), cs.drop digits.length)

/-- The text in which escapes that stand for octets are replaced by them. An octet with a meaning in
a replacement keeps a backslash there. -/
def escaped (use : EscapedIn) (fuel : Nat) (cs : Octets) : Octets :=
  match fuel, cs with
  | 0, cs => cs
  | _, [] => []
  | fuel + 1, '\\' :: c :: rest =>
    let put (c : Char) (rest : Octets) : Octets := c :: escaped use fuel rest
    let number (base most : Nat) : Octets :=
      match numbered? base most rest with
      | none => put c rest
      | some (d, rest) =>
        if use != .expression && (d == '&' || d == '\\' || d == '\n') then '\\' :: put d rest
        else put d rest
    match c with
    | 'a' => put (Char.ofNat 7) rest
    | 'f' => put (Char.ofNat 12) rest
    | 'n' => put '\n' rest
    | 'r' => put '\r' rest
    | 't' => put '\t' rest
    | 'v' => put (Char.ofNat 11) rest
    | 'd' => number 10 3
    | 'o' => number 8 3
    | 'x' => number 16 2
    | 'c' =>
      match rest with
      | '\\' :: '\\' :: rest => put (Char.ofNat 28) rest
      | d :: rest => put (Char.ofNat (d.toUpper.toNat ^^^ 64)) rest
      | [] => ['\\', '\\']
    | c => '\\' :: put c rest
  | fuel + 1, c :: rest => c :: escaped use fuel rest

/-- The text without the backslashes before other signs. -/
def unescaped : Octets → Octets
  | '\\' :: c :: rest => c :: unescaped rest
  | c :: rest => c :: unescaped rest
  | [] => []

/-- A replacement while it is read: the pieces that are complete, latest first, and the next one. -/
structure Draft where
  done : List Piece := []
  text : Octets := []
  first : Letters := .asTheyAre
  all : Letters := .asTheyAre
  /-- The case of later pieces. -/
  later : Letters := .asTheyAre

/-- The draft when its next piece is complete. -/
def Draft.cut (d : Draft) (group : Option Nat) : Draft :=
  { d with
    done := { text := d.text.reverse, first := d.first, all := d.all, group } :: d.done
    text := [], first := .asTheyAre, all := d.later }

/-- The pieces of a replacement. -/
def pieces (d : Draft) : Octets → List Piece
  | '\\' :: c :: rest =>
    match c with
    | 'U' => pieces { d.cut none with all := .upper, later := .upper } rest
    | 'L' => pieces { d.cut none with all := .lower, later := .lower } rest
    | 'E' => pieces { d.cut none with all := .asTheyAre, later := .asTheyAre } rest
    | 'u' => pieces { d.cut none with first := .upper } rest
    | 'l' => pieces { d.cut none with first := .lower } rest
    | c =>
      if c.isDigit then pieces (d.cut (some (c.toNat - 48))) rest
      else
        let d := d.cut none
        pieces { d with
          done := d.done.modifyHead fun p => { p with text := p.text ++ [c] } } rest
  | '&' :: rest => pieces (d.cut (some 0)) rest
  | c :: rest => pieces { d with text := c :: d.text } rest
  | [] => ((d.cut none).done).reverse

/-- A text with the cases of a piece. -/
def Piece.cased (first all : Letters) : Octets → Octets
  | [] => []
  | c :: rest => (if first == .asTheyAre then all else first).apply c :: rest.map all.apply

/-- What a replacement stands for. A case for a first letter waits for one as long as there is
none. -/
def replacement (m : Regex.Match) (text : Octets) (waiting : Letters) : List Piece → Octets
  | [] => []
  | p :: rest =>
    let first := if p.first == .asTheyAre then waiting else p.first
    let start := Piece.cased first p.all p.text
    let first := if p.text.isEmpty then first else .asTheyAre
    match p.group with
    | none => start ++ replacement m text .asTheyAre rest
    | some n =>
      let taken := m.group text n
      let waiting := if taken.isEmpty && p.first != .asTheyAre then first else .asTheyAre
      start ++ Piece.cased first p.all taken ++ replacement m text waiting rest

end Codemod.Shell.Edit
