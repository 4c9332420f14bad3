import Codemod.Shell.Regex.Basic

/-!
# The text of regular expressions

Programs differ in which signs need a backslash and in what they do with signs that stand alone.

- `RegexStyle` — how a program writes expressions
- `Regex.read` — the expression of a text, or why it is none
-/

namespace Codemod.Shell

/-- What becomes of a sign of repetition that follows nothing. -/
inductive LeadingRepeat where
  /-- It stands for itself. -/
  | literal
  | ignored
  | refused
deriving DecidableEq

/-- How a program writes expressions. -/
structure RegexStyle where
  /-- Groups, alternatives and bounds need a backslash. -/
  escapedSigns : Bool
  /-- The signs for one or more and for one or none need a backslash. -/
  escapedRepeats : Bool
  leading : LeadingRepeat
  /-- Bounds need something to repeat that is not repeated already. -/
  strictBounds : Bool := false
  /-- Bounds that are none are taken as they are. -/
  looseBounds : Bool := false
  /-- A closing parenthesis without an opening one stands for itself. -/
  looseClosing : Bool := false
  /-- There are bounds. -/
  hasBounds : Bool := true
  /-- A backslash has a meaning between brackets. -/
  escapesInside : Bool := false
  /-- Each alternative has something in it. -/
  needsOperands : Bool := false

namespace RegexStyle

/-- Most signs need a backslash. -/
def basic : RegexStyle := { escapedSigns := true, escapedRepeats := true, leading := .literal }

/-- Most signs need a backslash, and bounds have to repeat something. -/
def strictBasic : RegexStyle := { basic with strictBounds := true }

/-- No sign needs a backslash. -/
def extended : RegexStyle := { escapedSigns := false, escapedRepeats := false, leading := .refused }

/-- No sign needs a backslash, and one without a meaning is ignored or taken as it is. -/
def lenientExtended : RegexStyle :=
  { extended with leading := .ignored, looseBounds := true, looseClosing := true }

/-- Only groups and alternatives need a backslash. -/
def editor : RegexStyle :=
  { escapedSigns := true, escapedRepeats := false, leading := .literal, hasBounds := false }

/-- No sign needs a backslash, and escapes are read everywhere. -/
def escaping : RegexStyle :=
  { lenientExtended with leading := .refused, escapesInside := true, needsOperands := true }

end RegexStyle

/-- Why a text is no expression. -/
inductive RegexError where
  | unfinished
  | unmatchedBracket
  | className
  | collation
  | rangeEnd
  | trailingBackslash
  | unmatchedOpening
  | unmatchedClosing
  | unmatchedBrace
  | braceContent
  | tooBig
  | badReference
  | nothingToRepeat
deriving DecidableEq

/-- What is said about it. -/
def RegexError.message : RegexError → String
  | unfinished => "Invalid regular expression"
  | unmatchedBracket => "Unmatched [, [^, [:, [., or [="
  | className => "Invalid character class name"
  | collation => "Invalid collation character"
  | rangeEnd => "Invalid range end"
  | trailingBackslash => "Trailing backslash"
  | unmatchedOpening => "Unmatched ( or \\("
  | unmatchedClosing => "Unmatched ) or \\)"
  | unmatchedBrace => "Unmatched \\\x7b"
  | braceContent => "Invalid content of \\\x7b\\\x7d"
  | tooBig => "Regular expression too big"
  | badReference => "Invalid back reference"
  | nothingToRepeat => "Invalid preceding regular expression"

namespace Regex

/-- The element of an escaped letter, if it has a meaning. -/
def escaped? (c : Char) : Option Regex :=
  match c with
  | 'w' => some (.oneOf false wordRanges)
  | 'W' => some (.oneOf true wordRanges)
  | 's' => some (.oneOf false (Wildcard.namedClass "space"))
  | 'S' => some (.oneOf true (Wildcard.namedClass "space"))
  | 'b' => some .wordEdge
  | 'B' => some .wordInside
  | '<' => some .wordStart
  | '>' => some .wordEnd
  | '\x60' => some .textStart
  | '\'' => some .textEnd
  | _ => none

/-- The octet of an escaped letter in an expression with escapes. -/
def letterEscape (c : Char) : Char :=
  match c with
  | 'n' => '\n'
  | 't' => '\t'
  | 'r' => '\r'
  | 'f' => Char.ofNat 12
  | 'v' => Char.ofNat 11
  | 'a' => Char.ofNat 7
  | 'b' => Char.ofNat 8
  | c => c

/-- The name between two signs, and what follows the second. -/
def delimited? (sign : Char) (cs : Octets) : Option (Octets × Octets) :=
  match cs.span (· != sign) with
  | (name, c :: ']' :: rest) => if c == sign then some (name, rest) else none
  | _ => none

/-- One end of a range in brackets, and what follows it. -/
def rangeSide (escapes : Bool) (cs : Octets) : Except RegexError (Char × Octets) :=
  match cs with
  | [] => .error .unmatchedBracket
  | '[' :: '.' :: rest =>
    match delimited? '.' rest with
    | some ([c], rest) => .ok (c, rest)
    | some _ => .error .collation
    | none => .error .unmatchedBracket
  | '\\' :: c :: rest => if escapes then .ok (letterEscape c, rest) else .ok ('\\', c :: rest)
  | c :: rest => .ok (c, rest)

/-- One member of a bracket expression: its ranges, and what follows it. -/
def bracketMember (escapes : Bool) (cs : Octets) :
    Except RegexError (List (Char × Char) × Octets) := do
  match cs with
  | [] => throw .unmatchedBracket
  | '[' :: ':' :: rest =>
    match delimited? ':' rest with
    | some (name, rest) =>
      match Wildcard.namedClass (String.ofList name) with
      | [] => throw .className
      | found => return (found, rest)
    | none => throw .unmatchedBracket
  | '[' :: '=' :: rest =>
    match delimited? '=' rest with
    | some ([c], rest) => return ([(c, c)], rest)
    | some _ => throw .collation
    | none => throw .unmatchedBracket
  | cs =>
    let (a, rest) ← rangeSide escapes cs
    match rest with
    | '-' :: ']' :: _ => return ([(a, a)], rest)
    | '-' :: more =>
      let (b, rest) ← rangeSide escapes more
      if b < a then
        if escapes then return ([(b, a)], rest)
        throw .rangeEnd
      return ([(a, b)], rest)
    | rest => return ([(a, a)], rest)

/-- The ranges of a bracket expression up to its closing bracket, which may stand first as a
member. -/
def brackets (escapes : Bool) (fuel : Nat) (first : Bool) (cs : Octets) :
    Except RegexError (List (Char × Char) × Octets) :=
  match fuel, cs with
  | 0, _ => .error .unmatchedBracket
  | fuel + 1, cs =>
    match first, cs with
    | false, ']' :: rest => .ok ([], rest)
    | _, cs => do
      let (found, rest) ← bracketMember escapes cs
      let (rs, rest) ← brackets escapes fuel false rest
      return (found ++ rs, rest)

/-- How often an element may be repeated at most. -/
def maxRepeats : Nat := 32767

/-- The bounds of a repetition after the opening brace, and what follows them. -/
def bounds (style : RegexStyle) (cs : Octets) : Except RegexError (Nat × Option Nat × Octets) := do
  let number (ds : Octets) : Nat := ds.foldl (fun n c => min 100000 (n * 10 + (c.toNat - 48))) 0
  let (low, rest) := cs.span Char.isDigit
  let (least, most, rest) ←
    match rest with
    | ',' :: rest =>
      let (high, rest) := rest.span Char.isDigit
      pure (number low, if high.isEmpty then none else some (number high), rest)
    | rest =>
      if low.isEmpty then throw (if rest.isEmpty then .unmatchedBrace else .braceContent)
      else pure (number low, some (number low), rest)
  let rest ←
    match rest, style.escapedSigns with
    | '\x7d' :: rest, false => pure rest
    | '\\' :: '\x7d' :: rest, true => pure rest
    | [], _ => throw .unmatchedBrace
    | _, _ => throw (if style.escapedSigns then .braceContent else .unmatchedBrace)
  if most.any (· < least) then throw .braceContent
  if maxRepeats < least || most.any (maxRepeats < ·) then throw .tooBig
  return (least, most, rest)

/-- Bounds are written at the front of a text, whether or not they have a meaning. -/
def boundsStand (cs : Octets) : Bool :=
  let (low, rest) := cs.span Char.isDigit
  match rest with
  | '\x7d' :: _ => !low.isEmpty
  | ',' :: rest => (rest.dropWhile Char.isDigit).head? == some '\x7d'
  | _ => false

/-- The text after a sign at its front, which has a backslash or none. -/
def sign? (needsBackslash : Bool) (sign : Char) : Octets → Option Octets
  | '\\' :: c :: rest => if needsBackslash && c == sign then some rest else none
  | c :: rest => if !needsBackslash && c == sign then some rest else none
  | [] => none

/-- The bounds of a repetition sign at the front of a text, and what follows it. -/
def repetition (style : RegexStyle) (cs : Octets) :
    Except RegexError (Option (Nat × Option Nat × Octets)) :=
  match cs with
  | '*' :: rest => .ok (some (0, none, rest))
  | cs =>
    match sign? style.escapedRepeats '+' cs, sign? style.escapedRepeats '?' cs,
        sign? style.escapedSigns '\x7b' cs with
    | some rest, _, _ => .ok (some (1, none, rest))
    | _, some rest, _ => .ok (some (0, some 1, rest))
    | _, _, some rest =>
      match style.hasBounds, bounds style rest with
      | false, _ => .ok none
      | true, .ok found => .ok (some found)
      | true, .error e =>
        if style.looseBounds && !boundsStand rest then .ok none else .error e
    | none, none, none => .ok none

/-- An expression that was read, how many groups were opened so far, and what follows. -/
abbrev Read := Except RegexError (Regex × Nat × Octets)

mutual

/-- Alternatives. -/
def alternatives (style : RegexStyle) (fuel groups depth : Nat) (cs : Octets) : Read :=
  match fuel with
  | 0 => .error .tooBig
  | fuel + 1 => do
    let (a, groups, rest) ← sequence style fuel groups depth true cs
    match sign? style.escapedSigns '|' rest with
    | some rest =>
      let (b, groups, rest) ← alternatives style fuel groups depth rest
      return (.either a b, groups, rest)
    | none => return (a, groups, rest)

/-- Elements one after another; `first` tells that none was read yet. -/
def sequence (style : RegexStyle) (fuel groups depth : Nat) (first : Bool) (cs : Octets) : Read :=
  match fuel with
  | 0 => .error .tooBig
  | fuel + 1 => do
    let closes := (sign? style.escapedSigns ')' cs).isSome
    if cs.isEmpty || (sign? style.escapedSigns '|' cs).isSome || (closes && 0 < depth) then
      if first && !closes && style.needsOperands && !(cs.isEmpty && 0 < depth) then
        throw .nothingToRepeat
      return (.nothing, groups, cs)
    else
      if closes && !style.looseClosing then throw .unmatchedClosing
      let (a, groups, rest) ← element style fuel groups depth first cs
      let (a, rest) ← repeated style fuel a rest
      let stillFirst := first && style.escapedSigns && a == .lineStart
      let (b, groups, rest) ← sequence style fuel groups depth stillFirst rest
      return (.both a b, groups, rest)

/-- An element with the repetition signs after it. -/
def repeated (style : RegexStyle) (fuel : Nat) (a : Regex) (cs : Octets) :
    Except RegexError (Regex × Octets) :=
  match fuel with
  | 0 => .ok (a, cs)
  | fuel + 1 => do
    if a == .lineStart && style.escapedSigns then return (a, cs)
    match ← repetition style cs with
    | some (least, most, rest) =>
      if a == .lineStart && style.leading == .refused then throw .nothingToRepeat
      let isAgain := rest.head? == some '*' || (sign? style.escapedSigns '\x7b' rest).isSome
      if style.strictBounds && isAgain then throw .nothingToRepeat
      repeated style fuel (.times a least most) rest
    | none => return (a, cs)

/-- One element. -/
def element (style : RegexStyle) (fuel groups depth : Nat) (first : Bool) (cs : Octets) : Read :=
  match fuel with
  | 0 => .error .tooBig
  | fuel + 1 => do
    match sign? style.escapedSigns '(' cs with
    | some rest =>
      let n := groups + 1
      let (a, groups, rest) ← alternatives style fuel n (depth + 1) rest
      match sign? style.escapedSigns ')' rest with
      | some rest => return (.group n a, groups, rest)
      | none => throw .unmatchedOpening
    | none =>
      let opensBounds := (sign? style.escapedSigns '\x7b' cs).isSome
      if first && style.strictBounds && opensBounds then throw .nothingToRepeat
      if first && style.leading == .refused then
        if opensBounds then throw .nothingToRepeat
        if (← repetition style cs).isSome then throw .nothingToRepeat
      if first && style.leading == .ignored then
        if let some (_, _, rest) ← repetition style cs then return (.nothing, groups, rest)
      match cs with
      | [] => return (.nothing, groups, [])
      | '.' :: rest => return (.any, groups, rest)
      | '[' :: rest =>
        let (negated, inner) := match rest with
          | '^' :: inner => (true, inner)
          | inner => (false, inner)
        if inner.isEmpty then throw .unfinished
        let (rs, rest) ← brackets style.escapesInside (2 * inner.length + 2) true inner
        return (.oneOf negated rs, groups, rest)
      | '^' :: rest =>
        return (if first || !style.escapedSigns then .lineStart else .exactly '^', groups, rest)
      | '$' :: rest =>
        let ends := rest.isEmpty || (sign? style.escapedSigns ')' rest).isSome
          || (sign? style.escapedSigns '|' rest).isSome
        return (if ends || !style.escapedSigns then .lineEnd else .exactly '$', groups, rest)
      | ['\\'] =>
        if style.escapesInside then return (.exactly '\\', groups, [])
        throw .trailingBackslash
      | '\\' :: c :: rest =>
        if style.escapesInside then return (.exactly (letterEscape c), groups, rest)
        if '1' ≤ c && c ≤ '9' then
          if groups < c.toNat - 48 then throw .badReference
          return (.again (c.toNat - 48), groups, rest)
        return ((escaped? c).getD (.exactly c), groups, rest)
      | c :: rest => return (.exactly c, groups, rest)

end

/-- The expression of a text, or why it is none. -/
def read (style : RegexStyle) (cs : Octets) : Except RegexError Regex := do
  if cs.isEmpty then return .nothing
  match ← alternatives style (8 * cs.length + 8) 0 0 cs with
  | (r, _, []) => return r.onText
  | _ => throw .unmatchedClosing

/-- The expression of a text in which each line has a beginning and an end. -/
def readLines (style : RegexStyle) (cs : Octets) : Except RegexError Regex := do
  match ← alternatives style (8 * cs.length + 8) 0 0 cs with
  | (r, _, []) => return r
  | _ => throw .unmatchedClosing

end Regex

end Codemod.Shell
