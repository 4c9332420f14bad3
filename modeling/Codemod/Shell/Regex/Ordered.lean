import Codemod.Shell.Regex.Reading

/-!
# Regular expressions whose choices are tried in order

Here the first way of matching counts, not the longest. Repetitions say which number of turns is
tried first, and an element may look around without taking anything.

- `OrderedRegex` — expressions
- `OrderedRegex.searchFrom?` — the leftmost match
- `OrderedRegex.read` — the expression of a text, or why it is none
-/

namespace Codemod.Shell

/-- Which number of turns of a repetition is tried first. -/
inductive Turns where
  | most
  | fewest
  /-- The most, and no other number after it. -/
  | mostOnly
deriving DecidableEq

/-- A regular expression whose choices are tried in order. -/
inductive OrderedRegex where
  | nothing
  /-- An element that matches one character or sets a condition on a place. -/
  | element (r : Regex)
  | both (a b : OrderedRegex)
  | either (a b : OrderedRegex)
  | times (a : OrderedRegex) (least : Nat) (most : Option Nat) (turns : Turns)
  | group (n : Nat) (a : OrderedRegex)
  | again (n : Nat) (caseless : Bool)
  /-- Whether something matches before or after the place. -/
  | look (ahead negated : Bool) (a : OrderedRegex)
  /-- Only the first way of matching counts. -/
  | once (a : OrderedRegex)
  /-- The match begins here. -/
  | begin
deriving DecidableEq

namespace OrderedRegex

/-! ### Matching -/

/-- A place in a text while it is matched. -/
structure Place where
  offset : Nat
  groups : List (Nat × Nat × Nat) := []
  /-- Where the match is to begin, when that was said. -/
  start : Option Nat := none

/-- Whether the text goes on at a place as it does between two others. -/
def goesOn (text : Array Char) (caseless : Bool) (p first last : Nat) : Bool :=
  let fold (c : Option Char) : Option Char := if caseless then c.map Char.toLower else c
  p + (last - first) ≤ text.size
    && (List.range (last - first)).all fun i => fold text[p + i]? == fold text[first + i]?

/-- Matches at a place, with the choices in their order, and goes on with what is to follow. -/
def run (text : Array Char) (fuel : Nat) (r : OrderedRegex) (p : Place)
    (next : Place → Option Place) :
    Option Place :=
  match fuel with
  | 0 => none
  | fuel + 1 =>
    match r with
    | .nothing => next p
    | .element (.exactly c) =>
      if text[p.offset]? == some c then next { p with offset := p.offset + 1 } else none
    | .element e@.any | .element e@(.oneOf _ _) =>
      match text[p.offset]? with
      | some c => if Regex.fits c e then next { p with offset := p.offset + 1 } else none
      | none => none
    | .element e => if Regex.stands text p.offset e then next p else none
    | .both a b => run text fuel a p fun q => run text fuel b q next
    | .either a b => (run text fuel a p next).or (run text fuel b p next)
    | .times a (least + 1) most turns =>
      match turns with
      | .mostOnly =>
        match run text fuel (.times a (least + 1) most .most) p some with
        | some q => next q
        | none => none
      | turns =>
        run text fuel a p fun q => run text fuel (.times a least (most.map (· - 1)) turns) q next
    | .times _ 0 (some 0) _ => next p
    | .times a 0 most turns =>
      let more (turns : Turns) (next : Place → Option Place) : Option Place :=
        run text fuel a p fun q =>
          if q.offset == p.offset then none
          else run text fuel (.times a 0 (most.map (· - 1)) turns) q next
      match turns with
      | .most => (more .most next).or (next p)
      | .fewest => (next p).or (more .fewest next)
      | .mostOnly =>
        match (more .most some).or (some p) with
        | some q => next q
        | none => none
    | .group n a =>
      run text fuel a p fun q => next { q with groups := (n, p.offset, q.offset) :: q.groups }
    | .again n caseless =>
      match p.groups.lookup n with
      | some (first, last) =>
        if goesOn text caseless p.offset first last then
          next { p with offset := p.offset + (last - first) }
        else none
      | none => none
    | .look true negated a =>
      match run text fuel a p some, negated with
      | some q, false => next { q with offset := p.offset }
      | none, true => next p
      | _, _ => none
    | .look false negated a =>
      let found := (List.range (p.offset + 1)).reverse.findSome? fun start =>
        run text fuel a { p with offset := start } fun q => if q.offset == p.offset then some q
          else none
      match found, negated with
      | some q, false => next q
      | none, true => next p
      | _, _ => none
    | .once a =>
      match run text fuel a p some with
      | some q => next q
      | none => none
    | .begin => next { p with start := some p.offset }

/-- How many elements an expression has. -/
def size : OrderedRegex → Nat
  | .both a b | .either a b => a.size + b.size + 1
  | .times a least most _ => (a.size + 1) * (least + most.getD 1 + 1) + 1
  | .group _ a | .look _ _ a | .once a => a.size + 1
  | _ => 1

/-- The first match that begins at a place. -/
def matchAt? (r : OrderedRegex) (text : Array Char) (start : Nat) : Option Regex.Match :=
  let fuel := (r.size + 2) * (text.size + 2) + 2
  (run text fuel r { offset := start } some).map fun q => ⟨q.start.getD start, q.offset, q.groups⟩

/-- The leftmost match that begins at a place or after it. -/
def searchFrom? (r : OrderedRegex) (text : Array Char) (fuel start : Nat) : Option Regex.Match :=
  match fuel with
  | 0 => none
  | fuel + 1 =>
    if text.size < start then none
    else (r.matchAt? text start).or (searchFrom? r text fuel (start + 1))

/-! ### Reading -/

/-- Why a text is no expression. -/
inductive ReadError where
  | unclosedGroup
  | unmatchedClosing
  | unclosedBrackets
  | reversedRange
  | reversedBounds
  | nothingToRepeat
  | trailingBackslash
  | unknownEscape
  | unknownClass
  | unknownGroup
  | unknownOpening
deriving DecidableEq

/-- What is said about it. -/
def ReadError.message : ReadError → String
  | unclosedGroup => "missing closing parenthesis"
  | unmatchedClosing => "unmatched closing parenthesis"
  | unclosedBrackets => "missing terminating ] for character class"
  | reversedRange => "range out of order in character class"
  | reversedBounds => "numbers out of order in \x7b\x7d quantifier"
  | nothingToRepeat => "quantifier does not follow a repeatable item"
  | trailingBackslash => "\\ at end of pattern"
  | unknownEscape => "unrecognized character follows \\"
  | unknownClass => "unknown POSIX class name"
  | unknownGroup => "reference to non-existent subpattern"
  | unknownOpening => "unrecognized character after (? or (?-"

/-- What is known while an expression is read. -/
structure Reader where
  /-- How many groups were opened, and the numbers of those with names. -/
  groups : Nat := 0
  names : List (Octets × Nat) := []
  caseless : Bool := false
  /-- A point matches line feeds too. -/
  wide : Bool := false
  /-- Lines have beginnings and ends. -/
  inLines : Bool := false
  /-- Blanks count for nothing. -/
  spaced : Bool := false

/-- What one escaped letter stands for in a set of characters. -/
def classOf? (c : Char) : Option (Bool × List (Char × Char)) :=
  let space := Wildcard.namedClass "space"
  match c with
  | 'd' => some (false, [('0', '9')])
  | 'D' => some (true, [('0', '9')])
  | 'w' => some (false, Regex.wordRanges)
  | 'W' => some (true, Regex.wordRanges)
  | 's' => some (false, space)
  | 'S' => some (true, space)
  | 'h' => some (false, [(' ', ' '), ('\t', '\t')])
  | 'H' => some (true, [(' ', ' '), ('\t', '\t')])
  | 'v' => some (false, [('\n', '\r')])
  | 'V' => some (true, [('\n', '\r')])
  | 'N' => some (true, [('\n', '\n')])
  | _ => none

/-- The value of a hexadecimal digit. -/
def hexDigit? (c : Char) : Option Nat :=
  if c.isDigit then some (c.toNat - 48)
  else if 'a' ≤ c && c ≤ 'f' then some (c.toNat - 87)
  else if 'A' ≤ c && c ≤ 'F' then some (c.toNat - 55)
  else none

/-- The value of hexadecimal digits. -/
def hexValue (cs : Octets) : Nat := cs.foldl (fun n c => n * 16 + (hexDigit? c).getD 0) 0

/-- The character of an escape after its backslash, and what follows it. -/
def escapedChar (cs : Octets) : Except ReadError (Char × Octets) :=
  match cs with
  | [] => .error .trailingBackslash
  | 'n' :: rest => .ok ('\n', rest)
  | 't' :: rest => .ok ('\t', rest)
  | 'r' :: rest => .ok ('\r', rest)
  | 'f' :: rest => .ok (Char.ofNat 12, rest)
  | 'e' :: rest => .ok (Char.ofNat 27, rest)
  | 'a' :: rest => .ok (Char.ofNat 7, rest)
  | 'x' :: '\x7b' :: rest =>
    let (ds, rest) := rest.span (· != '\x7d')
    .ok (Char.ofNat (hexValue ds % 256), rest.drop 1)
  | 'x' :: rest =>
    let ds := (rest.take 2).takeWhile fun c => (hexDigit? c).isSome
    .ok (Char.ofNat (hexValue ds), rest.drop ds.length)
  | '0' :: rest =>
    let ds := (rest.take 2).takeWhile fun c => '0' ≤ c && c ≤ '7'
    .ok (Char.ofNat (ds.foldl (fun n c => n * 8 + (c.toNat - 48)) 0), rest.drop ds.length)
  | c :: rest => if c.isAlphanum then .error .unknownEscape else .ok (c, rest)

/-- The ranges that are not in others. -/
def complement (ranges : List (Char × Char)) : List (Char × Char) :=
  ((List.range 256).map Char.ofNat).filterMap fun c =>
    if Wildcard.inRanges ranges c then none else some (c, c)

/-- The ranges of a set of characters up to its closing bracket, and what follows it. -/
def members (fuel : Nat) (first : Bool) (cs : Octets) :
    Except ReadError (List (Char × Char) × Octets) :=
  match fuel, cs with
  | 0, _ | _, [] => .error .unclosedBrackets
  | fuel + 1, cs => do
    let going (ranges : List (Char × Char)) (rest : Octets) :
        Except ReadError (List (Char × Char) × Octets) := do
      let (more, rest) ← members fuel false rest
      return (ranges ++ more, rest)
    match cs with
    | ']' :: rest => if first then going [(']', ']')] rest else return ([], rest)
    | '[' :: ':' :: rest =>
      match Regex.delimited? ':' rest with
      | some (name, rest) =>
        let negated := name.head? == some '^'
        let name := if negated then name.drop 1 else name
        let ranges := if name == "word".toList then Regex.wordRanges
          else Wildcard.namedClass (String.ofList name)
        if ranges.isEmpty then throw .unknownClass
        going (if negated then complement ranges else ranges) rest
      | none => going [('[', '[')] (':' :: rest)
    | cs =>
      let single (cs : Octets) : Except ReadError (Char × Octets) :=
        match cs with
        | '\\' :: 'b' :: rest => .ok (Char.ofNat 8, rest)
        | '\\' :: rest => escapedChar rest
        | c :: rest => .ok (c, rest)
        | [] => .error .unclosedBrackets
      match cs with
      | '\\' :: c :: rest =>
        if let some (negated, ranges) := classOf? c then
          return ← going (if negated then complement ranges else ranges) rest
      | _ => pure ()
      let (a, rest) ← single cs
      match rest with
      | '-' :: ']' :: _ => going [(a, a)] rest
      | '-' :: more =>
        let (b, rest) ← single more
        if b < a then throw .reversedRange
        going [(a, b)] rest
      | rest => going [(a, a)] rest

/-- The bounds of a repetition at the front of a text, and what follows them. -/
def repetition? (cs : Octets) : Except ReadError (Option (Nat × Option Nat × Octets)) :=
  match cs with
  | '*' :: rest => .ok (some (0, none, rest))
  | '+' :: rest => .ok (some (1, none, rest))
  | '?' :: rest => .ok (some (0, some 1, rest))
  | '\x7b' :: rest =>
    let number (ds : Octets) : Nat := ds.foldl (fun n c => n * 10 + (c.toNat - 48)) 0
    let (low, after) := rest.span Char.isDigit
    match low.isEmpty, after with
    | false, '\x7d' :: rest => .ok (some (number low, some (number low), rest))
    | false, ',' :: '\x7d' :: rest => .ok (some (number low, none, rest))
    | _, ',' :: more =>
      let (high, more) := more.span Char.isDigit
      match high.isEmpty, more with
      | false, '\x7d' :: rest =>
        if !low.isEmpty && number high < number low then .error .reversedBounds
        else .ok (some (number low, some (number high), rest))
      | _, _ => .ok none
    | _, _ => .ok none
  | _ => .ok none

/-- An expression that was read, what is known then, and what follows. -/
abbrev Read := Except ReadError (OrderedRegex × Reader × Octets)

/-- An element that stands for one character. -/
def single (s : Reader) (c : Char) : OrderedRegex :=
  .element (if s.caseless && c.isAlpha then (Regex.exactly c).caseless else .exactly c)

/-- A set of characters. -/
def setOf (s : Reader) (negated : Bool) (ranges : List (Char × Char)) : OrderedRegex :=
  let r := Regex.oneOf negated ranges
  .element (if s.caseless then r.caseless else r)

/-- The options of a group before its colon or closing parenthesis. -/
def optioned (s : Reader) (on : Bool) : Octets → Option (Reader × Octets)
  | '-' :: rest => optioned s false rest
  | 'i' :: rest => optioned { s with caseless := on } on rest
  | 's' :: rest => optioned { s with wide := on } on rest
  | 'm' :: rest => optioned { s with inLines := on } on rest
  | 'x' :: rest => optioned { s with spaced := on } on rest
  | 'U' :: rest | 'J' :: rest => optioned s on rest
  | ':' :: rest => some (s, ':' :: rest)
  | ')' :: rest => some (s, ')' :: rest)
  | _ => none

mutual

/-- Alternatives. -/
def alternatives (fuel : Nat) (s : Reader) (cs : Octets) : Read :=
  match fuel with
  | 0 => .error .unclosedGroup
  | fuel + 1 => do
    let (a, s, rest) ← sequence fuel s cs
    match rest with
    | '|' :: rest =>
      let (b, s, rest) ← alternatives fuel s rest
      return (.either a b, s, rest)
    | rest => return (a, s, rest)

/-- Elements one after another. -/
def sequence (fuel : Nat) (s : Reader) (cs : Octets) : Read :=
  match fuel with
  | 0 => .error .unclosedGroup
  | fuel + 1 => do
    match cs with
    | [] | '|' :: _ | ')' :: _ => return (.nothing, s, cs)
    | cs =>
      if let some _ ← repetition? cs then throw .nothingToRepeat
      let (a, s, rest) ← unit fuel s cs
      let (a, rest) ← repeated fuel a rest
      let (b, s, rest) ← sequence fuel s rest
      return (.both a b, s, rest)

/-- An element with the repetition after it. -/
def repeated (fuel : Nat) (a : OrderedRegex) (cs : Octets) :
    Except ReadError (OrderedRegex × Octets) :=
  match fuel with
  | 0 => .ok (a, cs)
  | _ + 1 => do
    match ← repetition? cs with
    | none => return (a, cs)
    | some (least, most, rest) =>
      match rest with
      | '?' :: rest => return (.times a least most .fewest, rest)
      | '+' :: rest => return (.times a least most .mostOnly, rest)
      | rest => return (.times a least most .most, rest)

/-- What stands in parentheses up to the closing one; options are those from before after it. -/
def enclosed (fuel : Nat) (s before : Reader) (wrap : OrderedRegex → OrderedRegex) (cs : Octets) :
    Read :=
  match fuel with
  | 0 => .error .unclosedGroup
  | fuel + 1 => do
    match ← alternatives fuel s cs with
    | (a, s, ')' :: rest) =>
      return (wrap a, { before with groups := s.groups, names := s.names }, rest)
    | _ => throw .unclosedGroup

/-- One element. -/
def unit (fuel : Nat) (s : Reader) (cs : Octets) : Read :=
  match fuel with
  | 0 => .error .unclosedGroup
  | fuel + 1 => do
    match cs with
    | [] => return (.nothing, s, [])
    | '(' :: '?' :: '#' :: rest => return (.nothing, s, (rest.dropWhile (· != ')')).drop 1)
    | '(' :: '?' :: '=' :: rest => enclosed fuel s s (.look true false) rest
    | '(' :: '?' :: '!' :: rest => enclosed fuel s s (.look true true) rest
    | '(' :: '?' :: '<' :: '=' :: rest => enclosed fuel s s (.look false false) rest
    | '(' :: '?' :: '<' :: '!' :: rest => enclosed fuel s s (.look false true) rest
    | '(' :: '?' :: '>' :: rest => enclosed fuel s s .once rest
    | '(' :: '?' :: 'P' :: '=' :: rest =>
      let (name, rest) := rest.span (· != ')')
      match s.names.lookup name with
      | some n => return (.again n s.caseless, s, rest.drop 1)
      | none => throw .unknownGroup
    | '(' :: '?' :: 'P' :: '<' :: rest | '(' :: '?' :: '<' :: rest | '(' :: '?' :: '\'' :: rest =>
      let (name, rest) := rest.span fun c => c != '>' && c != '\''
      let n := s.groups + 1
      let inner := { s with groups := n, names := (name, n) :: s.names }
      enclosed fuel inner s (.group n) (rest.drop 1)
    | '(' :: '?' :: rest =>
      match optioned s true rest with
      | some (inner, ':' :: rest) => enclosed fuel inner s id rest
      | some (inner, rest) => return (.nothing, inner, rest.drop 1)
      | none => throw .unknownOpening
    | '(' :: rest =>
      let n := s.groups + 1
      enclosed fuel { s with groups := n } s (.group n) rest
    | '[' :: rest =>
      let (negated, inner) := match rest with
        | '^' :: inner => (true, inner)
        | inner => (false, inner)
      let (ranges, rest) ← members (2 * inner.length + 2) true inner
      return (setOf s negated ranges, s, rest)
    | '.' :: rest =>
      return (if s.wide then .element .any else .element (.oneOf true [('\n', '\n')]), s, rest)
    | '^' :: rest => return (.element (if s.inLines then .lineStart else .textStart), s, rest)
    | '$' :: rest => return (.element (if s.inLines then .lineEnd else .textEnd), s, rest)
    | '\\' :: rest => escape fuel s rest
    | c :: rest =>
      if s.spaced && c == '#' then return (.nothing, s, rest.dropWhile (· != '\n'))
      if s.spaced && (c == ' ' || ('\t' ≤ c && c ≤ '\r')) then return (.nothing, s, rest)
      return (single s c, s, rest)

/-- An element after its backslash. -/
def escape (fuel : Nat) (s : Reader) (cs : Octets) : Read :=
  match fuel with
  | 0 => .error .unclosedGroup
  | _ + 1 => do
    match cs with
    | [] => throw .trailingBackslash
    | 'b' :: rest => return (.element .wordEdge, s, rest)
    | 'B' :: rest => return (.element .wordInside, s, rest)
    | 'A' :: rest => return (.element .textStart, s, rest)
    | 'Z' :: rest | 'z' :: rest => return (.element .textEnd, s, rest)
    | 'G' :: rest => return (.nothing, s, rest)
    | 'K' :: rest => return (.begin, s, rest)
    | 'R' :: rest => return (.element (.oneOf false [('\n', '\r')]), s, rest)
    | 'Q' :: rest =>
      let quoted :=
        (List.range (rest.length + 1)).find? fun i => "\\E".toList.isPrefixOf (rest.drop i)
      let n := quoted.getD rest.length
      return ((rest.take n).foldr (fun c r => .both (single s c) r) .nothing, s, rest.drop (n + 2))
    | 'E' :: rest => return (.nothing, s, rest)
    | 'k' :: _ :: rest =>
      let (name, rest) := rest.span fun c => c != '>' && c != '\x7d' && c != '\''
      match s.names.lookup name with
      | some n => return (.again n s.caseless, s, rest.drop 1)
      | none => throw .unknownGroup
    | 'g' :: rest =>
      let rest := if rest.head? == some '\x7b' then rest.drop 1 else rest
      let (ds, rest) := rest.span Char.isDigit
      let n := ds.foldl (fun n c => n * 10 + (c.toNat - 48)) 0
      let rest := if rest.head? == some '\x7d' then rest.drop 1 else rest
      if s.groups < n then throw .unknownGroup
      return (.again n s.caseless, s, rest)
    | c :: rest =>
      if '1' ≤ c && c ≤ '9' then
        if s.groups < c.toNat - 48 then throw .unknownGroup
        return (.again (c.toNat - 48) s.caseless, s, rest)
      match classOf? c with
      | some (negated, ranges) => return (setOf s negated ranges, s, rest)
      | none =>
        let (c, rest) ← escapedChar (c :: rest)
        return (single s c, s, rest)

end

/-- The expression of a text, or why it is none. -/
def read (caseless : Bool) (cs : Octets) : Except ReadError OrderedRegex := do
  match ← alternatives (8 * cs.length + 8) { caseless } cs with
  | (r, _, []) => return r
  | _ => throw .unmatchedClosing

/-- The expression where no character of a word stands before or after. -/
def asWord (r : OrderedRegex) : OrderedRegex :=
  .both (.element .noWordBefore) (.both r (.element .noWordAfter))

/-- The expression for the whole text. -/
def asWhole (r : OrderedRegex) : OrderedRegex :=
  .both (.element .textStart) (.both r (.element .textEnd))

end OrderedRegex

end Codemod.Shell
