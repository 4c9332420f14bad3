import Codemod.Shell.Wildcard

/-!
# Regular expressions

- `Regex` — expressions
- `Regex.ends` — where matches end that begin at some places
- `Regex.search?`, `Regex.all` — the leftmost longest match, and all matches one after another
- `Regex.replaced` — a text with matches replaced
-/

namespace Codemod.Shell

/-- A regular expression. -/
inductive Regex where
  | nothing
  | exactly (c : Char)
  | any
  | oneOf (negated : Bool) (ranges : List (Char × Char))
  /-- At the beginning of the text or after a line feed. -/
  | lineStart
  /-- At the end of the text or before a line feed. -/
  | lineEnd
  | textStart
  | textEnd
  /-- Between a character of a word and one that is not. -/
  | wordEdge
  /-- Between two characters of a word, or two that are not. -/
  | wordInside
  | wordStart
  | wordEnd
  /-- Not after a character of a word, and not before one. -/
  | noWordBefore
  | noWordAfter
  | both (a b : Regex)
  | either (a b : Regex)
  | times (a : Regex) (least : Nat) (most : Option Nat)
  | group (n : Nat) (a : Regex)
  | again (n : Nat)
deriving DecidableEq

namespace Regex

/-- A character of a word. -/
def isWordChar (c : Char) : Bool := c.isAlphanum || c == '_'

/-- The octets of words, as ranges. -/
def wordRanges : List (Char × Char) := [('a', 'z'), ('A', 'Z'), ('0', '9'), ('_', '_')]

/-- The expression that matches a text as it stands. -/
def ofText (cs : Octets) : Regex := cs.foldr (fun c r => .both (.exactly c) r) .nothing

/-- Ranges with the other case of their letters. -/
def bothCases (ranges : List (Char × Char)) : List (Char × Char) :=
  let shifted (first last other : Char) (a b : Char) : Option (Char × Char) :=
    let low := max a.toNat first.toNat
    let high := min b.toNat last.toNat
    if low ≤ high then
      some (Char.ofNat (low - first.toNat + other.toNat),
        Char.ofNat (high - first.toNat + other.toNat))
    else none
  ranges.flatMap fun (a, b) =>
    (a, b) :: ((shifted 'a' 'z' 'A' a b).toList ++ (shifted 'A' 'Z' 'a' a b).toList)

/-- The expression without regard to case. -/
def caseless : Regex → Regex
  | .exactly c => .oneOf false (bothCases [(c, c)])
  | .oneOf negated rs => .oneOf negated (bothCases rs)
  | .both a b => .both (caseless a) (caseless b)
  | .either a b => .either (caseless a) (caseless b)
  | .times a least most => .times (caseless a) least most
  | .group n a => .group n (caseless a)
  | r => r

/-- The expression with the whole text for a line. -/
def onText : Regex → Regex
  | .lineStart => .textStart
  | .lineEnd => .textEnd
  | .both a b => .both (onText a) (onText b)
  | .either a b => .either (onText a) (onText b)
  | .times a least most => .times (onText a) least most
  | .group n a => .group n (onText a)
  | r => r

/-- The expression matches what a group matched before. -/
def refersBack : Regex → Bool
  | .again _ => true
  | .both a b | .either a b => refersBack a || refersBack b
  | .times a _ _ | .group _ a => refersBack a
  | _ => false

/-- The expression has groups. -/
def hasGroups : Regex → Bool
  | .group _ _ => true
  | .both a b | .either a b => hasGroups a || hasGroups b
  | .times a _ _ => hasGroups a
  | _ => false

/-- How many groups the expression has. -/
def groupCount : Regex → Nat
  | .group n a => max n (groupCount a)
  | .both a b | .either a b => max (groupCount a) (groupCount b)
  | .times a _ _ => groupCount a
  | _ => 0

/-! ### Where matches end -/

/-- The condition that an element without width sets on a place. -/
def stands (text : Array Char) (p : Nat) : Regex → Bool
  | .lineStart => p == 0 || text[p - 1]? == some '\n'
  | .lineEnd => p == text.size || text[p]? == some '\n'
  | .textStart => p == 0
  | .textEnd => p == text.size
  | .wordEdge => sides.1 != sides.2
  | .wordInside => sides.1 == sides.2
  | .wordStart => !sides.1 && sides.2
  | .wordEnd => sides.1 && !sides.2
  | .noWordBefore => !sides.1
  | .noWordAfter => !sides.2
  | _ => true
where
  /-- A character of a word stands before the place, and one follows. -/
  sides : Bool × Bool :=
    (0 < p && (text[p - 1]?).any isWordChar, (text[p]?).any isWordChar)

/-- The element matches one character. -/
def fits (c : Char) : Regex → Bool
  | .exactly d => c == d
  | .any => true
  | .oneOf negated rs => Wildcard.inRanges rs c != negated
  | _ => false

/-- Places without those that are there twice. -/
def distinct (size : Nat) (ps : List Nat) : List Nat :=
  match ps with
  | [] | [_] => ps
  | ps =>
    (ps.foldl
      (fun ((seen, kept) : Array Bool × List Nat) p =>
        if seen.getD p true then (seen, kept) else (seen.setIfInBounds p true, p :: kept))
      (Array.replicate (size + 1) false, [])).2.reverse

/-- The places that are reached by any number of steps. -/
def closure (size : Nat) (step : List Nat → List Nat) (fuel : Nat) (seen : Array Bool)
    (found frontier : List Nat) : List Nat :=
  match fuel with
  | 0 => found
  | fuel + 1 =>
    let fresh := (step frontier).filter fun p => !seen.getD p true
    if fresh.isEmpty then found
    else
      let seen := fresh.foldl (fun s p => s.setIfInBounds p true) seen
      closure size step fuel seen (found ++ fresh) fresh

/-- The places that are reached by so many steps. -/
def steps (step : List Nat → List Nat) : Nat → List Nat → List Nat
  | 0, ps => ps
  | n + 1, ps => steps step n (step ps)

/-- The places that are reached by at most so many steps. -/
def stepsUpTo (size : Nat) (step : List Nat → List Nat) : Nat → List Nat → List Nat
  | 0, ps => ps
  | n + 1, ps => distinct size (ps ++ stepsUpTo size step n (step ps))

/-- Where matches end that begin at one of some places. Groups are taken to match anything that they
could. -/
def ends (text : Array Char) : Regex → List Nat → List Nat
  | .nothing, ps => ps
  | .both a b, ps => ends text b (ends text a ps)
  | .either a b, ps => distinct text.size (ends text a ps ++ ends text b ps)
  | .group _ a, ps => ends text a ps
  | .times a least most, ps =>
    let step := fun ps => distinct text.size (ends text a ps)
    let first := steps step least ps
    match most with
    | some n => stepsUpTo text.size step (n - least) first
    | none =>
      let seen :=
        first.foldl (fun s p => s.setIfInBounds p true) (Array.replicate (text.size + 1) false)
      closure text.size step (text.size + 2) seen first first
  | .again _, ps => ps.flatMap fun p => (List.range (text.size + 1 - p)).map (p + ·)
  | r@(.exactly _), ps | r@.any, ps | r@(.oneOf _ _), ps =>
    ps.filterMap fun p =>
      match text[p]? with
      | some c => if fits c r then some (p + 1) else none
      | none => none
  | r, ps => ps.filter fun p => stands text p r

/-! ### What groups match -/

/-- A match: where it begins and ends, and what groups stand for, by their numbers. -/
structure Match where
  start : Nat
  stop : Nat
  groups : List (Nat × Nat × Nat) := []

/-- A place in a text while it is matched, with what groups stand for, latest first. -/
structure Place where
  offset : Nat
  groups : List (Nat × Nat × Nat) := []

/-- Whether the text goes on at a place as it does between two others. -/
def repeats (text : Array Char) (p first last : Nat) : Bool :=
  p + (last - first) ≤ text.size
    && (List.range (last - first)).all fun i => text[p + i]? == text[first + i]?

/-- Matches at a place, as much as the elements allow from left to right, and goes on with what is
to follow. -/
def run (text : Array Char) (fuel : Nat) (r : Regex) (p : Place) (next : Place → Option Place) :
    Option Place :=
  match fuel with
  | 0 => none
  | fuel + 1 =>
    match r with
    | .nothing => next p
    | .both a b => run text fuel a p fun q => run text fuel b q next
    | .either a b => (run text fuel a p next).or (run text fuel b p next)
    | .times a (least + 1) most =>
      run text fuel a p fun q => run text fuel (.times a least (most.map (· - 1))) q next
    | .times _ 0 (some 0) => next p
    | .times a 0 most =>
      let more := run text fuel a p fun q =>
        if q.offset == p.offset then none
        else run text fuel (.times a 0 (most.map (· - 1))) q next
      more.or (next p)
    | .group n a =>
      run text fuel a p fun q => next { q with groups := (n, p.offset, q.offset) :: q.groups }
    | .again n =>
      match p.groups.lookup n with
      | some (first, last) =>
        if repeats text p.offset first last then next { p with offset := p.offset + (last - first) }
        else none
      | none => none
    | .exactly _ | .any | .oneOf _ _ =>
      match text[p.offset]? with
      | some c => if fits c r then next { p with offset := p.offset + 1 } else none
      | none => none
    | r => if stands text p.offset r then next p else none

/-- How many elements an expression has. -/
def size : Regex → Nat
  | .both a b | .either a b => a.size + b.size + 1
  | .times a least most => (a.size + 1) * (least + most.getD 1 + 1) + 1
  | .group _ a => a.size + 1
  | _ => 1

/-- The longest match that begins at a place. -/
def matchAt? (r : Regex) (text : Array Char) (start : Nat) : Option Match :=
  let fuel := (r.size + 2) * (text.size + 2) + 2
  let upTo (stop : Nat) : Option Place :=
    run text fuel r { offset := start } fun q => if q.offset == stop then some q else none
  let stops := ends text r [start]
  if r.refersBack then
    (stops.mergeSort (· ≥ ·)).findSome? fun stop =>
      (upTo stop).map fun q => ⟨start, stop, q.groups⟩
  else
    match stops with
    | [] => none
    | first :: rest =>
      let stop := rest.foldl max first
      if r.hasGroups then some ⟨start, stop, ((upTo stop).map Place.groups).getD []⟩
      else some ⟨start, stop, []⟩

/-- The leftmost match that begins at a place or after it. -/
def searchFrom? (r : Regex) (text : Array Char) (fuel start : Nat) : Option Match :=
  match fuel with
  | 0 => none
  | fuel + 1 =>
    if text.size < start then none
    else
      match r.matchAt? text start with
      | some m => some m
      | none => searchFrom? r text fuel (start + 1)

/-- The leftmost longest match in a text. -/
def search? (r : Regex) (text : Octets) : Option Match :=
  let text := text.toArray
  searchFrom? r text (text.size + 1) 0

/-- The text has a match. -/
def occursIn (r : Regex) (text : Octets) : Bool :=
  if r.refersBack then (r.search? text).isSome
  else
    let text := text.toArray
    !(ends text r (List.range (text.size + 1))).isEmpty

/-- The matches from a place on. An empty match directly after another does not count. -/
def allFrom (r : Regex) (text : Array Char) (fuel : Nat) (afterMatch : Bool) (start : Nat) :
    List Match :=
  match fuel with
  | 0 => []
  | fuel + 1 =>
    match searchFrom? r text (text.size + 1) start with
    | none => []
    | some m =>
      if m.stop == m.start then
        let here := if afterMatch && m.start == start then [] else [m]
        here ++ allFrom r text fuel false (m.start + 1)
      else m :: allFrom r text fuel true m.stop

/-- All matches of a text, one after another. -/
def all (r : Regex) (text : Octets) : List Match :=
  let text := text.toArray
  allFrom r text (text.size + 2) false 0

/-- A part of a text. -/
def slice (text : Octets) (start stop : Nat) : Octets := (text.drop start).take (stop - start)

namespace Match

/-- What the match takes of a text. -/
def taken (m : Match) (text : Octets) : Octets := slice text m.start m.stop

/-- What a group takes of a text; group zero is the whole match. -/
def group (m : Match) (text : Octets) (n : Nat) : Octets :=
  if n == 0 then m.taken text
  else
    match m.groups.lookup n with
    | some (start, stop) => slice text start stop
    | none => []

end Match

/-- A text with some of its matches replaced, and how many those are. Matches are numbered from
one. -/
def replaced (r : Regex) (chosen : Nat → Bool) (replacement : Match → Octets) (text : Octets) :
    Octets × Nat :=
  let found := ((r.all text).zipIdx 1).filter fun (_, i) => chosen i
  let (pieces, last) := found.foldl
    (fun ((pieces, last) : List Octets × Nat) (m, _) =>
      (replacement m :: slice text last m.start :: pieces, m.stop))
    ([], 0)
  ((text.drop last :: pieces).reverse.flatten, found.length)

end Regex

end Codemod.Shell
