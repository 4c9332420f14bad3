import Codemod.Shell.Command

/-!
# Wildcards

A pattern matches whole texts: a star any text, a question mark any octet, brackets an octet of a
set. Characters that were quoted stand for themselves.

- `Wildcard` — an element of a pattern
- `Wildcard.read` — the pattern of a text whose active characters are marked
- `Wildcard.accepts` — whether a pattern matches a text
- `Wildcard.trimFront`, `Wildcard.trimEnd` — a text without a match at one of its ends
-/

namespace Codemod.Shell

/-- An element of a pattern. -/
inductive Wildcard where
  | any
  | many
  | exactly (c : Char)
  | oneOf (negated : Bool) (ranges : List (Char × Char))
deriving DecidableEq

namespace Wildcard

/-- A character of a text, and whether it may have a meaning in a pattern. -/
abbrev Marked := Char × Bool

/-- The octets of a named class, as ranges. -/
def namedClass (name : String) : List (Char × Char) :=
  match name with
  | "digit" => [('0', '9')]
  | "lower" => [('a', 'z')]
  | "upper" => [('A', 'Z')]
  | "alpha" => [('a', 'z'), ('A', 'Z')]
  | "alnum" => [('a', 'z'), ('A', 'Z'), ('0', '9')]
  | "space" => [(' ', ' '), ('\t', '\r')]
  | "blank" => [(' ', ' '), ('\t', '\t')]
  | "punct" => [('!', '/'), (':', '@'), ('[', '\x60'), ('\x7b', '~')]
  | "xdigit" => [('0', '9'), ('a', 'f'), ('A', 'F')]
  | "print" => [(' ', '~')]
  | "graph" => [('!', '~')]
  | "cntrl" => [('\x00', '\x1f'), ('\x7f', '\x7f')]
  | _ => []

/-- The name of a class after its opening, and what follows its closing. -/
def className? : Octets → Option (String × Octets)
  | cs =>
    match cs.span Char.isAlpha with
    | (name, ':' :: ']' :: rest) => some (String.ofList name, rest)
    | _ => none

/-- The ranges of a bracket expression up to its closing bracket, which may stand first as a
member. -/
def ranges? (fuel : Nat) (first : Bool) (cs : Octets) : Option (List (Char × Char) × Octets) :=
  match fuel with
  | 0 => none
  | fuel + 1 =>
    match cs with
    | [] => none
    | ']' :: rest =>
      if first then (ranges? fuel false rest).map fun (rs, rest) => ((']', ']') :: rs, rest)
      else some ([], rest)
    | '[' :: ':' :: rest =>
      match className? rest with
      | some (name, rest) =>
        (ranges? fuel false rest).map fun (rs, rest) => (namedClass name ++ rs, rest)
      | none => (ranges? fuel false (':' :: rest)).map fun (rs, rest) => (('[', '[') :: rs, rest)
    | a :: '-' :: b :: rest =>
      if b == ']' then
        (ranges? fuel false ('-' :: b :: rest)).map fun (rs, rest) => ((a, a) :: rs, rest)
      else (ranges? fuel false rest).map fun (rs, rest) => ((a, b) :: rs, rest)
    | a :: rest => (ranges? fuel false rest).map fun (rs, rest) => ((a, a) :: rs, rest)

/-- The octet is in one of the ranges. -/
def inRanges (ranges : List (Char × Char)) (c : Char) : Bool :=
  ranges.any fun (a, b) => a ≤ c && c ≤ b

/-- The pattern of a marked text. A bracket without an end stands for itself. -/
def read (fuel : Nat) (cs : List Marked) : List Wildcard :=
  match fuel with
  | 0 => []
  | fuel + 1 =>
    match cs with
    | [] => []
    | ('*', true) :: rest => many :: read fuel rest
    | ('?', true) :: rest => any :: read fuel rest
    | ('[', true) :: rest =>
      let (negated, inner) :=
        match rest with
        | (c, _) :: inner => if c == '!' || c == '^' then (true, inner) else (false, rest)
        | [] => (false, rest)
      match ranges? (inner.length + 1) true (inner.map Prod.fst) with
      | some (ranges, after) =>
        oneOf negated ranges :: read fuel (inner.drop (inner.length - after.length))
      | none => exactly '[' :: read fuel rest
    | ('\\', true) :: (c, _) :: rest => exactly c :: read fuel rest
    | (c, _) :: rest => exactly c :: read fuel rest

/-- The pattern of a marked text. -/
def ofMarked (cs : List Marked) : List Wildcard := read (cs.length + 1) cs

/-- The pattern matches the whole text. -/
def accepts : List Wildcard → Octets → Bool
  | [], cs => cs.isEmpty
  | many :: ps, [] => accepts ps []
  | many :: ps, c :: cs => accepts ps (c :: cs) || accepts (many :: ps) cs
  | _ :: _, [] => false
  | any :: ps, _ :: cs => accepts ps cs
  | exactly d :: ps, c :: cs => c == d && accepts ps cs
  | oneOf negated ranges :: ps, c :: cs => (inRanges ranges c != negated) && accepts ps cs
termination_by ps cs => (ps.length, cs.length)

/-- The text without the shortest or longest match at its front. -/
def trimFront (longest : Bool) (ps : List Wildcard) (cs : Octets) : Octets :=
  let lengths := List.range (cs.length + 1)
  let lengths := if longest then lengths.reverse else lengths
  match lengths.find? fun n => accepts ps (cs.take n) with
  | some n => cs.drop n
  | none => cs

/-- The text without the shortest or longest match at its end. -/
def trimEnd (longest : Bool) (ps : List Wildcard) (cs : Octets) : Octets :=
  let lengths := List.range (cs.length + 1)
  let lengths := if longest then lengths else lengths.reverse
  match lengths.find? fun n => accepts ps (cs.drop n) with
  | some n => cs.take n
  | none => cs

/-- The length of the longest match at the front of a text. -/
def longestAt (ps : List Wildcard) (cs : Octets) : Option Nat :=
  (List.range (cs.length + 1)).reverse.find? fun n => accepts ps (cs.take n)

/-- The text with the first match that is not empty, or every one, replaced. -/
def replaceFrom (every : Bool) (ps : List Wildcard) (make : Octets → Octets) (fuel : Nat)
    (cs : Octets) : Octets :=
  match fuel, cs with
  | 0, cs => cs
  | _, [] => []
  | fuel + 1, c :: rest =>
    match (longestAt ps (c :: rest)).filter (0 < ·) with
    | some n =>
      let after := (c :: rest).drop n
      make ((c :: rest).take n) ++ (if every then replaceFrom every ps make fuel after else after)
    | none => c :: replaceFrom every ps make fuel rest

/-- The text with matches replaced. -/
def replace (scope : Scope) (ps : List Wildcard) (make : Octets → Octets) (cs : Octets) : Octets :=
  match scope with
  | .front =>
    match longestAt ps cs with
    | some n => make (cs.take n) ++ cs.drop n
    | none => cs
  | .ending =>
    match (List.range (cs.length + 1)).find? fun n => accepts ps (cs.drop n) with
    | some n => cs.take n ++ make (cs.drop n)
    | none => cs
  | scope =>
    if ps.isEmpty then cs
    else if cs.isEmpty && accepts ps [] then make []
    else replaceFrom (scope == .every) ps make (cs.length + 1) cs

/-- The text with letters that match a pattern in one case: the first, or all. -/
def cased (change : Case) (all : Bool) (ps : List Wildcard) (cs : Octets) : Octets :=
  let one (c : Char) : Char :=
    if !ps.isEmpty && !accepts ps [c] then c
    else
      match change with
      | .upper => c.toUpper
      | .lower => c.toLower
      | .other => if c.isUpper then c.toLower else c.toUpper
  if all then cs.map one
  else
    match cs with
    | c :: rest => one c :: rest
    | [] => []

/-- The text holds a character that means something in a pattern. -/
def isActive (cs : List Marked) : Bool :=
  cs.any fun (c, active) => active && (c == '*' || c == '?' || c == '[')

end Wildcard

end Codemod.Shell
