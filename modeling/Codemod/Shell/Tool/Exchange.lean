import Codemod.Shell.Wildcard
import Codemod.Shell.Tool.Lines

/-!
# Exchanging octets

Sets of octets are written with ranges, classes, repetitions and escapes. The first set is exchanged
for the second one place by place, or taken out, and what repeats is perhaps written once.

- `OctetSet.read` — the parts of a set
- `Tool.exchange` — the tool
-/

namespace Codemod.Shell

/-- A part of a set of octets. -/
inductive OctetSet where
  | octets (cs : Octets)
  | range (first last : Char)
  /-- A named class. -/
  | named (name : String)
  /-- An octet as often as the set needs it to be as long as the other one. -/
  | filling (c : Char)

namespace OctetSet

/-- What is wrong with a set. -/
inductive Fault where
  | reversed (first last : Char)
  | unknown (name : Octets)
  | missingName

/-- What is said about it. -/
def Fault.message : Fault → String
  | reversed a b =>
    let range := Octets.toText [a, '-', b]
    s!"range-endpoints of '{range}' are in reverse collating sequence order"
  | unknown name => s!"invalid character class '{name.toText}'"
  | missingName => "missing character class name '[::]'"

/-- The octets of a text with escapes, each with whether it may have a meaning. -/
def unescaped (fuel : Nat) (cs : Octets) : List (Char × Bool) :=
  match fuel, cs with
  | 0, _ | _, [] => []
  | fuel + 1, '\\' :: c :: rest =>
    if '0' ≤ c && c ≤ '7' then
      let ds := (c :: rest).take 3 |>.takeWhile fun d => '0' ≤ d && d ≤ '7'
      let value (ds : Octets) : Nat := ds.foldl (fun n d => n * 8 + (d.toNat - 48)) 0
      let ds := if value ds < 256 then ds else ds.take 2
      (Char.ofNat (value ds), false) :: unescaped fuel ((c :: rest).drop ds.length)
    else
      let meant := match c with
        | 'a' => '\x07'
        | 'b' => '\x08'
        | 'f' => '\x0c'
        | 'n' => '\n'
        | 'r' => '\r'
        | 't' => '\t'
        | 'v' => '\x0b'
        | c => c
      (meant, false) :: unescaped fuel rest
  | fuel + 1, c :: rest => (c, true) :: unescaped fuel rest

/-- The octets between two marks, and what follows the second mark and a bracket. -/
def enclosed? (sign : Char) (cs : List (Char × Bool)) : Option (Octets × List (Char × Bool)) :=
  match (List.range cs.length).find? fun i => cs[i]? == some (sign, true)
    && cs[i + 1]? == some (']', true) with
  | some i => some ((cs.take i).map Prod.fst, cs.drop (i + 2))
  | none => none

/-- How often an octet is repeated, after the sign for that; zero stands for as often as needed. -/
def repetition? (cs : List (Char × Bool)) : Option (Nat × List (Char × Bool)) :=
  match cs.span fun c => c.1.isDigit with
  | (ds, (']', true) :: rest) =>
    let ds := ds.map Prod.fst
    let base := if ds.head? == some '0' then 8 else 10
    some (ds.foldl (fun n d => n * base + (d.toNat - 48)) 0, rest)
  | _ => none

/-- An octet or a range, and what follows it. -/
def plainPart (c : Char) (rest : List (Char × Bool)) :
    Except Fault (OctetSet × List (Char × Bool)) :=
  match rest with
  | ('-', true) :: last :: more =>
    if last.1 < c then .error (.reversed c last.1) else .ok (.range c last.1, more)
  | rest => .ok (.octets [c], rest)

/-- The first part of a set, and what follows it. -/
def part (c : Char × Bool) (rest : List (Char × Bool)) :
    Except Fault (OctetSet × List (Char × Bool)) :=
  match c, rest with
  | ('[', true), (':', true) :: more =>
    match enclosed? ':' more with
    | some ([], _) => .error .missingName
    | some (name, more) =>
      if (Wildcard.namedClass (String.ofList name)).isEmpty then .error (.unknown name)
      else .ok (.named (String.ofList name), more)
    | none => plainPart '[' rest
  | ('[', true), repeated :: ('*', true) :: more =>
    match repetition? more with
    | some (0, more) => .ok (.filling repeated.1, more)
    | some (n, more) => .ok (.octets (List.replicate n repeated.1), more)
    | none => plainPart '[' rest
  | ('[', true), ('=', true) :: more =>
    match enclosed? '=' more with
    | some ([c], more) => .ok (.octets [c], more)
    | _ => plainPart '[' rest
  | c, rest => plainPart c.1 rest

/-- The parts of a set. -/
def read (fuel : Nat) (cs : List (Char × Bool)) : Except Fault (List OctetSet) := do
  match fuel, cs with
  | 0, _ | _, [] => return []
  | fuel + 1, c :: rest =>
    let (first, rest) ← part c rest
    return first :: (← read fuel rest)

/-- All octets from one to another. -/
def between (first last : Char) : Octets :=
  (List.range (last.toNat + 1 - first.toNat)).map fun i => Char.ofNat (first.toNat + i)

/-- The octets of a part, which is repeated so often if it fills. -/
def members (fill : Nat) : OctetSet → Octets
  | octets cs => cs
  | range a b => between a b
  | named name =>
    let ranges := Wildcard.namedClass name
    (between '\x00' '\xff').filter fun c => ranges.any fun (a, b) => a ≤ c && c ≤ b
  | filling c => List.replicate fill c

/-- The octets of a set that should have so many. -/
def expanded (size : Nat) (parts : List OctetSet) : Octets :=
  let fixed := (parts.map fun p => (p.members 0).length).foldl (· + ·) 0
  parts.flatMap (members (size - fixed))

end OctetSet

namespace Tool

/-- A text in which octets of a set that repeat are written once. -/
def squeezed (isMember : Char → Bool) (previous : Option Char) : Octets → Octets
  | [] => []
  | c :: rest =>
    if previous == some c && isMember c then squeezed isMember previous rest
    else c :: squeezed isMember (some c) rest

/-- A table of truth values by octet. -/
def memberTable (cs : Octets) : Array Bool :=
  cs.foldl (fun table c => table.set! c.toNat true) (Array.replicate 256 false)

/-- Exchanges, takes out or squeezes octets. -/
def exchange (arguments : List Octets) : Tool Nat := do
  match Options.read (Options.known
      "c,C,complement d,delete s,squeeze-repeats t,truncate-set1 help version") arguments false with
  | .error refusal => refuse 1 refusal.message
  | .ok o =>
    let (deletes, squeezes) := (o.has "d", o.has "s")
    let missing (operand : Octets) (why : String) : Tool Nat :=
      refuse 1 s!"missing operand after {quoted operand}\n{why}"
    match o.operands with
    | [] => missingOperand 1
    | [only] =>
      if deletes == squeezes then
        missing only (if deletes then "Two strings must be given when both deleting and squeezing repeats."
          else "Two strings must be given when translating.")
      else work o deletes only none
    | [first, second] =>
      if deletes && !squeezes then
        refuse 1 (s!"extra operand {quoted second}\n"
          ++ "Only one string may be given when deleting without squeezing repeats.")
      else work o deletes first (some second)
    | _ :: _ :: third :: _ => extraOperand 1 third
where
  /-- The parts of a set; what is wrong with it is complained about. -/
  parts (text : Octets) : Tool (Option (List OctetSet)) := do
    let trailing := (text.reverse.takeWhile (· == '\\')).length
    if trailing % 2 == 1 then
      blame "warning: an unescaped backslash at end of string is not portable"
    let cs := OctetSet.unescaped (text.length + 1) text
    match OctetSet.read (cs.length + 1) cs with
    | .ok parts => return some parts
    | .error fault =>
      blame fault.message
      return none
  /-- Does the work with one set or two. -/
  work (o : Options) (deletes : Bool) (first : Octets) (second : Option Octets) : Tool Nat := do
    let some firstParts ← parts first | return 1
    let fills : OctetSet → Bool
      | .filling _ => true
      | _ => false
    if firstParts.any fills then
      blame "the [c*] repeat construct may not appear in string1"
      return 1
    let set := OctetSet.expanded 0 firstParts
    let all := OctetSet.between '\x00' '\xff'
    let table := memberTable set
    let set := if o.has "c" then all.filter fun c => !table[c.toNat]! else set
    let table := if o.has "c" then table.map not else table
    let isMember (c : Char) : Bool := table[c.toNat]?.getD false
    match second with
    | none =>
      let text ← readAll
      say (if deletes then text.filter (!isMember ·) else squeezed isMember none text)
      return 0
    | some second =>
      let some secondParts ← parts second | return 1
      let other := OctetSet.expanded set.length secondParts
      let otherTable := memberTable other
      let isOther (c : Char) : Bool := otherTable[c.toNat]?.getD false
      if deletes then
        say (squeezed isOther none ((← readAll).filter (!isMember ·)))
        return 0
      let misplaced : OctetSet → Bool
        | .named name => name != "upper" && name != "lower"
        | _ => false
      if secondParts.any misplaced then
        blame ("when translating, the only character classes that may appear in\n"
          ++ "string2 are 'upper' and 'lower'")
        return 1
      if other.isEmpty && !o.has "t" && !set.isEmpty then
        blame "when not truncating set1, string2 must be non-empty"
        return 1
      let set := if o.has "t" then set.take other.length else set
      let last := other.getLast?
      let exchanged := set.zipIdx.foldl (fun (table : Array Char) (c, i) =>
          table.set! c.toNat ((other[i]?.or last).getD c)) (all.toArray)
      let text := (← readAll).map fun c => exchanged[c.toNat]?.getD c
      say (if o.has "s" then squeezed isOther none text else text)
      return 0

end Tool

end Codemod.Shell
