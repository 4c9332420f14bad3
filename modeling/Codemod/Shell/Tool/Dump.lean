import Codemod.Shell.Tool.Lines
import Codemod.Shell.Tool.Options

/-!
# Dumps of octets

- `Dump.types` — the ways in which octets are shown
- `Tool.dump` — the tool
-/

namespace Codemod.Shell

/-- How numbers are shown. -/
inductive DumpStyle where
  | named
  | character
  | signed
  | unsigned
  | octal
  | hexadecimal
deriving DecidableEq

/-- A way in which octets are shown. -/
structure DumpType where
  style : DumpStyle
  /-- How many octets make one number. -/
  size : Nat
  /-- The octets that can be printed follow the numbers. -/
  trailer : Bool := false

namespace DumpType

/-- How many columns a number takes. -/
def width (t : DumpType) : Nat :=
  let choose (a b c d : Nat) : Nat := match t.size with
    | 1 => a
    | 2 => b
    | 4 => c
    | _ => d
  match t.style with
  | .named | .character => 3
  | .signed => choose 4 6 11 20
  | .unsigned => choose 3 5 10 20
  | .octal => choose 3 6 11 22
  | .hexadecimal => 2 * t.size

end DumpType

namespace Dump

/-- The names of the octets that cannot be printed. -/
def names : List String :=
  ["nul", "soh", "stx", "etx", "eot", "enq", "ack", "bel", "bs", "ht", "nl", "vt", "ff", "cr", "so",
    "si",
    "dle", "dc1", "dc2", "dc3", "dc4", "nak", "syn", "etb", "can", "em", "sub", "esc", "fs", "gs",
      "rs",
    "us", "sp"]

/-- The text of an octet that is shown as a character. -/
def character (c : Char) : Octets :=
  match c.toNat with
  | 0 => ['\\', '0']
  | 7 => ['\\', 'a']
  | 8 => ['\\', 'b']
  | 9 => ['\\', 't']
  | 10 => ['\\', 'n']
  | 11 => ['\\', 'v']
  | 12 => ['\\', 'f']
  | 13 => ['\\', 'r']
  | n => if 32 ≤ n && n < 127 then [c] else Octets.padLeft 3 (Nat.toDigits 8 n) '0'

/-- The text of the number that some octets make, lowest one first. -/
def shown (t : DumpType) (cs : Octets) : Octets :=
  let n := cs.foldr (fun c n => n * 256 + c.toNat) 0
  match t.style with
  | .named =>
    let low := n % 128
    if low == 127 then "del".toList
    else ((names[low]?).map String.toList).getD [Char.ofNat low]
  | .character => character (Char.ofNat n)
  | .unsigned => Octets.ofNat n
  | .octal => Octets.padLeft t.width (Nat.toDigits 8 n) '0'
  | .hexadecimal => Octets.padLeft t.width (Nat.toDigits 16 n) '0'
  | .signed =>
    let bound := 2 ^ (8 * t.size)
    Octets.ofInt (if bound / 2 ≤ n then (n : Int) - bound else n)

/-- The types of a text such as `x1zc`, or the letter that means none. -/
def types (fuel : Nat) (cs : Octets) : Except Char (List DumpType) := do
  match fuel, cs with
  | 0, _ | _, [] => return []
  | fuel + 1, letter :: rest =>
    let style ← match letter with
      | 'a' => pure DumpStyle.named
      | 'c' => pure .character
      | 'd' => pure .signed
      | 'u' => pure .unsigned
      | 'o' => pure .octal
      | 'x' => pure .hexadecimal
      | c => throw c
    let plain := style == .named || style == .character
    let (ds, after) := rest.span Char.isDigit
    let (size, rest) :=
      if plain then (1, rest)
      else
        match Tool.natural? ds, rest with
        | some n, _ => (n, after)
        | none, 'C' :: after => (1, after)
        | none, 'S' :: after => (2, after)
        | none, 'I' :: after => (4, after)
        | none, 'L' :: after => (8, after)
        | none, rest => (4, rest)
    let (trailer, rest) := match rest with
      | 'z' :: rest => (true, rest)
      | rest => (false, rest)
    return ⟨style, size, trailer⟩ :: (← types fuel rest)

/-- The type of an option that is a letter of its own. -/
def ofLetter (letter : String) : DumpType :=
  match letter with
  | "a" => ⟨.named, 1, false⟩
  | "b" => ⟨.octal, 1, false⟩
  | "c" => ⟨.character, 1, false⟩
  | "d" => ⟨.unsigned, 2, false⟩
  | "i" => ⟨.signed, 4, false⟩
  | "l" => ⟨.signed, 8, false⟩
  | "s" => ⟨.signed, 2, false⟩
  | "x" => ⟨.hexadecimal, 2, false⟩
  | _ => ⟨.octal, 2, false⟩

/-- The numbers of a part of the octets as one row. `columns` is how wide the numbers of a full part
are in the type that takes most. -/
def row (t : DumpType) (perRow columns : Nat) (part : Octets) : Octets :=
  let fields := perRow / t.size
  let used := (part.length + t.size - 1) / t.size
  let padding := columns - fields * t.width
  let field (i : Nat) : Octets :=
    let left := padding * (fields - i) / fields
    let next := padding * (fields - i - 1) / fields
    let cs := (part.drop (i * t.size)).take t.size
    let full := cs ++ List.replicate (t.size - cs.length) '\x00'
    Octets.padLeft (left - next + t.width) (shown t full)
  let missing := (fields - used) * t.width + padding * (fields - used) / fields
  let trailer :=
    if t.trailer then
      List.replicate missing ' ' ++ "  >".toList
        ++ part.map (fun c => if ' ' ≤ c && c ≤ '~' then c else '.') ++ ['<']
    else []
  (List.range used).flatMap field ++ trailer ++ ['\n']

/-- The parts of octets with so many in each. -/
def parts (size fuel : Nat) (cs : Octets) : List Octets :=
  match fuel, cs with
  | 0, _ | _, [] => []
  | fuel + 1, cs => cs.take size :: parts size fuel (cs.drop size)

/-- The rows of parts, each with its address; a part like the one before it is left out, and a star
stands for such parts. -/
def rows (types : List DumpType) (perRow columns : Nat) (address : Nat → Octets) (all : Bool)
    (place : Nat) (previous : Option Octets) (starred : Bool) : List Octets → Octets
  | [] => []
  | part :: rest =>
    if !all && previous == some part && part.length == perRow then
      (if starred then [] else ['*', '\n'])
        ++ rows types perRow columns address all (place + part.length) previous true rest
    else
      let blank := List.replicate (address 0).length ' '
      (types.zipIdx.flatMap fun (t, i) =>
          (if i == 0 then address place else blank) ++ row t perRow columns part)
        ++ rows types perRow columns address all (place + part.length) (some part) false rest

end Dump

namespace Tool

/-- Shows octets as numbers or characters. -/
def dump : List Octets → Tool Nat :=
  withOptions ("A,address-radix: j,skip-bytes: N,read-bytes: t,format: v,output-duplicates w,width:: "
    ++ "a b c d i l o s x h") 1 fun o => do
  let radix := ((o.value? "A").getD ['o']).headD 'o'
  let address ← match radix with
    | 'o' => pure fun n => Octets.padLeft 7 (Nat.toDigits 8 n) '0'
    | 'd' => pure fun n => Octets.padLeft 7 (Nat.toDigits 10 n) '0'
    | 'x' => pure fun n => Octets.padLeft 6 (Nat.toDigits 16 n) '0'
    | 'n' => pure fun _ => []
    | c =>
      blame (s!"invalid output address radix '{String.singleton c}'; "
        ++ "it must be one character from [doxn]")
      return 1
  let mut types : List DumpType := []
  for (name, value) in o.given do
    if name == "t" then
      match Dump.types (value.length + 1) value with
      | .ok more => types := types ++ more
      | .error c =>
        blame s!"invalid character '{String.singleton c}' in type string {quoted value}"
        return 1
    else if ["a", "b", "c", "d", "i", "l", "o", "s", "x"].contains name then
      types := types ++ [Dump.ofLetter name]
    else if name == "h" then types := types ++ [Dump.ofLetter "x"]
  let chosen := if types.isEmpty then [Dump.ofLetter "o"] else types
  if let some t := chosen.find? fun t => !([1, 2, 4, 8].contains t.size) then
    let text := (o.value? "t").getD []
    blame s!"invalid type string {quoted text};\nthis system doesn't provide a {t.size}-byte integral type"
    return 1
  let mut found : List Octets := []
  let mut status := 0
  for name in o.sources do
    match ← contentOf name with
    | .ok text => found := text :: found
    | .error cause =>
      blameFor name cause
      if cause == .isDirectory then found := [] :: found
      status := 1
  if found.isEmpty then return status
  let text := found.reverse.flatten
  let skipped := ((o.value? "j").bind Size.read?).getD 0
  if text.length < skipped then
    blame "cannot skip past end of combined input"
    return 1
  let text := text.drop skipped
  let text := match (o.value? "N").bind Size.read? with
    | some n => text.take n
    | none => text
  let step := chosen.foldl (fun n t => Nat.lcm n t.size) 1
  let perRow := match o.value? "w" with
    | some [] => 32
    | some ds => (natural? ds).getD 16
    | none => (16 / step) * step
  let perRow := if perRow == 0 || perRow % step != 0 then step else perRow
  let columns := chosen.foldl (fun n t => max n ((perRow / t.size) * (t.width + 1))) 0
  say (Dump.rows chosen perRow columns address (o.has "v") skipped none false
    (Dump.parts perRow (text.length + 1) text))
  if radix != 'n' then say (address (skipped + text.length) ++ ['\n'])
  return status

end Tool

end Codemod.Shell

/-!
## Comparing files octet by octet

- `Tool.compare` — the first octets that differ, or all of them
-/

namespace Codemod.Shell.Tool

/-- The places where two texts differ, with what is there. -/
def differences (n : Nat) : Octets → Octets → List (Nat × Char × Char)
  | a :: as, b :: bs =>
    if a == b then differences (n + 1) as bs else (n + 1, a, b) :: differences (n + 1) as bs
  | _, _ => []

/-- A row about octets that differ. -/
def differenceRow (width : Nat) (shows : Bool) (place : Nat) (a b : Char) : Octets :=
  let code (c : Char) : Octets := Octets.padLeft 3 (Nat.toDigits 8 c.toNat)
  let cell (c : Char) : Octets := code c ++ (if shows then ' ' :: visible c else [])
  let first := cell a
  Octets.padLeft width (Octets.ofNat place)
    ++ ' ' :: (if shows then Octets.padRight 8 first else first) ++ ' ' :: cell b ++ ['\n']

/-- Compares two files octet by octet. -/
def compare (arguments : List Octets) : Tool Nat := do
  let refuse (text : String) : Tool Nat := do
    blame text
    blame (advice "cmp")
    return 2
  let known := "b,print-bytes i,ignore-initial: l,verbose n,bytes: s,quiet,silent help v,version"
  match Options.read (Options.known known) arguments true with
  | .error refusal => refuse refusal.message
  | .ok o =>
    match o.operands with
    | [] => refuse "missing operand after 'cmp'"
    | first :: rest =>
      let second := rest.headD ['-']
      let pair : Octets × Octets :=
        match o.value? "i" with
        | some text =>
          match text.splitOn ':' with
          | [a, b] => (a, b)
          | _ => (text, text)
        | none => (rest.getD 1 ['0'], rest.getD 2 ['0'])
      match Size.read? pair.1, Size.read? pair.2 with
      | none, _ => refuse s!"invalid --ignore-initial value {quoted pair.1}"
      | _, none => refuse s!"invalid --ignore-initial value {quoted pair.2}"
      | some skip1, some skip2 =>
        if o.has "l" && o.has "s" then refuse "options -l and -s are incompatible"
        else
          let limit := (o.value? "n").bind Size.read?
          let read (name : Octets) (skip : Nat) : Tool (Option Octets) := do
            match ← contentOf name with
            | .ok text => return some ((match limit with
              | some n => (text.drop skip).take n
              | none => text.drop skip))
            | .error cause =>
              if !o.has "s" || cause == .isDirectory then blameFor name cause
              return none
          let some a ← read first skip1 | return 2
          let some b ← (if first == second then pure (some a) else read second skip2) | return 2
          report o (first, a) (second, b)
where
  /-- Says how two texts differ. -/
  report (o : Options) (a b : Octets × Octets) : Tool Nat := do
    let all := differences 0 a.2 b.2
    let silent := o.has "s"
    let ended :=
      if a.2.length < b.2.length then some a else if b.2.length < a.2.length then some b else none
    if silent || (all.isEmpty && ended.isNone) then
      return if all.isEmpty && ended.isNone then 0 else 1
    if o.has "l" || all.isEmpty then
      if let some (name, text) := ended then
        let lines := text.count '\n'
        let what :=
          if text.isEmpty then "which is empty"
          else if o.has "l" then s!"after byte {text.length}"
          else if text.getLast? == some '\n' then s!"after byte {text.length}, line {lines}"
          else s!"after byte {text.length}, in line {lines + 1}"
        blame s!"EOF on {name.toText} {what}"
    if o.has "l" then
      let width := (toString (min a.2.length b.2.length)).length
      for (place, x, y) in all do
        say (differenceRow width (o.has "b") place x y)
    else
      match all with
      | [] => pure ()
      | (place, x, y) :: _ =>
        let line := (a.2.take (place - 1)).count '\n' + 1
        let front := s!"{a.1.toText} {b.1.toText} differ: "
        if o.has "b" then
          let cell (c : Char) : String :=
            (Octets.toText (Octets.padLeft 3 (Nat.toDigits 8 c.toNat) ++ ' ' :: visible c))
          sayText s!"{front}byte {place}, line {line} is {cell x} {cell y}\n"
        else sayText s!"{front}char {place}, line {line}\n"
    return 1

end Codemod.Shell.Tool
