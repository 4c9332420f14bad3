import Codemod.Shell.Changes
import Codemod.Shell.Octets
import Codemod.Shell.Tool.Format

/-!
# How changes are written

- `Layout` — the ways to write changes
- `Written` — two texts in lines with the changes between them
- `Written.normal`, `Written.unified`, `Written.context`, `Written.script`, `Written.columns` — the
  ways
-/

namespace Codemod.Shell.Difference

/-- The ways to write changes. -/
inductive Layout where
  | normal
  | unified (around : Nat)
  | context (around : Nat)
  /-- Commands for a line editor. -/
  | script
  /-- Counts of lines to take out and to put in. -/
  | counts
  | columns (width : Nat)
  /-- By patterns. -/
  | patterned

/-- Two texts in lines with the changes between them. -/
structure Written where
  /-- Lines with their line feeds. -/
  first : Array Octets
  second : Array Octets
  hunks : List Hunk
  coloured : Bool := false
  /-- The last line up to a change that is shown with it. -/
  heading : Option (Octets → Bool) := none

namespace Written

/-- The lines from one on. -/
def lines (row : Array Octets) (start count : Nat) : List Octets :=
  (row.extract start (start + count)).toList

/-- A text in a colour, up to the end of its line. -/
def painted (w : Written) (code : String) (line : Octets) : Octets :=
  if w.coloured then
    let (bare, ending) := line.span (· != '\n')
    "\x1b[".toList ++ code.toList ++ ['m'] ++ bare ++ "\x1b[0m".toList ++ ending
  else line

/-- A line after a mark; a line that is not complete is followed by a remark. -/
def marked (w : Written) (code mark : String) (line : Octets) : Octets :=
  let whole := mark.toList ++ line
  let whole := if code.isEmpty then whole else w.painted code whole
  if line.getLast? == some '\n' then whole
  else whole ++ "\n\\ No newline at end of file\n".toList

/-- A range of lines by the numbers of its first and last one. -/
def range (start count : Nat) : String :=
  if count ≤ 1 then toString (start + count) else s!"{start + 1},{start + count}"

/-- The letter of a change. -/
def letter (h : Hunk) : String := if h.removed == 0 then "a" else if h.added == 0 then "d" else "c"

/-- Changes with the numbers of their lines. -/
def normal (w : Written) : Octets :=
  w.hunks.flatMap fun h =>
    let front := s!"{range h.first h.removed}{letter h}{range h.second h.added}\n"
    w.painted "36" front.toList
      ++ (lines w.first h.first h.removed).flatMap (w.marked "31" "< ")
      ++ (if h.removed > 0 && h.added > 0 then "---\n".toList else [])
      ++ (lines w.second h.second h.added).flatMap (w.marked "32" "> ")

/-- Changes with so many lines around them that touch one another, together. -/
def groups (around : Nat) : List Hunk → List (List Hunk)
  | [] => []
  | h :: rest =>
    match groups around rest with
    | [] => [[h]]
    | (next :: more) :: others =>
      if next.first - (h.first + h.removed) ≤ 2 * around then (h :: next :: more) :: others
      else [h] :: (next :: more) :: others
    | [] :: others => [h] :: others

/-- The part of both texts that a group of changes shows: starts and ends. -/
def extent (w : Written) (around : Nat) (group : List Hunk) : (Nat × Nat) × Nat × Nat :=
  let first := group.headD ⟨0, 0, 0, 0⟩
  let last := group.getLastD first
  let before := min around first.first
  let after := min around (w.first.size - (last.first + last.removed))
  ((first.first - before, last.first + last.removed + after),
    (first.second - before, last.second + last.added + after))

/-- The heading of a part. -/
def headingBefore (w : Written) (start : Nat) : Octets :=
  match w.heading with
  | none => []
  | some isHeading =>
    match ((lines w.first 0 start).reverse.find? isHeading) with
    | some line => ' ' :: (line.filter (· != '\n')).take 40
    | none => []

/-- A range of lines by its first number and its length. -/
def shortRange (start stop : Nat) : String :=
  let count := stop - start
  if count == 1 then toString (start + 1)
  else if count == 0 then s!"{start},0"
  else s!"{start + 1},{count}"

/-- The lines of a group from a place in the first text on, with marks for what is taken out and put
in. -/
def merged (w : Written) (i stop : Nat) : List Hunk → Octets
  | [] => (lines w.first i (stop - i)).flatMap (w.marked "" " ")
  | h :: rest =>
    (lines w.first i (h.first - i)).flatMap (w.marked "" " ")
      ++ (lines w.first h.first h.removed).flatMap (w.marked "31" "-")
      ++ (lines w.second h.second h.added).flatMap (w.marked "32" "+")
      ++ w.merged (h.first + h.removed) stop rest

/-- Changes with lines around them, old and new lines together. -/
def unified (w : Written) (around : Nat) : Octets :=
  (groups around w.hunks).flatMap fun group =>
    let (a, b) := w.extent around group
    let front := s!"@@ -{shortRange a.1 a.2} +{shortRange b.1 b.2} @@"
    w.painted "36" (front.toList ++ w.headingBefore a.1) ++ ['\n'] ++ w.merged a.1 a.2 group

/-- The lines of one of the texts in a group. -/
def oneSide (w : Written) (row : Array Octets) (mark code : String) (part : Hunk → Nat × Nat)
    (i stop : Nat) : List Hunk → Octets
  | [] => (lines row i (stop - i)).flatMap (w.marked "" "  ")
  | h :: rest =>
    let (start, count) := part h
    let changed := h.removed > 0 && h.added > 0
    (lines row i (start - i)).flatMap (w.marked "" "  ")
      ++ (lines row start count).flatMap
        (w.marked code (if changed then "! " else mark))
      ++ w.oneSide row mark code part (start + count) stop rest

/-- Changes with lines around them, old and new lines apart. -/
def context (w : Written) (around : Nat) : Octets :=
  (groups around w.hunks).flatMap fun group =>
    let (a, b) := w.extent around group
    let range (p : Nat × Nat) : String :=
      if p.2 - p.1 ≤ 1 then toString p.2 else s!"{p.1 + 1},{p.2}"
    let removes := group.any fun h => h.removed > 0
    let adds := group.any fun h => h.added > 0
    "***************".toList ++ w.headingBefore a.1 ++ ['\n']
      ++ w.painted "36" s!"*** {range a} ****\n".toList
      ++ (if removes then
          w.oneSide w.first "- " "31" (fun h => (h.first, h.removed)) a.1 a.2 group
        else [])
      ++ w.painted "36" s!"--- {range b} ----\n".toList
      ++ (if adds then
          w.oneSide w.second "+ " "32" (fun h => (h.second, h.added)) b.1 b.2 group
        else [])

/-- A complete line. -/
def complete (line : Octets) : Octets := if line.getLast? == some '\n' then line else line ++ ['\n']

/-- Commands for a line editor that make the changes, last one first. -/
def script (w : Written) : Octets :=
  w.hunks.reverse.flatMap fun h =>
    let added := lines w.second h.second h.added
    (s!"{range h.first h.removed}{letter h}\n").toList
      ++ (if h.added > 0 then added.flatMap complete ++ ".\n".toList else [])

/-- Counts of lines to take out and to put in, with these lines. -/
def counts (w : Written) : Octets :=
  w.hunks.flatMap fun h =>
    (if h.removed > 0 then s!"d{h.first + 1} {h.removed}\n".toList else [])
      ++ (if h.added > 0 then
          s!"a{h.first + h.removed} {h.added}\n".toList ++ (lines w.second h.second h.added).flatten
        else [])

/-! ### Columns -/

/-- Tabs and blanks that lead from a column to another one. -/
def gap (fuel column target : Nat) : Octets :=
  match fuel with
  | 0 => []
  | fuel + 1 =>
    let next := column + 8 - column % 8
    if next ≤ target then '\t' :: gap fuel next target
    else List.replicate (target - column) ' '

/-- As much of a line as fits into so many columns, and how many it takes. -/
def cutTo (width : Nat) (line : Octets) : Octets × Nat :=
  line.foldl (fun (out, column) c =>
    let next := if c == '\t' then column + 8 - column % 8 else column + 1
    if next ≤ width && c != '\n' then (out ++ [c], next) else (out, column)) ([], 0)

/-- A row of two columns with a sign between them. -/
def row (width : Nat) (left right : Option Octets) (sign : Char) : Octets :=
  let unaligned := width / 2 + 5 + width % 2
  let offset := unaligned - unaligned % 8
  let half := min (offset - 3) (width - offset)
  let (text, column) := cutTo half (left.getD [])
  let differs :=
    (left.any fun l => l.getLast? == some '\n') != (right.any fun l => l.getLast? == some '\n')
  let sign := if sign == '|' && differs then
      (if left.any fun l => l.getLast? == some '\n' then '/' else '\\') else sign
  let middle := (half + offset - 1) / 2
  let (signs, column) :=
    if sign == ' ' then ([], column) else (gap (width + 1) column middle ++ [sign], middle + 1)
  let shown := match right with
    | some line =>
      if line.head? == some '\n' then [] else gap (width + 1) column offset ++ (cutTo half line).1
    | none => []
  let ended := (left.toList ++ right.toList).any fun l => l.getLast? == some '\n'
  text ++ signs ++ shown ++ (if ended then ['\n'] else [])

/-- Rows of lines that are the same. -/
def sameRows (width : Nat) (leftOnly suppressed : Bool) (w : Written) (i j count : Nat) : Octets :=
  if suppressed then []
  else
    ((lines w.first i count).zip (lines w.second j count)).flatMap fun (a, b) =>
      if leftOnly then row width (some a) none '(' else row width (some a) (some b) ' '

/-- The rows of changes and of what is between them, after a place in both texts. -/
def rows (width : Nat) (leftOnly suppressed : Bool) (w : Written) (i j : Nat) : List Hunk → Octets
  | [] => sameRows width leftOnly suppressed w i j (w.first.size - i)
  | h :: rest =>
    let both := min h.removed h.added
    sameRows width leftOnly suppressed w i j (h.first - i)
      ++ ((lines w.first h.first both).zip (lines w.second h.second both)).flatMap
        (fun (a, b) => row width (some a) (some b) '|')
      ++ (lines w.first (h.first + both) (h.removed - both)).flatMap (fun a =>
        row width (some a) none '<')
      ++ (lines w.second (h.second + both) (h.added - both)).flatMap (fun b =>
        row width none (some b) '>')
      ++ rows width leftOnly suppressed w (h.first + h.removed) (h.second + h.added) rest

end Written

end Codemod.Shell.Difference

/-!
## Changes written by patterns

Groups of lines are written by patterns, one for each kind of group, and the lines in them by
patterns of their own.

- `Patterns` — the patterns
- `Patterns.branching` — groups as the branches of a macro processor's conditions
- `Written.patterned` — two texts by patterns
-/

namespace Codemod.Shell.Difference

/-- The patterns for lines and for groups of lines. -/
structure Patterns where
  oldLine : Octets := "%l\n".toList
  newLine : Octets := "%l\n".toList
  sameLine : Octets := "%l\n".toList
  oldGroup : Octets := "%<".toList
  newGroup : Octets := "%>".toList
  sameGroup : Octets := "%=".toList
  changedGroup : Octets := "%<%>".toList

/-- Groups as the branches of conditions on a name. -/
def Patterns.branching (name : Octets) : Patterns :=
  let text (s : String) : Octets := s.toList
  { oldGroup := text "#ifndef " ++ name ++ text "\n%<#endif /* ! " ++ name ++ text " */\n"
    newGroup := text "#ifdef " ++ name ++ text "\n%>#endif /* " ++ name ++ text " */\n"
    changedGroup := text "#ifndef " ++ name ++ text "\n%<#else /* " ++ name ++ text " */\n%>#endif /* "
      ++ name ++ text " */\n" }

/-- A run of lines: how many are before it, and how many there are. -/
structure Span where
  start : Nat
  count : Nat

/-- The number that a letter asks for. -/
def Span.number? (s : Span) (letter : Char) : Option Nat :=
  match letter with
  | 'f' => some (s.start + 1)
  | 'l' => some (s.start + s.count)
  | 'n' => some s.count
  | 'e' => some s.start
  | 'm' => some (s.start + s.count + 1)
  | _ => none

/-- A character in quotes at the front of a pattern, and what follows it. -/
def quotedChar? : Octets → Option (Char × Octets)
  | '\'' :: '\\' :: rest =>
    let (c, rest) := Escape.octal 3 rest
    match rest with
    | '\'' :: rest => some (c, rest)
    | _ => none
  | '\'' :: c :: '\'' :: rest => some (c, rest)
  | _ => none

/-- A number in the writing that stands at the front of a pattern, with the letter of the number,
and what follows. -/
def numberAt? (number : Char → Option Nat) (cs : Octets) : Option (Octets × Octets) := do
  let (c, rest) ← Format.conversion? [] cs
  if !("doxX".toList.contains c.letter) then none
  match rest with
  | letter :: rest => return (c.integer (← number letter), rest)
  | [] => none

/-- A line by its pattern. -/
def lineBy (fuel : Nat) (pattern line : Octets) (place : Nat) : Octets :=
  match fuel, pattern with
  | 0, _ | _, [] => []
  | fuel + 1, '%' :: rest =>
    let number (letter : Char) : Option Nat := if letter == 'n' then some (place + 1) else none
    match rest with
    | '%' :: rest => '%' :: lineBy fuel rest line place
    | 'l' :: rest => line.filter (· != '\n') ++ lineBy fuel rest line place
    | 'L' :: rest => line ++ lineBy fuel rest line place
    | 'c' :: quote =>
      match quotedChar? quote with
      | some (c, rest) => c :: lineBy fuel rest line place
      | none => '%' :: lineBy fuel rest line place
    | rest =>
      match numberAt? number rest with
      | some (text, rest) => text ++ lineBy fuel rest line place
      | none => '%' :: lineBy fuel rest line place
  | fuel + 1, c :: rest => c :: lineBy fuel rest line place

/-- What a group of lines is written from. -/
structure Group where
  old : Span
  new : Span
  /-- The lines of the old text, of the new one, and those that are in both. -/
  oldText : Octets
  newText : Octets
  sameText : Octets

/-- The number that a letter asks for: a small one of the old text, a capital of the new one. -/
def Group.number? (g : Group) (letter : Char) : Option Nat :=
  if letter.isUpper then g.new.number? letter.toLower else g.old.number? letter

/-- The number of one side of a condition, and what follows it. -/
def Group.side? (g : Group) (cs : Octets) : Option (Nat × Octets) :=
  let (digits, rest) := cs.span Char.isDigit
  match Tool.natural? digits, cs with
  | some n, _ => some (n, rest)
  | none, letter :: rest => (g.number? letter).map fun n => (n, rest)
  | none, [] => none

/-- A group by its pattern up to a sign, and what follows the sign. -/
def groupBy (fuel : Nat) (g : Group) (stop : Option Char) (pattern : Octets) : Octets × Octets :=
  match fuel, pattern with
  | 0, _ | _, [] => ([], [])
  | fuel + 1, c :: rest =>
    let go (text rest : Octets) : Octets × Octets :=
      let (after, left) := groupBy fuel g stop rest
      (text ++ after, left)
    if stop == some c then ([], rest)
    else if c != '%' then go [c] rest
    else
      match rest with
      | '%' :: rest => go ['%'] rest
      | '<' :: rest => go g.oldText rest
      | '>' :: rest => go g.newText rest
      | '=' :: rest => go g.sameText rest
      | 'c' :: quote =>
        match quotedChar? quote with
        | some (c, rest) => go [c] rest
        | none => go ['%'] rest
      | '(' :: condition =>
        let sides : Option (Bool × Octets) := do
          let (a, rest) ← g.side? condition
          match rest with
          | '=' :: rest =>
            let (b, rest) ← g.side? rest
            match rest with
            | '?' :: rest => return (a == b, rest)
            | _ => none
          | _ => none
        match sides with
        | some (holds, rest) =>
          let (yes, rest) := groupBy fuel g (some ':') rest
          let (no, rest) := groupBy fuel g (some ')') rest
          go (if holds then yes else no) rest
        | none => go ['%'] rest
      | rest =>
        match numberAt? g.number? rest with
        | some (text, rest) => go text rest
        | none => go ['%'] rest

namespace Written

/-- Lines by their pattern. -/
def linesBy (row : Array Octets) (pattern : Octets) (s : Span) : Octets :=
  ((lines row s.start s.count).zipIdx s.start).flatMap fun (line, i) =>
    lineBy (pattern.length + 1) pattern line i

/-- A group of lines by its pattern. -/
def group (w : Written) (p : Patterns) (pattern : Octets) (old new : Span) : Octets :=
  let g : Group :=
    { old, new
      oldText := linesBy w.first p.oldLine old
      newText := linesBy w.second p.newLine new
      sameText := linesBy w.first p.sameLine old }
  (groupBy (pattern.length + 1) g none pattern).1

/-- The lines that are in both texts, from a place in each to another one. -/
def unchanged (w : Written) (p : Patterns) (i j first second : Nat) : Octets :=
  if first ≤ i && second ≤ j then []
  else w.group p p.sameGroup ⟨i, first - i⟩ ⟨j, second - j⟩

/-- Changes and what is between them by patterns, after a place in both texts. -/
def patternedFrom (w : Written) (p : Patterns) (i j : Nat) : List Hunk → Octets
  | [] => w.unchanged p i j w.first.size w.second.size
  | h :: rest =>
    let pattern := if h.added == 0 then p.oldGroup
      else if h.removed == 0 then p.newGroup else p.changedGroup
    w.unchanged p i j h.first h.second
      ++ w.group p pattern ⟨h.first, h.removed⟩ ⟨h.second, h.added⟩
      ++ w.patternedFrom p (h.first + h.removed) (h.second + h.added) rest

/-- Two texts by patterns. -/
def patterned (w : Written) (p : Patterns) : Octets := w.patternedFrom p 0 0 w.hunks

end Written

end Codemod.Shell.Difference
