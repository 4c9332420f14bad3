import Codemod.Shell.Tool.Format
import Codemod.Shell.Tool.Lines

/-!
# Columns of lines

- `Tool.cut` — chosen columns
- `Tool.paste` — lines side by side
- `Tool.fold` — lines that are not wider than so much
- `Tool.expand`, `Tool.unexpand` — tabs and blanks
-/

namespace Codemod.Shell.Tool

/-! ### Chosen columns -/

/-- What kind of columns is chosen, as messages call it. -/
structure ColumnKind where
  /-- What stands before the text of a bad number. -/
  bad : String
  numbered : String
  range : String
  tooBig : String

/-- Columns between separators. -/
def fieldColumns : ColumnKind :=
  ⟨"invalid field value", "fields are numbered from 1", "invalid field range", "field number"⟩

/-- Columns that are octets. -/
def octetColumns : ColumnKind :=
  ⟨"invalid byte/character position", "byte/character positions are numbered from 1",
    "invalid byte or character range", "byte/character offset"⟩

/-- The range of columns of a part of a list; the end may be open. -/
def columnRange (k : ColumnKind) (text : Octets) : Except String (Nat × Option Nat) := do
  let number (ds : Octets) : Except String Nat :=
    if !ds.all Char.isDigit then .error s!"{k.bad} {quoted ds}"
    else
      match natural? ds with
      | some n =>
        if 2 ^ 64 - 1 ≤ n then .error s!"{k.tooBig} {quoted ds} is too large" else .ok n
      | none => .ok 0
  let positive (n : Nat) : Except String Nat := if n == 0 then .error k.numbered else .ok n
  match text.splitOn '-' with
  | [only] =>
    let n ← positive (← number only)
    return (n, some n)
  | [[], []] => throw "invalid range with no endpoint: -"
  | [a, []] => return (← positive (← number a), none)
  | [[], b] => return (1, some (← positive (← number b)))
  | [a, b] =>
    let first ← positive (← number a)
    let last ← number b
    if last < first then throw "invalid decreasing range"
    return (first, some last)
  | _ => throw k.range

/-- Ranges in their order, those that overlap as one. -/
def mergedRanges : List (Nat × Option Nat) → List (Nat × Option Nat)
  | [] => []
  | r :: rest =>
    match mergedRanges rest with
    | [] => [r]
    | next :: more =>
      match r.2 with
      | none => [(r.1, none)]
      | some last =>
        if next.1 ≤ last then
          (r.1, next.2.map (max last)) :: more
        else r :: next :: more

/-- The ranges of a list of columns. -/
def columnRanges (k : ColumnKind) (text : Octets) : Except String (List (Nat × Option Nat)) := do
  let parts := text.splitOnP fun c => c == ',' || c == ' ' || c == '\t'
  let ranges ← parts.mapM (columnRange k)
  return mergedRanges (ranges.mergeSort fun a b => a.1 ≤ b.1)

/-- A column is in a range. -/
def inRange (n : Nat) (r : Nat × Option Nat) : Bool := r.1 ≤ n && r.2.all (n ≤ ·)

/-- The chosen octets of a line, with a separator between those of different ranges. -/
def chosenOctets (ranges : List (Nat × Option Nat)) (complement : Bool) (separator : Octets)
    (line : Octets) : Octets :=
  if complement then
    (line.zipIdx.filter fun (_, i) => !ranges.any (inRange (i + 1))).map Prod.fst
  else
    let parts := ranges.map fun (first, last) =>
      (line.drop (first - 1)).take (last.getD line.length + 1 - first)
    List.intercalate separator (parts.filter (!·.isEmpty))

/-- Prints chosen columns of lines. -/
def cut : List Octets → Tool Nat :=
  withOptions ("b,bytes: c,characters: f,fields: d,delimiter: n s,only-delimited complement "
    ++ "output-delimiter: z,zero-terminated") 1 fun o => do
  let lists := o.given.filter fun (name, _) => ["b", "c", "f"].contains name
  match lists with
  | [] => refuse 1 "you must specify a list of bytes, characters, or fields"
  | _ :: _ :: _ => refuse 1 "only one list may be specified"
  | [(mode, list)] =>
    let byField := mode == "f"
    let delimiter := o.value? "d"
    if delimiter.any fun d => d.length > 1 then refuse 1 "the delimiter must be a single character"
    else if !byField && delimiter.isSome then
      refuse 1 "an input delimiter may be specified only when operating on fields"
    else if !byField && o.has "s" then
      refuse 1 "suppressing non-delimited lines makes sense\n\tonly when operating on fields"
    else
      match columnRanges (if byField then fieldColumns else octetColumns) list with
      | .error text => refuse 1 text
      | .ok ranges =>
        let separator := (delimiter.map fun d => d.headD '\x00').getD '\t'
        let ending := if o.has "z" then '\x00' else '\n'
        let joined := (o.value? "output-delimiter").getD (if byField then [separator] else [])
        let complement := o.has "complement"
        let row (line : Octets) : Octets :=
          if byField then
            let fields := line.splitOn separator
            if fields.length == 1 then (if o.has "s" then [] else line ++ [ending])
            else
              let kept := (fields.zipIdx.filter fun (_, i) =>
                ranges.any (inRange (i + 1)) != complement).map Prod.fst
              List.intercalate joined kept ++ [ending]
          else chosenOctets ranges complement joined line ++ [ending]
        let (found, status) ← texts o.sources
        for (_, text) in found do
          say ((Octets.pieces ending text).flatMap row)
        return status

/-! ### Side by side -/

/-- The separators of a list, each an octet or nothing. -/
def separatorList : Octets → List Octets
  | [] => []
  | '\\' :: c :: rest =>
    let meant : Octets := match c with
      | '0' => []
      | 'b' => ['\x08']
      | 'f' => ['\x0c']
      | 'n' => ['\n']
      | 'r' => ['\r']
      | 't' => ['\t']
      | 'v' => ['\x0b']
      | c => [c]
    meant :: separatorList rest
  | c :: rest => [c] :: separatorList rest

/-- The lines of several columns side by side, as many as the longest column has. -/
def sideBySide (separators : Array Octets) (ending : Char) (columns : List (List Octets)) :
    Nat → Octets
  | 0 => []
  | rows + 1 =>
    let cells := columns.map fun column => column.headD []
    let row := cells.zipIdx.flatMap fun (cell, i) =>
      (if i == 0 then [] else separators.getD ((i - 1) % separators.size) []) ++ cell
    row ++ ending :: sideBySide separators ending (columns.map (·.drop 1)) rows

/-- The lines that each use of the input gets when there are so many uses: each takes one in
turn. -/
def dealt (uses index : Nat) (lines : List Octets) : List Octets :=
  (lines.zipIdx.filter fun (_, i) => i % uses == index).map Prod.fst

/-- Prints lines of several files side by side, or the lines of each as one. -/
def paste : List Octets → Tool Nat :=
  withOptions "d,delimiters: s,serial z,zero-terminated" 1 fun o => do
  let list := (o.value? "d").getD ['\t']
  if (list.reverse.takeWhile (· == '\\')).length % 2 == 1 then
    blame s!"delimiter list ends with an unescaped backslash: {list.toText}"
    return 1
  let separators := if list.isEmpty then #[[]] else (separatorList list).toArray
  let ending := if o.has "z" then '\x00' else '\n'
  let uses := o.sources.count ['-']
  let mut index := 0
  let mut columns : List (List Octets) := []
  let mut status := 0
  let shared ← if uses > 0 && !o.has "s" then (Octets.pieces ending <$> readAll) else pure []
  for name in o.sources do
    if name == ['-'] && !o.has "s" then
      columns := dealt uses index shared :: columns
      index := index + 1
    else
      match ← contentOf name with
      | .ok text => columns := Octets.pieces ending text :: columns
      | .error cause =>
        blameFor name cause
        if !o.has "s" then return 1
        status := 1
  let inOrder := columns.reverse
  if o.has "s" then
    for column in inOrder do
      let row := column.zipIdx.flatMap fun (cell, i) =>
        (if i == 0 then [] else separators.getD ((i - 1) % separators.size) []) ++ cell
      say (row ++ [ending])
  else
    let rows := inOrder.foldl (fun n column => max n column.length) 0
    say (sideBySide separators ending inOrder rows)
  return status

/-! ### Width -/

/-- The column after an octet. -/
def columnAfter (byOctet : Bool) (column : Nat) (c : Char) : Nat :=
  if byOctet then column + 1
  else
    match c with
    | '\x08' => column - 1
    | '\r' => 0
    | '\t' => column + 8 - column % 8
    | _ => column + 1

/-- A line that is being filled. -/
structure Folding where
  out : List Octets := []
  /-- The current line, last octet first. -/
  line : Octets := []
  column : Nat := 0

/-- One octet more; where the line would be too wide, it is broken before, perhaps at a blank. -/
def Folding.add (byOctet atBlanks : Bool) (width : Nat) (c : Char) (fuel : Nat) (f : Folding) :
    Folding :=
  match fuel with
  | 0 => f
  | fuel + 1 =>
    let column := columnAfter byOctet f.column c
    if column ≤ width then { f with line := c :: f.line, column }
    else
      let isBlank (c : Char) : Bool := c == ' ' || c == '\t'
      let (tail, before) := f.line.span (!isBlank ·)
      if atBlanks && !before.isEmpty then
        let moved : Folding :=
          { out := (before.reverse ++ ['\n']) :: f.out
            line := tail
            column := tail.reverse.foldl (columnAfter byOctet) 0 }
        moved.add byOctet atBlanks width c fuel
      else if f.line.isEmpty then { f with line := [c], column }
      else
        ({ out := (f.line.reverse ++ ['\n']) :: f.out } : Folding).add byOctet atBlanks width c fuel

/-- Breaks lines that are too wide. -/
def fold (arguments : List Octets) : Tool Nat :=
  let arguments := arguments.map fun a =>
    match a with
    | '-' :: c :: rest => if c.isDigit then '-' :: 'w' :: c :: rest else a
    | a => a
  withOptions "b,bytes s,spaces w,width: c,characters" 1 (fun o => do
    let text := (o.value? "w").getD ['8', '0']
    match natural? text with
    | none =>
      blame s!"invalid number of columns: {quoted text}"
      return 1
    | some 0 =>
      blame s!"invalid number of columns: {quoted text}: Numerical result out of range"
      return 1
    | some width =>
      let (found, status) ← texts o.sources
      for (_, text) in found do
        let f := text.foldl (fun (f : Folding) c =>
          if c == '\n' then { out := (f.line.reverse ++ ['\n']) :: f.out }
          else f.add (o.has "b") (o.has "s") width c (f.line.length + 3)) {}
        say (f.out.reverse.flatten ++ f.line.reverse)
      return status) arguments

/-! ### Tabs -/

/-- Where tabs lead: every so many columns, or to the columns of a list. -/
structure TabStops where
  every : Nat := 8
  listed : List Nat := []

/-- The stop after a column, if there is one. -/
def TabStops.after (t : TabStops) (column : Nat) : Option Nat :=
  if t.listed.isEmpty then some (column + t.every - column % t.every)
  else t.listed.find? (column < ·)

/-- The stops of a text. -/
def tabStops (text : Octets) : Except String TabStops := do
  let parts := (text.splitOnP fun c => c == ',' || c == ' ').filter (!·.isEmpty)
  let numbers ← parts.mapM fun part =>
    match natural? part with
    | some 0 => .error "tab size cannot be 0"
    | some n => .ok n
    | none => .error s!"tab size contains invalid character(s): {quoted part}"
  match numbers with
  | [] => return {}
  | [n] => return { every := n }
  | ns =>
    if (ns.zip (ns.drop 1)).any fun (a, b) => b ≤ a then throw "tab sizes must be ascending"
    return { listed := ns }

/-- A line with its tabs as blanks. -/
def expandedLine (t : TabStops) (initial : Bool) (column : Nat) : Octets → Octets
  | [] => []
  | '\t' :: rest =>
    let next := (t.after column).getD (column + 1)
    List.replicate (next - column) ' ' ++ expandedLine t initial next rest
  | '\x08' :: rest => '\x08' :: expandedLine t initial (column - 1) rest
  | c :: rest =>
    if initial && c != ' ' then c :: rest else c :: expandedLine t initial (column + 1) rest

/-- Writes tabs as blanks. -/
def expand : List Octets → Tool Nat :=
  withOptions "i,initial t,tabs:" 1 fun o => do
  match tabStops ((o.value? "t").getD []) with
  | .error text =>
    blame text
    return 1
  | .ok t =>
    let (found, status) ← texts o.sources
    say ((Octets.records '\n' (found.flatMap Prod.snd)).flatMap (expandedLine t (o.has "i") 0))
    return status

/-- Tabs and blanks that lead from a column to another one. -/
def blanksBetween (t : TabStops) (fuel column last : Nat) : Octets :=
  match fuel, t.after column with
  | fuel + 1, some next =>
    if next ≤ last then '\t' :: blanksBetween t fuel next last
    else List.replicate (last - column) ' '
  | _, _ => List.replicate (last - column) ' '

/-- A line with its blanks as tabs where they reach a stop, perhaps only at the front. -/
def unexpandedLine (t : TabStops) (everywhere : Bool) (fuel column : Nat) (line : Octets) :
    Octets :=
  match fuel with
  | 0 => line
  | fuel + 1 =>
    let (blanks, rest) := line.span fun c => c == ' ' || c == '\t'
    let last := blanks.foldl (fun column c =>
      if c == '\t' then (t.after column).getD (column + 1) else column + 1) column
    let front :=
      if blanks == [' '] && column > 0 then blanks
      else blanksBetween t (last - column + 1) column last
    match rest with
    | [] => front
    | rest =>
      let (word, rest) := rest.span fun c => c != ' ' && c != '\t'
      if everywhere && !rest.isEmpty then
        front ++ word ++ unexpandedLine t everywhere fuel (last + word.length) rest
      else front ++ word ++ rest

/-- Writes blanks as tabs. -/
def unexpand : List Octets → Tool Nat :=
  withOptions "a,all t,tabs: first-only" 1 fun o => do
  match tabStops ((o.value? "t").getD []) with
  | .error text =>
    blame text
    return 1
  | .ok t =>
    let (found, status) ← texts o.sources
    let everywhere := (o.has "a" || o.has "t") && !o.has "first-only"
    for line in Octets.records '\n' (found.flatMap Prod.snd) do
      let (bare, ending) := line.span (· != '\n')
      say (unexpandedLine t everywhere (bare.length + 1) 0 bare ++ ending)
    return status

end Codemod.Shell.Tool
