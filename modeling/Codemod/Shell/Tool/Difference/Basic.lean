import Codemod.Shell.Calendar
import Codemod.Shell.Regex.Reading
import Codemod.Shell.Tool.Difference.Pattern
import Codemod.Shell.Tool.Lines

/-!
# Differences between files and directories

- `Tool.difference` — the tool
-/

namespace Codemod.Shell.Difference

/-- What the comparison of lines looks at, and how changes are written. -/
structure Manner where
  options : Options
  layout : Layout
  /-- The arguments that are no operands, as one text. -/
  given : String
  /-- Lines that match do not count. -/
  ignored : Option Regex := none
  heading : Option Regex := none
  patterns : Patterns := {}

namespace Manner

/-- Runs of blanks as one blank. -/
def joinedBlanks : Octets → Octets
  | [] => []
  | c :: rest =>
    let isBlank (c : Char) : Bool := c == ' ' || ('\t' ≤ c && c ≤ '\r')
    if isBlank c then
      if rest.head?.any isBlank then joinedBlanks rest
      else if rest.isEmpty then []
      else ' ' :: joinedBlanks rest
    else c :: joinedBlanks rest

/-- What the comparison sees of a line. -/
def key (m : Manner) (line : Octets) : Octets :=
  let isBlank (c : Char) : Bool := c == ' ' || ('\t' ≤ c && c ≤ '\r')
  let o := m.options
  let line := if m.layout matches .script then Written.complete line else line
  let line := if o.has "strip-trailing-cr" && "\r\n".toList.isSuffixOf line then
      line.take (line.length - 2) ++ ['\n'] else line
  let line := if o.has "i" then line.map Char.toLower else line
  if o.has "w" then line.filter (!isBlank ·)
  else if o.has "b" then joinedBlanks line
  else if o.has "Z" then (line.reverse.dropWhile isBlank).reverse
  else line

/-- A change does not count when all its lines are empty or match. -/
def isIgnored (m : Manner) (first second : Array Octets) (h : Hunk) : Bool :=
  let all := Written.lines first h.first h.removed ++ Written.lines second h.second h.added
  let isEmpty (line : Octets) : Bool := line == ['\n'] || line.isEmpty
  (m.options.has "B" && all.all isEmpty)
    || (m.ignored.any fun r => all.all fun line => r.occursIn (line.filter (· != '\n')))

/-- The name of an entry in a directory. -/
def below (directory name : Octets) : Octets :=
  if directory.getLast? == some '/' then directory ++ name else directory ++ '/' :: name

end Manner

/-- One of the two things that are compared. -/
structure Side where
  name : Octets
  /-- What stands in the place of its name. -/
  label : Option Octets
  text : Octets
  modified : Int

/-- The line about a file in front of changes. -/
def Side.header (s : Side) (mark : String) : Octets :=
  let time := (Moment.ofNanoseconds s.modified).shown "%Y-%m-%d %H:%M:%S.%N %z"
  mark.toList ++ ' ' :: (match s.label with
    | some label => label
    | none => s.name ++ '\t' :: time) ++ ['\n']

/-- Says how two texts differ; `listed` tells that they were found in directories. -/
def compareTexts (m : Manner) (listed : Bool) (a b : Side) : Tool Nat := do
  let o := m.options
  let called (s : Side) : String := (s.label.getD s.name).toText
  let names := s!"{called a} and {called b}"
  let same : Tool Nat := do
    if o.has "s" then Tool.sayText s!"Files {names} are identical\n"
    return 0
  let columns (width : Nat) (w : Written) : Octets :=
    Written.rows width (o.has "left-column") (o.has "suppress-common-lines") w 0 0 w.hunks
  let row (s : Side) : Array Octets := (Octets.records '\n' s.text).toArray
  /- These layouts show also what is the same. -/
  let unchanged : Tool Nat := do
    let w : Written := { first := row a, second := row b, hunks := [] }
    if !o.has "q" then
      match m.layout with
      | .columns width => Tool.say (columns width w)
      | .patterned => Tool.say (w.patterned m.patterns)
      | _ => pure ()
    same
  if a.text == b.text then unchanged
  else if !o.has "a" && (a.text.contains '\x00' || b.text.contains '\x00') then
    Tool.sayText (if o.has "q" then s!"Files {names} differ\n"
      else s!"Binary files {names} differ\n")
    return 1
  else
    let (first, second) := (row a, row b)
    let hunks := Changes.between (first.map m.key) (second.map m.key)
    let counted := hunks.filter fun h => !m.isIgnored first second h
    if counted.isEmpty then unchanged
    else if o.has "q" then
      Tool.sayText s!"Files {names} differ\n"
      return 1
    else
      let coloured := ((o.value? "color").any fun w => w == "always".toList)
      let heading := m.heading.map fun r line => r.occursIn line
      let w : Written := { first, second, hunks := counted, coloured, heading }
      if listed then
        Tool.sayText s!"diff{m.given} {called a} {called b}\n"
      let headers (x y : String) : Octets :=
        w.painted "1" (a.header x) ++ w.painted "1" (b.header y)
      match m.layout with
      | .normal => Tool.say w.normal
      | .unified n => Tool.say (headers "---" "+++" ++ w.unified n)
      | .context n => Tool.say (headers "***" "---" ++ w.context n)
      | .counts => Tool.say w.counts
      | .columns width => Tool.say (columns width w)
      | .patterned => Tool.say (w.patterned m.patterns)
      | .script =>
        Tool.say w.script
        let unended := [a, b].find? fun s => !s.text.isEmpty && s.text.getLast? != some '\n'
        if let some s := unended then
          Tool.blame s!"{s.name.toText}: No newline at end of file\n"
          return 2
      return 1

/-- What is at a path: its content, or nothing for a directory. -/
def sideAt (name : Octets) (label : Option Octets) : Tool (Except SystemError (Option Side)) := do
  let b ← get
  if Tool.isInput name then
    return (← Tool.contentOf name).map fun text => some ⟨name, label, text, b.now⟩
  else
    match b.disk.find name.toText with
    | .ok (_, .directory) => return .ok none
    | .ok (loc, _) =>
      let modified := b.disk.modified loc
      return (← Tool.contentOf name).map fun text => some ⟨name, label, text, modified⟩
    | .error _ => return (← Tool.contentOf name).map fun text => some ⟨name, label, text, b.now⟩

/-- What kind of thing is at a path. -/
def kindAt (name : Octets) : Tool String := do
  let disk := (← get).disk
  match disk.find name.toText with
  | .ok (_, .directory) => return "directory"
  | .ok (_, .file bytes) => return if bytes.size == 0 then "regular empty file" else "regular file"
  | _ => return "symbolic link"

/-- The names in a directory, in order. -/
def namesIn (m : Manner) (directory : Octets) : Tool (List Octets) := do
  let disk := (← get).disk
  let names : List Octets := match disk.find directory.toText with
    | .ok (loc, _) => (disk.children loc).map fun (name, _) => Octets.ofString name
    | .error _ => []
  let excluded := (m.options.values "x").map fun p => Wildcard.ofMarked (p.map fun c => (c, true))
  return (names.filter fun name => !excluded.any fun p =>
    Wildcard.accepts p name).mergeSort Octets.le

/-- Says how two paths differ. Directories are entered `depth` times. -/
def comparePaths (m : Manner) (depth : Nat) (listed : Bool) (a b : Octets)
    (labels : Option Octets × Option Octets) : Tool Nat := do
  match depth with
  | 0 => return 2
  | depth + 1 =>
    let o := m.options
    let absent (cause : SystemError) : Bool := o.has "N" && cause == .notFound
    let empty (name : Octets) (label : Option Octets) : Side := ⟨name, label, [], 0⟩
    match ← sideAt a labels.1, ← sideAt b labels.2 with
    | .ok (some x), .ok (some y) => compareTexts m listed x y
    | .ok none, .ok none =>
      let (inA, inB) := (← namesIn m a, ← namesIn m b)
      let names := ((inA ++ inB.filter (!inA.contains ·)).mergeSort Octets.le)
      let mut status := 0
      for name in names do
        let (x, y) := (Manner.below a name, Manner.below b name)
        let both := inA.contains name && inB.contains name
        if !both && !o.has "N" then
          let place := if inA.contains name then a else b
          Tool.sayText s!"Only in {place.toText}: {name.toText}\n"
          status := max status 1
        else
          let disk := (← get).disk
          let isDirectory (path : Octets) : Bool := disk.isDirectory path.toText
          if both && isDirectory x && isDirectory y && !o.has "r" then
            Tool.sayText s!"Common subdirectories: {x.toText} and {y.toText}\n"
          else if both && isDirectory x != isDirectory y then
            Tool.sayText (s!"File {x.toText} is a {← kindAt x} "
              ++ s!"while file {y.toText} is a {← kindAt y}\n")
            status := max status 1
          else status := max status (← comparePaths m depth true x y labels)
      return status
    | .ok none, .ok (some y) =>
      let last := (y.name.reverse.takeWhile (· != '/')).reverse
      comparePaths m depth listed (Manner.below a last) b labels
    | .ok (some x), .ok none =>
      let last := (x.name.reverse.takeWhile (· != '/')).reverse
      comparePaths m depth listed a (Manner.below b last) labels
    | .error cause, .ok (some y) =>
      if absent cause then compareTexts m listed (empty a labels.1) y
      else
        Tool.blameFor a cause
        return 2
    | .ok (some x), .error cause =>
      if absent cause then compareTexts m listed x (empty b labels.2)
      else
        Tool.blameFor b cause
        return 2
    | x, y =>
      if let .error cause := x then Tool.blameFor a cause
      if let .error cause := y then Tool.blameFor b cause
      return 2

/-- The options of the tool. -/
def known : String :=
  "q,brief s,report-identical-files c C,context:: u U,unified:: e,ed n,rcs y,side-by-side W,width: "
    ++ "left-column suppress-common-lines p,show-c-function F,show-function-line: L,label: "
    ++ "t,expand-tabs T,initial-tab tabsize: r,recursive no-dereference N,new-file "
    ++ "P,unidirectional-new-file x,exclude: S,starting-file: i,ignore-case E,ignore-tab-expansion "
    ++ "Z,ignore-trailing-space b,ignore-space-change w,ignore-all-space B,ignore-blank-lines "
    ++ "I,ignore-matching-lines: a,text strip-trailing-cr d,minimal H,speed-large-files horizon-lines: "
    ++ "color:: normal from-file: to-file: D,ifdef: line-format: old-line-format: new-line-format: "
    ++ "unchanged-line-format: old-group-format: new-group-format: unchanged-group-format: "
    ++ "changed-group-format: help v,version"

/-- The patterns that options ask for; none when they ask for none. -/
def patterns? (o : Options) : Option Patterns :=
  let start := (o.value? "D").map Patterns.branching
  let lines := ["line-format", "old-line-format", "new-line-format", "unchanged-line-format"]
  let groups :=
    ["old-group-format", "new-group-format", "unchanged-group-format", "changed-group-format"]
  if start.isNone && !(lines ++ groups).any o.has then none
  else
    let base := start.getD {}
    let line (name : String) : Octets :=
      (o.value? name).getD ((o.value? "line-format").getD "%l\n".toList)
    let changed := if start.isSome then some base.changedGroup else none
    let changed := (o.value? "changed-group-format").or changed
    let group (name : String) (own : Octets) : Octets :=
      (o.value? name).getD (if start.isSome then own else changed.getD own)
    let old := group "old-group-format" base.oldGroup
    let new := group "new-group-format" base.newGroup
    some
      { oldLine := line "old-line-format"
        newLine := line "new-line-format"
        sameLine := line "unchanged-line-format"
        oldGroup := old
        newGroup := new
        sameGroup := (o.value? "unchanged-group-format").getD base.sameGroup
        changedGroup := changed.getD (old ++ new) }

end Codemod.Shell.Difference

namespace Codemod.Shell.Tool

/-- Says how files or directories differ. -/
def difference (arguments : List Octets) : Tool Nat := do
  let refuse (text : String) : Tool Nat := do
    blame text
    blame (advice "diff")
    return 2
  /- The letter for lines around changes takes its value as the next argument. -/
  let flags := (Options.known Difference.known).map fun f =>
    if f.names == ["U", "unified"] || f.names == ["C", "context"] then
      [⟨f.names.take 1, Takes.value⟩, (⟨f.names.drop 1, .perhaps⟩ : Flag)]
    else [f]
  let isNumbered (a : Octets) : Bool :=
    match a with
    | '-' :: rest =>
      rest.any Char.isDigit && rest.all fun c => c.isDigit || "uciwbBrqsaNtT".toList.contains c
    | _ => false
  let around := (arguments.find? isNumbered).bind fun a => natural? (a.filter Char.isDigit)
  let letters (a : Octets) : Option Octets :=
    if isNumbered a then
      let rest := a.filter (!·.isDigit)
      if rest == ['-'] then none else some rest
    else some a
  match Options.read flags.flatten (arguments.filterMap letters) true with
  | .error refusal => refuse refusal.message
  | .ok o =>
    let fixed := o.value? "from-file"
    let pairs : Except String (List (Octets × Octets)) :=
      match fixed, o.value? "to-file", o.operands with
      | some x, _, names => .ok (names.map fun y => (x, y))
      | none, some y, names => .ok (names.map fun x => (x, y))
      | none, none, [x, y] => .ok [(x, y)]
      | none, none, [] => .error "missing operand after 'diff'"
      | none, none, [x] => .error s!"missing operand after {quoted x}"
      | none, none, _ :: _ :: extra :: _ => .error s!"extra operand {quoted extra}"
    match pairs with
    | .error text => refuse text
    | .ok pairs =>
      let number (name : String) : Nat := ((o.value? name).bind natural?).getD (around.getD 3)
      let layout : Difference.Layout :=
        match o.last? ["c", "C", "context", "u", "U", "unified", "e", "n", "y", "normal"] with
        | some "c" => .context (around.getD 3)
        | some "C" => .context (number "C")
        | some "context" => .context (number "context")
        | some "u" => .unified (around.getD 3)
        | some "U" => .unified (number "U")
        | some "unified" => .unified (number "unified")
        | some "e" => .script
        | some "n" => .counts
        | some "y" => .columns (((o.value? "W").bind natural?).getD 130)
        | _ => if (Difference.patterns? o).isSome then .patterned
          else if o.has "p" || o.has "F" then .context (around.getD 3) else .normal
      let rec without (operands : List Octets) : List Octets → List Octets
        | [] => []
        | a :: rest =>
          if operands.head? == some a then without (operands.drop 1) rest
          else a :: without operands rest
      let given := (without o.operands arguments).map fun a => " " ++ shown a
      let expression (name : String) : Option Regex :=
        (o.value? name).bind fun text => (Regex.read .basic text).toOption
      let heading := if o.has "p" then (Regex.read .basic "^[[:alpha:]$_]".toList).toOption
        else expression "F"
      let m : Difference.Manner :=
        { options := o, layout, given := String.join given, ignored := expression "I", heading
          patterns := (Difference.patterns? o).getD {} }
      let labels := o.values "L"
      let depth := (← get).disk.entries.length + 2
      let mut status := 0
      for (x, y) in pairs.filter fun (x, y) => x != y || x != ['-'] do
        let found ← Difference.comparePaths m depth false x y (labels[0]?, labels[1]?)
        status := max status found
      return status

end Codemod.Shell.Tool
