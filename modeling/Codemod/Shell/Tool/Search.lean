import Codemod.Shell.Regex.Ordered
import Codemod.Shell.Tool.Lines
import Codemod.Shell.Tool.Making

/-!
# What a search looks for

- `Matcher` — what a search looks for, in whatever way it is written
- `Matcher.read` — the matcher of patterns, or why they are none
- `Matcher.firstFrom?`, `Matcher.allIn`, `Matcher.accepts` — what it finds
-/

namespace Codemod.Shell

/-- How patterns are written. -/
inductive PatternKind where
  | basic
  | extended
  /-- Patterns are texts. -/
  | fixed
  /-- Choices are tried in order. -/
  | ordered
deriving DecidableEq

/-- What a search looks for. -/
inductive Matcher where
  /-- Any of some expressions; of the leftmost matches the longest counts. -/
  | longest (rs : List Regex)
  | first (r : OrderedRegex)

namespace Matcher

/-- The best of two matches: the leftmost, and of those the longest. -/
def better (a b : Option Regex.Match) : Option Regex.Match :=
  match a, b with
  | some m, some n =>
    if n.start < m.start || (n.start == m.start && m.stop < n.stop) then some n else some m
  | a, b => a.or b

/-- The best match from a place on. -/
def firstFrom? (m : Matcher) (text : Array Char) (start : Nat) : Option Regex.Match :=
  match m with
  | longest rs =>
    rs.foldl (fun found r => better found (r.searchFrom? text (text.size + 1) start)) none
  | first r => r.searchFrom? text (text.size + 1) start

/-- Something is found in a text. -/
def accepts (m : Matcher) (text : Octets) : Bool :=
  match m with
  | longest rs => rs.any fun r => r.occursIn text
  | first r => (r.searchFrom? text.toArray (text.length + 1) 0).isSome

/-- The matches of a text that are not empty, one after another. -/
def allFrom (m : Matcher) (text : Array Char) (fuel start : Nat) : List Regex.Match :=
  match fuel with
  | 0 => []
  | fuel + 1 =>
    match m.firstFrom? text start with
    | none => []
    | some found =>
      if found.stop ≤ found.start then
        if text.size ≤ found.start then [] else allFrom m text fuel (max start found.start + 1)
      else found :: allFrom m text fuel found.stop

/-- The matches of a text that are not empty. -/
def allIn (m : Matcher) (text : Octets) : List Regex.Match :=
  m.allFrom text.toArray (text.length + 1) 0

/-- Why patterns are refused. -/
inductive Fault where
  | regex (e : RegexError)
  | ordered (e : OrderedRegex.ReadError)
  /-- A name of a class stands in one pair of brackets only. -/
  | classAlone
  | severalOrdered

/-- What is said about it. -/
def Fault.message : Fault → String
  | regex e => e.message
  | ordered e => e.message
  | classAlone => "character class syntax is [[:space:]], not [:space:]"
  | severalOrdered => "the -P option only supports a single pattern"

/-- A name of a class stands in one pair of brackets only. -/
def hasClassAlone (fuel : Nat) (cs : Octets) : Bool :=
  match fuel, cs with
  | 0, _ | _, [] => false
  | fuel + 1, '\\' :: _ :: rest => hasClassAlone fuel rest
  | fuel + 1, '[' :: ':' :: rest =>
    let (inside, after) := rest.span (· != ']')
    (inside.getLast? == some ':' && !inside.contains '[') || hasClassAlone fuel after
  | fuel + 1, '[' :: rest =>
    let inner := if rest.head? == some '^' then rest.drop 1 else rest
    hasClassAlone fuel (afterBrackets fuel true inner)
  | fuel + 1, _ :: rest => hasClassAlone fuel rest
where
  /-- What follows a set of characters. -/
  afterBrackets (fuel : Nat) (first : Bool) (cs : Octets) : Octets :=
    match fuel, cs with
    | 0, _ | _, [] => []
    | fuel + 1, ']' :: rest => if first then afterBrackets fuel false rest else rest
    | fuel + 1, '[' :: ':' :: rest => afterBrackets fuel false ((rest.dropWhile (· != ']')).drop 1)
    | fuel + 1, _ :: rest => afterBrackets fuel false rest

/-- A repetition sign that follows nothing in an expression, as it is named in a warning. -/
def strayRepeat? (fuel : Nat) (first : Bool) (cs : Octets) : Option String :=
  match fuel, cs with
  | 0, _ | _, [] => none
  | fuel + 1, '\\' :: _ :: rest => strayRepeat? fuel false rest
  | fuel + 1, '[' :: rest =>
    let inner := if rest.head? == some '^' then rest.drop 1 else rest
    strayRepeat? fuel false (hasClassAlone.afterBrackets fuel true inner)
  | fuel + 1, c :: rest =>
    if c == '(' || c == '|' || c == '^' then strayRepeat? fuel true rest
    else if first && (c == '*' || c == '+' || c == '?') then some (String.singleton c)
    else if first && c == '\x7b' && Regex.boundsStand rest then some "\x7b...\x7d"
    else strayRepeat? fuel false rest

/-- Demands on a match beside its pattern. -/
structure Demands where
  caseless : Bool
  /-- It is a word, or the whole line. -/
  word : Bool
  line : Bool
  /-- Lines inside the text have beginnings and ends. -/
  inLines : Bool

/-- An expression with demands on its matches. -/
def demanding (d : Demands) (r : Regex) : Regex :=
  let r := if d.caseless then r.caseless else r
  let start := if d.inLines then Regex.lineStart else .textStart
  let stop := if d.inLines then Regex.lineEnd else .textEnd
  if d.line then .both start (.both r stop)
  else if d.word then .both .noWordBefore (.both r .noWordAfter)
  else r

/-- The matcher of patterns, or why they are none. -/
def read (kind : PatternKind) (d : Demands) (patterns : List Octets) : Except Fault Matcher :=
  let regex (style : RegexStyle) (cs : Octets) : Except Fault Regex :=
    if hasClassAlone (cs.length + 1) cs then .error .classAlone
    else
      match if d.inLines then Regex.readLines style cs else Regex.read style cs with
      | .ok r => .ok (demanding d r)
      | .error e => .error (.regex e)
  match kind with
  | .ordered =>
    match patterns with
    | [pattern] =>
      match OrderedRegex.read d.caseless pattern with
      | .ok r => .ok (.first (if d.line then r.asWhole else if d.word then r.asWord else r))
      | .error e => .error (.ordered e)
    | [] => .ok (.longest [])
    | _ => .error .severalOrdered
  | .fixed => .ok (.longest (patterns.map fun p => demanding d (Regex.ofText p)))
  | .basic => (patterns.mapM (regex .basic)).map .longest
  | .extended => (patterns.mapM (regex .lenientExtended)).map .longest

end Matcher

end Codemod.Shell

/-!
## Searching files

- `Search` — what is searched and how it is reported
- `Search.inText` — what is reported of one text
- `Tool.search` — the tool
-/

namespace Codemod.Shell

/-- What is reported of a text. -/
inductive Reporting where
  | lines
  | matches
  | count
  /-- The names of texts in which something is found, or nothing. -/
  | namesWith
  | namesWithout
  | nothing
deriving DecidableEq

/-- What becomes of a text that is not made of lines. -/
inductive Binary where
  | mentioned
  | searched
  | skipped
deriving DecidableEq

/-- What is searched and how it is reported. -/
structure Search where
  matcher : Matcher
  inverted : Bool
  reporting : Reporting
  /-- The lines before and after that are shown too. -/
  before : Nat
  after : Nat
  /-- What is put between groups of lines. -/
  separator : Option Octets
  most : Option Nat
  numbered : Bool
  offsets : Bool
  named : Bool
  aligned : Bool
  coloured : Bool
  binary : Binary
  ending : Char
  nameEnding : Option Char
  /-- What the input is called. -/
  inputName : Octets

namespace Search

/-! ### Writing -/

/-- A text in a colour. -/
def inColour (s : Search) (colour : String) (text : Octets) : Octets :=
  if s.coloured && !text.isEmpty then
    "\x1b[".toList ++ colour.toList ++ "m\x1b[K".toList ++ text ++ "\x1b[m\x1b[K".toList
  else text

/-- A sign between parts of a line. -/
def between (s : Search) (sign : Char) : Octets := s.inColour "36" [sign]

/-- A name with what follows it. -/
def nameShown (s : Search) (name : Octets) (sign : Char) : Octets :=
  s.inColour "35" name ++ (match s.nameEnding with
    | some c => [c]
    | none => s.between sign)

/-- What stands before a line. -/
def front (s : Search) (name : Octets) (number offset : Nat) (sign : Char) : Octets :=
  let width := if s.aligned then 2 else 0
  let parts := (if s.named then s.nameShown name sign else [])
    ++ (if s.numbered then s.inColour "32" (Octets.padLeft width (Octets.ofNat number))
      ++ s.between sign
      else [])
    ++ (if s.offsets then s.inColour "32" (Octets.padLeft width (Octets.ofNat offset))
      ++ s.between sign
      else [])
  if s.aligned && !parts.isEmpty then parts ++ ['\t'] else parts

/-- A line with its matches in their colour. -/
def painted (s : Search) (line : Octets) : Octets :=
  if !s.coloured || s.inverted then line
  else
    let (pieces, last) := (s.matcher.allIn line).foldl
      (fun ((pieces, last) : List Octets × Nat) m =>
        (s.inColour "01;31" (m.taken line) :: Regex.slice line last m.start :: pieces, m.stop)) ([],
          0)
    (line.drop last :: pieces).reverse.flatten

/-! ### Searching -/

/-- A line of a text. -/
structure Line where
  text : Octets
  number : Nat
  offset : Nat
  /-- It is what is looked for. -/
  selected : Bool

/-- The lines of a text up to the one with which enough is found; those after it do not count. -/
def linesOf (s : Search) (found number offset : Nat) : List Octets → List Line
  | [] => []
  | text :: rest =>
    let isEnough := s.most.any (· ≤ found)
    let selected := !isEnough && s.matcher.accepts text != s.inverted
    ⟨text, number, offset, selected⟩
      :: linesOf s (if selected then found + 1
        else found) (number + 1) (offset + text.length + 1) rest

/-- How far away the next line is that is looked for, for each line. -/
def distances (lines : List Line) : List Nat :=
  (lines.foldr (fun line (acc : List Nat × Nat) =>
    let n := if line.selected then 0 else acc.2 + 1
    (n :: acc.1, n)) ([], lines.length + 1)).1

/-- The lines that are shown, with those around them; `since` counts the lines since the last one
that was looked for, and `gap` tells that lines were left out since the last one that was shown. -/
def shownLines (s : Search) (name : Octets) (since : Option Nat) (gap : Option Bool) :
    List (Line × Nat) → Octets
  | [] => []
  | (line, distance) :: rest =>
    let since := if line.selected then some 0 else since.map (· + 1)
    let isNear := line.selected || since.any (· ≤ s.after) || distance ≤ s.before
    if !isNear then shownLines s name since (gap.map fun _ => true) rest
    else
      let mark := match s.separator with
        | some text =>
          if gap == some true && 0 < s.before + s.after then s.inColour "36" text ++ ['\n'] else []
        | none => []
      let own := if s.reporting == .matches then
          if line.selected && !s.inverted then
            (s.matcher.allIn line.text).flatMap fun m =>
              s.front name line.number (line.offset + m.start) ':'
                ++ s.inColour "01;31" (m.taken line.text) ++ [s.ending]
          else []
        else
          let sign := if line.selected then ':' else '-'
          s.front name line.number line.offset sign
            ++ (if line.selected then s.painted line.text else line.text) ++ [s.ending]
      mark ++ own ++ shownLines s name since (some false) rest

/-- The text is not made of lines. -/
def isBinary (s : Search) (text : Octets) : Bool := s.ending == '\n' && text.contains '\x00'

/-- What is reported of a text, and whether something was found. -/
def inText (s : Search) (name text : Octets) : Octets × Bool :=
  let binary := s.isBinary text
  if binary && s.binary == .skipped then
    if s.reporting == .namesWithout then (s.inColour "35" name ++ [s.nameEnding.getD '\n'], false)
    else ([], false)
  else
    let lines := s.linesOf 0 1 0 (Octets.pieces s.ending text)
    let found := lines.countP (·.selected)
    let fine := 0 < found
    let nameLine := s.inColour "35" name ++ [s.nameEnding.getD '\n']
    match s.reporting with
    | .nothing => ([], fine)
    | .count =>
      ((if s.named then s.nameShown name ':' else []) ++ Octets.ofNat found ++ ['\n'], fine)
    | .namesWith => (if fine then nameLine else [], fine)
    | .namesWithout => (if fine then [] else nameLine, fine)
    | _ =>
      if binary && s.binary == .mentioned then
        (if fine then "grep: ".toList ++ name ++ ": binary file matches\n".toList else [], fine)
      else
        (if fine then s.shownLines name none none (lines.zip (distances lines)) else [], fine)

/-- What is left of a text after so many lines that are looked for. -/
def restAfter (s : Search) (count : Nat) (text : Octets) : Octets :=
  let lines := s.linesOf 0 1 0 (Octets.pieces s.ending text)
  match (lines.filter (·.selected))[count - 1]? with
  | some line => text.drop (line.offset + line.text.length + 1)
  | none => []

/-- Enough of a text is there to tell what is to be told. -/
def isEnough (s : Search) (text : Octets) : Bool :=
  let most := match s.reporting with
    | .nothing | .namesWith | .namesWithout => some 1
    | _ => s.most
  match most with
  | none => false
  | some n =>
    let lines := Octets.pieces s.ending text
    n ≤ lines.countP fun line => s.matcher.accepts line != s.inverted

end Search

namespace Tool

/-- What searches know. -/
def searchKnown : String :=
  "E,extended-regexp F,fixed-strings G,basic-regexp P,perl-regexp e,regexp: f,file: i,y,ignore-case "
    ++ "no-ignore-case w,word-regexp x,line-regexp z,null-data s,no-messages v,invert-match V m,max-count: "
    ++ "b,byte-offset n,line-number line-buffered H,with-filename h,no-filename label: o,only-matching "
    ++ "q,quiet,silent binary-files: a,text I d,directories: D,devices: r,recursive R,dereference-recursive "
    ++ "include: exclude: exclude-from: exclude-dir: L,files-without-match l,files-with-matches c,count "
    ++ "T,initial-tab Z,null B,before-context: A,after-context: C,context: color,colour:: U,binary "
    ++ "u,unix-byte-offsets X: group-separator: no-group-separator"

/-- Refuses a search. -/
def refuseSearch (text : String) : Tool Nat := do
  let usage := "Usage: grep [OPTION]... PATTERNS [FILE]...\nTry 'grep --help' for more information."
  if text.isEmpty then complain usage else blame (text ++ "\n" ++ usage)
  return 2

/-- Arguments in which a number of lines around is an option with a letter; `isValue` tells that the
first one belongs to an option before it. -/
def withContextLetters (isValue : Bool) : List Octets → List Octets
  | [] => []
  | ['-', '-'] :: rest => ['-', '-'] :: rest
  | a :: rest =>
    let needsValue := match a with
      | '-' :: letters =>
        letters.head? != some '-' && letters.getLast?.any "ABCmefdD".toList.contains
          && letters.dropLast.all fun c => !"ABCmefdD".toList.contains c
      | _ => false
    let changed := match a with
      | '-' :: c :: more =>
        if c.isDigit && more.all Char.isDigit && !isValue then '-' :: 'C' :: c :: more else a
      | a => a
    changed :: withContextLetters (needsValue && !isValue) rest

/-- The patterns of options and operands, and the operands that are left. -/
def patternsOf (o : Options) : Tool (Option (List Octets × List Octets)) := do
  let given := o.given.filter fun (name, _) => name == "e" || name == "f"
  if given.isEmpty then
    match o.operands with
    | [] =>
      let _ ← refuseSearch ""
      return none
    | pattern :: rest => return some (pattern.splitOn '\n', rest)
  let mut patterns : List Octets := []
  for (name, value) in given do
    if name == "e" then patterns := patterns ++ value.splitOn '\n'
    else
      match ← contentOf value with
      | .ok text => patterns := patterns ++ Octets.pieces '\n' text
      | .error cause =>
        blame s!"{value.toText}: {reason cause}"
        return none
  return some (patterns, o.operands)

/-- Which names are searched. -/
structure NameFilter where
  included : List (List Wildcard)
  excluded : List (List Wildcard)
  excludedDirectories : List (List Wildcard)

/-- A pattern matches a name or the last part of it. -/
def NameFilter.fits (patterns : List (List Wildcard)) (name : Octets) : Bool :=
  patterns.any fun p => Wildcard.accepts p name || Wildcard.accepts p (lastPart name [])

/-- The name of a file is searched. -/
def NameFilter.takes (f : NameFilter) (name : Octets) : Bool :=
  !NameFilter.fits f.excluded name && (f.included.isEmpty || NameFilter.fits f.included name)

/-- The files below a directory with their names. -/
def filesBelow (disk : FileSystem) (filter : NameFilter) (follow : Bool) (fuel : Nat)
    (path : Octets)
    (loc : Location) : List Octets :=
  match fuel with
  | 0 => []
  | fuel + 1 =>
    (sortedNames disk loc).flatMap fun name =>
      let slash : Octets := if path.isEmpty || path.getLast? == some '/' then [] else ['/']
      let inner := path ++ slash ++ name
      let place := loc ++ [name.toText]
      let here := match disk.get? place with
        | some (.link _) =>
          if follow then (disk.find ("/" ++ Location.text place)).toOption else none
        | some node => some (place, node)
        | none => none
      match here with
      | some (place, .directory) =>
        if NameFilter.fits filter.excludedDirectories name then []
        else filesBelow disk filter follow fuel inner place
      | some (_, .file _) => if filter.takes inner then [inner] else []
      | _ => []

/-- Searches the sources one after another. The values tell whether something was found and whether
something went wrong. -/
def searchAll (s : Search) (quiet recursive follow skips : Bool) (filter : NameFilter)
    (names : List Octets) : Tool (Bool × Bool) := do
  let mut found := false
  let mut failed := false
  let mut counts : List Octets := names
  let disk := (← get).disk
  let fuel := disk.entries.length + 1
  if recursive then
    counts := if names.isEmpty then filesBelow disk filter follow fuel [] disk.workingDirectory
      else names.flatMap fun name =>
        match disk.find name.toText with
        | .ok (loc, .directory) =>
          if NameFilter.fits filter.excludedDirectories name then []
          else filesBelow disk filter follow fuel name loc
        | _ => if name == ['-'] || filter.takes name then [name] else []
  else counts := names.filter fun name => name == ['-'] || filter.takes name
  for name in counts do
    if !(s.reporting == .nothing && found) then
      match ← contentUpTo s.isEnough name with
      | .ok text =>
        let shownName := if name == ['-'] then s.inputName else name
        let out := (← get).outputFile
        let own ← sourceOf name
        let prints := s.reporting == .lines || s.reporting == .matches
        if prints && s.most.all (1 < ·) && out.isSome && own == out then
          if !quiet then blame s!"{shownName.toText}: input file is also the output"
          failed := true
        else
          let (written, hit) := s.inText shownName text
          say written
          if isInput name && (← get).inputSize.isSome then
            if let some n := s.most then leave (s.restAfter n text)
          if hit then found := true
      | .error cause =>
        if !(skips && cause == .isDirectory) then
          if !quiet then blame s!"{name.toText}: {reason cause}"
          failed := true
  return (found, failed)

/-- Searches files for lines that match patterns. -/
def search (usual : PatternKind) (arguments : List Octets) : Tool Nat := do
  match Options.read (Options.known (searchKnown
    ++ " help version")) (withContextLetters false arguments) true with
  | .error refusal => refuseSearch refusal.message
  | .ok o =>
    let context (name : String) : Tool (Option (Option Nat)) := do
      match o.value? name with
      | none => return some none
      | some text =>
        match natural? text with
        | some n => return some (some n)
        | none =>
          blame s!"{text.toText}: invalid context length argument"
          return none
    let some around ← context "C" | return 2
    let some before ← context "B" | return 2
    let some after ← context "A" | return 2
    let most ← match o.value? "m" with
      | none => pure none
      | some ('-' :: ds) =>
        if ds.all Char.isDigit && !ds.isEmpty then pure none
        else
          blame "invalid max count"
          return 2
      | some text =>
        match natural? text with
        | some n => pure (some n)
        | none =>
          blame "invalid max count"
          return 2
    let binary ← match o.last? ["a", "I", "binary-files", "U"], o.value? "binary-files" with
      | some "a", _ => pure Binary.searched
      | some "I", _ => pure .skipped
      | some "binary-files", some text =>
        match text.toText with
        | "binary" => pure .mentioned
        | "text" => pure .searched
        | "without-match" => pure .skipped
        | _ =>
          blame "unknown binary-files type"
          return 2
      | _, _ => pure .mentioned
    let coloured := (o.value? "color").any fun v => ["always", "yes", "force"].contains v.toText
    if (o.value? "color").any fun v =>
        !(["", "always", "yes", "force", "never", "no", "none", "auto", "tty",
          "if-tty"].contains v.toText) then
      return ← refuseSearch ""
    let directories := (o.value? "d").getD "read".toList
    if !(["read", "recurse", "skip"].any fun (word : String) =>
        word.startsWith directories.toText) then
      let _ ← refuseSearch (s!"invalid argument {quoted directories} for '--directories'\n"
        ++ "Valid arguments are:\n  - 'read'\n  - 'recurse'\n  - 'skip'")
      return 1
    let kinds := ["E", "F", "G", "P"].filter o.has
    let kind ← match kinds with
      | ["E"] => pure PatternKind.extended
      | ["F"] => pure .fixed
      | ["G"] => pure .basic
      | ["P"] => pure .ordered
      | [] => pure usual
      | _ =>
        if kinds.contains "P" || kinds.contains "F" then
          blame "conflicting matchers specified"
          return 2
        else pure (if o.last? ["E", "G"] == some "E" then .extended else .basic)
    if o.has "u" then blame "warning: --unix-byte-offsets (-u) is obsolete"
    let some (patterns, names) ← patternsOf o | return 2
    let demands : Matcher.Demands :=
      { caseless := o.last? ["i", "no-ignore-case"] == some "i"
        word := o.has "w"
        line := o.has "x"
        inLines := o.has "z" }
    if kind == .extended then
      if let some sign := patterns.findSome? fun p =>
        Matcher.strayRepeat? (p.length + 1) true p then
        blame s!"warning: {sign} at start of expression"
    match Matcher.read kind demands patterns with
    | .error fault =>
      blame fault.message
      return 2
    | .ok matcher =>
      let recursive := o.has "r" || o.has "R" || directories == "recurse".toList
      let reporting := if o.has "q" then Reporting.nothing
        else
          match o.last? ["l", "L"] with
          | some "l" => .namesWith
          | some _ => .namesWithout
          | none => if o.has "c" then .count else if o.has "o" then .matches else .lines
      let disk := (← get).disk
      let several := names.length > 1
        || (recursive && (names.isEmpty || names.any fun n => disk.isDirectory n.toText))
      let named := match o.last? ["H", "h"] with
        | some "H" => true
        | some _ => false
        | none => several
      let s : Search :=
        { matcher
          inverted := o.has "v"
          reporting
          before := (before.or around).getD 0
          after := (after.or around).getD 0
          separator :=
            match o.last? ["group-separator", "no-group-separator"] with
            | some "group-separator" => o.value? "group-separator"
            | some _ => none
            | none => some ['-', '-']
          most
          numbered := o.has "n"
          offsets := o.has "b"
          named
          aligned := o.has "T"
          coloured, binary
          ending := if o.has "z" then '\x00' else '\n'
          nameEnding := if o.has "Z" then some '\x00' else none
          inputName := (o.value? "label").getD "(standard input)".toList }
      let findsNone := patterns == [[]] && s.inverted && !o.has "x" && !o.has "w"
      if (most == some 0 || findsNone) && reporting != .namesWithout then return 1
      let wildcards (name : String) : List (List Wildcard) := (o.values name).map fun text =>
        Wildcard.ofMarked ((if text.length > 1 then withoutEnd text else text).map fun c =>
          (c, true))
      let filter : NameFilter := ⟨wildcards "include", wildcards "exclude", wildcards "exclude-dir"⟩
      let sources := if names.isEmpty && !recursive then [['-']] else names
      let (found, failed) ←
        searchAll s (o.has "s") recursive (o.has "R") (directories == "skip".toList)
        filter sources
      return if failed && !(reporting == .nothing && found) then 2 else if found then 0 else 1

end Tool

end Codemod.Shell
