import Codemod.Shell.Calendar
import Codemod.Shell.Octets
import Codemod.Shell.Tool.Lines
import Codemod.Shell.Tool.Removal
import Codemod.Shell.Tool.Sort
import Codemod.Shell.Wildcard

/-!
# Names in columns

- `Layout.columns` — names in as many columns as there is room for
- `Layout.separated` — names one after another with commas
-/

namespace Codemod.Shell.Layout

/-- How names are put into columns. -/
structure Grid where
  /-- The columns of a line. -/
  width : Nat
  /-- The columns of a tab; none when blanks are used alone. -/
  tab : Nat
  /-- The names go down the columns, not along the lines. -/
  downward : Bool

/-- Tabs and blanks that lead from a column to another one. -/
def gap (tab : Nat) (fuel column target : Nat) : Octets :=
  match fuel with
  | 0 => []
  | fuel + 1 =>
    if target ≤ column then []
    else if tab != 0 && target / tab > (column + 1) / tab then
      '\t' :: gap tab fuel (column + (tab - column % tab)) target
    else ' ' :: gap tab fuel (column + 1) target

/-- In which column of so many a name stands. -/
def Grid.column (g : Grid) (names columns place : Nat) : Nat :=
  if g.downward then place / ((names + columns - 1) / columns) else place % columns

/-- The widths of so many columns: each is wide enough for its names, and for a gap unless it is the
last one. -/
def Grid.widths (g : Grid) (lengths : List Nat) (columns : Nat) : List Nat :=
  lengths.zipIdx.foldl (fun widths (length, place) =>
    let c := g.column lengths.length columns place
    let needed := if c + 1 == columns then length else length + 2
    widths.set c (max (widths.getD c 3) needed)) (List.replicate columns 3)

/-- The widths of the most columns for which there is room. -/
def Grid.best (g : Grid) (lengths : List Nat) : List Nat :=
  let most := min ((g.width + 2) / 3) lengths.length
  let fitting := (List.range most).reverse.find? fun i =>
    (g.widths lengths (i + 1)).foldl (· + ·) 0 < g.width
  match fitting with
  | some i => g.widths lengths (i + 1)
  | none => g.widths lengths 1

/-- One line of names with the widths of their columns; `place` is the column where the next one
begins. -/
def line (tab place : Nat) : List (Octets × Nat) → Octets
  | [] => []
  | [(name, _)] => name
  | (name, width) :: rest =>
    name ++ gap tab width (place + name.length) (place + width) ++ line tab (place + width) rest

/-- Names in as many columns as there is room for. -/
def columns (g : Grid) (names : List Octets) : Octets :=
  if names.isEmpty then []
  else if g.width == 0 then List.intercalate [' ', ' '] names ++ ['\n']
  else
    let widths := g.best (names.map List.length)
    let count := widths.length
    let rows := (names.length + count - 1) / count
    (List.range rows).flatMap fun row =>
      let inRow := (List.range count).filterMap fun column =>
        let place := if g.downward then column * rows + row else row * count + column
        (names[place]?).map fun name => (name, widths.getD column 0)
      line g.tab 0 inRow ++ ['\n']

/-- Names one after another with commas; a line that would be too wide is ended. -/
def separated (width : Nat) (place : Nat) : List Octets → Octets
  | [] => ['\n']
  | name :: rest =>
    if place == 0 then name ++ separated width name.length rest
    else if width == 0 || place + name.length + 2 < width then
      ',' :: ' ' :: name ++ separated width (place + 2 + name.length) rest
    else ',' :: '\n' :: name ++ separated width name.length rest

end Codemod.Shell.Layout

/-!
## Listing directories

- `Listing` — how entries are listed
- `Listing.shownAll` — entries as they are listed
- `Tool.list` — the tool
-/

namespace Codemod.Shell

/-- The arrangement of a listing. -/
inductive Arrangement where
  | long
  | commas
  | across
  | down
  | single
deriving DecidableEq

/-- How names are quoted in a listing. -/
inductive NameStyle where
  | literal
  | shell (always escaping : Bool)
  | escaped
  /-- Between double quotes with escapes, perhaps only where they are needed. -/
  | string (always : Bool)
  /-- Between single quotes with escapes. -/
  | marked
deriving DecidableEq

/-- By what a listing is sorted. -/
inductive ListingOrder where
  | name
  | nothing
  | size
  | time
  | ending
  | version
  | width
deriving DecidableEq

/-- What marks the kind of an entry after its name. -/
inductive KindMark where
  | none
  | slash
  | kind
  | all
deriving DecidableEq

/-- Whose symbolic links are followed. -/
inductive Following where
  | never
  | directoriesGiven
  | given
  | always
deriving DecidableEq

/-- How entries are listed. -/
structure Listing where
  arrangement : Arrangement
  style : NameStyle
  order : ListingOrder
  reversed : Bool
  directoriesFirst : Bool
  mark : KindMark
  following : Following
  /-- Entries whose names begin with a dot are listed, and the two that every directory has. -/
  hidden : Bool
  own : Bool
  /-- The patterns of names that are left out, always and unless hidden ones are listed. -/
  ignored : List (List Wildcard)
  unlisted : List (List Wildcard)
  recursive : Bool
  blocks : Bool
  numbers : Bool
  coloured : Bool
  owner : Bool
  group : Bool
  author : Bool
  context : Bool
  numeric : Bool
  /-- How blocks and sizes are shown. -/
  blockMeasure : Measure
  sizeMeasure : Measure
  timeStyle : Octets
  width : Nat
  tab : Nat
  masked : Bool
  ending : Char

namespace Listing

/-! ### Names -/

/-- An octet between quotes in which escapes have a meaning. -/
def escapedIn (quote : Char) (c : Char) : Octets :=
  if c == quote || c == '\\' then ['\\', c]
  else if Quote.isPrintable c then [c] else Quote.escape c

/-- A name between quotes in which escapes have a meaning. -/
def inQuotes (quote : Char) (name : Octets) : Octets :=
  quote :: name.flatMap (escapedIn quote) ++ [quote]

/-- A name as it is listed. -/
def nameShown (l : Listing) (name : Octets) : Octets :=
  let mask (cs : Octets) : Octets :=
    if l.masked then cs.map fun c => if Quote.isPrintable c then c else '?' else cs
  match l.style with
  | .literal => mask name
  | .shell always escaping =>
    let quoted := name.flatMap fun c => if c == '\'' then "'\\''".toList else [c]
    if escaping then (if always then Quote.always name else Quote.ifNeeded name)
    else if always || Quote.ifNeeded name != name then mask ('\'' :: quoted ++ ['\'']) else name
  | .escaped =>
    name.flatMap fun c => if c == ' ' then ['\\', ' '] else escapedIn '\\' c
  | .string always =>
    let plain := name.all fun c => Quote.isPrintable c && c != '"' && c != '\\'
    if plain && !always then name else inQuotes '"' name
  | .marked => inQuotes '\'' name

/-- The mark of the kind of an entry. -/
def markOf (l : Listing) (disk : FileSystem) (e : Entry) : Octets :=
  match l.mark, e.node with
  | .none, _ => []
  | _, .directory => ['/']
  | .slash, _ => []
  | _, .link _ => ['@']
  | .all, .file _ => if e.isExecutable disk then ['*'] else []
  | .kind, .file _ => []

/-- The colour of an entry. -/
def colourOf (disk : FileSystem) (e : Entry) : Octets :=
  match e.node with
  | .directory => "01;34".toList
  | .link _ => "01;36".toList
  | .file _ => if e.isExecutable disk then "01;32".toList else []

/-- A name in the colour of an entry. -/
def painted (l : Listing) (disk : FileSystem) (e : Entry) (name : Octets) : Octets :=
  let colour := colourOf disk e
  if !l.coloured || colour.isEmpty then name
  else "\x1b[".toList ++ colour ++ ['m'] ++ name ++ "\x1b[0m".toList

/-! ### Order -/

/-- The ending of a name with the point before it. -/
def endingOf (name : Octets) : Octets :=
  if name.contains '.' then '.' :: (name.reverse.takeWhile (· != '.')).reverse else []

/-- The entry is a directory or leads to one. -/
def leadsToDirectory (disk : FileSystem) (e : Entry) : Bool :=
  disk.isDirectory ("/" ++ Location.text e.loc)

/-- The order of two entries. -/
def compared (l : Listing) (disk : FileSystem) (a b : Entry) : Ordering :=
  let byName := Collation.compareTexts a.name b.name
  let first : Ordering := match l.order with
    | .name | .nothing => .eq
    | .size => compare b.size a.size
    | .time => compare (disk.modified b.loc) (disk.modified a.loc)
    | .ending => Collation.compareTexts (endingOf a.name) (endingOf b.name)
    | .version => Collation.compareVersions (a.name.length + b.name.length + 2) a.name b.name
    | .width => compare a.name.length b.name.length
  let found := if l.order == .nothing then Ordering.eq else first.then byName
  let found := if l.reversed then found.swap else found
  if l.directoriesFirst then
    let rank (e : Entry) : Nat := if leadsToDirectory disk e then 0 else 1
    (compare (rank a) (rank b)).then found
  else found

/-- Entries in their order. -/
def sorted (l : Listing) (disk : FileSystem) (entries : List Entry) : List Entry :=
  entries.mergeSort fun a b => l.compared disk a b != .gt

/-! ### Lines -/

/-- The time of an entry. -/
def timeShown (l : Listing) (now time : Int) : Octets :=
  let m := Moment.ofNanoseconds time
  let isRecent := now - 31556952 / 2 * 10 ^ 9 < time && time ≤ now
  match l.timeStyle.toText with
  | "full-iso" => m.shown "%Y-%m-%d %H:%M:%S.%N %z"
  | "long-iso" => m.shown "%Y-%m-%d %H:%M"
  | "iso" => m.shown (if isRecent then "%m-%d %H:%M" else "%Y-%m-%d ")
  | _ =>
    match l.timeStyle with
    | '+' :: format =>
      match format.splitOn '\n' with
      | [old, new] => m.inFormat (if isRecent then new else old)
      | _ => m.inFormat format
    | _ => m.shown (if isRecent then "%b %e %H:%M" else "%b %e  %Y")

/-- The fields of an entry before its name. The flag tells that a field is aligned at its right. -/
def fields (l : Listing) (disk : FileSystem) (now : Int) (e : Entry) : List (Octets × Bool) :=
  let text (s : String) : Octets := Octets.ofString s
  let person : Octets := if l.numeric then ['0'] else text "root"
  let only (asked : Bool) (field : Octets × Bool) : List (Octets × Bool) :=
    if asked then [field] else []
  only l.numbers (Octets.ofNat (e.number disk), true)
    ++ only l.blocks (text (l.blockMeasure.shown (e.blocks * 512)), true)
    ++ (if l.arrangement == .long then
        [(e.row disk, false), (Octets.ofNat (e.links disk), true)]
          ++ only l.owner (person, false) ++ only l.group (person, false)
            ++ only l.author (person, false)
          ++ only l.context (['?'], false)
          ++ [(text (l.sizeMeasure.shown e.size), true),
              (l.timeShown now (disk.modified e.loc), false)]
      else only l.context (['?'], false))

/-- The widths of the fields of several entries. -/
def fieldWidths (rows : List (List (Octets × Bool))) : List Nat :=
  rows.foldl (fun (widths : List Nat) row =>
    row.zipIdx.map fun ((field, _), i) => max field.length (widths.getD i 0)) []

/-- The fields of several entries, each as wide as its place demands. -/
def aligned (widths : List Nat) (rows : List (List (Octets × Bool))) : List Octets :=
  rows.map fun row =>
    row.zipIdx.flatMap fun ((field, right), i) =>
      let width := widths.getD i 0
      (if right then Octets.padLeft width field else Octets.padRight width field) ++ [' ']

/-- An entry that a link leads to, with the link's name. -/
def targetOf (disk : FileSystem) (e : Entry) : Option Entry :=
  (disk.find ("/" ++ Location.text e.loc)).toOption.map fun (loc, node) => ⟨e.name, loc, node⟩

/-- The name of an entry with what stands after it. -/
def named (l : Listing) (disk : FileSystem) (e : Entry) : Octets :=
  let name := l.painted disk e (l.nameShown e.name)
  match l.arrangement, e.node with
  | .long, .link target =>
    let target := Octets.ofString target
    let after := match targetOf disk e with
      | some t =>
        l.painted disk t (l.nameShown target) ++ (if l.mark == .slash then [] else l.markOf disk t)
      | none => l.nameShown target
    name ++ " -> ".toList ++ after
  | _, _ => name ++ l.markOf disk e

/-- Entries as they are listed; the fields of others are counted in when it comes to their
widths. -/
def shownAll (l : Listing) (disk : FileSystem) (now : Int) (entries others : List Entry) : Octets :=
  let rows := entries.map (l.fields disk now)
  let widths := fieldWidths (rows ++ others.map (l.fields disk now))
  let fields := if l.arrangement == .commas then
      rows.map fun row => row.flatMap fun (field, _) => field ++ [' ']
    else aligned widths rows
  let lines := (fields.zip entries).map fun (front, e) => front ++ l.named disk e
  match l.arrangement with
  | .long | .single => lines.flatMap (· ++ [l.ending])
  | .across => Layout.columns ⟨l.width, l.tab, false⟩ lines
  | .down => Layout.columns ⟨l.width, l.tab, true⟩ lines
  | .commas => if lines.isEmpty then [] else Layout.separated l.width 0 lines

/-! ### Directories -/

/-- The name is left out of a listing. -/
def omits (l : Listing) (name : Octets) : Bool :=
  (!l.hidden && name.head? == some '.')
    || (!l.hidden && l.unlisted.any fun p => Wildcard.accepts p name)
    || l.ignored.any fun p => Wildcard.accepts p name

/-- The entries of a directory. -/
def inside (l : Listing) (disk : FileSystem) (loc : Location) : List Entry :=
  let own := if l.own then
      [⟨['.'], loc, .directory⟩, ⟨['.', '.'], loc.dropLast, .directory⟩].filter fun e : Entry =>
        !l.ignored.any fun p => Wildcard.accepts p e.name
    else []
  let children := (disk.children loc).filterMap fun (name, node) =>
    let shown := Octets.ofString name
    if l.omits shown then none else some ⟨shown, loc ++ [name], node⟩
  own ++ children

end Listing

namespace Tool

/-- Entries that are followed, when links are; what leads nowhere is complained about. -/
def followed (l : Listing) (place : Octets) (entries : List Entry) : Tool (List Entry × Bool) := do
  let disk := (← get).disk
  let needed := l.arrangement == .long || l.blocks || l.mark == .all
  let mut found : List Entry := []
  let mut fine := true
  for e in entries do
    match l.following == .always, e.node, Listing.targetOf disk e with
    | true, .link _, some t => found := t :: found
    | true, .link _, none =>
      if needed then
        let path := if place == ['.'] then e.name else place ++ '/' :: e.name
        blame s!"cannot access {quoted path}: No such file or directory"
        fine := false
      found := e :: found
    | _, _, _ => found := e :: found
  return (found.reverse, fine)

/-- Lists directories one after another; what stands in them is put in front of the rest when that
is asked for. The value tells whether all went well. -/
def listDirectories (l : Listing) (titled : Bool) (fuel : Nat) (first : Bool) :
    List (Octets × Location) → Tool Bool
  | [] => return true
  | (path, loc) :: rest =>
    match fuel with
    | 0 => return true
    | fuel + 1 => do
      let b ← get
      let (entries, fine) ← followed l path (l.sorted b.disk (l.inside b.disk loc))
      if titled then
        let ending := [':', '\n']
        say ((if first then [] else ['\n']) ++ l.nameShown path ++ ending)
      if l.arrangement == .long || l.blocks then
        let total := entries.foldl (fun n e => n + e.blocks * 512) 0
        say ("total ".toList ++ Octets.ofString (l.blockMeasure.shown total) ++ [l.ending])
      say (l.shownAll b.disk b.now entries [])
      let below := if l.recursive then
          entries.filterMap fun e =>
            let slash : Octets := if path.getLast? == some '/' then [] else ['/']
            if e.node == .directory && e.name != ['.'] && e.name != ['.', '.'] then
              some (path ++ slash ++ e.name, e.loc)
            else none
        else []
      return (← listDirectories l titled fuel false (below ++ rest)) && fine

/-- Lists entries and what stands in directories. -/
def listAll (l : Listing) (immediate : Bool) (names : List Octets) : Tool Nat := do
  let b ← get
  let given := if names.isEmpty then [['.']] else names
  let mut entries : List Entry := []
  let mut status := 0
  for name in given do
    let followed : Except SystemError Entry := do
      let own ← Entry.at? b.disk false name
      match l.following with
      | .never => return own
      | .directoriesGiven =>
        match Entry.at? b.disk true name with
        | .ok e => return if e.node == .directory then e else own
        | .error _ => return own
      | .given => return (Entry.at? b.disk true name).toOption.getD own
      | .always => Entry.at? b.disk true name
    match followed with
    | .ok e => entries := e :: entries
    | .error cause =>
      blame s!"cannot access {quoted name}: {reason cause}"
      status := 2
  let sorted := l.sorted b.disk entries.reverse
  let (directories, files) := if immediate then ([], sorted)
    else sorted.partition fun e => e.node == .directory
  say (l.shownAll b.disk b.now files directories)
  let titled := l.recursive || given.length > 1 || !files.isEmpty
  let fine ← listDirectories l titled (b.disk.entries.length * (given.length + 1) + 1) files.isEmpty
    (directories.map fun e => (e.name, e.loc))
  return if status != 0 then status else if fine then 0 else 1

/-- What listings know. -/
def listingKnown : String :=
  "a,all A,almost-all author b,escape block-size: B,ignore-backups c C color:: d,directory D,dired f "
    ++ "F,classify:: file-type format: full-time g group-directories-first G,no-group h,human-readable "
    ++ "si H,dereference-command-line dereference-command-line-symlink-to-dir hide: hyperlink:: "
    ++ "indicator-style: i,inode I,ignore: k,kibibytes l L,dereference m n,numeric-uid-gid N,literal o p "
    ++ "q,hide-control-chars show-control-chars Q,quote-name quoting-style: r,reverse R,recursive "
    ++ "s,size S sort: t time: time-style: T,tabsize: u U v w,width: x X Z,context zero 1"

/-- The names of the ways to quote. -/
def nameStyles : Choice NameStyle where
  called := "--quoting-style"
  values := [(["literal"], .literal), (["shell"], .shell false false),
    (["shell-always"], .shell true false), (["shell-escape"], .shell false true),
    (["shell-escape-always"], .shell true true), (["c"], .string true),
      (["c-maybe"], .string false),
    (["escape"], .escaped), (["locale"], .marked), (["clocale"], .string true)]

/-- The names of the ways to sort. -/
def listingOrders : Choice ListingOrder where
  called := "--sort"
  values := [(["none"], .nothing), (["time"], .time), (["size"], .size), (["extension"], .ending),
    (["version"], .version), (["width"], .width)]

/-- The names of arrangements. -/
def arrangements : Choice Arrangement where
  called := "--format"
  values := [(["verbose", "long"], .long), (["commas"], .commas),
    (["horizontal", "across"], .across),
    (["vertical"], .down), (["single-column"], .single)]

/-- The names of marks. -/
def kindMarks : Choice KindMark where
  called := "--indicator-style"
  values := [(["none"], .none), (["slash"], .slash), (["file-type"], .kind), (["classify"], .all)]

/-- The names for when something is done; whether that is so without a terminal. -/
def occasions (option : String) : Choice Bool where
  called := option
  values := [(["always", "yes", "force"], true), (["never", "no", "none"], false),
    (["auto", "tty", "if-tty"], false)]

/-- The names of times. -/
def timeKinds : Choice Unit where
  called := "--time"
  values := [(["atime", "access", "use"], ()), (["ctime", "status"], ()),
    (["mtime", "modification"], ()), (["birth", "creation"], ())]

/-- The terminal of an environment is one that knows colours. -/
def knowsColours (environment : List (Octets × Octets)) : Bool :=
  let value (name : String) : Octets := (environment.lookup name.toList).getD []
  let terminal := (value "TERM").toText
  !(value "LS_COLORS").isEmpty || !(value "COLORTERM").isEmpty
    || ["Eterm", "ansi", "console", "cygwin", "dtterm", "gnome", "hurd", "jfbterm", "konsole",
      "kterm",
        "linux", "linux-c", "mlterm", "putty", "st", "terminator", "vt100", "vt220",
          "cons25"].contains terminal
    || (["rxvt", "screen", "tmux", "xterm"].any fun start => terminal.startsWith start)
    || ["color", "direct"].any fun part => (terminal.splitOn part).length > 1

/-- The styles of times are no abbreviations, so that they have a complaint of their own. -/
def timeStyleOf (o : Options) : Tool (Option Octets) := do
  let given :=
    if o.last? ["full-time", "time-style"] == some "full-time" then some "full-iso".toList
    else o.value? "time-style"
  match given with
  | none => return some "locale".toList
  | some text =>
    let bare : Octets := if "posix-".toList.isPrefixOf text then text.drop 6 else text
    if text.head? == some '+' then return some text
    match ["full-iso", "long-iso", "iso", "locale"].find? (·.startsWith bare.toText) with
    | some style =>
      return some (if bare.length < text.length then "locale".toList else style.toList)
    | none =>
      let _ ← refuse 2 (s!"invalid argument {quoted text} for 'time style'\nValid arguments are:\n"
        ++ "  - [posix-]full-iso\n  - [posix-]long-iso\n  - [posix-]iso\n  - [posix-]locale\n"
        ++ "  - +FORMAT (e.g., +%H:%M) for a 'date'-style format")
      return none

/-- A number that an option gives. -/
def sizeOption (o : Options) (option what : String) (usual : Nat) : Tool (Option Nat) := do
  match o.value? option with
  | none => return some usual
  | some text =>
    match natural? text with
    | some n => return some n
    | none =>
      blame s!"invalid {what}: {quoted text}"
      return none

/-- Lists directories, in an arrangement and with quoted names when nothing else is said. -/
def list (usual : Arrangement) (usualStyle : NameStyle) : List Octets → Tool Nat :=
  withOptions listingKnown 2 fun o => do
  let some quoting ← chosen nameStyles o "quoting-style" .literal | return 1
  let some wordOrder ← chosen listingOrders o "sort" .name | return 1
  let some wordArrangement ← chosen arrangements o "format" .single | return 1
  let some wordMark ← chosen kindMarks o "indicator-style" .none | return 1
  let some _ ← chosen timeKinds o "time" () | return 1
  let timing (option word : String) : Tool (Option Bool) :=
    if (o.value? option).any (!·.isEmpty) then chosen (occasions word) o option false
    else return some (o.has option)
  let some coloured ← timing "color" "--color" | return 1
  let coloured := coloured && knowsColours (← get).environment
  let some classified ← timing "F" "--classify" | return 1
  let some width ← sizeOption o "w" "line width" 80 | return 2
  let some tab ← sizeOption o "T" "tab size" 8 | return 2
  let some timeStyle ← timeStyleOf o | return 2
  let unitText := (o.value? "block-size").getD []
  let measure := (o.value? "block-size").map Measure.read?
  if let some none := measure then
    blame s!"invalid --block-size argument {quoted unitText}"
    return 2
  let long := ["l", "g", "o", "n", "full-time"]
  let arrangement := match o.last? (long ++ ["C", "x", "m", "format"]) with
    | some "C" => .down
    | some "x" => .across
    | some "m" => .commas
    | some "format" => wordArrangement
    | some _ => .long
    | none => if o.has "1" then .single else usual
  let arrangement := if o.has "zero" && arrangement != .long then .single else arrangement
  let order := match o.last? ["S", "t", "X", "v", "U", "f", "sort"] with
    | some "S" => .size
    | some "t" => .time
    | some "X" => .ending
    | some "v" => .version
    | some "sort" => wordOrder
    | some _ => .nothing
    | none => .name
  let mark := match o.last? ["F", "p", "file-type", "indicator-style"] with
    | some "F" => if classified then .all else .none
    | some "p" => .slash
    | some "file-type" => .kind
    | some _ => wordMark
    | none => .none
  let following := match o.last? ["L", "H", "dereference-command-line-symlink-to-dir"] with
    | some "L" => Following.always
    | some "H" => .given
    | some _ => .directoriesGiven
    | none =>
      if o.has "d" || mark == .all || arrangement == .long then .never else .directoriesGiven
  let style := match o.last? ["Q", "b", "N", "quoting-style", "zero"] with
    | some "Q" => .string true
    | some "b" => .escaped
    | some "quoting-style" => quoting
    | some _ => .literal
    | none => usualStyle
  let sizes := match o.last? ["h", "si", "block-size"] with
    | some "h" => some (Measure.scaled 1024)
    | some "si" => some (.scaled 1000)
    | some _ => measure.join
    | none => none
  let patterns (name : String) : List (List Wildcard) := (o.values name).map fun text =>
    Wildcard.ofMarked (text.map fun c => (c, true))
  let backups := if o.has "B" then
      ["*~", ".*~"].map fun text => Wildcard.ofMarked (text.toList.map fun c => (c, true))
    else []
  let hiddenBy := o.last? ["a", "A", "f"]
  let l : Listing :=
    { arrangement, style, order
      reversed := o.has "r"
      directoriesFirst := o.has "group-directories-first"
      mark, following
      hidden := hiddenBy.isSome
      own := hiddenBy.any (· != "A")
      ignored := patterns "I" ++ backups
      unlisted := patterns "hide"
      recursive := o.has "R" && !o.has "d"
      blocks := o.has "s"
      numbers := o.has "i"
      coloured
      owner := !o.has "g"
      group := !(o.has "o" || o.has "G")
      author := o.has "author"
      context := o.has "Z"
      numeric := o.has "n"
      blockMeasure := sizes.getD (.units 1024 "")
      sizeMeasure := sizes.getD (.units 1 "")
      timeStyle, width, tab
      masked := o.last? ["q", "show-control-chars"] == some "q"
      ending := if o.has "zero" then '\x00' else '\n' }
  let before := (← get).written
  let status ← listAll l (o.has "d") o.operands
  if coloured then
    modify fun b =>
      let (after, old) := b.written.splitAt (b.written.length - before.length)
      let isColoured (piece : Channel × Octets) : Bool :=
        piece.1 == .output && piece.2.contains '\x1b'
      match after.reverse.findIdx? isColoured with
      | none => b
      | some i =>
        let pieces := after.reverse.modify i fun (channel, text) =>
          (channel, text.takeWhile (· != '\x1b') ++ "\x1b[0m".toList
            ++ text.dropWhile (· != '\x1b'))
        { b with written := pieces.reverse ++ old }
  return status

end Tool

end Codemod.Shell
