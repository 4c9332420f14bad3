import Codemod.Shell.Tool.Sort

/-!
# Lines beside each other

- `Tool.unique` — lines that equal the one before
- `Tool.common` — lines of two files in order
- `Tool.join` — lines of two files with a field in common
- `Tool.topological` — words in an order that respects pairs
-/

namespace Codemod.Shell.Tool

/-! ### Runs of equal lines -/

/-- The part of a line that counts when lines are compared. -/
def comparedPart (o : Options) (line : Octets) : Octets :=
  let number (name : String) : Option Nat := (o.value? name).bind natural?
  let line := SortKey.pastFields none true ((number "f").getD 0) line
  let line := line.drop ((number "s").getD 0)
  let line := match number "w" with
    | some n => line.take n
    | none => line
  if o.has "i" then line.map Char.toLower else line

/-- Lines in runs that are the same. -/
def runs (same : Octets → Octets → Bool) : List Octets → List (List Octets)
  | [] => []
  | line :: rest =>
    match runs same rest with
    | (next :: more) :: others =>
      if same line next then (line :: next :: more) :: others
      else [line] :: (next :: more) :: others
    | others => [line] :: others

/-- Prints one of each run of equal lines. -/
def unique : List Octets → Tool Nat :=
  withOptions
    ("c,count d,repeated D all-repeated:: u,unique i,ignore-case f,skip-fields: s,skip-chars: "
      ++ "w,check-chars: z,zero-terminated group::") 1 fun o => do
  match o.operands[2]? with
  | some extra => return ← extraOperand 1 extra
  | none => pure ()
  for (name, what) in [("f", "fields to skip"), ("s", "bytes to skip"),
    ("w", "bytes to compare")] do
    match (o.value? name).filter fun v => (natural? v).isNone with
    | some value =>
      blame s!"{value.toText}: invalid number of {what}"
      return 1
    | none => pure ()
  let source := o.operands.headD ['-']
  match ← contentOf source with
  | .error cause =>
    if cause == .isDirectory then blame s!"error reading {quoted source}"
    else blameFor source cause
    return 1
  | .ok text =>
    let delimiter := if o.has "z" then '\x00' else '\n'
    let found :=
      runs (fun a b => comparedPart o a == comparedPart o b) (Octets.pieces delimiter text)
    let all := o.has "D" || o.has "all-repeated"
    let kept := found.filter fun run =>
      (!(o.has "d" || all) || run.length > 1) && (!o.has "u" || run.length == 1)
    let front (run : List Octets) : Octets :=
      if o.has "c" then Octets.padLeft 7 (Octets.ofNat run.length) ++ [' '] else []
    let pieces :=
      if all || o.has "group" then
        let groups := kept.map fun run => run.flatMap (· ++ [delimiter])
        let method := String.ofList ((o.value? (if all then "all-repeated" else "group")).getD [])
        let between : List Octets :=
          match method with
          | "prepend" => groups.flatMap fun g => [[delimiter], g]
          | "append" => groups.flatMap fun g => [g, [delimiter]]
          | "both" => [delimiter] :: groups.flatMap fun g => [g, [delimiter]]
          | "separate" => List.intersperse [delimiter] groups
          | _ => if all then groups else List.intersperse [delimiter] groups
        between
      else kept.map fun run => front run ++ run.headD [] ++ [delimiter]
    match o.operands[1]? with
    | none =>
      say pieces.flatten
      return 0
    | some path =>
      match ← store path.toText pieces.flatten with
      | .ok () => return 0
      | .error cause =>
        blameFor path cause
        return 1

/-! ### Two files -/

/-- The two files of a tool, or nothing after a complaint. -/
def twoFiles (o : Options) : Tool (Option (Octets × Octets)) := do
  match o.operands with
  | [a, b] =>
    match ← contentOf a with
    | .error cause =>
      blameFor a cause
      return none
    | .ok x =>
      match ← contentOf b with
      | .error cause =>
        blameFor b cause
        return none
      | .ok y => return some (x, y)
  | [] =>
    let _ ← missingOperand 1
    return none
  | [a] =>
    let _ ← refuse 1 s!"missing operand after {quoted a}"
    return none
  | _ :: _ :: extra :: _ =>
    let _ ← extraOperand 1 extra
    return none

/-- A line of the first file only, of the second only, or of both. -/
inductive Side where
  | first
  | second
  | both
deriving DecidableEq

/-- How the order of lines is checked. -/
inductive OrderCheck where
  | never
  /-- Only after a line that has no partner. -/
  | unpaired
  | always
deriving DecidableEq

/-- What is found when the lines of two files are compared one after another. -/
inductive Finding where
  | line (side : Side) (text : Octets)
  /-- The first or second file is not in order. -/
  | disorder (file : Nat)

/-- One of two files while it is read. -/
structure Strand where
  number : Nat
  /-- The two lines before, latest first. -/
  earlier : List Octets := []
  /-- The current line and those after it. -/
  rest : List Octets
  /-- A line out of order was found. -/
  warned : Bool := false

/-- Goes on to the next line, which must not come before the current one. At the end the two lines
before are looked at again. -/
def Strand.next (s : Strand) (checks : Bool) : Strand × List Finding :=
  match s.rest with
  | [] => (s, [])
  | line :: rest =>
    let pair : Option (Octets × Octets) := match rest, s.earlier with
      | next :: _, _ => some (line, next)
      | [], before :: _ => some (before, line)
      | [], [] => none
    let isDisorder := checks && !s.warned
      && pair.any fun (a, b) => Collation.compareTexts a b == .gt
    ({ s with earlier := line :: s.earlier.take 1, rest, warned := s.warned || isDisorder },
      if isDisorder then [.disorder s.number] else [])

/-- The lines of two files in order, with what is not in order. -/
def findings (check : OrderCheck) (fuel : Nat) (hasUnpaired : Bool) (a b : Strand) : List Finding :=
  match fuel with
  | 0 => []
  | fuel + 1 =>
    let go (side : Side) (text : Octets) : List Finding :=
      let hasUnpaired := hasUnpaired || side != .both
      let checks := check == .always || (check == .unpaired && hasUnpaired)
      let (a, before) := if side == .second then (a, []) else a.next checks
      let (b, after) := if side == .first then (b, []) else b.next checks
      .line side text :: before ++ after ++ findings check fuel hasUnpaired a b
    match a.rest, b.rest with
    | [], [] => []
    | x :: _, [] => go .first x
    | [], y :: _ => go .second y
    | x :: _, y :: _ =>
      match Collation.compareTexts x y with
      | .lt => go .first x
      | .gt => go .second y
      | .eq => go .both y

/-- Prints the lines of two files in columns: those of the first, of the second, of both. -/
def common : List Octets → Tool Nat :=
  withOptions "1 2 3 check-order nocheck-order output-delimiter: total z,zero-terminated" 1 fun o =>
    do
  match ← twoFiles o with
  | none => return 1
  | some (x, y) =>
    let delimiter := if o.has "z" then '\x00' else '\n'
    let as := Octets.pieces delimiter x
    let bs := Octets.pieces delimiter y
    let gap := (o.value? "output-delimiter").getD ['\t']
    let check : OrderCheck := if o.has "nocheck-order" then .never
      else if o.has "check-order" then .always else .unpaired
    let found := findings check (as.length + bs.length + 1) false { number := 1, rest := as }
      { number := 2, rest := bs }
    let indent (ns : List String) : Octets := (ns.filter (!o.has ·)).flatMap fun _ => gap
    let mut isDisorder := false
    for finding in found do
      match finding with
      | .line .first line => if !o.has "1" then say (line ++ [delimiter])
      | .line .second line => if !o.has "2" then say (indent ["1"] ++ line ++ [delimiter])
      | .line .both line => if !o.has "3" then say (indent ["1", "2"] ++ line ++ [delimiter])
      | .disorder file =>
        blame s!"file {file} is not in sorted order"
        if check == .always then return 1
        isDisorder := true
    if o.has "total" then
      let number (s : Side) : Octets :=
        Octets.ofNat (found.countP fun
          | .line side _ => side == s
          | .disorder _ => false)
      say (List.intercalate gap [number .first, number .second, number .both, "total".toList]
        ++ [delimiter])
    if isDisorder then
      blame "input is not in sorted order"
      return 1
    return 0

/-! ### Lines with a field in common -/

/-- The fields of a line. -/
def joinFields (separator : Option Char) (line : Octets) : List Octets :=
  match separator with
  | some c => line.splitOn c
  | none => (line.splitOnP Collation.isBlank).filter (!·.isEmpty)

/-- What a line of output is made of. -/
structure Joining where
  separator : Option Char
  firstKey : Nat
  secondKey : Nat
  /-- File and field of each part; file zero is the common field. -/
  format : Option (List (Nat × Nat))
  empty : Octets
  unpairedFirst : Bool
  unpairedSecond : Bool
  paired : Bool
  caseless : Bool

/-- A line of output. -/
def Joining.line (j : Joining) (key : Octets) (a b : Option (List Octets)) : Octets :=
  let gap := [j.separator.getD ' ']
  let field (fields : Option (List Octets)) (n : Nat) : Octets :=
    match (fields.getD [])[n]? with
    | some text => if text.isEmpty then j.empty else text
    | none => j.empty
  let parts :=
    match j.format with
    | some format => format.map fun (file, n) =>
      if file == 0 then key else if file == 1 then field a n else field b n
    | none =>
      let others (fields : Option (List Octets)) (k : Nat) : List Octets :=
        ((fields.getD []).zipIdx.filter fun (_, i) => i != k).map Prod.fst
      key :: (others a j.firstKey ++ others b j.secondKey)
  List.intercalate gap parts ++ ['\n']

/-- The lines of output for the lines of two files, each with its key. -/
def Joining.lines (j : Joining) (fuel : Nat) (as bs : List (Octets × List Octets)) : List Octets :=
  let seen (k : Octets) : Octets := if j.caseless then k.map Char.toUpper else k
  let onlyFirst (a : Octets × List Octets) : List Octets :=
    if j.unpairedFirst then [j.line a.1 (some a.2) none] else []
  let onlySecond (b : Octets × List Octets) : List Octets :=
    if j.unpairedSecond then [j.line b.1 none (some b.2)] else []
  match fuel, as, bs with
  | 0, _, _ => []
  | _, [], bs => bs.flatMap onlySecond
  | _, as, [] => as.flatMap onlyFirst
  | fuel + 1, a :: as, b :: bs =>
    match Collation.compareTexts (seen a.1) (seen b.1) with
    | .lt => onlyFirst a ++ lines j fuel as (b :: bs)
    | .gt => onlySecond b ++ lines j fuel (a :: as) bs
    | .eq =>
      let (sameA, restA) := (a :: as).span fun x => seen x.1 == seen a.1
      let (sameB, restB) := (b :: bs).span fun x => seen x.1 == seen a.1
      let pairs :=
        if j.paired then
          sameA.flatMap fun x => sameB.map fun y => j.line x.1 (some x.2) (some y.2)
        else []
      pairs ++ lines j fuel restA restB

/-- Prints lines of two files that have a field in common. -/
def join : List Octets → Tool Nat :=
  withOptions
    ("a: e: i,ignore-case j: 1: 2: o: t: v: check-order nocheck-order header z,zero-terminated") 1 fun o => do
  match ← twoFiles o with
  | none => return 1
  | some (x, y) =>
    let number (name : String) : Option Nat := (o.value? name).bind natural?
    let both := number "j"
    let firstKey := ((number "1").or both).getD 1 - 1
    let secondKey := ((number "2").or both).getD 1 - 1
    let separator := (o.value? "t").bind (·.head?)
    let wanted (file : Char) : Bool :=
      (o.values "a").contains [file] || (o.values "v").contains [file]
    let format := (o.value? "o").map fun text =>
      ((text.splitOnP fun c => c == ',' || c == ' ').filter (!·.isEmpty)).map fun part =>
        match part with
        | ['0'] => (0, 0)
        | file :: '.' :: n => (file.toNat - 48, (natural? n).getD 1 - 1)
        | _ => (0, 0)
    let j : Joining :=
      { separator
        firstKey
        secondKey
        format := format.filter fun f => f != [(0, 0)] || o.value? "o" != some "auto".toList
        empty := (o.value? "e").getD []
        unpairedFirst := wanted '1'
        unpairedSecond := wanted '2'
        paired := (o.values "v").isEmpty
        caseless := o.has "i" }
    let rows (key : Nat) (text : Octets) : List (Octets × List Octets) :=
      (Octets.pieces '\n' text).map fun line =>
        let fields := joinFields separator line
        (fields.getD key [], fields)
    let as := rows firstKey x
    let bs := rows secondKey y
    let (heads, as, bs) :=
      if o.has "header" then
        match as, bs with
        | a :: as, b :: bs => ([j.line a.1 (some a.2) (some b.2)], as, bs)
        | as, bs => ([], as, bs)
      else ([], as, bs)
    for line in heads ++ j.lines (as.length + bs.length + 1) as bs do
      say line
    let keys (rows : List (Octets × List Octets)) : List Octets :=
      rows.map fun row => if j.caseless then row.1.map Char.toUpper else row.1
    let mut status := 0
    if !o.has "nocheck-order" then
      let unpaired := (keys as).any (fun k => !(keys bs).contains k)
        || (keys bs).any (fun k => !(keys as).contains k)
      for ((rows, text), name) in [((as, x), o.operands.headD []),
        ((bs, y), o.operands.getD 1 [])] do
        match ({} : SortOrder).disorder? 1 (keys rows) with
        | some (n, _) =>
          if unpaired then
            let n := if o.has "header" then n + 1 else n
            let line : Octets := (Octets.pieces '\n' text).getD (n - 1) []
            blame s!"{name.toText}:{n}: is not sorted: {line.toText}"
            status := 1
        | none => pure ()
      if status != 0 then blame "input is not in sorted order"
    return status

/-! ### Pairs -/

/-- Words in an order in which the first of each pair comes before the second. -/
def ordered (fuel : Nat) (words : List Octets) (pairs : List (Octets × Octets)) : List Octets :=
  match fuel with
  | 0 => []
  | fuel + 1 =>
    let free := words.filter fun w => pairs.all fun (_, b) => b != w
    match free with
    | [] =>
      match words with
      | [] => []
      | w :: rest => w :: ordered fuel rest (pairs.filter fun (a, b) => a != w && b != w)
    | free =>
      let rest := words.filter fun w => !free.contains w
      free ++ ordered fuel rest (pairs.filter fun (a, _) => !free.contains a)

/-- Prints words in an order that respects pairs. -/
def topological : List Octets → Tool Nat :=
  withOptions "" 1 fun o => do
  match ← contentOf (o.operands.headD ['-']) with
  | .error cause =>
    blameFor (o.operands.headD []) cause
    return 1
  | .ok text =>
    let words := (text.splitOnP Collation.isBlank).filter (!·.isEmpty)
    if words.length % 2 == 1 then
      let name := shown (o.operands.headD ['-'])
      blame s!"{name}: input contains an odd number of tokens"
      return 1
    let rec pairs : List Octets → List (Octets × Octets)
      | a :: b :: rest => if a == b then pairs rest else (a, b) :: pairs rest
      | _ => []
    for word in ordered (words.length + 1) words.eraseDups (pairs words).eraseDups do
      say (word ++ ['\n'])
    return 0

end Codemod.Shell.Tool
