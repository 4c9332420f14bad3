import Codemod.Shell.Tool.Format
import Codemod.Shell.Tool.Lines

/-!
# Sorting

- `SortKey`, `SortKey.of` — the parts of lines by which they are sorted
- `SortOrder.compare` — the order of two lines
- `Tool.sort` — lines in order
-/

namespace Codemod.Shell

/-- How two texts are compared. -/
structure Collation where
  /-- Blanks at the front do not count. -/
  skipsBlanks : Bool := false
  /-- Only blanks, letters and digits count. -/
  dictionary : Bool := false
  /-- Small letters count as capital ones. -/
  folds : Bool := false
  /-- Only what can be printed counts. -/
  printable : Bool := false
  /-- The letter of another kind of comparison. -/
  kind : Option Char := none
  reversed : Bool := false

/-- A part of lines by which they are sorted. -/
structure SortKey where
  /-- Fields and characters that lie before it. -/
  startField : Nat
  startChar : Nat := 0
  /-- Fields up to its end, and characters of the one after them. -/
  stop : Option (Nat × Nat) := none
  stopSkipsBlanks : Bool := false
  collation : Collation := {}
  /-- It has no letters of its own. -/
  isPlain : Bool := true

/-- How lines are sorted. -/
structure SortOrder where
  keys : List SortKey := []
  separator : Option Char := none
  collation : Collation := {}
  stable : Bool := false
  unique : Bool := false

namespace Collation

/-- The collation with a letter; none when the letter means nothing. -/
def with? (c : Collation) : Char → Option Collation
  | 'b' => some { c with skipsBlanks := true }
  | 'd' => some { c with dictionary := true }
  | 'f' => some { c with folds := true }
  | 'i' => some { c with printable := true }
  | 'r' => some { c with reversed := true }
  | k => if "nghMVR".toList.contains k then some { c with kind := some k } else none

/-- Blanks between fields. -/
def isBlank (c : Char) : Bool := c == ' ' || c == '\t' || c == '\n'

/-- The order of two numbers, by their signs and quotients. -/
def compareRatio (a b : Ratio) : Ordering :=
  match a, b with
  | .nan _, .nan _ => .eq
  | .nan _, _ => .lt
  | _, .nan _ => .gt
  | .infinite x, .infinite y => compare y x
  | .infinite x, _ => if x then .lt else .gt
  | _, .infinite y => if y then .gt else .lt
  | .quotient x m p, .quotient y n q =>
    let signed (negative : Bool) (n : Nat) : Int := if negative then -(n : Int) else n
    compare (signed x m * q) (signed y n * p)

/-- The decimal number at the front of a text; zero when there is none. -/
def plainNumber (cs : Octets) : Ratio × Octets :=
  let cs := cs.dropWhile isBlank
  let (negative, ds) := match cs with
    | '-' :: ds => (true, ds)
    | ds => (false, ds)
  let (whole, rest) := ds.span Char.isDigit
  let (fraction, rest) := match rest with
    | '.' :: after => after.span Char.isDigit
    | rest => ([], rest)
  (.quotient negative ((Tool.natural? (whole ++ fraction)).getD 0) (10 ^ fraction.length), rest)

/-- The rank of a unit after a number. -/
def unitRank (cs : Octets) : Nat :=
  match cs with
  | 'k' :: _ => 1
  | c :: _ => ("KMGTPEZYRQ".toList.idxOf? c).elim 0 (· + 1)
  | [] => 0

/-- The order of numbers with units. -/
def compareUnits (a b : Octets) : Ordering :=
  let (x, after) := plainNumber a
  let (y, behind) := plainNumber b
  let rank (r : Ratio) (rest : Octets) : Int :=
    match r with
    | .quotient negative n _ =>
      if n == 0 then 0
      else if negative then -((unitRank rest : Int) + 1) else (unitRank rest : Int) + 1
    | _ => 0
  (compare (rank x after) (rank y behind)).then (compareRatio x y)

/-- The number of the month at the front of a text; zero when there is none. -/
def monthOf (cs : Octets) : Nat :=
  let name := ((cs.dropWhile isBlank).take 3).map Char.toUpper
  (["JAN", "FEB", "MAR", "APR", "MAY", "JUN", "JUL", "AUG", "SEP", "OCT", "NOV", "DEC"].idxOf?
    (String.ofList name)).elim 0 (· + 1)

/-- The place of a character among others in the names of versions. -/
def versionRank (c : Char) : Nat :=
  if c.isDigit then 0 else if c.isAlpha then c.toNat else if c == '~' then 0 else c.toNat + 256

/-- The order of the names of versions: numbers in them count as numbers. -/
def compareVersions (fuel : Nat) (a b : Octets) : Ordering :=
  match fuel with
  | 0 => .eq
  | fuel + 1 =>
    if a.isEmpty && b.isEmpty then .eq
    else
      let (x, a) := a.span (!·.isDigit)
      let (y, b) := b.span (!·.isDigit)
      let rank (cs : Octets) (i : Nat) : Int :=
        match cs[i]? with
        | some '~' => -1
        | some c => versionRank c
        | none => 0
      let letters := (List.range (max x.length y.length)).foldl
        (fun o i => o.then (compare (rank x i) (rank y i))) Ordering.eq
      let (m, a) := a.span Char.isDigit
      let (n, b) := b.span Char.isDigit
      let number (ds : Octets) : Nat := (Tool.natural? ds).getD 0
      (letters.then (compare (number m) (number n))).then (compareVersions fuel a b)

/-- The order of two texts as they stand. -/
def compareTexts (a b : Octets) : Ordering := compare (String.ofList a) (String.ofList b)

/-- The order of two texts. -/
def compareAs (c : Collation) (a b : Octets) : Ordering :=
  let found :=
    match c.kind with
    | some 'n' => compareRatio (plainNumber a).1 (plainNumber b).1
    | some 'g' =>
      match Ratio.read? a, Ratio.read? b with
      | none, none => .eq
      | none, some _ => .lt
      | some _, none => .gt
      | some (x, _), some (y, _) => compareRatio x y
    | some 'h' => compareUnits a b
    | some 'M' => compare (monthOf a) (monthOf b)
    | some 'V' => (compareVersions (a.length + b.length + 2) a b).then (compareTexts a b)
    | _ =>
      let seen (cs : Octets) : Octets :=
        let cs := if c.dictionary then cs.filter fun d => isBlank d || d.isAlphanum else cs
        let cs := if c.printable then cs.filter Quote.isPrintable else cs
        if c.folds then cs.map Char.toUpper else cs
      compareTexts (seen a) (seen b)
  if c.reversed then found.swap else found

end Collation

namespace SortKey

/-- How many octets of a line lie before so many fields have passed; a separator that follows the
last one belongs to it only when more is wanted of the line. -/
def pastFields (separator : Option Char) (more : Bool) (fields : Nat) (line : Octets) : Octets :=
  match fields with
  | 0 => line
  | fields + 1 =>
    match separator with
    | some c =>
      match line.dropWhile (· != c) with
      | [] => []
      | separated@(_ :: rest) =>
        if fields == 0 && !more then separated else pastFields separator more fields rest
    | none =>
      pastFields separator more fields
        ((line.dropWhile Collation.isBlank).dropWhile fun c => !Collation.isBlank c)

/-- The part of a line that a key means. -/
def of (separator : Option Char) (line : Octets) (k : SortKey) : Octets :=
  let start := pastFields separator true k.startField line
  let start := if k.collation.skipsBlanks then start.dropWhile Collation.isBlank else start
  let start := start.drop k.startChar
  match k.stop with
  | none => start
  | some (fields, chars) =>
    let rest :=
      if chars == 0 then pastFields separator false (fields + 1) line
      else
        let rest := pastFields separator true fields line
        let rest := if k.stopSkipsBlanks then rest.dropWhile Collation.isBlank else rest
        rest.drop chars
    start.take (start.length - rest.length)

/-- The number at the front of a text. -/
def countAt (cs : Octets) : Option (Nat × Octets) :=
  let (ds, rest) := cs.span Char.isDigit
  (Tool.natural? ds).map fun n => (n, rest)

/-- The key that a text describes, or what is wrong with it. -/
def read (text : Octets) : Except String SortKey := do
  let invalid (what : String) (place : Octets) : Except String SortKey :=
    .error s!"{what}: invalid count at start of {String.ofList (Quote.always place)}"
  let letters (c : Collation) (cs : Octets) : Except String (Collation × Octets) :=
    let (ls, rest) := cs.span "bdfgiMhnRrV".toList.contains
    match ls.foldlM Collation.with? c with
    | some c => .ok (c, rest)
    | none => .error "invalid"
  let (field, rest) ← match countAt text with
    | some found => pure found
    | none => return ← invalid "invalid number at field start" text
  if field == 0 then
    throw s!"-: invalid field specification {String.ofList (Quote.always text)}"
  let (char, rest) ← match rest with
    | '.' :: more =>
      match countAt more with
      | some (0, _) =>
        throw s!"character offset is zero: invalid field specification {String.ofList (Quote.always text)}"
      | some found => pure found
      | none => return ← invalid "invalid number after '.'" more
    | rest => pure (1, rest)
  let (collation, rest) ← letters {} rest
  let key : SortKey :=
    { startField := field - 1
      startChar := char - 1
      collation
      isPlain := true }
  let own (before after : Octets) : Bool := before.length == after.length
  let plain := own (text.dropWhile fun c => c.isDigit || c == '.') rest
  match rest with
  | [] => return { key with isPlain := plain }
  | ',' :: more =>
    let (field, rest) ← match countAt more with
      | some found => pure found
      | none => return ← invalid "invalid number after ','" more
    if field == 0 then
      throw s!"field number is zero: invalid field specification {String.ofList (Quote.always text)}"
    let (char, rest) ← match rest with
      | '.' :: more =>
        match countAt more with
        | some found => pure found
        | none => return ← invalid "invalid number after '.'" more
      | rest => pure (0, rest)
    let (ending, after) ← letters { collation with skipsBlanks := false } rest
    if !after.isEmpty then
      throw s!"stray character in field spec: invalid field specification {String.ofList (Quote.always text)}"
    return { key with
      stop := some (field - 1, char)
      stopSkipsBlanks := ending.skipsBlanks
      collation := { ending with skipsBlanks := collation.skipsBlanks }
      isPlain := plain && own rest after }
  | _ =>
    throw s!"stray character in field spec: invalid field specification {String.ofList (Quote.always text)}"

end SortKey

namespace SortOrder

/-- The order of two lines by the keys. -/
def compareKeys (o : SortOrder) (a b : Octets) : Ordering :=
  match o.keys with
  | [] =>
    let bare (cs : Octets) : Octets :=
      if o.collation.skipsBlanks then cs.dropWhile Collation.isBlank else cs
    o.collation.compareAs (bare a) (bare b)
  | keys =>
    keys.foldl
      (fun found k =>
        match found with
        | .eq => k.collation.compareAs (k.of o.separator a) (k.of o.separator b)
        | found => found)
      .eq

/-- The order of two lines. Lines that the keys do not tell apart are compared as a whole, unless
their places count. -/
def compare (o : SortOrder) (a b : Octets) : Ordering :=
  match o.compareKeys a b with
  | .eq =>
    if o.stable || o.unique then .eq
    else
      let found := Collation.compareTexts a b
      if o.collation.reversed then found.swap else found
  | found => found

/-- One of each run of lines that the keys do not tell apart. -/
def withoutRepeats (o : SortOrder) : List Octets → List Octets
  | [] => []
  | a :: rest => a :: go a rest
where
  /-- The lines after one that was kept. -/
  go (kept : Octets) : List Octets → List Octets
    | [] => []
    | b :: rest => if o.compareKeys kept b == .eq then go kept rest else b :: go b rest

/-- The first line that is out of order, by its number. -/
def disorder? (o : SortOrder) (n : Nat) : List Octets → Option (Nat × Octets)
  | a :: b :: rest =>
    let found := o.compare a b
    if found == .gt || (o.unique && found == .eq) then some (n + 1, b)
    else disorder? o (n + 1) (b :: rest)
  | _ => none

end SortOrder

namespace Tool

/-- The order that options ask for. -/
def orderOf (o : Options) : Except String SortOrder := do
  let letters := ["b", "d", "f", "i", "n", "g", "h", "M", "V", "R", "r"].filter o.has
  let kind := match o.value? "sort" with
    | some word =>
      match String.ofList word with
      | "numeric" => some 'n'
      | "general-numeric" => some 'g'
      | "human-numeric" => some 'h'
      | "month" => some 'M'
      | "version" => some 'V'
      | _ => none
    | none => none
  let global :=
    letters.foldl (fun c l => (c.with? (l.toList.headD 'b')).getD c) ({ kind } : Collation)
  let keys ← (o.values "k").mapM SortKey.read
  let keys := keys.map fun k =>
    if k.isPlain then { k with collation := global, stopSkipsBlanks := global.skipsBlanks } else k
  let separator ← match o.value? "t" with
    | none => pure none
    | some ['\\', '0'] => pure (some '\x00')
    | some [c] => pure (some c)
    | some [] => throw "empty tab"
    | some text => throw s!"multi-character tab {quoted text}"
  return { keys, separator, collation := global, stable := o.has "s", unique := o.has "u" }

/-- The lines of some files, or the name of one that cannot be read and why. -/
def sortSources (delimiter : Char) : List Octets → Tool (Except String (List Octets))
  | [] => return .ok []
  | name :: rest => do
    match ← contentOf name with
    | .error cause =>
      return .error (if cause == .isDirectory then s!"read failed: {shown name}: Is a directory"
        else s!"cannot read: {shown name}: {reason cause}")
    | .ok text =>
      match ← sortSources delimiter rest with
      | .ok lines => return .ok (Octets.pieces delimiter text ++ lines)
      | .error e => return .error e

/-- Sorts lines, to the output or into a file. -/
def sort : List Octets → Tool Nat :=
  withOptions
    ("b,ignore-leading-blanks d,dictionary-order f,ignore-case i,ignore-nonprinting "
      ++ "n,numeric-sort g,general-numeric-sort h,human-numeric-sort M,month-sort V,version-sort "
      ++ "R,random-sort r,reverse s,stable u,unique c,check:: C m,merge o,output: k,key: "
      ++ "t,field-separator: z,zero-terminated S,buffer-size: T,temporary-directory: sort: parallel: "
      ++ "files0-from: batch-size: compress-program: random-source: debug") 2 fun o => do
  match orderOf o with
  | .error text =>
    blame text
    return 2
  | .ok order =>
    let delimiter := if o.has "z" then '\x00' else '\n'
    match ← sortSources delimiter o.sources with
    | .error text =>
      blame text
      return 2
    | .ok lines =>
      if o.has "c" || o.has "C" then
        match order.disorder? 1 lines with
        | none => return 0
        | some (n, line) =>
          if !o.has "C" && !(["quiet", "silent"].contains (String.ofList ((o.value? "c").getD []))) then
            blame s!"{(o.sources.headD []).toText}:{n}: disorder: {line.toText}"
          return 1
      let sorted := lines.mergeSort fun a b => order.compare a b != .gt
      let sorted := if order.unique then order.withoutRepeats sorted else sorted
      let text := sorted.flatMap (· ++ [delimiter])
      match o.value? "o" with
      | none =>
        say text
        return 0
      | some path =>
        match ← store path.toText text with
        | .ok () => return 0
        | .error cause =>
          blame s!"open failed: {shown path}: {reason cause}"
          return 2

end Tool

end Codemod.Shell

/-!
## Lines in any order

- `Tool.shuffle` — lines in an order that is not theirs
-/

namespace Codemod.Shell.Tool

/-- The numbers below another one in some order: each is taken from what is left, at a place that is
computed from a seed. -/
def anyOrder {α : Type} (fuel seed : Nat) (xs : List α) : List α :=
  match fuel, xs with
  | 0, _ | _, [] => []
  | fuel + 1, x :: rest =>
    let place := seed / 7 % (rest.length + 1)
    let seed := (seed * 1103515245 + 12345) % 2 ^ 31
    (x :: rest).getD place x :: anyOrder fuel seed ((x :: rest).eraseIdx place)

/-- The range of a text. -/
def range? (text : Octets) : Option (Nat × Nat) := do
  let (low, rest) := text.span Char.isDigit
  let low ← natural? low
  match rest with
  | '-' :: high =>
    let high ← natural? high
    if high + 1 < low then none else some (low, high)
  | _ => none

/-- Prints lines in any order. -/
def shuffle : List Octets → Tool Nat :=
  withOptions ("e,echo i,input-range: n,head-count: o,output: random-source: r,repeat "
    ++ "z,zero-terminated") 1 fun o => do
  let ending := if o.has "z" then '\x00' else '\n'
  if o.has "e" && o.has "i" then return ← refuse 1 "cannot combine -e and -i options"
  let most ← match o.value? "n" with
    | none => pure none
    | some text =>
      match natural? text with
      | some n => pure (some n)
      | none =>
        blame s!"invalid line count: {quoted text}"
        return 1
  let lines : List Octets ← match o.has "e", o.value? "i", o.operands with
    | true, _, operands => pure operands
    | _, some text, operands =>
      match range? text, operands with
      | none, _ =>
        blame s!"invalid input range: {quoted text}"
        return 1
      | some _, extra :: _ => return ← extraOperand 1 extra
      | some (low, high), [] =>
        pure ((List.range (high + 1 - low)).map fun i => Octets.ofNat (low + i))
    | _, none, _ :: extra :: _ => return ← extraOperand 1 extra
    | _, none, operands =>
      let name := operands.headD ['-']
      match ← contentOf name with
      | .ok text => pure (Octets.pieces ending text)
      | .error cause =>
        blameFor name cause
        return 1
  let seed := ((← get).now / 1000).toNat % 2 ^ 31 + lines.length
  let mixed := anyOrder lines.length seed lines
  let chosen := if o.has "r" then
      (List.range (most.getD 1000)).map fun i => mixed.getD ((i * i + i) % (max 1 mixed.length)) []
    else mixed.take (most.getD mixed.length)
  let text := chosen.flatMap (· ++ [ending])
  match o.value? "o" with
  | none =>
    say text
    return 0
  | some path =>
    match ← store path.toText text with
    | .ok () => return 0
    | .error cause =>
      blameFor path cause
      return 1

end Codemod.Shell.Tool
