import Codemod.Shell.Tool.Lines
import Codemod.Shell.Tool.Options

/-!
# Parts of texts

- `Tool.head`, `Tool.tail` — the beginnings and ends of files
- `Tool.split` — files of so many lines or bytes
- `Tool.blocks` — so many blocks of bytes
-/

namespace Codemod.Shell.Tool

/-- Arguments in which a number after a dash, alone or with letters, is the option of a count. -/
def withCount (arguments : List Octets) : List Octets :=
  match arguments with
  | ('-' :: d :: more) :: rest =>
    if d.isDigit then
      let (ds, letters) := (d :: more).span Char.isDigit
      let unit := if letters.contains 'c' then ['-', 'c'] else ['-', 'n']
      let others := letters.filter fun c => c != 'c' && c != 'l' && c != 'n'
      unit :: ds :: (if others.isEmpty then rest else ('-' :: others) :: rest)
    else arguments
  | arguments => arguments

/-- The header over a part of a file, when there are several. -/
def partHeader (first : Bool) (name : Octets) : Octets :=
  let name := if name == ['-'] then "standard input".toList else name
  (if first then [] else ['\n']) ++ "==> ".toList ++ name ++ " <==\n".toList

/-- What is to be taken of files. -/
structure Portion where
  bytes : Bool
  amount : Size.Amount
  delimiter : Char

/-- The portion that options ask for; or the value that is none. -/
def portion (o : Options) : Except (String × Octets) Portion :=
  let delimiter := if o.has "z" then '\x00' else '\n'
  match o.last? ["n", "c"] with
  | none => .ok ⟨false, ⟨10, none⟩, delimiter⟩
  | some unit =>
    let text := (o.value? unit).getD []
    match Size.amount? text with
    | some amount => .ok ⟨unit == "c", amount, delimiter⟩
    | none => .error (if unit == "c" then "bytes" else "lines", text)

/-- Prints the beginnings of files. -/
def head (arguments : List Octets) : Tool Nat :=
  withOptions "n,lines: c,bytes: q,quiet,silent v,verbose z,zero-terminated" 1 (fun o => do
    match portion o with
    | .error (what, text) =>
      blame s!"invalid number of {what}: {quoted text}"
      return 1
    | .ok p =>
      let enough (text : Octets) : Bool :=
        p.amount.sign != some '-'
          && p.amount.count ≤ (if p.bytes then text.length else text.count p.delimiter)
      let headed :=
        (o.sources.length > 1 && o.last? ["q", "v"] != some "q") || o.last? ["q", "v"] == some "v"
      let mut first := true
      let mut status := 0
      for name in o.sources do
        let disk := (← get).disk
        match ← contentUpTo enough name with
        | .error cause =>
          if cause == .isDirectory then
            if headed && disk.isDirectory name.toText then say (partHeader first name)
            blame s!"error reading {quoted name}: Is a directory"
          else blame s!"cannot open {quoted name} for reading: {reason cause}"
          status := 1
        | .ok text =>
          if headed then say (partHeader first name)
          first := false
          let n := p.amount.count
          let dropped := p.amount.sign == some '-'
          let taken :=
            if p.bytes then text.take (if dropped then text.length - n else n)
            else
              let records := Octets.records p.delimiter text
              (records.take (if dropped then records.length - n else n)).flatten
          say taken
          if isInput name then
            leave (text.drop taken.length)
            if p.bytes && !dropped then modify fun b => { b with exact := true }
      return status) (withCount arguments)

/-- Prints the ends of files. -/
def tail (arguments : List Octets) : Tool Nat :=
  let arguments := match withCount arguments with
    | ('+' :: ds) :: rest =>
      if !ds.isEmpty && ds.all Char.isDigit then ['-', 'n'] :: ('+' :: ds) :: rest
      else ('+' :: ds) :: rest
    | arguments => arguments
  withOptions
    ("n,lines: c,bytes: q,quiet,silent v,verbose z,zero-terminated f,follow:: F retry pid: "
      ++ "s,sleep-interval: max-unchanged-stats:") 1 (fun o => do
    match portion o with
    | .error (what, text) =>
      blame s!"invalid number of {what}: {quoted text}"
      return 1
    | .ok p =>
      let headed :=
        (o.sources.length > 1 && o.last? ["q", "v"] != some "q") || o.last? ["q", "v"] == some "v"
      let mut first := true
      let mut status := 0
      for name in o.sources do
        match ← contentOf name with
        | .error cause =>
          if cause == .isDirectory then
            if headed then say (partHeader first name)
            first := false
            blame s!"error reading {quoted name}: Is a directory"
          else blame s!"cannot open {quoted name} for reading: {reason cause}"
          status := 1
        | .ok text =>
          if headed then say (partHeader first name)
          first := false
          let n := p.amount.count
          let fromStart := p.amount.sign == some '+'
          say (if p.bytes then text.drop (if fromStart then n - 1 else text.length - n)
            else
              let records := Octets.records p.delimiter text
              (records.drop (if fromStart then n - 1 else records.length - n)).flatten)
      if o.has "f" || o.has "F" then modify fun b => { b with stuck := true }
      return status) arguments

/-! ### Splitting -/

/-- Pieces of a list of so many members. -/
def groupsOf {α : Type} (size : Nat) (fuel : Nat) (xs : List α) : List (List α) :=
  match fuel, xs with
  | 0, _ => []
  | _, [] => []
  | fuel + 1, xs => xs.take size :: groupsOf size fuel (xs.drop size)

/-- The ending of the name of a piece: so many letters or digits. -/
def pieceSuffix (alphabet : Octets) (width n : Nat) : Octets :=
  match width with
  | 0 => []
  | width + 1 =>
    pieceSuffix alphabet width (n / alphabet.length) ++ [alphabet.getD (n % alphabet.length) 'a']

/-- A text in so many pieces that are equally long; the last one takes what is left. -/
def equalParts (count : Nat) (text : Octets) : List Octets :=
  let size := text.length / count
  (List.range count).map fun i =>
    if i + 1 == count then text.drop (i * size) else (text.drop (i * size)).take size

/-- Lines in so many pieces that are about equally long: a line belongs to the piece in which it
begins. -/
def equalLines (count : Nat) (text : Octets) : List Octets :=
  let size := max 1 (text.length / count)
  let placed := (Octets.records '\n' text).foldl
    (fun ((offset, found) : Nat × List (Nat × Octets)) line =>
      (offset + line.length, (min (count - 1) (offset / size), line) :: found))
    (0, [])
  (List.range count).map fun i =>
    ((placed.2.reverse.filter fun (k, _) => k == i).map Prod.snd).flatten

/-- The names of pieces begin with this when nothing else is said. -/
def pieceName : Octets := ['x']

/-- Cuts a file into pieces. -/
def split : List Octets → Tool Nat :=
  withOptions
    ("l,lines: b,bytes: C,line-bytes: n,number: d numeric-suffixes:: x hex-suffixes:: a,suffix-length: "
      ++ "additional-suffix: e,elide-empty-files verbose t,separator: u,unbuffered filter:") 1 fun o => do
    let source := o.operands.headD ['-']
    let front := (o.operands[1]?).getD pieceName
    match o.operands[2]? with
    | some extra => return ← extraOperand 1 extra
    | none => pure ()
    match ← contentOf source with
    | .error cause =>
      if cause == .isDirectory then blame s!"{shown source}: read error: Is a directory"
      else blame s!"cannot open {quoted source} for reading: {reason cause}"
      return 1
    | .ok text =>
      let separator := (o.value? "t").bind (·.head?) |>.getD '\n'
      let number (name : String) : Option Nat := (o.value? name).bind Size.read?
      let records := Octets.records separator text
      let pieces : List Octets ←
        match o.last? ["l", "b", "n", "C"] with
        | some "b" =>
          match number "b" with
          | some (n + 1) => pure (groupsOf (n + 1) (text.length + 1) text)
          | _ =>
            blame ("invalid number of bytes: " ++ quoted ((o.value? "b").getD []))
            return 1
        | some "n" =>
          match (o.value? "n").getD [] with
          | 'l' :: '/' :: ds => pure (equalLines (max 1 ((natural? ds).getD 1)) text)
          | 'r' :: '/' :: ds =>
            let n := max 1 ((natural? ds).getD 1)
            pure ((List.range n).map fun i =>
              ((records.zipIdx.filter fun (_, k) => k % n == i).map Prod.fst).flatten)
          | ds =>
            match natural? ds with
            | some (n + 1) => pure (equalParts (n + 1) text)
            | _ =>
              blame s!"invalid number of chunks: {quoted ds}"
              return 1
        | some "l" =>
          match number "l" with
          | some (n + 1) => pure ((groupsOf (n + 1) (records.length + 1) records).map List.flatten)
          | _ =>
            blame ("invalid number of lines: " ++ quoted ((o.value? "l").getD []))
            return 1
        | _ => pure ((groupsOf 1000 (records.length + 1) records).map List.flatten)
      let pieces := if o.has "e" then pieces.filter (!·.isEmpty) else pieces
      let digits := "0123456789".toList
      let alphabet :=
        if o.has "d" || o.has "numeric-suffixes" then digits
        else if o.has "x" || o.has "hex-suffixes" then digits ++ "abcdef".toList
        else (List.range 26).map fun i => Char.ofNat (97 + i)
      let start := ((o.value? "numeric-suffixes").bind natural?).getD 0
      let width := (number "a").getD 2
      for (piece, i) in pieces.zipIdx do
        if alphabet.length ^ width ≤ i + start then
          blame "output file suffixes exhausted"
          return 1
        let name := front ++ pieceSuffix alphabet width (i + start)
          ++ (o.value? "additional-suffix").getD []
        if o.has "verbose" then sayText s!"creating file {quoted name}\n"
        match ← store name.toText piece with
        | .ok () => pure ()
        | .error cause =>
          blameFor name cause
          return 1
      return 0

/-! ### Blocks -/

/-- Copies blocks of bytes from one file to another. -/
def blocks (arguments : List Octets) : Tool Nat := do
  let settings := arguments.map fun a =>
    let (name, value) := a.span (· != '=')
    (String.ofList name, value.drop 1)
  for (name, value) in settings do
    let isKnown :=
      ["if", "of", "bs", "ibs", "obs", "count", "skip", "seek", "status", "conv", "iflag",
      "oflag"].contains name
    if !isKnown then
      let whole := name.toList ++ (if value.isEmpty then [] else '=' :: value)
      return ← refuse 1 s!"unrecognized operand {quoted whole}"
  let number (name : String) (usual : Nat) : Nat :=
    ((settings.lookup name).bind Size.read?).getD usual
  let size := number "bs" (number "ibs" 512)
  let outSize := number "bs" (number "obs" 512)
  let words (name : String) : List String :=
    (((settings.lookup name).getD []).splitOn ',').map String.ofList
  let source := (settings.lookup "if").getD ['-']
  let limit := (settings.lookup "count").map fun _ => number "count" 0
  let inBytes := (words "iflag").contains "count_bytes"
  let skipped := number "skip" 0 * (if (words "iflag").contains "skip_bytes" then 1 else size)
  let wanted := limit.map fun n => if inBytes then n else n * size
  match ← contentUpTo (fun text => wanted.any fun n => skipped + n ≤ text.length) source with
  | .error cause =>
    blame s!"failed to open {quoted source}: {reason cause}"
    return 1
  | .ok all =>
    let text := all.drop skipped
    let text := match wanted with
      | some n => text.take n
      | none => text
    if isInput source then
      leave (all.drop (skipped + text.length))
      modify fun b => { b with exact := true }
    let conversions := words "conv"
    let changed := text.map fun c =>
      if conversions.contains "ucase" then c.toUpper
      else if conversions.contains "lcase" then c.toLower
      else c
    match settings.lookup "of" with
    | none => say changed
    | some path =>
      let old := (((← get).disk.readBytes path.toText).toOption.map Octets.ofBytes).getD []
      let place := number "seek" 0 * outSize
      let before := (old.take place) ++ List.replicate (place - old.length) '\x00'
      let after := if conversions.contains "notrunc" then old.drop (place + changed.length) else []
      match ← store path.toText (before ++ changed ++ after) with
      | .ok () => pure ()
      | .error cause =>
        blame s!"failed to open {quoted path}: {reason cause}"
        return 1
    let status := (settings.lookup "status").getD []
    if status != "none".toList then
      let n := text.length
      let records (size : Nat) : String :=
        s!"{n / size}+{if n % size == 0 then 0 else 1} records"
      complain s!"{records size} in\n{records outSize} out"
      if status != "noxfer".toList then
        let unit := if n == 1 then "byte" else "bytes"
        complain s!"{n} {unit} copied, 0.0001 s, 1.0 MB/s"
    return 0

end Codemod.Shell.Tool

/-!
## Counting

- `Tool.count` — lines, words and bytes
-/

namespace Codemod.Shell.Tool

/-- How many words a text has. -/
def wordCount (cs : Octets) : Nat :=
  let isSpace (c : Char) := c == ' ' || ('\t' ≤ c && c ≤ '\r')
  (cs.foldl (fun (n, inside) c => if isSpace c then (n, false)
    else (if inside then n else n + 1, true))
    (0, false)).1

/-- The columns of the widest line. -/
def widestLine (cs : Octets) : Nat :=
  let step (widest column : Nat) (c : Char) : Nat × Nat :=
    if c == '\n' || c == '\r' || c == '\x0c' then (max widest column, 0)
    else if c == '\t' then (widest, column + 8 - column % 8)
    else if Quote.isPrintable c then (widest, column + 1)
    else (widest, column)
  let (widest, column) := cs.foldl (fun (w, col) c => step w col c) (0, 0)
  max widest column

/-- What is counted of a text: lines, words, characters, bytes, and the widest line. -/
def figures (text : Octets) : List Nat :=
  [text.count '\n', wordCount text, text.length, text.length, widestLine text]

/-- Sums of figures; of the widest lines the widest one. -/
def addFigures (a b : List Nat) : List Nat :=
  (a.zip b).zipIdx.map fun ((x, y), i) => if i == 4 then max x y else x + y

/-- Counts lines, words and bytes. -/
def count : List Octets → Tool Nat :=
  withOptions "l,lines w,words m,chars c,bytes L,max-line-length files0-from: total: debug" 1 fun o => do
  let names := ["l", "w", "m", "c", "L"]
  let chosen := if names.any o.has then names.map o.has else [true, true, false, true, false]
  let pick (row : List Nat) : List Nat :=
    (row.zip chosen).filterMap fun (n, on) => if on then some n else none
  let b ← get
  let sizes := o.sources.map fun name =>
    if isInput name then b.inputSize
    else
      match b.disk.find name.toText with
      | .ok (_, .file bytes) => some bytes.size
      | .ok _ => none
      | .error _ => some 0
  let single := o.sources.length == 1 && (pick [0, 0, 0, 0, 0]).length == 1
  let width :=
    if single then 1
    else
      let total := (sizes.map fun s => s.getD 0).foldl (· + ·) 0
      max (if sizes.contains none then 7 else 1) (Octets.ofNat total).length
  let line (row : List Nat) (name : Octets) : Octets :=
    List.intercalate [' '] ((pick row).map fun n => Octets.padLeft width (Octets.ofNat n))
      ++ (if name.isEmpty then [] else ' ' :: name) ++ ['\n']
  let only := o.value? "total"
  let mut sums := [0, 0, 0, 0, 0]
  let mut status := 0
  for name in o.sources do
    match ← contentOf name with
    | .ok text =>
      let row := figures text
      sums := addFigures sums row
      if only != some "only".toList then say (line row (if o.operands.isEmpty then [] else name))
    | .error cause =>
      if isInput name && name != ['-'] then blameFor name cause
      else if name == ['-'] then blame s!"'standard input': {reason cause}"
      else blameFor name cause
      if cause == .isDirectory || name == ['-'] then
        if only != some "only".toList then
          say (line [0, 0, 0, 0, 0] (if o.operands.isEmpty then [] else name))
      if name == ['-'] && cause == .code 9 then blame "-: Bad file descriptor"
      status := 1
  let shows := match only.map String.ofList with
    | some "always" => true
    | some "never" => false
    | some "only" => true
    | _ => o.sources.length > 1
  if shows then say (line sums (if only == some "only".toList then [] else "total".toList))
  return status

end Codemod.Shell.Tool
