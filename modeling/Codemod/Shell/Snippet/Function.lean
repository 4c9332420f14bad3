import Codemod.Json.Reader
import Codemod.Shell.Regex.Ordered
import Codemod.Shell.Snippet.Session
import Codemod.Text.Search

/-!
# Functions of every snippet

These functions call no others.

- `Snippet.applyText`, `Snippet.applyNumber`, `Snippet.applyMath` — of texts and numbers
- `Snippet.regexOf`, `Snippet.matchesOf` — regular expressions
- `Snippet.apply` — all others
-/

namespace Codemod.Shell.Snippet

open Eval

/-! ### Functions of texts -/

/-- The functions that every text has. -/
def textFunctions : List String :=
  ["at", "charAt", "charCodeAt", "codePointAt", "concat", "endsWith", "includes", "indexOf",
    "lastIndexOf",
    "match", "matchAll", "padEnd", "padStart", "repeat", "replace", "replaceAll", "search", "slice",
      "split",
    "startsWith", "substr", "substring", "toLowerCase", "toString", "toUpperCase", "trim",
      "trimEnd",
    "trimStart", "valueOf", "localeCompare"]

/-- The first place of a text in another one from a place on. -/
def placeOf? (needle : List Char) (here : Nat) : List Char → Option Nat
  | [] => if needle.isEmpty then some here else none
  | c :: rest =>
    if needle.isPrefixOf (c :: rest) then some here else placeOf? needle (here + 1) rest

/-- The last place of a text in another one. -/
def lastPlaceOf? (needle cs : List Char) : Option Nat :=
  (List.range (cs.length + 1)).reverse.find? fun n => needle.isPrefixOf (cs.drop n)

/-- A text cut at every place of another one. -/
def cutAt (needle cs : List Char) : List (List Char) :=
  go [] 0 cs
where
  /-- The pieces when a part of the first is known, last character first, and so many are
  skipped. -/
  go (current : List Char) (skipped : Nat) : List Char → List (List Char)
    | [] => [current.reverse]
    | c :: rest =>
      if 0 < skipped then go current (skipped - 1) rest
      else if needle.isPrefixOf (c :: rest) then current.reverse :: go [] (needle.length - 1) rest
      else go (c :: current) 0 rest

/-- A place as a value, minus one for none. -/
def placeValue (place : Option Nat) : Value := Value.ofInt ((place.map Int.ofNat).getD (-1))

/-- A function of a text that calls no others. -/
def applyText (name : String) (s : String) (vs : List Value) : Eval Value := do
  let cs := s.toList
  let size := cs.length
  let v (n : Nat) : Value := (vs[n]?).getD .undefined
  let number (n : Nat) : Eval Float := Eval.number (v n)
  let bound (n otherwise : Nat) : Eval Nat := do
    match vs[n]? with
    | none | some .undefined => return otherwise
    | some v => return Eval.place size (← Eval.number v)
  let cut (first last : Nat) : Value := .text (String.ofList ((cs.drop first).take (last - first)))
  let clamp (n otherwise : Nat) : Eval Nat := do
    match vs[n]? with
    | none | some .undefined => return otherwise
    | some v => return (wholePart (max 0 (min (← Eval.number v) (ofNat size)))).toNat
  let other : Eval (List Char) := do return (← Eval.text (v 0)).toList
  let padding : Eval (List Char) := do
    let width := (wholePart (← number 0)).toNat
    let filler := ((← match vs[1]? with
      | some w => Eval.text w
      | none => pure " ").toList)
    return ((List.replicate (width - size) filler).flatten).take (width - size)
  match name with
  | "toString" | "valueOf" => return .text s
  | "charAt" =>
    let n ← clamp 0 0
    return cut n (n + 1)
  | "at" =>
    let x := wholePart (← number 0)
    let n := if x < 0 then size + x else x
    if n < 0 || (size : Int) ≤ n then return .undefined
    return cut n.toNat (n.toNat + 1)
  | "charCodeAt" | "codePointAt" =>
    match cs[← clamp 0 0]? with
    | some c => return Value.ofNat c.toNat
    | none => return if name == "charCodeAt" then .number (0.0 / 0.0) else .undefined
  | "concat" =>
    let rest ← vs.mapM Eval.text
    return .text (String.join (s :: rest))
  | "startsWith" =>
    let n ← clamp 1 0
    return .boolean ((← other).isPrefixOf (cs.drop n))
  | "endsWith" =>
    let n ← clamp 1 size
    return .boolean ((← other).isSuffixOf (cs.take n))
  | "includes" =>
    let n ← clamp 1 0
    return .boolean (placeOf? (← other) n (cs.drop n)).isSome
  | "indexOf" =>
    let n ← clamp 1 0
    return placeValue (placeOf? (← other) n (cs.drop n))
  | "lastIndexOf" => return placeValue (lastPlaceOf? (← other) cs)
  | "padStart" => return .text (String.ofList ((← padding) ++ cs))
  | "padEnd" => return .text (String.ofList (cs ++ (← padding)))
  | "repeat" =>
    let x ← number 0
    if x < 0 || x == 1.0 / 0.0 then fail "RangeError" s!"Invalid count value: {numberText x}"
    return .text (String.ofList (List.replicate (wholePart x).toNat cs).flatten)
  | "slice" => return cut (← bound 0 0) (← bound 1 size)
  | "substring" =>
    let (a, b) := (← clamp 0 0, ← clamp 1 size)
    return cut (min a b) (max a b)
  | "substr" =>
    let first ← bound 0 0
    match vs[1]? with
    | none => return cut first size
    | some w => return cut first (first + (wholePart (← Eval.number w)).toNat)
  | "split" =>
    let needle ← other
    let pieces := match v 0 with
      | .undefined => [cs]
      | _ => if needle.isEmpty then cs.map fun c => [c] else cutAt needle cs
    let most := wholePart (← number 1)
    Eval.texts ((match v 1 with
      | .undefined => pieces
      | _ => pieces.take most.toNat).map String.ofList)
  | "toLowerCase" => return .text (String.ofList (cs.map Char.toLower))
  | "toUpperCase" => return .text (String.ofList (cs.map Char.toUpper))
  | "trim" => return .text (Text.trimmed s)
  | "trimEnd" => return .text (Text.trimmedEnd s)
  | "trimStart" => return .text (String.ofList (cs.dropWhile Text.isBlank))
  | "localeCompare" =>
    let t := String.ofList (← other)
    return Value.ofInt (if s == t then 0 else if s < t then -1 else 1)
  | _ => mistype s!"{name} is not a function"

/-! ### Functions of numbers -/

/-- Digits in some base. -/
def digitsIn (base n : Nat) : List Char :=
  go (n + 1) n []
where
  /-- The digits of a number before others. -/
  go (fuel n : Nat) (after : List Char) : List Char :=
    match fuel with
    | 0 => after
    | fuel + 1 =>
      let d := n % base
      let c := if d < 10 then Char.ofNat (48 + d) else Char.ofNat (87 + d)
      if n < base then c :: after else go fuel (n / base) (c :: after)

/-- A number with so many places after the point; a half goes away from zero. -/
def fixedText (x : Float) (places : Nat) : String :=
  if !isFinite x || 1e21 ≤ x.abs then numberText x
  else
    let (num, den) := ratio x
    let n := (2 * num * 10 ^ places + den) / (2 * den)
    let ds := Decimal.Places.pointed places (Decimal.Places.digitsAtLeast (places + 1) n)
    String.ofList (if x < 0 && n != 0 then '-' :: ds else ds)

/-- A function of a number. -/
def applyNumber (name : String) (x : Float) (vs : List Value) : Eval Value := do
  match name with
  | "toFixed" =>
    return .text (fixedText x (wholePart (← Eval.number ((vs[0]?).getD (.number 0)))).toNat)
  | "toString" =>
    let base := (wholePart (← Eval.number ((vs[0]?).getD (.number 10)))).toNat
    if base == 10 || !isFinite x then return .text (numberText x)
    let sign := if x < 0 then "-" else ""
    return .text (sign ++ String.ofList (digitsIn base (wholePart x).natAbs))
  | "valueOf" => return .number x
  | _ => mistype s!"{name} is not a function"

/-- A function of mathematics. -/
def applyMath (name : String) (xs : List Float) : Option Float :=
  let x := (xs[0]?).getD (0.0 / 0.0)
  match name with
  | "abs" => some x.abs
  | "floor" => some x.floor
  | "ceil" => some x.ceil
  | "round" => some (x + 0.5).floor
  | "trunc" => some (if x < 0 then x.ceil else x.floor)
  | "sign" => some (if x < 0 then -1 else if 0 < x then 1 else x)
  | "sqrt" => some x.sqrt
  | "cbrt" => some x.cbrt
  | "pow" => some (x.pow ((xs[1]?).getD (0.0 / 0.0)))
  | "max" =>
    some (xs.foldl (fun a b => if a != a || b != b then 0.0 / 0.0 else max a b) (-(1.0 / 0.0)))
  | "min" =>
    some (xs.foldl (fun a b => if a != a || b != b then 0.0 / 0.0 else min a b) (1.0 / 0.0))
  | "hypot" => some (xs.foldl (fun a b => a + b * b) 0).sqrt
  | "sin" => some x.sin
  | "cos" => some x.cos
  | "tan" => some x.tan
  | "atan" => some x.atan
  | "atan2" => some (Float.atan2 x ((xs[1]?).getD (0.0 / 0.0)))
  | "exp" => some x.exp
  | "log" => some x.log
  | "log2" => some x.log2
  | "log10" => some x.log10
  | "random" => some 0.5
  | _ => none

/-! ### Regular expressions -/

/-- The expression of a pattern with its flags. -/
def regexOf (body flags : String) : Eval OrderedRegex := do
  let has (c : Char) : Bool := flags.toList.contains c
  let options := (if has 'm' then ['m'] else []) ++ (if has 's' then ['s'] else [])
  let front := if options.isEmpty then [] else ['(', '?'] ++ options ++ [')']
  match OrderedRegex.read (has 'i') (front ++ body.toList) with
  | .ok r => return r
  | .error _ => fail "SyntaxError" s!"Invalid regular expression: /{body}/{flags}: Invalid group"

/-- The matches of an expression, one after another, as far as they are wanted. -/
def matchesOf (r : OrderedRegex) (text : Array Char) (wanted fuel start : Nat) : List Regex.Match :=
  match fuel, wanted with
  | 0, _ | _, 0 => []
  | fuel + 1, wanted + 1 =>
    match r.searchFrom? text (text.size + 2 - start) start with
    | none => []
    | some m => m :: matchesOf r text wanted fuel (if m.stop == m.start then m.stop + 1 else m.stop)

/-- All of a match and its groups as values. -/
def groupsOf (cs : List Char) (count : Nat) (m : Regex.Match) : List Value :=
  let piece (first last : Nat) : Value :=
    .text (String.ofList ((cs.drop first).take (last - first)))
  piece m.start m.stop :: (List.range count).map fun n =>
    match m.groups.lookup (n + 1) with
    | some (first, last) => piece first last
    | none => .undefined

/-- How many groups the pattern has. -/
def groupCount : List Char → Nat
  | [] => 0
  | '\\' :: _ :: rest => groupCount rest
  | '(' :: '?' :: rest => groupCount rest
  | '(' :: rest => groupCount rest + 1
  | _ :: rest => groupCount rest

/-- A replacement with its references replaced. -/
def expanded (cs : List Char) (groups : List Value) (start stop : Nat) : List Char → List Char
  | [] => []
  | '$' :: '$' :: rest => '$' :: expanded cs groups start stop rest
  | '$' :: '&' :: rest => (cs.drop start).take (stop - start) ++ expanded cs groups start stop rest
  | '$' :: '\x60' :: rest => cs.take start ++ expanded cs groups start stop rest
  | '$' :: '\'' :: rest => cs.drop stop ++ expanded cs groups start stop rest
  | '$' :: d :: rest =>
    if d.isDigit && d != '0' && d.toNat - 48 < groups.length then
      (match groups[d.toNat - 48]? with
        | some (.text s) => s.toList
        | _ => []) ++ expanded cs groups start stop rest
    else '$' :: expanded cs groups start stop (d :: rest)
  | c :: rest => c :: expanded cs groups start stop rest

/-! ### Files and documents -/

/-- Fails because something cannot be done with a file. -/
def failFile {α : Type} (cause : SystemError) (action path : String) : Eval α := do
  let (code, text) := match cause with
    | .code 13 => ("EACCES", "permission denied")
    | .code 20 => ("ENOTDIR", "not a directory")
    | .code 21 => ("EISDIR", "illegal operation on a directory")
    | _ => ("ENOENT", "no such file or directory")
  let place := if code == "EISDIR" then "read" else s!"{action} '{path}'"
  let error ← make (.fault "Error" s!"{code}: {text}, {place}") [("code", .text code)]
  throw (.thrown error)

mutual

/-- A document as a value. -/
def ofJson : Json → Eval Value
  | .null => return .null
  | .bool b => return .boolean b
  | .int n => return Value.ofInt n
  | .float x => return .number (ofBinary x)
  | .string s => return .text s
  | .array items => do list (← ofJsonItems items)
  | .object fields => do make .plain (← ofJsonFields [] fields)

/-- The items of a document as values. -/
def ofJsonItems : List Json → Eval (List Value)
  | [] => return []
  | j :: rest => do return (← ofJson j) :: (← ofJsonItems rest)

/-- The fields of a document as values, after others. -/
def ofJsonFields (done : List (String × Value)) :
    List (String × Json) → Eval (List (String × Value))
  | [] => return done
  | (key, j) :: rest => do ofJsonFields (withField key (← ofJson j) done) rest

end

/-! ### Functions of every snippet -/

/-- The kinds of errors. -/
def errorKinds : List String :=
  ["Error", "TypeError", "RangeError", "SyntaxError", "ReferenceError", "EvalError", "URIError"]

/-- The names that every snippet knows. -/
def knownNames : List String :=
  ["console", "process", "Math", "JSON", "Object", "Array", "Number", "String", "Boolean", "RegExp",
    "Date",
    "parseInt", "parseFloat", "isNaN", "isFinite", "require", "setTimeout", "setImmediate", "fs",
      "path"]
    ++ errorKinds

/-- The members of what every snippet knows. -/
def knownMembers : List (String × List String) :=
  [("console", ["log", "info", "debug", "error", "warn"]),
    ("process", ["exit", "cwd", "stdout", "stderr"]),
    ("process.stdout", ["write"]), ("process.stderr", ["write"]),
    ("Math", ["abs", "floor", "ceil", "round", "trunc", "sign", "sqrt", "cbrt", "pow", "max", "min",
      "hypot", "sin", "cos", "tan", "atan", "atan2", "exp", "log", "log2", "log10", "random"]),
    ("JSON", ["parse", "stringify"]),
    ("Object", ["keys", "values", "entries", "assign", "fromEntries", "freeze"]),
    ("Array", ["isArray", "from", "of"]),
    ("Number", ["isInteger", "isNaN", "isFinite", "parseInt", "parseFloat"]),
    ("String", ["fromCharCode", "fromCodePoint"]), ("Date", ["now"]),
    ("fs", ["readFileSync", "writeFileSync", "appendFileSync", "existsSync"]),
    ("path", ["basename", "dirname", "extname", "join"])]

/-- The whole number at the front of a text. -/
def wholeNumber (base : Nat) (s : String) : Float :=
  let cs := s.toList.dropWhile Text.isBlank
  let (negative, cs) := match cs with
    | '-' :: rest => (true, rest)
    | '+' :: rest => (false, rest)
    | _ => (false, cs)
  let isHex := (base == 16 || base == 0) && (cs.take 2 == ['0', 'x'] || cs.take 2 == ['0', 'X'])
  let base := if isHex then 16 else if base == 0 then 10 else base
  let ds := (if isHex then cs.drop 2 else cs).takeWhile fun c => (digit? base c).isSome
  if ds.isEmpty then 0.0 / 0.0
  else if negative then -(ofNat (digitsValue base ds)) else ofNat (digitsValue base ds)

/-- The number at the front of a text. -/
def leadingNumber (s : String) : Float :=
  let cs := s.toList.dropWhile Text.isBlank
  let isPart (c : Char) : Bool := c.isDigit || "+-.eE".toList.contains c
  let text := cs.takeWhile isPart
  let found := (List.range (text.length + 1)).reverse.findSome? fun n =>
    let x := textNumber (String.ofList (text.take n))
    if n != 0 && x == x then some x else none
  if (cs.dropWhile fun c => c == '-' || c == '+').take 8 == "Infinity".toList then
    textNumber (String.ofList
    (cs.take (if cs.head?.any Char.isAlpha then 8 else 9))) else found.getD (0.0 / 0.0)

/-- The fields of a value in their order. -/
def fieldsOf (v : Value) : Eval (List (String × Value)) := do
  match v with
  | .object place =>
    let o := (← heap).get place
    match o.nature with
    | .list items =>
      return items.toList.zipIdx.map (fun (v, i) => (toString i, v)) ++ Heap.listed o.fields
    | _ => return Heap.listed o.fields
  | .text s => return s.toList.zipIdx.map fun (c, i) => (toString i, .text (String.singleton c))
  | _ => return []

/-- A path without its last part, and the last part. -/
def pathParts (path : String) : String × String :=
  let cs := path.toList.reverse.dropWhile (· == '/')
  let last := cs.takeWhile (· != '/')
  let front := ((cs.drop last.length).dropWhile (· == '/')).reverse
  let front :=
    if front.isEmpty then (if path.startsWith "/" then "/" else ".") else String.ofList front
  (front, String.ofList last.reverse)

/-- The part of a name from its last point on. -/
def extension (name : String) : String :=
  let cs := name.toList
  let after := cs.reverse.takeWhile (· != '.')
  if after.length + 1 ≥ cs.length then "" else String.ofList ('.' :: after.reverse)

/-- Says a line to one of the two channels. -/
def sayLine (channel : Channel) (vs : List Value) : Eval Unit := do
  let text := Octets.ofString ((← heap).line vs ++ "\n")
  onBench (modify fun b => { b with written := (channel, text) :: b.written })

/-- A function of every snippet that calls no others. -/
def apply (name : String) (vs : List Value) : Eval Value := do
  let v (n : Nat) : Value := (vs[n]?).getD .undefined
  let text (n : Nat) : Eval String := Eval.text (v n)
  let number (n : Nat) : Eval Float := Eval.number (v n)
  let textOr (n : Nat) (otherwise : String) : Eval String :=
    if vs.length ≤ n then return otherwise else text n
  let isNumber : Value → Bool
    | .number _ => true
    | _ => false
  if name.startsWith "Math." then
    let xs ← vs.mapM Eval.number
    return .number ((applyMath (String.ofList (name.toList.drop 5)) xs).getD (0.0 / 0.0))
  if errorKinds.contains name then
    return ← make (.fault name (← textOr 0 ""))
  match name with
  | "console.log" | "console.info" | "console.debug" =>
    sayLine .output vs
    return .undefined
  | "console.error" | "console.warn" =>
    sayLine .complaint vs
    return .undefined
  | "process.exit" =>
    let x ← number 0
    let given := (← get).status
    throw (.exit (if vs.isEmpty then given else (wholePart x % 256).toNat))
  | "process.cwd" => do
    let place ← onBench (do return (← get).place)
    return .text place.toText
  | "process.stdout.write" | "process.stderr.write" =>
    let channel := if name == "process.stdout.write" then Channel.output else .complaint
    let written := Octets.ofString (← text 0)
    onBench (modify fun b => { b with written := (channel, written) :: b.written })
    return .boolean true
  | "Object.keys" => do
    let fields ← fieldsOf (v 0)
    texts (fields.map Prod.fst)
  | "Object.values" => do
    let fields ← fieldsOf (v 0)
    list (fields.map Prod.snd)
  | "Object.entries" => do
    let fields ← fieldsOf (v 0)
    list (← fields.mapM fun (key, v) => list [.text key, v])
  | "Object.assign" =>
    match v 0 with
    | .object place =>
      for source in vs.drop 1 do
        for (key, value) in ← fieldsOf source do
          change place fun o => { o with fields := withField key value o.fields }
      return .object place
    | v => return v
  | "Object.fromEntries" =>
    let mut fields := []
    for entry in ← items (v 0) do
      match ← items entry with
      | key :: value :: _ => fields := withField (← Eval.text key) value fields
      | _ => pure ()
    make .plain fields
  | "Object.freeze" => return v 0
  | "Array.isArray" =>
    match v 0 with
    | .object _ => return .boolean (← items? (v 0)).isSome
    | _ => return .boolean false
  | "Array.of" => list vs
  | "Array" =>
    match vs with
    | [.number x] => list (List.replicate (wholePart x).toNat .undefined)
    | vs => list vs
  | "Number.isInteger" =>
    return .boolean (isNumber (v 0) && isFinite (← number 0) && (← number 0).floor == (← number 0))
  | "Number.isNaN" => return .boolean (isNumber (v 0) && !((← number 0) == (← number 0)))
  | "isNaN" => return .boolean !((← number 0) == (← number 0))
  | "Number.isFinite" => return .boolean (isNumber (v 0) && isFinite (← number 0))
  | "isFinite" => return .boolean (isFinite (← number 0))
  | "Number" => do
    let x ← number 0
    return .number (if vs.isEmpty then 0 else x)
  | "String" => return .text (← textOr 0 "")
  | "Boolean" => return .boolean (Heap.holds (v 0))
  | "Object" =>
    match v 0 with
    | .undefined | .null => make .plain
    | v => return v
  | "RegExp" => make (.regex (← text 0) (← textOr 1 ""))
  | "String.fromCharCode" | "String.fromCodePoint" =>
    let codes ← vs.mapM Eval.number
    return .text (String.ofList (codes.map fun x => Char.ofNat (wholePart x).toNat))
  | "parseInt" | "Number.parseInt" => do
    let base := wholePart (← number 1)
    return .number (wholeNumber base.toNat (← text 0))
  | "parseFloat" | "Number.parseFloat" => return .number (leadingNumber (← text 0))
  | "Date.now" => do
    let now ← onBench (do return (← get).now)
    return Value.ofInt (now / 10 ^ 6)
  | "JSON.stringify" =>
    let gap := match v 2 with
      | .number x => String.ofList (List.replicate (min 10 (wholePart x).toNat) ' ')
      | .text s => s
      | _ => ""
    match (← heap).json maxNesting gap "" (v 0) with
    | some s => return .text s
    | none => return .undefined
  | "JSON.parse" =>
    let source ← text 0
    match Json.read? source with
    | some j => ofJson j
    | none =>
      if (Text.trim source.toList).isEmpty then fail "SyntaxError" "Unexpected end of JSON input"
      else
        let first := String.ofList ((source.toList.dropWhile Text.isBlank).take 1)
        fail "SyntaxError" (s!"Unexpected token '{first}', " ++ s!"\"{source}\" is not valid JSON")
  | "require" =>
    match ← text 0 with
    | "fs" | "node:fs" => return .builtIn "fs"
    | "path" | "node:path" => return .builtIn "path"
    | "process" | "node:process" => return .builtIn "process"
    | other => fail "Error" s!"Cannot find module '{other}'"
  | "fs.readFileSync" =>
    let path ← match v 0 with
      | .number _ => pure "/dev/stdin"
      | w => Eval.text w
    match ← onBench (Tool.contentOf (Octets.ofString path)) with
    | .ok content => return .text (Octets.toText content)
    | .error cause => failFile cause "open" path
  | "fs.writeFileSync" | "fs.appendFileSync" =>
    let path ← text 0
    let content := Octets.ofString (← text 1)
    let old ← if name == "fs.writeFileSync" then pure [] else do
      match ← onBench (Tool.contentOf (Octets.ofString path)) with
      | .ok content => pure content
      | .error _ => pure []
    match ← onBench (Tool.store path (old ++ content)) with
    | .ok () => return .undefined
    | .error cause => failFile cause "open" path
  | "fs.existsSync" =>
    let path ← text 0
    let disk ← onBench (do return (← get).disk)
    return .boolean (disk.find path).toBool
  | "path.basename" => return .text (pathParts (← text 0)).2
  | "path.dirname" => return .text (pathParts (← text 0)).1
  | "path.extname" => return .text (extension (pathParts (← text 0)).2)
  | "path.join" => do
    let parts ← vs.mapM Eval.text
    return .text (String.intercalate "/" (parts.filter fun p => !p.isEmpty))
  | name => mistype s!"{name} is not a function"

end Codemod.Shell.Snippet
