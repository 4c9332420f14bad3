import Codemod.Decimal
import Codemod.Shell.Snippet.Token
import Codemod.Shell.Tool.Bench
import Codemod.Text.Blank

/-!
# What a running snippet keeps

- `Snippet.Heap` — objects and variables
- `Snippet.Heap.text`, `Snippet.Heap.number`, `Snippet.Heap.holds` — a value as a text, a number, a
  condition
- `Snippet.Heap.shown` — a value as it is printed
- `Snippet.Heap.json` — a value as a document
-/

namespace Codemod.Shell.Snippet

/-- The variables of a place: names with the places of their values. -/
abbrev Scope := List (String × Nat)

/-- What an object is. -/
inductive Nature where
  | plain
  | list (items : Array Value)
  | function (name : String) (parameters : List Target) (body : List Statement) (hasSelf : Bool)
      (scope : Scope)
  | regex (body flags : String)
  | fault (kind message : String)

/-- An object. -/
structure Object where
  nature : Nature
  /-- The fields in the order in which they were made. -/
  fields : List (String × Value) := []

/-- The value of a variable; none before its declaration. -/
structure Cell where
  value : Option Value
  fixed : Bool := false

/-- Objects and variables by their places. -/
structure Heap where
  objects : Array Object := #[]
  cells : Array Cell := #[]

/-- Objects nest so deeply at most when they are written. -/
def maxNesting : Nat := 200

/-! ### Numbers as texts -/

/-- Numbers are positional from `1e-6` up to below `1e21`; a positive exponent carries its sign. -/
def numberLayout : Decimal.Layout where
  plainFrom := some (-6)
  plainBelow := some 21
  pointZero := false
  plusSign := true

/-- A number as a text. -/
def numberText (x : Float) : String :=
  let b : Binary64 := ⟨x.toBits⟩
  if b.isNaN then "NaN"
  else if b.isZero then "0"
  else
    let text := if b.isInfinite then "Infinity".toList
      else Decimal.render numberLayout (Decimal.shortest .toEven b)
    String.ofList (if b.isNegative then '-' :: text else text)

/-- The number of a text; it is none of a text that is no number as a whole. -/
def textNumber (s : String) : Float :=
  let cs := Text.trim s.toList
  let (negative, ds) := match cs with
    | '-' :: rest => (true, rest)
    | '+' :: rest => (false, rest)
    | _ => (false, cs)
  let nan : Float := 0.0 / 0.0
  let based (base : Nat) (digits : List Char) : Float :=
    if digits.all (fun c => (digit? base c).isSome) && !digits.isEmpty then
      ofNat (digitsValue base digits)
    else nan
  match cs with
  | [] => 0
  | '0' :: 'x' :: digits | '0' :: 'X' :: digits => based 16 digits
  | '0' :: 'b' :: digits => based 2 digits
  | '0' :: 'o' :: digits => based 8 digits
  | _ =>
    if String.ofList ds == "Infinity" then (if negative then -(1.0 / 0.0) else 1.0 / 0.0)
    else if !(ds.head?.any Char.isDigit
      || (ds.head? == some '.' && (ds.drop 1).head?.any Char.isDigit)) then
      nan
    else
      let (x, rest) := decimal ds
      if !rest.isEmpty || ds.contains '_' then nan else if negative then -x else x

/-- The quotient that a finite number is, by its magnitude. -/
def ratio (x : Float) : Nat × Nat :=
  let (m, q) := Binary64.magnitude ⟨x.toBits⟩
  (m * 2 ^ q.toNat, 2 ^ (-q).toNat)

/-- The number is finite. -/
def isFinite (x : Float) : Bool := Binary64.exponentField ⟨x.toBits⟩ != 0x7FF

/-- The whole part of a number, zero for what is not finite. -/
def wholePart (x : Float) : Int :=
  if !isFinite x then 0
  else
    let (num, den) := ratio x
    if x < 0 then -((num / den : Nat) : Int) else (num / den : Nat)

/-- The number of an integer. -/
def ofInt (n : Int) : Float := if n < 0 then -(ofNat n.natAbs) else ofNat n.natAbs

/-- The number in thirty-two bits with a sign. -/
def word (x : Float) : Int := Int.bmod (wholePart x) (2 ^ 32)

namespace Value

/-- A whole number as a value. -/
def ofNat (n : Nat) : Value := .number (Snippet.ofNat n)

/-- An integer as a value. -/
def ofInt (n : Int) : Value := .number (Snippet.ofInt n)

end Value

/-- The number of units that a text has, where characters beyond the first plane count twice. -/
def unitCount (s : String) : Nat :=
  s.toList.foldl (fun n c => n + if c.toNat > 0xFFFF then 2 else 1) 0

namespace Heap

/-- The object at a place. -/
def get (h : Heap) (place : Nat) : Object := (h.objects[place]?).getD { nature := .plain }

/-- The function at the front of the name of a function of every snippet. -/
def ownName (name : String) : String := String.ofList ((name.toList.splitOn '.').getLastD [])

/-- A value as a text. -/
def text (h : Heap) (depth : Nat) (v : Value) : String :=
  match depth, v with
  | 0, _ => ""
  | _, .undefined => "undefined"
  | _, .null => "null"
  | _, .boolean b => if b then "true" else "false"
  | _, .number x => numberText x
  | _, .text s => s
  | _, .builtIn name => s!"function {ownName name}() \x7b [native code] \x7d"
  | depth + 1, .object place =>
    let o := h.get place
    match o.nature with
    | .plain => "[object Object]"
    | .list items =>
      let item : Value → String
        | .undefined | .null => ""
        | v => text h depth v
      String.intercalate "," (items.toList.map item)
    | .function name .. => s!"function {name}() \x7b \x7d"
    | .regex body flags => s!"/{body}/{flags}"
    | .fault kind message => if message.isEmpty then kind else s!"{kind}: {message}"

/-- A value as a number. -/
def number (h : Heap) : Value → Float
  | .undefined => 0.0 / 0.0
  | .null => 0
  | .boolean b => if b then 1 else 0
  | .number x => x
  | .text s => textNumber s
  | .builtIn _ => 0.0 / 0.0
  | v@(.object _) => textNumber (h.text maxNesting v)

/-- A value as a condition. -/
def holds : Value → Bool
  | .undefined | .null => false
  | .boolean b => b
  | .number x => !(x == 0) && x == x
  | .text s => !s.isEmpty
  | .builtIn _ | .object _ => true

/-- The name of a value's kind. -/
def kind (h : Heap) : Value → String
  | .undefined => "undefined"
  | .null => "object"
  | .boolean _ => "boolean"
  | .number _ => "number"
  | .text _ => "string"
  | .builtIn name =>
    if ["console", "process", "Math", "JSON", "fs", "path"].contains name then "object"
    else "function"
  | .object place =>
    match (h.get place).nature with
    | .function .. => "function"
    | _ => "object"

/-! ### Printing -/

/-- Lines are not made longer than this when values are printed. -/
def breakLength : Nat := 80

/-- A text in quotes, of a kind that it does not hold if there is one. -/
def quotedText (s : String) : String :=
  let cs := s.toList
  let quote := if !cs.contains '\'' then '\'' else if !cs.contains '"' then '"'
    else if !cs.contains '\x60' then '\x60' else '\''
  let escape (c : Char) : List Char :=
    if c == quote || c == '\\' then ['\\', c]
    else if c == '\n' then ['\\', 'n']
    else if c == '\t' then ['\\', 't']
    else if c == '\r' then ['\\', 'r']
    else if c.toNat == 8 then ['\\', 'b']
    else if c.toNat == 12 then ['\\', 'f']
    else if c.toNat == 11 then ['\\', 'v']
    else if c.toNat < 32 || c.toNat == 127 then
      let digit (n : Nat) : Char := if n < 10 then Char.ofNat (48 + n) else Char.ofNat (55 + n)
      ['\\', 'x', digit (c.toNat / 16), digit (c.toNat % 16)]
    else [c]
  String.ofList (quote :: cs.flatMap escape ++ [quote])

/-- The name of a field as it is printed. -/
def keyText (key : String) : String :=
  let cs := key.toList
  if cs.head?.any (fun c => c.isAlpha || c == '_')
      && cs.all (fun c => c.isAlphanum || c == '_' || c == '$') then key
  else quotedText key

/-- Entries of a list side by side in columns, when there are many short ones. -/
def columns (indent : Nat) (rightAligned more : Bool) (entries : List String) : List String :=
  let main := if more then entries.dropLast else entries
  let lengths := main.map String.length
  let count := main.length
  let total := (lengths.map (· + 2)).foldl (· + ·) 0
  let longest := lengths.foldl max 0
  let width := longest + 2
  if width * 3 + indent < breakLength && (5 * width < total || longest ≤ 6) then
    let bias := Float.sqrt (ofNat width - ofNat total / ofNat entries.length)
    let biased := max (ofNat width - 3 - bias) 1
    let square := (Float.sqrt (2.5 * biased * ofNat count) / biased + 0.5).floor
    let perLine := min (min (wholePart square).toNat ((breakLength - indent) / width)) (min 12 15)
    if perLine ≤ 1 then entries
    else
      let columnWidth (i : Nat) : Nat :=
        ((lengths.zipIdx.filter fun (_, j) => j % perLine == i).map Prod.fst).foldl max 0 + 2
      let line (first : Nat) : String :=
        let here := (main.drop first).take perLine
        let last := here.length - 1
        let cell (e : String) (i : Nat) : String :=
          let pad (n : Nat) : String := String.ofList (List.replicate n ' ')
          if i == last then
            if rightAligned then pad (columnWidth i - 2 - e.length) ++ e else e
          else
            let text := e ++ ", "
            let fill := pad (columnWidth i - text.length)
            if rightAligned then fill ++ text else text ++ fill
        String.join (here.zipIdx.map fun (e, i) => cell e i)
      let lines := (List.range ((count + perLine - 1) / perLine)).map fun n => line (n * perLine)
      if more then lines ++ [entries.getLastD ""] else lines
  else entries

/-- Entries between brackets: on one line when they fit and do not nest too deeply, otherwise on
lines of their own. -/
def enclosed (indent nested : Nat) (label opening closing : String)
    (isList rightAligned more : Bool)
    (entries : List String) : String :=
  let grouped :=
    if isList && 6 < entries.length then columns indent rightAligned more entries else entries
  let front := if label.isEmpty then opening else label ++ " " ++ opening
  let start := grouped.length + indent + opening.length + label.length + 10
  let total := (grouped.map String.length).foldl (· + ·) 0 + grouped.length + start
  let hasBreak := grouped.any fun e => e.toList.contains '\n'
  if nested < 3 && grouped.length == entries.length && total ≤ breakLength && !hasBreak then
    front ++ " " ++ String.intercalate ", " grouped ++ " " ++ closing
  else
    let gap := "\n" ++ String.ofList (List.replicate indent ' ')
    front ++ gap ++ "  " ++ String.intercalate ("," ++ gap ++ "  ") grouped ++ gap ++ closing

/-- Fields in the order in which they are listed: whole numbers first, in their order. -/
def listed (fields : List (String × Value)) : List (String × Value) :=
  let isIndex (f : String × Value) : Bool := !f.1.isEmpty && f.1.toList.all Char.isDigit
  let (indices, names) := fields.partition isIndex
  (indices.mergeSort fun a b => digitsValue 10 a.1.toList ≤ digitsValue 10 b.1.toList) ++ names

mutual

/-- A value as it is printed inside of others, and the level of the last object in it that is
printed in full; zero for none. -/
def shownAt (h : Heap) (fuel indent level : Nat) (v : Value) : String × Nat :=
  match fuel, v with
  | 0, _ => ("[Circular *1]", 0)
  | _, .text s => (quotedText s, 0)
  | _, .number x => (if Binary64.isZero ⟨x.toBits⟩ && x.toBits != 0 then "-0" else numberText x, 0)
  | _, .builtIn name =>
    (if h.kind v == "object" then s!"Object [{name}] \x7b...\x7d"
      else s!"[Function: {ownName name}]", 0)
  | fuel + 1, .object place =>
    let o := h.get place
    let fields := listed o.fields
    let tooDeep := level > 3
    let whole (label opening closing : String) (isList rightAligned more : Bool)
        (entries : List (String × Nat)) (fieldEntries : List (String × Nat)) : String × Nat :=
      let all := entries ++ fieldEntries
      if all.isEmpty then ((if label.isEmpty then "" else label ++ " ") ++ opening ++ closing, 0)
      else
        let deepest := ((all.map Prod.snd).filter (0 < ·)).getLastD level
        (enclosed indent (deepest - level) label opening closing isList rightAligned more
          (all.map Prod.fst), deepest)
    match o.nature with
    | .plain =>
      if tooDeep && !fields.isEmpty then ("[Object]", 0)
      else whole "" "\x7b" "\x7d" false false false [] (shownFields h fuel (indent + 2) (level + 1) fields)
    | .list items =>
      if tooDeep then (if items.isEmpty then "[]" else "[Array]", 0)
      else
        let left := items.size - 100
        let plural := if left == 1 then "" else "s"
        let rest := if left == 0 then [] else [(s!"... {left} more item{plural}", 0)]
        let isNumber : Value → Bool
          | .number _ => true
          | _ => false
        let entries := shownItems h fuel (indent + 2) (level + 1) (items.toList.take 100)
        whole "" "[" "]" true (items.all isNumber && fields.isEmpty) (left != 0) (entries ++ rest)
          (shownFields h fuel (indent + 2) (level + 1) fields)
    | .function name .. =>
      let label := if name.isEmpty then "[Function (anonymous)]" else s!"[Function: {name}]"
      if fields.isEmpty then (label, 0)
      else
        whole label "\x7b" "\x7d" false false false []
          (shownFields h fuel (indent + 2) (level + 1) fields)
    | .regex body flags => (s!"/{body}/{flags}", 0)
    | .fault kind message =>
      let label := if message.isEmpty then kind else s!"{kind}: {message}"
      (if level == 1 then label else s!"[{label}]", 0)
  | _, v => (h.text 1 v, 0)

/-- The items of a list as they are printed. -/
def shownItems (h : Heap) (fuel indent level : Nat) : List Value → List (String × Nat)
  | [] => []
  | v :: rest =>
    match fuel with
    | 0 => []
    | fuel + 1 => shownAt h fuel indent level v :: shownItems h (fuel + 1) indent level rest

/-- Fields as they are printed. -/
def shownFields (h : Heap) (fuel indent level : Nat) : List (String × Value) → List (String × Nat)
  | [] => []
  | (key, v) :: rest =>
    match fuel with
    | 0 => []
    | fuel + 1 =>
      let (text, deepest) := shownAt h fuel indent level v
      (keyText key ++ ": " ++ text, deepest) :: shownFields h (fuel + 1) indent level rest

end

/-- A value as it is printed. -/
def shown (h : Heap) (v : Value) : String := (h.shownAt maxNesting 0 1 v).1

/-- Values as they are printed on a line: texts as they are, and the first one with its places for
others. -/
def line (h : Heap) (vs : List Value) : String :=
  let item : Value → String
    | .text s => s
    | v => h.shown v
  let rec fill (vs : List Value) : List Char → List Char × List Value
    | [] => ([], vs)
    | '%' :: c :: rest =>
      let put (text : String) (left : List Value) : List Char × List Value :=
        let (after, left) := fill left rest
        (text.toList ++ after, left)
      match c, vs with
      | '%', _ => put "%" vs
      | 's', v :: left =>
        put (match v with
          | .object _ => h.shown v
          | v => h.text maxNesting v) left
      | 'd', v :: left => put (numberText (h.number v)) left
      | 'i', v :: left => put (numberText (ofInt (wholePart (h.number v)))) left
      | 'f', v :: left => put (numberText (h.number v)) left
      | 'o', v :: left | 'O', v :: left | 'j', v :: left => put (h.shown v) left
      | c, _ =>
        let (after, left) := fill vs rest
        ('%' :: c :: after, left)
    | c :: rest =>
      let (after, left) := fill vs rest
      (c :: after, left)
  match vs with
  | .text s :: rest@(_ :: _) =>
    let (text, left) := fill rest s.toList
    String.intercalate " " (String.ofList text :: left.map item)
  | vs => String.intercalate " " (vs.map item)

/-! ### Documents -/

/-- A text in a document. -/
def jsonText (s : String) : String :=
  let escape (c : Char) : List Char :=
    let digit (n : Nat) : Char := if n < 10 then Char.ofNat (48 + n) else Char.ofNat (87 + n)
    if c == '"' || c == '\\' then ['\\', c]
    else if c == '\n' then ['\\', 'n']
    else if c == '\t' then ['\\', 't']
    else if c == '\r' then ['\\', 'r']
    else if c.toNat == 8 then ['\\', 'b']
    else if c.toNat == 12 then ['\\', 'f']
    else if c.toNat < 32 then ['\\', 'u', '0', '0', digit (c.toNat / 16), digit (c.toNat % 16)]
    else [c]
  String.ofList ('"' :: s.toList.flatMap escape ++ ['"'])

/-- A value as a document; none for what has no place there. -/
def json (h : Heap) (fuel : Nat) (gap indent : String) (v : Value) : Option String :=
  match fuel, v with
  | 0, _ => none
  | _, .undefined | _, .builtIn _ => none
  | _, .null => some "null"
  | _, .boolean b => some (if b then "true" else "false")
  | _, .number x => some (if isFinite x then numberText x else "null")
  | _, .text s => some (jsonText s)
  | fuel + 1, .object place =>
    let o := h.get place
    let inner := indent ++ gap
    let whole (opening closing : String) (entries : List String) : String :=
      if entries.isEmpty then opening ++ closing
      else if gap.isEmpty then opening ++ String.intercalate "," entries ++ closing
      else
        opening ++ "\n" ++ inner ++ String.intercalate (",\n" ++ inner) entries ++ "\n" ++ indent
          ++ closing
    match o.nature with
    | .function .. => none
    | .list items =>
      some (whole "[" "]" (items.toList.map fun v => (json h fuel gap inner v).getD "null"))
    | _ =>
      let entry (f : String × Value) : Option String :=
        (json h fuel gap inner f.2).map fun text =>
          jsonText f.1 ++ (if gap.isEmpty then ":" else ": ") ++ text
      some (whole "\x7b" "\x7d" ((listed o.fields).filterMap entry))

end Heap

end Codemod.Shell.Snippet

/-!
## The state of a running snippet

- `Snippet.Session` — objects, variables, and what is still to be done
- `Snippet.Leave` — why a statement does not go on
- `Snippet.Eval` — a step of a running snippet
-/

namespace Codemod.Shell.Snippet

/-- The state of a running snippet. -/
structure Session where
  heap : Heap := {}
  /-- Calls to be made at last, with their delays. -/
  later : List (Float × Value × List Value) := []
  /-- The words with which the snippet was started. -/
  words : List String := []
  status : Nat := 0
  /-- How many calls are in progress. -/
  calls : Nat := 0

/-- Why a statement does not go on. -/
inductive Leave where
  | thrown (v : Value)
  | function (v : Value)
  | loop
  | turn
  | exit (status : Nat)
  /-- It takes too long. -/
  | endless

/-- A step of a running snippet. -/
abbrev Eval := ExceptT Leave (StateT Session Tool)

namespace Eval

/-- Does something with the workbench. -/
def onBench {α : Type} (act : Tool α) : Eval α := ExceptT.lift (StateT.lift act)

/-- The objects and variables. -/
def heap : Eval Heap := do return (← get).heap

/-- Makes an object. -/
def make (nature : Nature) (fields : List (String × Value) := []) : Eval Value := do
  let s ← get
  let objects := s.heap.objects
  set { s with heap := { s.heap with objects := objects.push { nature, fields } } }
  return .object objects.size

/-- Makes a list. -/
def list (vs : List Value) : Eval Value := make (.list vs.toArray)

/-- Makes a list of texts. -/
def texts (cs : List String) : Eval Value := list (cs.map .text)

/-- Changes an object. -/
def change (place : Nat) (f : Object → Object) : Eval Unit :=
  modify fun s => { s with heap := { s.heap with objects := s.heap.objects.modify place f } }

/-- Makes a variable. -/
def newCell (value : Option Value) (fixed : Bool := false) : Eval Nat := do
  let s ← get
  let cells := s.heap.cells
  set { s with heap := { s.heap with cells := cells.push { value, fixed } } }
  return cells.size

/-- Sets a variable. -/
def setVariable (place : Nat) (value : Value) : Eval Unit :=
  modify fun s =>
    let cells := s.heap.cells.modify place fun c => { c with value := some value }
    { s with heap := { s.heap with cells } }

/-- Fails with an error of some kind. -/
def fail {α : Type} (kind message : String) :
    Eval α := do throw (.thrown (← make (.fault kind message)))

/-- Fails because a value is not of the right kind. -/
def mistype {α : Type} (message : String) : Eval α := fail "TypeError" message

/-- A value as a text. -/
def text (v : Value) : Eval String := do return (← heap).text maxNesting v

/-- A value as a number. -/
def number (v : Value) : Eval Float := do return (← heap).number v

/-- The items of a list or the characters of a text. -/
def items? (v : Value) : Eval (Option (List Value)) := do
  match v with
  | .text s => return some (s.toList.map fun c => .text (String.singleton c))
  | .object place =>
    match ((← heap).get place).nature with
    | .list items => return some items.toList
    | _ => return none
  | _ => return none

/-- What a snippet fails with when a value has no items. -/
def items (v : Value) : Eval (List Value) := do
  match ← items? v with
  | some vs => return vs
  | none => mistype s!"{(← text v)} is not iterable"

/-- Puts a field among others, at its old place if there is one. -/
def withField (key : String) (v : Value) (fields : List (String × Value)) : List (String × Value) :=
  if fields.any (·.1 == key) then fields.map fun f => if f.1 == key then (key, v) else f
  else fields ++ [(key, v)]

/-- The place that a number means in something of a size; from the end when it is negative. -/
def place (size : Nat) (x : Float) : Nat :=
  if x == 1.0 / 0.0 then size
  else
    let n := wholePart x
    if n < 0 then (size + n).toNat else min n.toNat size

end Eval

end Codemod.Shell.Snippet
