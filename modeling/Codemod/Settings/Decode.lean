import Codemod.Decimal
import Codemod.Json.Basic
import Codemod.Settings.Basic
import Codemod.Text.Quoted

/-!
# Layers of settings

A layer assigns values to paths. A tree gathers the layers: a later value replaces an earlier one,
except that a table is merged into what is there, key by key. Every value remembers which layer it
came from.

- `Settings.Tree` — values with their origin
- `Settings.Place` — a path: a key, then keys and list indices
- `Settings.Place.read?` — the path that a name stands for
- `Settings.Tree.put`, `Settings.Tree.merge` — one assignment, and one table
-/

namespace Codemod.Settings

/-- A value without parts. -/
inductive Scalar where
  | none
  | boolean (b : Bool)
  | integer (n : Int)
  | float (x : Binary64)
  | text (s : String)

/-- A value and where it came from. -/
inductive Tree where
  | scalar (origin : Option String) (value : Scalar)
  | sequence (origin : Option String) (items : List Tree)
  | table (origin : Option String) (entries : List (String × Tree))

instance : Inhabited Tree := ⟨.scalar none .none⟩

namespace Tree

/-- No value. -/
def nothing : Tree := .scalar none .none

mutual

/-- The tree of a value that came from one place. Of equal keys the last counts. -/
def ofJson (origin : String) : Json → Tree
  | .null => .scalar (some origin) .none
  | .bool b => .scalar (some origin) (.boolean b)
  | .int n => .scalar (some origin) (.integer n)
  | .float x => .scalar (some origin) (.float x)
  | .string s => .scalar (some origin) (.text s)
  | .array items => .sequence (some origin) (ofItems origin items)
  | .object fields => .table (some origin) (ofFields origin fields)

/-- The trees of the members of a list. -/
def ofItems (origin : String) : List Json → List Tree
  | [] => []
  | v :: rest => ofJson origin v :: ofItems origin rest

/-- The trees of the fields of a record. -/
def ofFields (origin : String) : List (String × Json) → List (String × Tree)
  | [] => []
  | (key, v) :: rest => (key, ofJson origin v) :: ofFields origin rest

end

/-- The entries of a table; none for other values. -/
def entries : Tree → List (String × Tree)
  | .table _ entries => entries
  | _ => []

/-- The members of a sequence; none for other values. -/
def items : Tree → List Tree
  | .sequence _ items => items
  | _ => []

/-- The table after a change of its entries. What is no table becomes one. -/
def mapEntries (f : List (String × Tree) → List (String × Tree)) : Tree → Tree
  | .table origin entries => .table origin (f entries)
  | _ => .table none (f [])

/-- The sequence after a change of its members. What is no sequence becomes one. -/
def mapItems (f : List Tree → List Tree) : Tree → Tree
  | .sequence origin items => .sequence origin (f items)
  | _ => .sequence none (f [])

end Tree

/-- Changes what stands under a key; a new key comes last, with no value before the change. -/
def change (key : String) (f : Tree → Tree) : List (String × Tree) → List (String × Tree)
  | [] => [(key, f .nothing)]
  | (k, t) :: rest => if k == key then (k, f t) :: rest else (k, t) :: change key f rest

/-- What stands under another key stays. -/
theorem lookup_change_of_ne {key k : String} (h : k ≠ key) (f : Tree → Tree)
    (es : List (String × Tree)) : (change key f es).lookup k = es.lookup k := by
  induction es with
  | nil => simp [change, List.lookup_cons, beq_eq_false_iff_ne.mpr h]
  | cons e rest ih =>
    obtain ⟨k', t⟩ := e
    simp only [change]
    split
    · rename_i hk
      have hk : k' = key := by simpa using hk
      subst hk
      simp [List.lookup_cons, beq_eq_false_iff_ne.mpr h]
    · simp only [List.lookup_cons]
      split <;> simp_all

/-- What stands under the key is changed. -/
theorem lookup_change (key : String) (f : Tree → Tree) (es : List (String × Tree)) :
    (change key f es).lookup key = some (f ((es.lookup key).getD .nothing)) := by
  induction es with
  | nil => simp [change]
  | cons e rest ih =>
    obtain ⟨k', t⟩ := e
    simp only [change]
    split
    · rename_i hk
      have hk : k' = key := by simpa using hk
      subst hk
      simp
    · rename_i hk
      have hk : (key == k') = false := by
        simp only [beq_eq_false_iff_ne, ne_eq]
        rintro rfl
        simp at hk
      simp [List.lookup_cons, hk, ih]

/-! ### Paths -/

/-- A step of a path below its first key. An index may count from the end. -/
inductive Step where
  | key (name : String)
  | index (n : Int)
deriving DecidableEq

/-- A path to a setting. -/
structure Place where
  first : String
  steps : List Step := []
deriving DecidableEq

namespace Place

/-- A character of a key in a path. -/
def isKeyChar (c : Char) : Bool := c.isAlphanum || c == '_' || c == '-'

/-- An index of 64 bits with blanks around it and a bracket after it. -/
def index? (cs : List Char) : Option (Int × List Char) := do
  let (negative, cs) :=
    match cs.dropWhile fun c => c == ' ' || c == '\t' with
    | '-' :: rest => (true, rest)
    | cs => (false, cs)
  match cs.span Char.isDigit with
  | ([], _) => none
  | (ds, rest) =>
    let size : Nat := ds.foldl (fun n c => n * 10 + (c.toNat - 48)) 0
    let n : Int := if negative then -size else size
    match rest.dropWhile fun c => c == ' ' || c == '\t' with
    | ']' :: rest => if -(2 ^ 63) ≤ n && n < 2 ^ 63 then some (n, rest) else none
    | _ => none

/-- The steps after the first key. -/
def steps? (fuel : Nat) (cs : List Char) : Option (List Step) :=
  match fuel, cs with
  | 0, _ => none
  | _, [] => some []
  | fuel + 1, '.' :: rest =>
    match rest.span isKeyChar with
    | ([], _) => none
    | (name, rest) => (steps? fuel rest).map (.key (String.ofList name) :: ·)
  | fuel + 1, '[' :: rest =>
    match index? rest with
    | some (n, rest) => (steps? fuel rest).map (.index n :: ·)
    | none => none
  | _, _ => none

/-- The path that a name stands for: keys joined by dots, and indices in brackets. Any other name
is a key as it is. -/
def read (name : String) : Place :=
  match name.toList.span isKeyChar with
  | ([], _) => ⟨name, []⟩
  | (first, rest) =>
    match steps? (rest.length + 1) rest with
    | some steps => ⟨String.ofList first, steps⟩
    | none => ⟨name, []⟩

end Place

/-- The members of a list with room for an index, and the index from the front. An index that counts
from the end beyond the front makes room there. -/
def makeRoom (n : Int) (items : List Tree) : List Tree × Nat :=
  if 0 ≤ n then
    (items ++ List.replicate (n.toNat + 1 - items.length) .nothing, n.toNat)
  else if n.natAbs ≤ items.length then (items, items.length - n.natAbs)
  else (List.replicate (n.natAbs - items.length) .nothing ++ items, 0)

namespace Tree

/-- The tree after a change below it. Whatever is on the way becomes a table or a sequence. -/
def changeAt (f : Tree → Tree) : List Step → Tree → Tree
  | [], t => f t
  | .key name :: rest, t => t.mapEntries (change name (changeAt f rest))
  | .index n :: rest, t =>
    t.mapItems fun items =>
      let (items, i) := makeRoom n items
      items.modify i (changeAt f rest)

mutual

/-- The tree after a value came over it: a table is merged into it, anything else replaces it. -/
def cover : Tree → Tree → Tree
  | .table _ entries, t => t.mapEntries (coverEntries entries)
  | v, _ => v

/-- The entries after those of a table came over them. -/
def coverEntries : List (String × Tree) → List (String × Tree) → List (String × Tree)
  | [], es => es
  | (key, v) :: rest, es => coverEntries rest (change key (cover v) es)

end

/-- The tree after a value was assigned to a path. -/
def put (t : Tree) (place : Place) (v : Tree) : Tree :=
  t.changeAt (cover v) (.key place.first :: place.steps)

/-- The tree after the assignments of a layer, each to the path that its name stands for. -/
def layer (t : Tree) (assignments : List (String × Tree)) : Tree :=
  assignments.foldl (fun t (name, v) => t.put (.read name) v) t

end Tree

end Codemod.Settings

/-!
## Settings from a tree

Each setting is read from what stands under its key; a key that is missing leaves the default. A
sequence in the place of a section gives the section's settings in their order. Values are converted
where that makes sense: scalars to texts, texts and numbers to whole numbers.

- `Settings.Misfit` — a value that has no reading
- `Settings.Tree.asText`, `Settings.Tree.asNatural`, `Settings.Tree.asTexts` — values
- `Settings.ofTree` — all settings
-/

namespace Codemod.Settings

/-- A value that has no reading: what it is, what is expected, under which key it stands, and where
it came from, unless it has the wrong shape rather than a wrong value. -/
structure Misfit where
  found : String
  expected : String
  /-- The value has the wrong shape. -/
  ofShape : Bool := false
  key : String := ""
  origin : Option String := none
deriving DecidableEq

namespace Misfit

/-- How the error is reported. -/
def message (m : Misfit) : String :=
  let place := match m.origin with
    | some origin => " in " ++ origin
    | none => ""
  s!"invalid type: {m.found}, expected {m.expected} for key `{m.key}`" ++ place

/-- The error as seen from the value that holds the key. -/
def under (key : String) (m : Misfit) : Misfit :=
  let dot := if m.key.isEmpty || m.key.startsWith "[" then "" else "."
  { m with key := key ++ dot ++ m.key }

end Misfit

namespace Scalar

/-- What a value is where another shape is expected. -/
def describe : Scalar → String
  | none => "unit value"
  | boolean b => s!"boolean `{b}`"
  | integer n => s!"integer `{n}`"
  | float x => s!"floating point `{x.plainWithPoint}`"
  | text s => "string " ++ Text.quoted s

/-- What a value is where another value is expected. -/
def describeValue : Scalar → String
  | integer n => if n < 2 ^ 63 then s!"64-bit integer `{n}`" else s!"64-bit unsigned integer `{n}`"
  | s => s.describe

/-- The text of a value. -/
def asText : Scalar → Option String
  | none => .none
  | boolean b => some (toString b)
  | integer n => some (toString n)
  | float x => some x.plain
  | text s => some s

/-- The whole number that a text stands for: a word for one or zero in any case, or digits with an
optional plus sign. -/
def naturalOfText? (s : String) : Option Nat :=
  let word := s.toLower
  if ["true", "on", "yes"].contains word then some 1
  else if ["false", "off", "no"].contains word then some 0
  else
    let ds := match s.toList with
      | '+' :: ds => ds
      | ds => ds
    if ds.isEmpty || !ds.all Char.isDigit then .none
    else
      let n := Decimal.digitsValue ds
      if n < 2 ^ 64 then some n else .none

/-- The nearest whole number of 64 bits; zero for what is no number. -/
def naturalOfFloat (x : Binary64) : Nat :=
  if x.isNaN || x.isNegative then 0
  else if x.isInfinite then 2 ^ 64 - 1
  else min x.toIntRounded.toNat (2 ^ 64 - 1)

/-- The whole number of 64 bits that a value stands for, or what is expected instead. -/
def asNatural : Scalar → Except String Nat
  | boolean b => .ok b.toNat
  | integer n => if 0 ≤ n then .ok n.toNat else .error "an unsigned 64 bit or less integer"
  | float x => .ok (naturalOfFloat x)
  | text s =>
    match naturalOfText? s with
    | some n => .ok n
    | .none => .error "an integer"
  | none => .error "an integer"

end Scalar

namespace Tree

/-- What a tree is where another shape is expected. -/
def describe : Tree → String
  | .scalar _ s => s.describe
  | .sequence .. => "sequence"
  | .table .. => "map"

/-- Where a tree came from. -/
def origin : Tree → Option String
  | .scalar origin _ | .sequence origin _ | .table origin _ => origin

/-- The error of a tree that has no reading as a value. -/
def misfit (t : Tree) (expected : String) : Misfit where
  found := match t with
    | .scalar _ s => s.describeValue
    | t => t.describe
  expected := expected
  origin := t.origin

/-- The error of a tree of the wrong shape. -/
def misshapen (t : Tree) (expected : String) : Misfit where
  found := t.describe
  expected := expected
  ofShape := true

/-- A text. -/
def asText (t : Tree) : Except Misfit String :=
  match t with
  | .scalar _ s =>
    match s.asText with
    | some text => .ok text
    | none => .error (t.misfit "a string")
  | t => .error (t.misfit "a string")

/-- A text or nothing. -/
def asOptionalText : Tree → Except Misfit (Option String)
  | .scalar _ .none => .ok none
  | t => t.asText.map some

/-- A whole number of 64 bits. -/
def asNatural (t : Tree) : Except Misfit Nat :=
  match t with
  | .scalar _ s => s.asNatural.mapError t.misfit
  | t => .error (t.misfit "an integer")

/-- A whole number of 64 bits as a word. -/
def asWord64 (t : Tree) : Except Misfit UInt64 := t.asNatural.map Nat.toUInt64

/-- A whole number of 32 bits as a word. -/
def asWord32 (t : Tree) : Except Misfit UInt32 := do
  let n ← t.asNatural
  if n < 2 ^ 32 then .ok n.toUInt32
  else
    .error { found := s!"64-bit unsigned integer `{n}`", expected := "an unsigned 32 bit integer" }

/-- The texts of the members of a list, from an index on. -/
def textsFrom (i : Nat) : List Tree → Except Misfit (List String)
  | [] => .ok []
  | t :: rest => do
    let text ← t.asText.mapError (·.under s!"[{i}]")
    return text :: (← textsFrom (i + 1) rest)

/-- A list of texts. -/
def asTexts : Tree → Except Misfit (List String)
  | .sequence _ items => textsFrom 0 items
  | t => .error (t.misshapen "a sequence")

/-- A setting of a section: by its key, or by its position when the section is a sequence. -/
def setting {α : Type} (t : Tree) (i : Nat) (key : String) (default : α)
    (read : Tree → Except Misfit α) : Except Misfit α :=
  match t with
  | .table _ entries =>
    match entries.lookup key with
    | some v => (read v).mapError (·.under key)
    | none => .ok default
  | .sequence _ items =>
    match items[i]? with
    | some v => (read v).mapError (·.under s!"[{i}]")
    | none => .ok default
  | .scalar .. => .ok default

/-- A section: a table, or a sequence of its settings. -/
def asSection {α : Type} (name : String) (read : Tree → Except Misfit α) (t : Tree) :
    Except Misfit α :=
  match t with
  | .scalar .. => .error (t.misshapen ("struct " ++ name))
  | t => read t

end Tree

/-- The settings of the tool from their section. -/
def toolOfTree (t : Tree) : Except Misfit ToolSettings := do
  let d : ToolSettings := {}
  return {
    program := ← t.setting 0 "program" d.program Tree.asText
    arguments := ← t.setting 1 "args" d.arguments Tree.asTexts
    timeoutSeconds := ← t.setting 2 "timeout_secs" d.timeoutSeconds Tree.asWord64
    heartbeatSeconds := ← t.setting 3 "heartbeat_secs" d.heartbeatSeconds Tree.asWord64
    maxAttempts := ← t.setting 4 "max_attempts" d.maxAttempts Tree.asWord32
    retryBackoffMilliseconds :=
      ← t.setting 5 "retry_backoff_ms" d.retryBackoffMilliseconds Tree.asWord64
    scratchDirectory := ← t.setting 6 "scratch_dir" d.scratchDirectory Tree.asOptionalText
    credential := ← t.setting 7 "api_key_env" d.credential Tree.asOptionalText }

/-- The settings of the fix loop from their section. -/
def verifyOfTree (t : Tree) : Except Misfit VerifySettings := do
  let d : VerifySettings := {}
  return { maxFixAttempts := ← t.setting 0 "max_fix_attempts" d.maxFixAttempts Tree.asWord32 }

/-- The default commands from their section. -/
def commandsOfTree (t : Tree) : Except Misfit DefaultCommands := do
  return {
    lint := ← t.setting 0 "lint" none Tree.asOptionalText
    test := ← t.setting 1 "test" none Tree.asOptionalText }

/-- All settings. -/
def ofTree (t : Tree) : Except Misfit Settings := do
  let d : Settings := {}
  return {
    ignorePatterns := ← t.setting 0 "ignore_patterns" d.ignorePatterns Tree.asTexts
    contextGlob := ← t.setting 1 "context_glob" d.contextGlob Tree.asText
    tool := ← t.setting 2 "llm" d.tool (Tree.asSection "LlmConfig" toolOfTree)
    verify := ← t.setting 3 "verify" d.verify (Tree.asSection "VerifyConfig" verifyOfTree)
    commands :=
      ← t.setting 4 "commands" d.commands (Tree.asSection "CommandsConfig" commandsOfTree) }

end Codemod.Settings
