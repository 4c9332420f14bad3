import Codemod.Toml.Scalar

/-!
# Statements of TOML

A document is a list of lines that open a table, open a new member of a list of tables, or assign a
value to a key. Values in brackets are complete in themselves; what assignments mean together is
settled by `Toml.Table`.

- `Toml.Statement` — a line
- `Toml.Grammar.keys?` — a dotted key
- `Toml.Grammar.value?` — a value, where a pair of braces is given its meaning by a parameter
- `Toml.Statement.readAll?` — the lines of a document
-/

namespace Codemod.Toml

/-- A line of a document; keys are dotted. -/
inductive Statement where
  | table (keys : List String)
  | member (keys : List String)
  | assign (keys : List String) (value : Json)

/-- Gives a meaning to the assignments between braces, if they agree. -/
abbrev Assemble := List (List String × Json) → Option Json

namespace Grammar

open Quoted

/-- The text after blanks within the line. -/
def skipGap (cs : List Char) : List Char := cs.dropWhile isGap

/-- The text after a comment, if one stands at its front; no text when the comment is malformed. -/
def skipComment? : List Char → Option (List Char)
  | '#' :: rest =>
    match rest.span (fun c => c != '\n') with
    | (comment, rest) =>
      let shown := if rest.isEmpty then comment else
        match comment.reverse with
        | '\r' :: before => before.reverse
        | _ => comment
      if shown.all isAllowed then some rest else none
  | cs => some cs

/-- The text after blanks, comments and line breaks. -/
def skipLines? (fuel : Nat) (cs : List Char) : Option (List Char) :=
  match fuel with
  | 0 => none
  | fuel + 1 =>
    match skipComment? (skipGap cs) with
    | none => none
    | some rest =>
      match afterBreak? rest with
      | some rest => skipLines? fuel rest
      | none => some rest

/-- The text after the end of a line. -/
def endLine? (cs : List Char) : Option (List Char) := do
  let rest ← skipComment? (skipGap cs)
  if rest.isEmpty then some [] else afterBreak? rest

/-- A character of a key without quotes. -/
def isKeyChar (c : Char) : Bool := c.isAlphanum || c == '_' || c == '-'

/-- A key without dots. -/
def key? (cs : List Char) : Option (String × List Char) :=
  match cs.span isKeyChar with
  | ([], _) => (readKey? cs).map fun (text, rest) => (String.ofList text, rest)
  | (name, rest) => some (String.ofList name, rest)

/-- The levels of nesting that are read, and the parts that a dotted key has at most. -/
def maxDepth : Nat := 80

/-- A dotted key of a bounded number of parts, with the blanks around it. -/
def keys? (parts : Nat) (cs : List Char) : Option (List String × List Char) :=
  match parts with
  | 0 => none
  | parts + 1 => do
    let (key, rest) ← key? (skipGap cs)
    match skipGap rest with
    | '.' :: rest =>
      let (keys, rest) ← keys? parts rest
      some (key :: keys, rest)
    | rest => some ([key], rest)

/-- A character that ends a bare value. -/
def endsBare (c : Char) : Bool :=
  c == ',' || c == ']' || c == '\x7d' || c == '#' || c == '\n' || c == '\r' || isGap c

/-- A bare value. A date may be joined to a time by a blank. -/
def bare? (cs : List Char) : Option (Json × List Char) :=
  let (word, rest) := cs.span (!endsBare ·)
  match Scalar.date? word, rest with
  | some (_, []), ' ' :: c :: more =>
    if c.isDigit then
      let (time, rest) := (c :: more).span (!endsBare ·)
      (Scalar.read? (word ++ ' ' :: time)).map fun v => (v, rest)
    else (Scalar.read? word).map fun v => (v, rest)
  | _, _ => (Scalar.read? word).map fun v => (v, rest)

mutual

/-- A value at the front of a text. The first argument bounds the steps, the second the levels of
nesting. -/
def value? (assemble : Assemble) (fuel depth : Nat) (cs : List Char) : Option (Json × List Char) :=
  match fuel, depth, cs with
  | 0, _, _ | _, 0, '[' :: _ | _, 0, '\x7b' :: _ => none
  | fuel + 1, depth + 1, '[' :: rest =>
    (items? assemble fuel depth rest).map fun (vs, rest) => (.array vs, rest)
  | fuel + 1, depth + 1, '\x7b' :: rest => do
    let (assignments, rest) ← assignments? assemble fuel depth rest
    some (← assemble assignments, rest)
  | _, _, '"' :: _ | _, _, '\'' :: _ =>
    (read? cs).map fun (text, rest) => (.string (String.ofList text), rest)
  | _, _, _ => bare? cs

/-- The members of a list up to its closing bracket, which a comma may precede. -/
def items? (assemble : Assemble) (fuel depth : Nat) (cs : List Char) :
    Option (List Json × List Char) :=
  match fuel with
  | 0 => none
  | fuel + 1 =>
    match skipLines? (cs.length + 1) cs with
    | none => none
    | some (']' :: rest) => some ([], rest)
    | some rest =>
      match value? assemble fuel depth rest with
      | none => none
      | some (v, rest) =>
        match skipLines? (rest.length + 1) rest with
        | some (']' :: rest) => some ([v], rest)
        | some (',' :: rest) =>
          (items? assemble fuel depth rest).map fun (vs, rest) => (v :: vs, rest)
        | _ => none

/-- The assignments up to a closing brace, which a comma may precede. -/
def assignments? (assemble : Assemble) (fuel depth : Nat) (cs : List Char) :
    Option (List (List String × Json) × List Char) :=
  match fuel with
  | 0 => none
  | fuel + 1 =>
    match skipLines? (cs.length + 1) cs with
    | none => none
    | some ('\x7d' :: rest) => some ([], rest)
    | some rest =>
      match keys? maxDepth rest with
      | some (keys, '=' :: rest) =>
        match value? assemble fuel depth (skipGap rest) with
        | none => none
        | some (v, rest) =>
          match skipLines? (rest.length + 1) rest with
          | some ('\x7d' :: rest) => some ([(keys, v)], rest)
          | some (',' :: rest) =>
            (assignments? assemble fuel depth rest).map
              fun (more, rest) => ((keys, v) :: more, rest)
          | _ => none
      | _ => none

end

end Grammar

namespace Statement

open Grammar Quoted

/-- One line that is not blank, and what follows it. -/
def read? (assemble : Assemble) (cs : List Char) : Option (Statement × List Char) := do
  match cs with
  | '[' :: '[' :: rest =>
    let (keys, rest) ← keys? maxDepth rest
    match rest with
    | ']' :: ']' :: rest => some (.member keys, ← endLine? rest)
    | _ => none
  | '[' :: rest =>
    let (keys, rest) ← keys? maxDepth rest
    match rest with
    | ']' :: rest => some (.table keys, ← endLine? rest)
    | _ => none
  | _ =>
    let (keys, rest) ← keys? maxDepth cs
    match rest with
    | '=' :: rest =>
      let (v, rest) ← value? assemble (2 * cs.length + 2) maxDepth (skipGap rest)
      some (.assign keys v, ← endLine? rest)
    | _ => none

/-- The lines of a document. -/
def readLines? (assemble : Assemble) (fuel : Nat) (cs : List Char) : Option (List Statement) :=
  match fuel with
  | 0 => none
  | fuel + 1 => do
    match ← skipLines? (cs.length + 1) cs with
    | [] => some []
    | rest =>
      let (statement, rest) ← read? assemble rest
      return statement :: (← readLines? assemble fuel rest)

/-- The lines of a document, which may begin with a byte-order mark. -/
def readAll? (assemble : Assemble) (text : String) : Option (List Statement) :=
  let cs :=
    match text.toList with
    | c :: rest => if c.toNat == 0xFEFF then rest else c :: rest
    | [] => []
  readLines? assemble (cs.length + 1) cs

end Statement

end Codemod.Toml

/-!
## Tables of TOML

The statements of a document agree when no key is given twice, no complete value is extended, and
no table is opened twice. A table that only lies on the way to another may still be opened, and may
be extended by dotted keys like one that dotted keys made.

- `Toml.Making` — how a table came to be
- `Toml.Item` — what stands under a key while a document is read
- `Toml.Entries.assign?`, `Toml.Entries.open?`, `Toml.Entries.append?` — one per statement
- `Toml.parse?` — the value of a document
-/

namespace Codemod.Toml

/-- How a table came to be: on the way to another, by a dotted key, or by a line of its own. -/
inductive Making where
  | implied
  | dotted
  | opened
deriving DecidableEq

/-- What stands under a key: a complete value, a table, or a list of tables, the current one
last. -/
inductive Item where
  | value (v : Json)
  | table (making : Making) (entries : List (String × Item))
  | members (items : List Item)

/-- The keys of a table and what stands under them. -/
abbrev Entries := List (String × Item)

mutual

/-- The value of an item. -/
def Item.toJson : Item → Json
  | .value v => v
  | .table _ entries => .object (Item.fields entries)
  | .members items => .array (Item.values items)

/-- The values of the entries of a table. -/
def Item.fields : Entries → List (String × Json)
  | [] => []
  | (key, item) :: rest => (key, item.toJson) :: Item.fields rest

/-- The values of a list of tables. -/
def Item.values : List Item → List Json
  | [] => []
  | item :: rest => item.toJson :: Item.values rest

end

namespace Entries

/-- Changes what stands under a key; a new key comes last. -/
def update? (key : String) (change : Option Item → Option Item) : Entries → Option Entries
  | [] => (change none).map fun item => [(key, item)]
  | (k, item) :: rest =>
    if k == key then (change (some item)).map fun item => (k, item) :: rest
    else (update? key change rest).map ((k, item) :: ·)

/-- Changes the last member of a list of tables. -/
def updateLast? (change : Making → Entries → Option Entries) : List Item → Option (List Item)
  | [] => none
  | [.table making entries] => (change making entries).map fun entries => [.table making entries]
  | item :: rest => (updateLast? change rest).map (item :: ·)

/-- Puts a value under a dotted key. `making` is that of the table with these entries; below the
table of the section it is none that a line opened, and the table that takes the value counts as one
that a dotted key made. -/
def assign? (below : Bool) (making : Making) (v : Json) : List String → Entries → Option Entries
  | [], _ => none
  | [key], entries =>
    if below && making == .opened then none
    else entries.update? key fun
      | none => some (.value v)
      | some _ => none
  | key :: rest, entries =>
    entries.update? key fun
      | none => (assign? true .dotted v rest []).map (.table .dotted)
      | some (.table making inner) =>
        if making == .opened then none
        else (assign? true making v rest inner).map
          (.table (if rest.length == 1 then .dotted else making))
      | some (.members items) =>
        (updateLast? (fun making inner => assign? true making v rest inner) items).map .members
      | some (.value _) => none

/-- Opens the item under a dotted key. -/
def openItem? (last : Option Item → Option Item) : List String → Entries → Option Entries
  | [], _ => none
  | [key], entries => entries.update? key last
  | key :: rest, entries =>
    entries.update? key fun
      | none => (openItem? last rest []).map (.table .implied)
      | some (.table making inner) => (openItem? last rest inner).map (.table making)
      | some (.members items) =>
        (updateLast? (fun _ inner => openItem? last rest inner) items).map .members
      | some (.value _) => none

/-- Opens a table, which is new or has so far only been on the way to another. -/
def open? : List String → Entries → Option Entries :=
  openItem? fun
    | none => some (.table .opened [])
    | some (.table .implied entries) => some (.table .opened entries)
    | some _ => none

/-- Opens a new member of a list of tables. -/
def append? : List String → Entries → Option Entries :=
  openItem? fun
    | none => some (.members [.table .opened []])
    | some (.members items) => some (.members (items ++ [.table .opened []]))
    | some _ => none

/-- Puts a value under a dotted key of the section that was opened last. -/
def assignIn? (keys : List String) (v : Json) : List String → Entries → Option Entries
  | [], entries => assign? false .opened v keys entries
  | key :: rest, entries =>
    entries.update? key fun
      | some (.table making inner) => (assignIn? keys v rest inner).map (.table making)
      | some (.members items) =>
        (updateLast? (fun _ inner => assignIn? keys v rest inner) items).map .members
      | _ => none

end Entries

/-- A document that is being read: its entries, and the keys of the current section. -/
structure Draft where
  entries : Entries := []
  current : List String := []

namespace Draft

/-- Takes in one statement. -/
def add? (draft : Draft) : Statement → Option Draft
  | .table keys => (draft.entries.open? keys).map fun es => ⟨es, keys⟩
  | .member keys => (draft.entries.append? keys).map fun es => ⟨es, keys⟩
  | .assign keys v =>
    (draft.entries.assignIn? keys v draft.current).map fun es => { draft with entries := es }

end Draft

/-- The value of the assignments between braces. -/
def assembleInline (assignments : List (List String × Json)) : Option Json :=
  (assignments.foldlM (fun es (keys, v) => Entries.assign? false .opened v keys es) []).map
    fun es => .object (Item.fields es)

/-- The value of a document. Dates are texts in normal form. -/
def parse? (text : String) : Option Json := do
  let statements ← Statement.readAll? assembleInline text
  let draft ← statements.foldlM Draft.add? {}
  return .object (Item.fields draft.entries)

end Codemod.Toml
