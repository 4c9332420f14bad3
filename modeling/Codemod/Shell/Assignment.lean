import Codemod.Shell.Expand
import Codemod.Shell.Grammar

/-!
# Assignments

- `Act.store` — a text for a variable or an element of a list
- `Assignment.perform` — an assignment as it stands in a script
-/

namespace Codemod.Shell

namespace Act

/-- Gives a variable or an element of a list a text, in the way that the marks of the variable
say. -/
def store (command : Option String) (name : Octets) (key : Option Octets) (appends : Bool)
    (text : Octets) : Act Unit := do
  let m ← get
  let target := m.referent name
  if m.readOnly.contains target then failReadOnly command name
  let marks := (m.slot target).marks
  let row := m.row? name
  let old := match key with
    | none => m.get? name
    | some key => (row.bind fun r => r.get? key).or (if key == ['0'] then m.get? name else none)
  let text ←
    if marks.contains 'i' then do
      let shown := match command with
        | some command => command ++ ": "
        | none => ""
      match ← calculate shown text with
      | none => throw (if command.isSome then .refused 1 else .abandoned)
      | some n =>
        let before ← if appends then calculated (old.getD []) else pure 0
        pure (Octets.ofInt (Arithmetic.wrapped (before + n)))
    else pure (if appends then old.getD [] ++ text else text)
  let text :=
    if marks.contains 'l' then text.map Char.toLower
    else if marks.contains 'u' then text.map Char.toUpper
    else text
  match key with
  | none => assign command name text
  | some key =>
    let row := row.getD (match m.get? name with
      | some value => Row.ofList [value]
      | none => {})
    modify fun m => m.setRow name (row.set key text)

end Act

namespace Assignment

/-- An element that is given in a list: its key if there is one, and its value. -/
structure Element where
  key : Option Octets := none
  appends : Bool := false
  value : Octets

/-- The elements of the words of a list. -/
def elements (capture : Expand.Capture) (name : Octets) (row : Row) :
    List Word → Act (List Element)
  | [] => return []
  | word :: rest => do
    let first : List Element ←
      match word with
      | .target [] index :: .plain text :: more =>
        match Grammar.assigned? true text more with
        | some (appends, value) => do
          match ← Expand.keyOf capture Expand.maxDepth name row index with
          | some key =>
            pure [{ key := some key, appends, value := ← Expand.assigned capture value }]
          | none => pure []
        | none => pure []
      | word => do
        let values ← Expand.fields capture word
        pure (values.map fun value => { value })
    return first ++ (← elements capture name row rest)

/-- A list by texts with elements. Words without keys are keys and values in turn. -/
def keyed (row : Row) : List Element → Row
  | [] => row
  | e :: rest =>
    match e.key, rest with
    | some key, rest =>
      let old := if e.appends then (row.get? key).getD [] else []
      keyed (row.set key (old ++ e.value)) rest
    | none, f :: rest => keyed (row.set e.value f.value) rest
    | none, [] => row.set e.value []

/-- A list by numbers with elements, of which those without keys follow the one before them. -/
def numbered (row : Row) (next : Nat) : List Element → Row
  | [] => row
  | e :: rest =>
    let key := e.key.getD (Octets.ofNat next)
    let old := if e.appends then (row.get? key).getD [] else []
    numbered (row.set key (old ++ e.value)) ((Tool.natural? key).getD next + 1) rest

/-- Carries out an assignment, perhaps for a command. The value is its text. -/
def perform (capture : Expand.Capture) (command : Option String) (a : Assignment) : Act Octets := do
  let m ← get
  match a.value with
  | [.list words] => do
    if m.readOnly.contains (m.referent a.name) then Act.failReadOnly command a.name
    let old := (m.row? a.name).getD (match m.get? a.name with
      | some value => Row.ofList [value]
      | none => {})
    let start : Row := if a.appends then old else { keyed := old.keyed }
    let found ← elements capture a.name start words
    let marks := (m.slot (m.referent a.name)).marks
    let found ←
      if marks.contains 'i' then
        found.mapM fun e => do pure { e with value := Octets.ofInt (← Act.calculated e.value) }
      else pure found
    let row := if start.keyed then keyed start found else numbered start start.next found
    modify fun m => m.setRow a.name row
    return a.name ++ "=()".toList
  | value => do
    match a.index with
    | none => do
      let text ← Expand.assigned capture value
      if m.rich.isOn then Act.store command a.name none a.appends text
      else Act.assign command a.name text
      return a.name ++ '=' :: text
    | some index => do
      let row := (m.row? a.name).getD (match m.get? a.name with
        | some value => Row.ofList [value]
        | none => {})
      let text := Expand.toText (← Expand.atoms capture Expand.maxDepth false index)
      let bad : Act Octets :=
        Act.abandon s!"{a.name.toText}[{Grammar.Token.plain (.word index)}]: bad array subscript"
      let key ←
        if row.keyed then
          if text.isEmpty then bad else pure text
        else do
          match row.keyOf? (← Act.calculated text) with
          | some key => pure key
          | none => bad
      let value ← Expand.assigned capture value
      Act.store command a.name (some key) a.appends value
      return a.name ++ '[' :: text ++ "]=".toList ++ value

end Assignment

end Codemod.Shell
