import Codemod.Shell.Assignment
import Codemod.Shell.BuiltIn.Declaration
import Codemod.Shell.Regex.Reading
import Codemod.Shell.Tool.Test

/-!
# Conditions between double brackets

- `Proposition.status` — whether a condition holds, as a status
-/

namespace Codemod.Shell.Proposition

/-- The text of a regular expression, in which what was quoted stands for itself. -/
def expressionText (atoms : List Expand.Atom) : Octets :=
  atoms.flatMap fun
    | .literal c => if ".[]()*+?\x7b\x7d|^$\\".toList.contains c then ['\\', c] else [c]
    | .plain c | .value c => [c]
    | .mark => []
    | .gap => [' ']

/-- One for falsehood, zero for truth. -/
def ofBool (holds : Bool) : Nat := if holds then 0 else 1

/-- A variable, or an element of a list, is set. -/
def isSet (m : Machine) (text : Octets) : Bool :=
  match text.span (· != '[') with
  | (name, '[' :: rest) =>
    match Parameter.row? m name, rest.dropLast with
    | some row, ['@'] | some row, ['*'] => !row.entries.isEmpty
    | some row, key =>
      let key := if row.keyed then key else ((Tool.natural? key).map Octets.ofNat).getD key
      (row.get? key).isSome
    | none, _ => false
  | (name, _) => (Parameter.value? m name).isSome

/-- A word has a property. -/
def hasProperty (m : Machine) (sign : String) (text : Octets) : Bool :=
  match sign with
  | "-v" => isSet m text
  | "-R" => (m.rich.references.lookup text).isSome
  | "-o" =>
    match BuiltIn.optionNames.lookup text.toText with
    | some c => BuiltIn.isOn m c
    | none => text == "pipefail".toList && m.rich.pipeFails
  | "-a" => Condition.hasProperty m.disk 'e' text
  | sign => Condition.hasProperty m.disk ((sign.toList.drop 1).headD 'n') text

/-- Looks for a regular expression in a text; what its groups have matched is kept in a list. -/
def search (text pattern : Octets) : Act Nat := do
  let groups (values : List Octets) : Act Unit :=
    modify fun m => m.setRow "BASH_REMATCH".toList (Row.ofList values)
  match Regex.read .lenientExtended pattern with
  | .error _ => return 2
  | .ok r =>
    match r.search? text with
    | none =>
      groups []
      return 1
    | some found =>
      groups (found.taken text :: (List.range r.groupCount).map fun n => found.group text (n + 1))
      return 0

/-- Compares two numbers that expressions give. -/
def numbers (a b : Octets) (f : Int → Int → Bool) : Act Nat := do
  match ← Act.calculate "[[: " a with
  | none => return 1
  | some x =>
    match ← Act.calculate "[[: " b with
    | none => return 1
    | some y => return ofBool (f x y)

/-- The comparison of two words. -/
def compare (capture : Expand.Capture) (a : Word) (sign : String) (b : Word) : Act Nat := do
  let left ← Expand.text capture a
  let text : Act Octets := Expand.text capture b
  match sign with
  | "=" | "==" => return ofBool (Wildcard.accepts (← Expand.pattern capture b) left)
  | "!=" => return ofBool !(Wildcard.accepts (← Expand.pattern capture b) left)
  | "=~" => search left (expressionText (← Expand.whole capture b))
  | "-eq" => numbers left (← text) (· == ·)
  | "-ne" => numbers left (← text) (· != ·)
  | "-lt" => numbers left (← text) (· < ·)
  | "-le" => numbers left (← text) (· ≤ ·)
  | "-gt" => numbers left (← text) (· > ·)
  | "-ge" => numbers left (← text) (· ≥ ·)
  | sign =>
    let right ← text
    match Condition.compared (← get).disk true left sign.toList right with
    | .ok holds => return ofBool holds
    | .error _ => return 2

/-- Whether a condition holds: zero if it does, one if not, two if that cannot be told. -/
def status (capture : Expand.Capture) : Proposition → Act Nat
  | .word w => do return ofBool !(← Expand.text capture w).isEmpty
  | .property sign w => do
    let text ← Expand.text capture w
    return ofBool (hasProperty (← get) sign text)
  | .relation a sign b => compare capture a sign b
  | .not p => do
    let n ← status capture p
    return if n == 0 then 1 else if n == 1 then 0 else n
  | .both p q => do
    let n ← status capture p
    if n == 0 then status capture q else return n
  | .either p q => do
    let n ← status capture p
    if n == 0 then return 0 else status capture q

end Codemod.Shell.Proposition
