import Codemod.Decimal

/-!
# JSON values

- `Json` — a value; the fields of an object keep the order in which they are listed
- `Json.get?` — a field of an object
- `Json.canonical` — objects with their fields sorted by key, of equal keys the last
-/

namespace Codemod

/-- A JSON value. A number is an integer when it is written as one and fits 64 bits. -/
inductive Json where
  | null
  | bool (b : Bool)
  | int (n : Int)
  | float (x : Binary64)
  | string (s : String)
  | array (items : List Json)
  | object (fields : List (String × Json))
deriving Inhabited

namespace Json

/-- The value of the first field of that name. -/
def field? (key : String) : List (String × Json) → Option Json
  | [] => none
  | (k, v) :: rest => if k == key then some v else field? key rest

/-- The field of an object; none for other values. -/
def get? (key : String) : Json → Option Json
  | object fields => field? key fields
  | _ => none

/-- The text of a string value. -/
def string? : Json → Option String
  | string s => some s
  | _ => none

/-- The truth value of a boolean. -/
def bool? : Json → Option Bool
  | bool b => some b
  | _ => none

/-- The members of an array. -/
def array? : Json → Option (List Json)
  | array items => some items
  | _ => none

/-- Puts a field among fields sorted by key; a field of the same key is replaced. -/
def insertField (key : String) (value : Json) : List (String × Json) → List (String × Json)
  | [] => [(key, value)]
  | (k, v) :: rest =>
    if key < k then (key, value) :: (k, v) :: rest
    else if key == k then (key, value) :: rest
    else (k, v) :: insertField key value rest

/-- Fields sorted by key; of equal keys the last is kept. -/
def sortFields (fields : List (String × Json)) : List (String × Json) :=
  fields.foldl (fun sorted f => insertField f.1 f.2 sorted) []

mutual

/-- The value with the fields of every object sorted by key, of equal keys the last. -/
def canonical : Json → Json
  | array items => array (canonicalItems items)
  | object fields => object (sortFields (canonicalFields fields))
  | v => v

/-- Each member in canonical form. -/
def canonicalItems : List Json → List Json
  | [] => []
  | v :: rest => canonical v :: canonicalItems rest

/-- Each field's value in canonical form. -/
def canonicalFields : List (String × Json) → List (String × Json)
  | [] => []
  | (k, v) :: rest => (k, canonical v) :: canonicalFields rest

end

end Json

end Codemod
