import Codemod.Shell.Snippet.Function
import Codemod.Shell.Snippet.Grammar

/-!
# Evaluation of snippets

Expressions and statements are evaluated in a given number of steps.

- `Snippet.Evaluation.value` — expressions
- `Snippet.Evaluation.run` — statements
- `Snippet.Evaluation.whole` — all of a snippet
-/

namespace Codemod.Shell.Snippet.Evaluation

open Eval

/-- The steps that a snippet may take. -/
def maxSteps : Nat := 200000

/-- The calls that may be in progress at once. -/
def maxCalls : Nat := 800

/-! ### Operations -/

/-- A value as a text or a number, with objects as texts. -/
def plain (v : Value) : Eval Value := do
  match v with
  | .object _ | .builtIn _ => return .text (← text v)
  | v => return v

/-- Two values are the same. -/
def same : Value → Value → Bool
  | .undefined, .undefined | .null, .null => true
  | .boolean a, .boolean b => a == b
  | .number x, .number y => x == y
  | .text s, .text t => s == t
  | .builtIn a, .builtIn b => a == b
  | .object a, .object b => a == b
  | _, _ => false

/-- Two values are equal when one may be taken for the other. -/
def equal (a b : Value) : Eval Bool := do
  match a, b with
  | .undefined, .null | .null, .undefined => return true
  | .undefined, _ | _, .undefined | .null, _ | _, .null => return same a b
  | .object _, .object _ | .builtIn _, .builtIn _ | .text _, .text _ => return same a b
  | a, b =>
    let (a, b) := (← plain a, ← plain b)
    match a, b with
    | .text s, .text t => return s == t
    | a, b => return (← number a) == (← number b)

/-- What is left of a division, with the sign of the first number. -/
def remainder (x y : Float) : Float :=
  if !isFinite x || y == 0 || y != y then 0.0 / 0.0
  else if !isFinite y then x
  else
    let (a, b) := ratio x
    let (c, d) := ratio y
    let left := ofBinary (Binary64.ofRatio (a * d % (c * b)) (b * d))
    if x < 0 || (x == 0 && Binary64.isNegative ⟨x.toBits⟩) then -left else left

/-- Two values compared as texts or as numbers. -/
def ordered (texts : String → String → Bool) (numbers : Float → Float → Bool) (a b : Value) :
    Eval Value := do
  match ← plain a, ← plain b with
  | .text s, .text t => return .boolean (texts s t)
  | a, b => return .boolean (numbers (← number a) (← number b))

/-- Two values in thirty-two bits. -/
def words (f : Int → Int → Int) (a b : Value) : Eval Value := do
  let (m, n) := (word (← number a), word (← number b))
  return Value.ofInt (Int.bmod (f m n) (2 ^ 32))

/-- An operation on the bits of two words. -/
def bits (f : Nat → Nat → Nat) (m n : Int) : Int :=
  f (m % 2 ^ 32).toNat (n % 2 ^ 32).toNat

/-- The fields by which a value is a member. -/
def isMember (key : Value) (object : Value) : Eval Bool := do
  let name ← text key
  return (← fieldsOf object).any (·.1 == name)

/-- The result of an operation. -/
def operate (o : Operator) (a b : Value) : Eval Value := do
  let onNumbers (f : Float → Float → Float) : Eval Value := do
    return .number (f (← number a) (← number b))
  match o with
  | .plus =>
    match ← plain a, ← plain b with
    | .text s, b => return .text (s ++ (← text b))
    | a, .text t => return .text ((← text a) ++ t)
    | a, b => return .number ((← number a) + (← number b))
  | .minus => onNumbers (· - ·)
  | .times => onNumbers (· * ·)
  | .dividedBy => onNumbers (· / ·)
  | .remainder => onNumbers remainder
  | .power => onNumbers Float.pow
  | .less => ordered (fun s t => s < t) (fun x y => x < y) a b
  | .greater => ordered (fun s t => t < s) (fun x y => y < x) a b
  | .atMost => ordered (fun s t => s ≤ t) (fun x y => x ≤ y) a b
  | .atLeast => ordered (fun s t => t ≤ s) (fun x y => y ≤ x) a b
  | .equal => return .boolean (← equal a b)
  | .unequal => return .boolean !(← equal a b)
  | .same => return .boolean (same a b)
  | .different => return .boolean !(same a b)
  | .bitAnd => words (bits Nat.land) a b
  | .bitOr => words (bits Nat.lor) a b
  | .bitXor => words (bits Nat.xor) a b
  | .shiftLeft => words (fun m n => m * 2 ^ (n % 32).toNat) a b
  | .shiftRight => words (fun m n => m / 2 ^ (n % 32).toNat) a b
  | .shiftWord =>
    let (m, n) := (wholePart (← number a) % 2 ^ 32, word (← number b))
    return Value.ofInt (m / 2 ^ (n % 32).toNat)
  | .member => return .boolean (← isMember a b)
  | .madeBy =>
    match a, b with
    | .object place, .builtIn name =>
      match ((← heap).get place).nature with
      | .fault kind _ => return .boolean (name == "Error" || name == kind || name == "Object")
      | .list _ => return .boolean (name == "Array" || name == "Object")
      | .function .. => return .boolean (name == "Function" || name == "Object")
      | .regex .. => return .boolean (name == "RegExp" || name == "Object")
      | .plain => return .boolean (name == "Object")
    | _, _ => return .boolean false

/-- The value of a sign before a value. -/
def signed (sign : Sign) (v : Value) : Eval Value := do
  match sign with
  | .not => return .boolean !(Heap.holds v)
  | .negative => return .number (-(← number v))
  | .positive => return .number (← number v)
  | .complement => return Value.ofInt (-1 - word (← number v))
  | .kind => return .text ((← heap).kind v)
  | .nothing => return .undefined

/-- The second value counts. -/
def calls (c : Choice) (v : Value) : Bool :=
  match c with
  | .whenTrue => Heap.holds v
  | .whenFalse => !(Heap.holds v)
  | .whenMissing =>
    match v with
    | .undefined | .null => true
    | _ => false

/-! ### Members -/

/-- The functions that every list has. -/
def listFunctions : List String :=
  ["at", "concat", "every", "fill", "filter", "find", "findIndex", "findLast", "flat", "flatMap",
    "forEach",
    "includes", "indexOf", "join", "keys", "entries", "lastIndexOf", "map", "pop", "push", "reduce",
    "reduceRight", "reverse", "shift", "slice", "some", "sort", "splice", "toString", "unshift",
      "values"]

/-- The place in a list that a key means. -/
def index? (key : String) : Option Nat :=
  if !key.isEmpty && key.toList.all Char.isDigit then some (digitsValue 10 key.toList) else none

/-- What is known of the surroundings. -/
def surroundings (key : String) : Eval Value := do
  match key with
  | "argv" => texts (← get).words
  | "env" =>
    let known ← onBench (do return (← get).environment)
    make .plain (known.map fun (name, value) => (name.toText, .text value.toText))
  | "platform" => return .text "linux"
  | "exitCode" => return .undefined
  | "pid" => return Value.ofNat 4321
  | _ => return .undefined

/-- A member of a value. -/
def member (object : Value) (key : Value) : Eval Value := do
  let name ← text key
  let among (functions : List String) (front : String) : Value :=
    if functions.contains name then .builtIn (front ++ name) else .undefined
  match object with
  | .undefined | .null =>
    mistype s!"Cannot read properties of {(← text object)} (reading '{name}')"
  | .text s =>
    if name == "length" then return Value.ofNat (unitCount s)
    match index? name with
    | some n => return ((s.toList[n]?).map fun c => Value.text (String.singleton c)).getD .undefined
    | none => return among textFunctions "text."
  | .number _ => return among ["toFixed", "toString", "valueOf"] "number."
  | .boolean _ => return among ["toString"] "boolean."
  | .builtIn group =>
    match knownMembers.lookup group with
    | some names =>
      if names.contains name then return .builtIn (group ++ "." ++ name)
      match group, name with
      | "Math", "PI" => return .number (4 * Float.atan 1)
      | "Math", "E" => return .number (Float.exp 1)
      | "Number", "MAX_SAFE_INTEGER" => return .number 9007199254740991
      | "process", _ => surroundings name
      | _, _ => return .undefined
    | none => return .undefined
  | .object place =>
    let o := (← heap).get place
    match o.fields.lookup name with
    | some v => return v
    | none =>
      match o.nature with
      | .plain => return among ["hasOwnProperty", "toString"] "object."
      | .list items =>
        if name == "length" then return Value.ofNat items.size
        match index? name with
        | some n => return (items[n]?).getD .undefined
        | none => return among listFunctions "list."
      | .function own parameters .. =>
        match name with
        | "name" => return .text own
        | "length" => return Value.ofNat parameters.length
        | _ => return among ["call", "apply", "bind"] "function."
      | .regex body flags =>
        match name with
        | "source" => return .text body
        | "flags" => return .text flags
        | "global" => return .boolean (flags.toList.contains 'g')
        | "lastIndex" => return Value.ofNat 0
        | _ => return among ["test", "exec", "toString"] "regex."
      | .fault kind message =>
        match name with
        | "message" => return .text message
        | "name" => return .text kind
        | "stack" => return .text s!"{kind}: {message}"
        | _ => return among ["toString"] "object."

/-- Sets a member of a value. -/
def setMember (object key v : Value) : Eval Unit := do
  let name ← text key
  match object with
  | .object place =>
    change place fun o =>
      match o.nature, index? name with
      | .list items, some n =>
        let filled :=
          if items.size ≤ n then items ++ Array.replicate (n + 1 - items.size) .undefined else items
        { o with nature := .list (filled.set! n v) }
      | .list items, none =>
        match name, v with
        | "length", .number x =>
          { o with nature := .list (items.toSubarray 0 (wholePart x).toNat).toArray }
        | _, _ => { o with fields := withField name v o.fields }
      | .fault kind _, none =>
        match name, v with
        | "message", .text s => { o with nature := .fault kind s }
        | "name", .text s =>
          { o with nature := .fault s (match o.nature with | .fault _ m => m | _ => "") }
        | _, _ => { o with fields := withField name v o.fields }
      | _, _ => { o with fields := withField name v o.fields }
  | .builtIn "process" =>
    if name == "exitCode" then
      let x ← number v
      modify fun s => { s with status := (wholePart x % 256).toNat }
  | .undefined | .null => mistype s!"Cannot set properties of {(← text object)} (setting '{name}')"
  | _ => return

/-- A variable by its name. -/
def valueOf (scope : Scope) (name : String) : Eval Value := do
  match scope.lookup name with
  | some place =>
    match ((← heap).cells[place]?).bind Cell.value with
    | some v => return v
    | none => fail "ReferenceError" s!"Cannot access '{name}' before initialization"
  | none =>
    if knownNames.contains name then return .builtIn name
    match name with
    | "undefined" => return .undefined
    | "NaN" => return .number (0.0 / 0.0)
    | "Infinity" => return .number (1.0 / 0.0)
    | _ => fail "ReferenceError" s!"{name} is not defined"

/-- Makes variables. -/
def declared (names : List (String × Bool)) (value : Option Value) (scope : Scope) :
    Eval Scope := do
  let mut scope := scope
  for (name, fixed) in names do
    scope := (name, ← newCell value fixed) :: scope
  return scope

/-- Sets a variable that is declared, when `first` for the first time. -/
def assignName (scope : Scope) (first : Bool) (name : String) (v : Value) : Eval Unit := do
  match scope.lookup name with
  | none => fail "ReferenceError" s!"{name} is not defined"
  | some place =>
    match (← heap).cells[place]? with
    | some cell =>
      if !first then
        if cell.value.isNone then
          fail "ReferenceError" s!"Cannot access '{name}' before initialization"
        if cell.fixed then mistype "Assignment to constant variable."
      setVariable place v
    | none => return

/-- The text of an expression that is no function. -/
def written : Expression → String
  | .name n => n
  | .member object (.value (.text key)) _ => written object ++ "." ++ key
  | .member object _ _ => written object ++ "[...]"
  | .call function _ _ => written function ++ "(...)"
  | .value (.number x) => numberText x
  | .value (.text s) => "\"" ++ s ++ "\""
  | .value .null => "null"
  | .value .undefined => "undefined"
  | .value (.boolean b) => if b then "true" else "false"
  | _ => "(intermediate value)"

/-- A name for a function that has none, from where it is put. -/
def named (name : String) : Expression → Expression
  | .function "" parameters body hasSelf => .function name parameters body hasSelf
  | e => e

/-- A name for a function, from a target. -/
def namedBy : Target → Expression → Expression
  | .name n, e => named n e
  | _, e => e

/-- Merges sorted lists with a comparison that is a step itself. -/
def merge (before : Value → Value → Eval Bool) (fuel : Nat) (as bs : List Value) :
    Eval (List Value) :=
  match fuel, as, bs with
  | 0, as, bs => return as ++ bs
  | _, [], bs => return bs
  | _, as, [] => return as
  | fuel + 1, a :: as, b :: bs => do
    if ← before b a then return b :: (← merge before fuel (a :: as) bs)
    else return a :: (← merge before fuel as (b :: bs))

/-- Sorts a list with a comparison that is a step itself; what is equal keeps its order. -/
def sorted (before : Value → Value → Eval Bool) (fuel : Nat) (vs : List Value) :
    Eval (List Value) :=
  match fuel, vs with
  | 0, vs => return vs
  | _, [] => return []
  | _, [v] => return [v]
  | fuel + 1, vs => do
    let half := vs.length / 2
    let front ← sorted before fuel (vs.take half)
    let back ← sorted before fuel (vs.drop half)
    merge before (vs.length + 1) front back

/-- The items of a list with lists in it resolved so deeply. -/
def flattened (fuel : Nat) (vs : List Value) : Eval (List Value) :=
  match fuel with
  | 0 => return vs
  | fuel + 1 => do
    let mut found := []
    for v in vs do
      match v with
      | .object _ =>
        match ← items? v with
        | some inner => found := found ++ (← flattened fuel inner)
        | none => found := found ++ [v]
      | v => found := found ++ [v]
    return found

/-- A function of a list that calls no others. -/
def applyList (name : String) (place : Nat) (vs arguments : List Value) : Eval Value := do
  let size := vs.length
  let v (n : Nat) : Value := (arguments[n]?).getD .undefined
  let bound (n otherwise : Nat) : Eval Nat := do
    match v n with
    | .undefined => return otherwise
    | w => return Eval.place size (← Eval.number w)
  let put (vs : List Value) : Eval Unit :=
    change place fun o => { o with nature := .list vs.toArray }
  match name with
  | "at" =>
    let n := wholePart (← Eval.number (v 0))
    let n := if n < 0 then size + n else n
    return if n < 0 then .undefined else (vs[n.toNat]?).getD .undefined
  | "push" =>
    put (vs ++ arguments)
    return Value.ofNat (size + arguments.length)
  | "pop" =>
    put vs.dropLast
    return vs.getLastD .undefined
  | "shift" =>
    put (vs.drop 1)
    return vs.headD .undefined
  | "unshift" =>
    put (arguments ++ vs)
    return Value.ofNat (size + arguments.length)
  | "concat" => do
    let mut found := vs
    for a in arguments do
      match a with
      | .object _ => found := found ++ ((← items? a).getD [a])
      | a => found := found ++ [a]
    list found
  | "join" | "toString" =>
    let separator ← match v 0 with
      | .undefined => pure ","
      | w => Eval.text w
    let pieces ← vs.mapM fun w =>
      match w with
      | .undefined | .null => pure ""
      | w => Eval.text w
    return .text (String.intercalate separator pieces)
  | "slice" => do
    let first ← bound 0 0
    let last ← bound 1 size
    list ((vs.drop first).take (last - first))
  | "splice" => do
    let first ← bound 0 0
    let count ← if arguments.length < 2 then pure size else do
      let x ← Eval.number (v 1)
      pure (wholePart x).toNat
    put (vs.take first ++ arguments.drop 2 ++ vs.drop (first + count))
    list ((vs.drop first).take count)
  | "reverse" =>
    put vs.reverse
    return .object place
  | "includes" => return .boolean (vs.any (same · (v 0)))
  | "indexOf" => return placeValue (vs.findIdx? (same · (v 0)))
  | "lastIndexOf" => return placeValue ((vs.reverse.findIdx? (same · (v 0))).map (size - 1 - ·))
  | "fill" =>
    put (vs.map fun _ => v 0)
    return .object place
  | "keys" => list ((List.range size).map Value.ofNat)
  | "values" => list vs
  | "entries" => list (← vs.zipIdx.mapM fun (w, i) => list [Value.ofNat i, w])
  | "flat" =>
    let x ← Eval.number (v 0)
    let depth := match v 0 with
      | .undefined => 1
      | _ => if isFinite x then (wholePart x).toNat else maxNesting
    list (← flattened depth vs)
  | _ => mistype s!"{name} is not a function"

mutual

/-- The value of an expression. -/
def value (fuel : Nat) (scope : Scope) (e : Expression) : Eval Value :=
  match fuel with
  | 0 => throw .endless
  | fuel + 1 => do
    match e with
    | .value v => return v
    | .template pieces =>
      let texts ← pieces.mapM fun p => do text (← value fuel scope p)
      return .text (String.join texts)
    | .regex body flags =>
      let _ ← regexOf body flags
      make (.regex body flags)
    | .name n => valueOf scope n
    | .list items => list (← arguments fuel scope items)
    | .record fields => make .plain (← record fuel scope [] fields)
    | .function name parameters body hasSelf => make (.function name parameters body hasSelf scope)
    | .unary .kind (.name n) =>
      if (scope.lookup n).isNone && !knownNames.contains n && !(["NaN", "Infinity"].contains n) then
        return .text "undefined"
      else signed .kind (← valueOf scope n)
    | .unary sign e => signed sign (← value fuel scope e)
    | .binary o a b =>
      let left ← value fuel scope a
      operate o left (← value fuel scope b)
    | .choice c a b =>
      let left ← value fuel scope a
      if calls c left then value fuel scope b else return left
    | .conditional condition a b =>
      if Heap.holds (← value fuel scope condition) then value fuel scope a else value fuel scope b
    | .assign target none e =>
      let v ← value fuel scope (namedBy target e)
      assign fuel scope false target v
      return v
    | .assign target (some o) e =>
      let old ← current fuel scope target
      let v ← operate o old (← value fuel scope e)
      assign fuel scope false target v
      return v
    | .assignWhen c target e =>
      let old ← current fuel scope target
      if !(calls c old) then return old
      let v ← value fuel scope (namedBy target e)
      assign fuel scope false target v
      return v
    | .step target change before =>
      let x ← number (← current fuel scope target)
      assign fuel scope false target (.number (x + change))
      return .number (if before then x else x + change)
    | .member object key lenient =>
      let o ← value fuel scope object
      if lenient && calls .whenMissing o then return .undefined
      member o (← value fuel scope key)
    | .call function items lenient =>
      let (self, f) ← callee fuel scope function
      if lenient && calls .whenMissing f then return .undefined
      let vs ← arguments fuel scope items
      match f with
      | .builtIn _ => invoke fuel f self vs
      | .object place =>
        match ((← heap).get place).nature with
        | .function .. => invoke fuel f self vs
        | _ => mistype s!"{written function} is not a function"
      | _ => mistype s!"{written function} is not a function"
    | .make function items =>
      let f ← value fuel scope function
      let vs ← arguments fuel scope items
      match f with
      | .builtIn _ => invoke fuel f .undefined vs
      | f =>
        let self ← make .plain
        match ← invoke fuel f self vs with
        | .object place => return .object place
        | _ => return self
    | .delete object key =>
      let o ← value fuel scope object
      let name ← text (← value fuel scope key)
      match o with
      | .object place => change place fun o => { o with fields := o.fields.filter (·.1 != name) }
      | _ => pure ()
      return .boolean true
    | .sequence a b =>
      let _ ← value fuel scope a
      value fuel scope b

/-- The value of a target before it is changed. -/
def current (fuel : Nat) (scope : Scope) (target : Target) : Eval Value :=
  match fuel with
  | 0 => throw .endless
  | fuel + 1 => do
    match target with
    | .name n => valueOf scope n
    | .member object key => do
      let o ← value fuel scope object
      member o (← value fuel scope key)
    | _ => return .undefined

/-- A function that is called, and the value whose member it is. -/
def callee (fuel : Nat) (scope : Scope) (e : Expression) : Eval (Value × Value) :=
  match fuel with
  | 0 => throw .endless
  | fuel + 1 => do
    match e with
    | .member object key lenient =>
      let o ← value fuel scope object
      if lenient && calls .whenMissing o then return (o, .undefined)
      return (o, ← member o (← value fuel scope key))
    | e => return (.undefined, ← value fuel scope e)

/-- The values of items. -/
def arguments (fuel : Nat) (scope : Scope) (is : List Item) : Eval (List Value) :=
  match fuel with
  | 0 => throw .endless
  | fuel + 1 => do
    let found ← is.mapM fun i =>
      match i with
      | .nothing => return [.undefined]
      | .one e => do return [← value fuel scope e]
      | .all e => do items (← value fuel scope e)
    return found.flatten

/-- The values of fields, after others. -/
def record (fuel : Nat) (scope : Scope) (done : List (String × Value)) (fs : List Field) :
    Eval (List (String × Value)) :=
  match fuel with
  | 0 => throw .endless
  | fuel + 1 => do
    match fs with
    | [] => return done
    | .field key e :: rest =>
      let name ← text (← value fuel scope key)
      let v ← value fuel scope (named name e)
      record fuel scope (withField name v done) rest
    | .all e :: rest =>
      let more ← fieldsOf (← value fuel scope e)
      record fuel scope (more.foldl (fun fields (key, v) => withField key v fields) done) rest

/-- Assigns a value to a target, when `first` as a declaration does. -/
def assign (fuel : Nat) (scope : Scope) (first : Bool) (target : Target) (v : Value) : Eval Unit :=
  match fuel with
  | 0 => throw .endless
  | fuel + 1 => do
    match target with
    | .nothing => return
    | .name n => assignName scope first n v
    | .member object key =>
      let o ← value fuel scope object
      setMember o (← value fuel scope key) v
    | .list targets => assignItems fuel scope first targets (← items v)
    | .record parts =>
      if calls .whenMissing v then
        mistype s!"Cannot destructure '{(← text v)}' as it is {(← text v)}."
      assignParts fuel scope first [] parts v
    | .orElse target e =>
      match v with
      | .undefined => assign fuel scope first target (← value fuel scope (namedBy target e))
      | v => assign fuel scope first target v
    | .rest target => assign fuel scope first target v

/-- Assigns items to targets. -/
def assignItems (fuel : Nat) (scope : Scope) (first : Bool) (targets : List Target)
    (vs : List Value) :
    Eval Unit :=
  match fuel with
  | 0 => throw .endless
  | fuel + 1 => do
    match targets with
    | [] => return
    | .rest target :: _ => assign fuel scope first target (← list vs)
    | target :: rest =>
      assign fuel scope first target (vs.headD .undefined)
      assignItems fuel scope first rest (vs.drop 1)

/-- Assigns the fields of a value to targets. -/
def assignParts (fuel : Nat) (scope : Scope) (first : Bool) (taken : List String)
    (parts : List Part)
    (v : Value) : Eval Unit :=
  match fuel with
  | 0 => throw .endless
  | fuel + 1 => do
    match parts with
    | [] => return
    | .rest target :: _ =>
      let fields := (← fieldsOf v).filter fun f => !taken.contains f.1
      assign fuel scope first target (← make .plain fields)
    | .field key target :: rest =>
      let name ← value fuel scope key
      assign fuel scope first target (← member v name)
      assignParts fuel scope first ((← text name) :: taken) rest v

/-- Calls a function. -/
def invoke (fuel : Nat) (f self : Value) (vs : List Value) : Eval Value :=
  match fuel with
  | 0 => throw .endless
  | fuel + 1 => do
    match f with
    | .builtIn name => applyOwn fuel name self vs
    | .object place =>
      match ((← heap).get place).nature with
      | .function _ parameters body hasSelf scope =>
        let before := (← get).calls
        if maxCalls ≤ before then fail "RangeError" "Maximum call stack size exceeded"
        modify fun s => { s with calls := before + 1 }
        let own := (parameters.flatMap Target.names).map (·, false)
        let others := (hoistedIn body).filter fun n => !own.any (·.1 == n)
        let scope ← declared own (some .undefined) scope
        let scope ← declared (others.map (·, false)) (some .undefined) scope
        let scope ← if hasSelf then declared [("this", false)] (some self) scope else pure scope
        assignItems fuel scope true parameters vs
        let v ←
          try
            block fuel scope body
            pure Value.undefined
          catch
            | .function v => pure v
            | leave => do
              modify fun s => { s with calls := before }
              throw leave
        modify fun s => { s with calls := before }
        return v
      | _ => mistype s!"{(← text f)} is not a function"
    | f => mistype s!"{(← text f)} is not a function"

/-- Calls a function of every snippet. -/
def applyOwn (fuel : Nat) (name : String) (self : Value) (vs : List Value) : Eval Value :=
  match fuel with
  | 0 => throw .endless
  | fuel + 1 => do
    let v (n : Nat) : Value := (vs[n]?).getD .undefined
    match (name.toList.splitOn '.').map String.ofList, self with
    | ["text", own], .text s =>
      if ["replace", "replaceAll", "match", "matchAll", "search"].contains own then
        search fuel own s (v 0) (v 1)
      else if own == "split" then
        match v 0 with
        | .object place =>
          match ((← heap).get place).nature with
          | .regex body flags => splitBy s (← regexOf body flags)
          | _ => applyText own s vs
        | _ => applyText own s vs
      else applyText own s vs
    | ["number", own], .number x => applyNumber own x vs
    | ["boolean", _], self => return .text (← text self)
    | ["list", own], .object place =>
      let items := (← items? self).getD []
      if ["every", "filter", "find", "findIndex", "findLast", "flatMap", "forEach", "map",
        "some"].contains own then
        visit fuel own self (v 0) items
      else if own == "reduce" || own == "reduceRight" then
        let pairs := items.zipIdx
        let pairs := if own == "reduce" then pairs else pairs.reverse
        match vs.drop 1, pairs with
        | start :: _, pairs => reduce fuel self (v 0) start pairs
        | [], (start, _) :: rest => reduce fuel self (v 0) start rest
        | [], [] => mistype "Reduce of empty array with no initial value"
      else if own == "sort" then
        let before (a b : Value) : Eval Bool := do
          match v 0 with
          | .undefined => return (← text a) < (← text b)
          | f => return (← number (← invoke fuel f .undefined [a, b])) < 0
        let vs ← sorted before (items.length + 1) items
        change place fun o => { o with nature := .list vs.toArray }
        return self
      else applyList own place items vs
    | ["function", "call"], f => invoke fuel f (v 0) (vs.drop 1)
    | ["function", "apply"], f => invoke fuel f (v 0) (← items (v 1))
    | ["function", "bind"], f => return f
    | ["object", "hasOwnProperty"], o => return .boolean (← isMember (v 0) o)
    | ["object", "toString"], o => return .text (← text o)
    | ["regex", own], .object place =>
      match ((← heap).get place).nature with
      | .regex body flags =>
        let r ← regexOf body flags
        let s ← text (v 0)
        let found := (matchesOf r s.toList.toArray 1 2 0).head?
        match own, found with
        | "test", found => return .boolean found.isSome
        | "exec", some m =>
          make (.list (groupsOf s.toList (groupCount body.toList) m).toArray)
            [("index", Value.ofNat m.start), ("input", .text s), ("groups", .undefined)]
        | "exec", none => return .null
        | _, _ => return .text s!"/{body}/{flags}"
      | _ => return .undefined
    | ["Array", "from"], _ =>
      let given ← match ← items? (v 0) with
        | some given => pure given
        | none => do
          let x ← number (← member (v 0) (.text "length"))
          pure (List.replicate (wholePart x).toNat Value.undefined)
      match v 1 with
      | .undefined => list given
      | f => visit fuel "map" self f given
    | ["setTimeout"], _ | ["setImmediate"], _ =>
      let delay ← number (v 1)
      modify fun s =>
        { s with later := s.later ++ [(if delay == delay then max 1 delay else 1, v 0, vs.drop 2)] }
      return Value.ofNat 1
    | _, _ => apply name vs

/-- Calls a function for the items of a list, and makes a value of what it told. -/
def visit (fuel : Nat) (name : String) (whole f : Value) (items : List Value) : Eval Value :=
  match fuel with
  | 0 => throw .endless
  | fuel + 1 => do
    match f with
    | .builtIn _ | .object _ => pure ()
    | f => mistype s!"{(← heap).shown f} is not a function"
    let told (pair : Value × Nat) : Eval Value :=
      invoke fuel f .undefined [pair.1, Value.ofNat pair.2, whole]
    let pairs := items.zipIdx
    let found? (pairs : List (Value × Nat)) : Eval (Option (Value × Nat)) :=
      pairs.findM? fun pair => do return Heap.holds (← told pair)
    match name with
    | "map" => list (← pairs.mapM told)
    | "forEach" =>
      for pair in pairs do
        let _ ← told pair
      return .undefined
    | "filter" => do
      let kept ← pairs.filterM fun pair => do return Heap.holds (← told pair)
      list (kept.map Prod.fst)
    | "flatMap" => list (← flattened 1 (← pairs.mapM told))
    | "find" => return ((← found? pairs).map Prod.fst).getD .undefined
    | "findLast" => return ((← found? pairs.reverse).map Prod.fst).getD .undefined
    | "findIndex" => return placeValue ((← found? pairs).map Prod.snd)
    | "some" => return .boolean (← found? pairs).isSome
    | _ =>
      let failing ← pairs.findM? fun pair => do return !(Heap.holds (← told pair))
      return .boolean failing.isNone

/-- Combines items with a value, one after another. -/
def reduce (fuel : Nat) (whole f start : Value) (pairs : List (Value × Nat)) : Eval Value :=
  match fuel with
  | 0 => throw .endless
  | fuel + 1 => do
    match pairs with
    | [] => return start
    | (v, i) :: rest =>
      let next ← invoke fuel f .undefined [start, v, Value.ofNat i, whole]
      reduce fuel whole f next rest

/-- A text cut at the matches of an expression. -/
def splitBy (s : String) (r : OrderedRegex) : Eval Value := do
  let cs := s.toList
  let found := (matchesOf r cs.toArray (cs.length + 1) (cs.length + 2) 0).filter fun m =>
    m.start < cs.length && (m.start < m.stop || 0 < m.start)
  let bounds := found.map fun m => (m.start, m.stop)
  let starts := 0 :: bounds.map Prod.snd
  let stops := bounds.map Prod.fst ++ [cs.length]
  texts ((starts.zip stops).map fun (a, b) => String.ofList ((cs.drop a).take (b - a)))

/-- Looks for a text or an expression in a text. -/
def search (fuel : Nat) (name s : String) (wanted other : Value) : Eval Value :=
  match fuel with
  | 0 => throw .endless
  | fuel + 1 => do
    let cs := s.toList
    let all := cs.length + 1
    let (found, groups, isGlobal) ← do
      match wanted with
      | .object place =>
        match ((← heap).get place).nature with
        | .regex body flags =>
          let isGlobal := flags.toList.contains 'g'
          let r ← regexOf body flags
          pure (matchesOf r cs.toArray (if isGlobal then all else 1) (all + 1) 0,
            groupCount body.toList, isGlobal)
        | _ => pure ([], 0, false)
      | v =>
        let needle := (← text v).toList
        let r : OrderedRegex := needle.foldr (fun c r => .both (.element (.exactly c)) r) .nothing
        let isGlobal := name == "replaceAll"
        pure (matchesOf r cs.toArray (if isGlobal then all else 1) (all + 1) 0, 0, isGlobal)
    match name with
    | "search" => return placeValue (found.head?.map (·.start))
    | "match" =>
      match found, isGlobal with
      | [], _ => return .null
      | found, true => list (found.map fun m => (groupsOf cs 0 m).headD .undefined)
      | m :: _, false =>
        make (.list (groupsOf cs groups m).toArray)
          [("index", Value.ofNat m.start), ("input", .text s), ("groups", .undefined)]
    | "matchAll" => list (← found.mapM fun m => list (groupsOf cs groups m))
    | _ =>
      let template ← match other with
        | .object _ => pure none
        | v => some <$> text v
      let mut done : List Char := []
      let mut here := 0
      for m in found do
        let values := groupsOf cs groups m
        let text ← match template with
          | some t => pure (expanded cs values m.start m.stop t.toList)
          | none => do
            let v ← invoke fuel other .undefined (values ++ [Value.ofNat m.start, .text s])
            pure (← text v).toList
        done := done ++ (cs.drop here).take (m.start - here) ++ text
        here := m.stop
      return .text (String.ofList (done ++ cs.drop here))

/-- Runs the statements of a block, whose names are declared first. -/
def block (fuel : Nat) (scope : Scope) (body : List Statement) : Eval Unit :=
  match fuel with
  | 0 => throw .endless
  | fuel + 1 => do
    let defined := body.filterMap fun s =>
      match s with
      | .define name f => some (name, f)
      | _ => none
    let scope ← declared (body.flatMap Statement.declared) none scope
    let scope ← declared (defined.map fun d => (d.1, false)) (some .undefined) scope
    for (name, f) in defined do
      assignName scope true name (← value fuel scope f)
    for s in body do
      run fuel scope s

/-- Runs the body of a loop once; whether the loop goes on. -/
def turn (fuel : Nat) (scope : Scope) (body : Statement) : Eval Bool :=
  match fuel with
  | 0 => throw .endless
  | fuel + 1 => do
    try
      run fuel scope body
      return true
    catch
      | .loop => return false
      | .turn => return true
      | leave => throw leave

/-- Runs a loop: the step is taken after each turn, and the variables of each turn are its own. -/
def loop (fuel : Nat) (scope : Scope) (own : List String) (condition step : Option Expression)
    (body : Statement) : Eval Unit :=
  match fuel with
  | 0 => throw .endless
  | fuel + 1 => do
    let goesOn ← match condition with
      | some e => do pure (Heap.holds (← value fuel scope e))
      | none => pure true
    if !goesOn then return
    if !(← turn fuel scope body) then return
    let mut next := scope
    for name in own do
      let v ← valueOf scope name
      next ← declared [(name, false)] (some v) next
    match step with
    | some e => let _ ← value fuel next e
    | none => pure ()
    loop fuel (if own.isEmpty then scope else next) own condition step body

/-- Runs a loop whose condition stands after its body. -/
def loopAfter (fuel : Nat) (scope : Scope) (body : Statement) (condition : Expression) :
    Eval Unit :=
  match fuel with
  | 0 => throw .endless
  | fuel + 1 => do
    if !(← turn fuel scope body) then return
    if Heap.holds (← value fuel scope condition) then loopAfter fuel scope body condition

/-- Runs a loop for each of some values. -/
def each (fuel : Nat) (scope : Scope) (kind : Option Declaring) (target : Target) (body : Statement)
    (vs : List Value) : Eval Unit :=
  match fuel with
  | 0 => throw .endless
  | fuel + 1 => do
    match vs with
    | [] => return
    | v :: rest =>
      let isOwn := kind == some .block || kind == some .fixed
      let inner ←
        if isOwn then declared (target.names.map (·, kind == some .fixed)) none scope
        else pure scope
      assign fuel inner isOwn target v
      if ← turn fuel inner body then each fuel scope kind target body rest

/-- Runs the cases of a choice from the first one that applies. -/
def chosen (fuel : Nat) (scope : Scope) (subject : Value) (cases : List Case) :
    Eval (Option (List Case)) :=
  match fuel with
  | 0 => throw .endless
  | fuel + 1 => do
    match cases with
    | [] => return none
    | .case (some e) body :: rest =>
      if same subject (← value fuel scope e) then return some (.case (some e) body :: rest)
      chosen fuel scope subject rest
    | .case none _ :: rest => chosen fuel scope subject rest

/-- Runs a statement. -/
def run (fuel : Nat) (scope : Scope) (s : Statement) : Eval Unit :=
  match fuel with
  | 0 => throw .endless
  | fuel + 1 => do
    match s with
    | .evaluate e => let _ ← value fuel scope e
    | .declare kind bindings =>
      for .binding target e in bindings do
        match e with
        | some e => assign fuel scope true target (← value fuel scope (namedBy target e))
        | none => if kind != .function then assign fuel scope true target .undefined
    | .define _ _ => return
    | .block body => block fuel scope body
    | .branch condition body otherwise =>
      if Heap.holds (← value fuel scope condition) then run fuel scope body
      else
        match otherwise with
        | some other => run fuel scope other
        | none => return
    | .loop condition body => loop fuel scope [] (some condition) none body
    | .loopAfter body condition => loopAfter fuel scope body condition
    | .loopWith start condition step body =>
      let names := (start.map Statement.declared).getD []
      let scope ← declared names none scope
      match start with
      | some s => run fuel scope s
      | none => pure ()
      loop fuel scope ((names.filter fun n => !n.2).map Prod.fst) condition step body
    | .each kind target keys source body =>
      let whole ← value fuel scope source
      let vs ← if keys then do
          let fields ← fieldsOf whole
          pure (fields.map fun f => Value.text f.1)
        else items whole
      each fuel scope kind target body vs
    | .finish none => throw (.function .undefined)
    | .finish (some e) => throw (.function (← value fuel scope e))
    | .leaveLoop => throw .loop
    | .nextTurn => throw .turn
    | .fail e => throw (.thrown (← value fuel scope e))
    | .attempt body rescue last =>
      let finish : Eval Unit :=
        match last with
        | some statements => block fuel scope statements
        | none => return
      let saved (v : Value) : Eval Unit := do
        match rescue with
        | some (target, statements) =>
          let names := ((target.map Target.names).getD []).map (·, false)
          let inner ← declared names (some .undefined) scope
          match target with
          | some t => assign fuel inner true t v
          | none => pure ()
          block fuel inner statements
        | none => throw (.thrown v)
      let attempted : Eval Unit := do
        try
          block fuel scope body
        catch
          | .thrown v => saved v
          | leave => throw leave
      try
        attempted
      catch leave =>
        finish
        throw leave
      finish
    | .choose subject cases =>
      let v ← value fuel scope subject
      let isDefault : Case → Bool
        | .case none _ => true
        | _ => false
      let bodies :=
        ((← chosen fuel scope v cases).getD (cases.dropWhile fun c => !isDefault c)).flatMap
        fun (.case _ body) => body
      try
        block fuel scope bodies
      catch
        | .loop => return
        | leave => throw leave

end

/-- Makes the calls that were put off, shorter delays first. -/
def runLater (fuel : Nat) : Eval Unit :=
  match fuel with
  | 0 => throw .endless
  | fuel + 1 => do
    match (← get).later.mergeSort fun a b => a.1 ≤ b.1 with
    | [] => return
    | (delay, f, vs) :: rest =>
      modify fun s => { s with later := rest }
      let _ ← invoke fuel f .undefined vs
      modify fun s =>
        { s with later := rest ++ (s.later.drop rest.length).map fun (d, f, vs) =>
          (d + delay, f, vs) }
      runLater fuel

/-- The variables of a snippet in a file. -/
def ofFile (path : String) : Eval Scope := do
  let exported ← make .plain
  let file ← make .plain [("exports", exported), ("filename", .text path)]
  let given :=
    [("__filename", .text path), ("__dirname", .text (pathParts path).1), ("exports", exported),
    ("module", file), ("this", exported)]
  given.foldlM (fun scope (name, v) => do return (name, ← newCell (some v)) :: scope) []

/-- Runs all of a snippet, in a file if one is given; the value is that of its last expression. -/
def whole (path : Option String) (body : List Statement) : Eval Value := do
  let around ← match path with
    | some path => ofFile path
    | none => pure []
  let scope ← declared ((hoistedIn body).map (·, false)) (some .undefined) around
  let (front, last) := match body.getLast? with
    | some (.evaluate e) => (body.dropLast, some e)
    | _ => (body, none)
  let kept ← match last with
    | none => do
      block maxSteps scope front
      pure Value.undefined
    | some e => do
      let place ← newCell (some .undefined)
      let scope := ("", place) :: scope
      block maxSteps scope (front ++ [.evaluate (.assign (.name "") none e)])
      pure ((((← heap).cells[place]?).bind Cell.value).getD .undefined)
  runLater maxSteps
  return kept

end Codemod.Shell.Snippet.Evaluation
