import Codemod.Shell.Awk.Session
import Codemod.Shell.Awk.Value
import Codemod.Shell.Calendar

/-!
# Evaluation of record programs

Expressions and statements are evaluated in a given number of steps.

- `Awk.Evaluation.value` — expressions
- `Awk.Evaluation.run` — statements
- `Awk.Evaluation.rules` — the rules of a program
-/

namespace Codemod.Shell.Awk.Evaluation

open Eval

/-- The steps that a program may take. -/
def maxSteps : Nat := 1000000

/-- The values that may be in use at once. -/
def maxHeight : Nat := 1005

/-- More steps are needed than there are. -/
def expire {α : Type} (launch : Launch) : Eval α := do
  flush launch
  onMachine (throw .expired)

/-- The result of an operation. -/
def Operator.apply : Operator → Float → Float → Float
  | .plus, x, y => x + y
  | .minus, x, y => x - y
  | .times, x, y => x * y
  | .dividedBy, x, y => x / y
  | .remainder, x, y => remainder x y
  | .power, x, y => x.pow y
where
  /-- What is left of a division with a whole quotient, with the sign of the first number. -/
  remainder (x y : Float) : Float :=
    match Number.ratio x, Number.ratio y with
    | .quotient negative num den, .quotient _ num' den' =>
      if num' == 0 then 0.0 / 0.0
      else Number.ofRatio (.quotient negative (num * den' % (num' * den)) (den * den'))
    | .quotient _ _ _, .infinite _ => x
    | _, _ => 0.0 / 0.0

/-- Numbers or texts stand in a relation. -/
def Relation.holds : Relation → Ordering → Bool
  | .less, o => o == .lt
  | .atMost, o => o != .gt
  | .equal, o => o == .eq
  | .unequal, o => o != .eq
  | .greater, o => o == .gt
  | .atLeast, o => o != .lt

/-- The whole part of a number. -/
def wholePart (x : Float) : Float := if x < 0 then x.ceil else x.floor

/-- A part of a text, by its first place and its length. -/
def part (text : Octets) (first : Float) (length? : Option Float) : Octets :=
  let start := Number.toInt first
  match length? with
  | none => text.drop (start - 1).toNat
  | some length =>
    if start < 1 then text.take (Number.toInt (length - Number.ofInt start)).toNat
    else (text.drop (start - 1).toNat).take (Number.toInt length).toNat

/-- A text with its letters in one case. -/
def cased (f : Char → Char) (text : Octets) : Octets := text.map f

/-- The first place of a text in another one, which begins at the place `here`; zero when there is
none. -/
def place (part : Octets) (here : Nat) : Octets → Nat
  | [] => 0
  | c :: rest =>
    if part.isPrefixOf (c :: rest) then here
    else place part (here + 1) rest

/-- The expression of a text. -/
def regexOf (text : Octets) : Eval Regex := do
  match Regex.read .escaping text with
  | .ok r => return r
  | .error e =>
    let cause := regexFault e
    fault s!"regular expression compile failed ({cause})\n{text.toText}"

/-- A number that is hard to foresee. -/
def random : Eval Float := do
  let s ← get
  let n := (s.random * 1103515245 + 12345) % 2 ^ 31
  set { s with random := n }
  return Number.ofRatio (.quotient false n (2 ^ 31))

/-- The time in seconds. -/
def seconds : Eval Nat := onMachine do return ((← get).now / 10 ^ 9).toNat

/-- Sets where a match was found. -/
def matched (first length : Int) : Eval Value := do
  assign "RSTART" (.ofInt first)
  assign "RLENGTH" (.ofInt length)
  return .ofInt first

/-- Runs a command after all output was written. -/
def system (launch : Launch) (command : Octets) : Eval Value := do
  flush launch
  match ← onMachine (runCommand launch command) with
  | .exited n => return .ofInt n
  | .killed n => return .ofInt (256 + n)

/-- Says text that was made from a format, and fails if it could not be finished. -/
def settled (function : String) (format : Octets) : Option PrintFault → Eval Unit
  | none => return
  | some f => fault (f.message function format)

/-- The functions whose arguments are values. -/
def applied (launch : Launch) (function : BuiltIn) (vs : List Value) : Eval Value := do
  let format ← format
  let text (n : Nat) : Octets := ((vs[n]?).getD .unset).toText format
  let number (n : Nat) : Float := ((vs[n]?).getD .unset).toNumber
  match function with
  | .length => return .ofInt (text 0).length
  | .substr => return .text (part (text 0) (number 1) ((vs[2]?).map Value.toNumber))
  | .index => return .ofInt (place (text 1) 1 (text 0))
  | .sprintf =>
    let (written, fault) := printed format (text 0) (vs.drop 1)
    settled "sprintf" (text 0) fault
    return .text written
  | .lower => return .text (cased Char.toLower (text 0))
  | .upper => return .text (cased Char.toUpper (text 0))
  | .sine => return .number (number 0).sin
  | .cosine => return .number (number 0).cos
  | .arcTangent => return .number (Float.atan2 (number 0) (number 1))
  | .exponential => return .number (number 0).exp
  | .logarithm => return .number (number 0).log
  | .root => return .number (number 0).sqrt
  | .whole => return .number (wholePart (number 0))
  | .random => return .number (← random)
  | .seed =>
    let before := (← get).seed
    let now ← seconds
    let n := if vs.isEmpty then now else (Number.toInt (number 0)).natAbs
    modify fun s => { s with seed := n, random := n }
    return .ofInt before
  | .system => system launch (text 0)
  | .close => return .ofInt (← close launch (text 0))
  | .flush =>
    let known := vs.isEmpty || (← get).sinks.any fun k => k.name == text 0
    flush launch
    return .ofInt (if known then 0 else -1)
  | .clock => return .ofInt (← seconds)
  | .date =>
    let now ← seconds
    let time := if 2 ≤ vs.length then Number.toInt (number 1) else now
    let shown := if vs.isEmpty then "%c".toList else text 0
    return .text ((Moment.ofNanoseconds (time * 10 ^ 9)).inFormat shown)
  | _ => return .unset

mutual

/-- The value of an expression. -/
def value (launch : Launch) (fuel : Nat) (e : Expression) : Eval Value :=
  match fuel with
  | 0 => expire launch
  | fuel + 1 => do
    let above (e : Expression) : Eval Value := do
      modify fun s => { s with height := s.height + 1 }
      let v ← value launch fuel e
      modify fun s => { s with height := s.height - 1 }
      return v
    match e with
    | .number x => return .number x
    | .text cs => return .text cs
    | .pattern r => return .ofBool (r.occursIn ((← get).record.whole.toText (← format)))
    | .named name => (Place.named name).value
    | .element _ _ | .field _ => (← target launch fuel e).value
    | .assign place operator e =>
      let p ← target launch fuel place
      let v ← above e
      let v ← match operator with
        | none => pure v
        | some f => pure (.number (Operator.apply f (← p.value).toNumber v.toNumber))
      p.put v
      return v
    | .step place change before =>
      let p ← target launch fuel place
      let old := (← p.value).toNumber
      p.put (.number (old + change))
      return .number (if before then old + change else old)
    | .negative e => return .number (-(← value launch fuel e).toNumber)
    | .positive e => return .number (← value launch fuel e).toNumber
    | .not e => return .ofBool (!(← value launch fuel e).holds)
    | .arithmetic f a b =>
      let x ← value launch fuel a
      let y ← above b
      return .number (Operator.apply f x.toNumber y.toNumber)
    | .relation r a b =>
      let x ← value launch fuel a
      let y ← above b
      return .ofBool (Relation.holds r ((Value.compare (← format) x y).getD .eq))
    | .matching negated a b =>
      let text := (← value launch fuel a).toText (← format)
      let r ← regex launch fuel b
      return .ofBool (r.occursIn text != negated)
    | .and a b =>
      if (← value launch fuel a).holds then return .ofBool (← value launch fuel b).holds
      else return .ofBool false
    | .or a b =>
      if (← value launch fuel a).holds then return .ofBool true
      else return .ofBool (← value launch fuel b).holds
    | .member index name =>
      let k ← key (← values launch fuel index)
      let place ← tableOf name
      changeTable place (Table.touch false k)
      return .ofBool ((← table place).contains k)
    | .conditional c a b =>
      if (← value launch fuel c).holds then value launch fuel a else value launch fuel b
    | .joined a b =>
      let x := (← value launch fuel a).toText (← format)
      let y ← above b
      return .text (x ++ y.toText (← format))
    | .apply f arguments => apply launch fuel f arguments
    | .call name arguments => call launch fuel name arguments
    | .read place supply source => line launch fuel place supply source
    | .group [e] => value launch fuel e
    | .group es => return .text (← key (← values launch fuel es)).name

/-- The values of expressions. -/
def values (launch : Launch) (fuel : Nat) (es : List Expression) : Eval (List Value) :=
  match fuel with
  | 0 => expire launch
  | fuel + 1 => do
    match es with
    | [] => return []
    | e :: es =>
      let v ← value launch fuel e
      return v :: (← values launch fuel es)

/-- The place that an expression stands for. An element is there from then on. -/
def target (launch : Launch) (fuel : Nat) (e : Expression) : Eval Place :=
  match fuel with
  | 0 => expire launch
  | fuel + 1 => do
    match e with
    | .element name index =>
      let k ← key (← values launch fuel index)
      let place ← tableOf name
      changeTable place (Table.touch true k)
      return .element place k
    | .field n => return .field (← fieldNumber (← value launch fuel n))
    | .named name => return .named name
    | .group [e] => target launch fuel e
    | _ => return .field 0

/-- The regular expression that an expression stands for. -/
def regex (launch : Launch) (fuel : Nat) (e : Expression) : Eval Regex :=
  match fuel with
  | 0 => expire launch
  | fuel + 1 => do
    match e with
    | .pattern r => return r
    | e =>
      let v ← value launch fuel e
      regexOf (v.toText (← format))

/-- Reads a line; the value tells whether there was one. -/
def line (launch : Launch) (fuel : Nat) (place : Option Expression) (supply : Supply)
    (source : Expression) : Eval Value :=
  match fuel with
  | 0 => expire launch
  | fuel + 1 => do
    let name := (← value launch fuel source).toText (← format)
    let p ← match place with
      | none => pure (.field 0)
      | some e => target launch fuel e
    let found ← match supply with
      | .records => pure (.ok (← countedRecord launch))
      | supply => recordFrom launch supply name
    match found with
    | .error _ => return .ofInt (-1)
    | .ok none => return .ofInt 0
    | .ok (some record) =>
      p.put (.given record)
      return .ofInt 1

/-- The value of a function of every program. -/
def apply (launch : Launch) (fuel : Nat) (f : BuiltIn) (arguments : List Expression) : Eval Value :=
  match fuel with
  | 0 => expire launch
  | fuel + 1 => do
    match f, arguments with
    | .length, [] => return .ofInt ((← get).record.whole.toText (← format)).length
    | .length, [.named name] =>
      match ← cell name with
      | .table place => return .ofInt (← table place).size
      | _ => applied launch f [← (Place.named name).value]
    | .split, subject :: .named name :: rest =>
      let text := (← value launch fuel subject).toText (← format)
      let s ← match rest with
        | [] => separator "FS"
        | .pattern r :: _ => pure (.regex r)
        | e :: _ =>
          let v ← value launch fuel e
          separatorOf (v.toText (← format))
      let parts := fieldsOf s text
      let place ← tableOf name
      changeTable place fun _ => Table.ofList (parts.map .given)
      return .ofInt parts.length
    | .sub, pattern :: replacement :: rest | .gsub, pattern :: replacement :: rest =>
      let r ← regex launch fuel pattern
      let replacement := (← value launch fuel replacement).toText (← format)
      let p ← match rest with
        | [] => pure (.field 0)
        | e :: _ => target launch fuel e
      let text := (← p.value).toText (← format)
      let (n, changed) := substituted (f == .gsub) r replacement text
      if 0 < n then p.put (.text changed)
      return .ofInt n
    | .find, subject :: pattern :: _ =>
      let text := (← value launch fuel subject).toText (← format)
      let r ← regex launch fuel pattern
      match r.search? text with
      | some m => matched (m.start + 1) (m.stop - m.start : Nat)
      | none => matched 0 (-1)
    | f, arguments => applied launch f (← values launch fuel arguments)

/-- The value of a function of the program. -/
def call (launch : Launch) (fuel : Nat) (name : String) (arguments : List Expression) :
    Eval Value :=
  match fuel with
  | 0 => expire launch
  | fuel + 1 => do
    match (← get).program.functions.find? (·.name == name) with
    | none => return .unset
    | some f =>
      let cells ← cellsOf launch fuel arguments
      let s ← get
      let missing := List.replicate (f.locals - cells.length) (Cell.value .unset)
      let height := s.height + f.locals
      if maxHeight < height then throw (.failed "program limit exceeded: eval stack size=1024")
      set { s with own := (cells ++ missing).toArray, height }
      let v ← tryCatch
        (do
          runAll launch fuel f.body
          pure Value.unset)
        fun
          | .function v => pure v
          | leave => throw leave
      modify fun after => { after with own := s.own, height := s.height }
      return v

/-- What arguments hand over: variables as what they hold, and others as their values. -/
def cellsOf (launch : Launch) (fuel : Nat) (es : List Expression) : Eval (List Cell) :=
  match fuel with
  | 0 => expire launch
  | fuel + 1 => do
    match es with
    | [] => return []
    | e :: es =>
      let c ← match e with
        | .named (.shared "NF") => pure (.value (← value launch fuel e))
        | .named name => handed name
        | e => pure (.value (← value launch fuel e))
      return c :: (← cellsOf launch fuel es)

/-- Runs a statement. -/
def run (launch : Launch) (fuel : Nat) (s : Statement) : Eval Unit :=
  match fuel with
  | 0 => expire launch
  | fuel + 1 => do
    let emit (text : Octets) : Option (Outlet × Expression) → Eval Unit
      | none => say text
      | some (outlet, e) => do
        let name := (← value launch fuel e).toText (← format)
        Eval.write launch outlet name text
    match s with
    | .print es outlet =>
      let vs ← values launch fuel es
      let numbers ← textOf "OFMT"
      let record := (← get).record
      let vs := if es.isEmpty then [record.whole] else vs
      let separator ← textOf "OFS"
      let text := List.intercalate separator (vs.map (Value.toText numbers)) ++ (← textOf "ORS")
      emit text outlet
    | .printf es outlet =>
      let vs ← values launch fuel es
      let numbers ← format
      let shown := (vs.headD .unset).toText numbers
      let (text, fault) := printed numbers shown (vs.drop 1)
      emit text outlet
      settled "printf" shown fault
    | .evaluate e =>
      let _ ← value launch fuel e
    | .branch c body otherwise =>
      if (← value launch fuel c).holds then run launch fuel body
      else
        match otherwise with
        | some s => run launch fuel s
        | none => return
    | .loop c body => turns launch fuel (some c) none body
    | .loopAfter body c =>
      if ← turn launch fuel body then turns launch fuel (some c) none body
    | .loopWith start c step body =>
      if let some s := start then run launch fuel s
      turns launch fuel c step body
    | .each name tableName body =>
      let keys := (← table (← tableOf tableName)).ordered
      turnsFor launch fuel name body keys
    | .block body => runAll launch fuel body
    | .next => throw .next
    | .nextFile => throw .nextFile
    | .exit status =>
      if let some e := status then
        let n := Number.toInt (← value launch fuel e).toNumber
        modify fun s => { s with status := (n % 256).toNat }
      throw .exit
    | .answer e =>
      match e with
      | some e => throw (.function (← value launch fuel e))
      | none => throw (.function .unset)
    | .leaveLoop => throw .loop
    | .nextTurn => throw .turn
    | .delete name index =>
      let place ← tableOf name
      match index with
      | none => changeTable place fun _ => {}
      | some index =>
        let k ← key (← values launch fuel index)
        changeTable place (Table.remove k)

/-- Runs statements one after another. -/
def runAll (launch : Launch) (fuel : Nat) (body : List Statement) : Eval Unit :=
  match fuel with
  | 0 => expire launch
  | fuel + 1 => do
    match body with
    | [] => return
    | s :: rest =>
      run launch fuel s
      runAll launch fuel rest

/-- Does one turn of a loop; the value tells whether the loop goes on. -/
def turn (launch : Launch) (fuel : Nat) (body : Statement) : Eval Bool :=
  match fuel with
  | 0 => expire launch
  | fuel + 1 =>
    tryCatch
      (do
        run launch fuel body
        return true)
      fun
        | .loop => return false
        | .turn => return true
        | leave => throw leave

/-- Does the turns of a loop while its condition holds, with a step after each. -/
def turns (launch : Launch) (fuel : Nat) (condition : Option Expression) (step : Option Statement)
    (body : Statement) : Eval Unit :=
  match fuel with
  | 0 => expire launch
  | fuel + 1 => do
    let goes ← match condition with
      | none => pure true
      | some c => pure (← value launch fuel c).holds
    if goes then
      if ← turn launch fuel body then
        if let some s := step then run launch fuel s
        turns launch fuel condition step body

/-- Does the turns of a loop over keys. -/
def turnsFor (launch : Launch) (fuel : Nat) (name : Name) (body : Statement) (keys : List Octets) :
    Eval Unit :=
  match fuel with
  | 0 => expire launch
  | fuel + 1 => do
    match keys with
    | [] => return
    | k :: keys =>
      Place.put (.named name) (.text k)
      if ← turn launch fuel body then turnsFor launch fuel name body keys

end

/-! ### Rules -/

/-- The pattern of a rule applies to the record. -/
def applies (launch : Launch) (p : Pattern) : Eval Bool := do
  let holds (e : Expression) : Eval Bool := do return (← value launch maxSteps e).holds
  match p with
  | .start | .finish => return false
  | .always => return true
  | .holds e => holds e
  | .range n first last =>
    let begun := ((← get).begun[n]?).getD false
    let inside ← if begun then pure true else holds first
    if inside then
      let ends ← holds last
      modify fun s => { s with begun := s.begun.setIfInBounds n (!ends) }
    return inside

/-- Does the action of a rule. -/
def act (launch : Launch) (r : Rule) : Eval Unit :=
  runAll launch maxSteps (r.action.getD [.print [] none])

/-- Does the actions of all rules of a kind, which is not about records. -/
def rules (launch : Launch) (atStart : Bool) : Eval Unit := do
  for r in (← get).program.rules do
    match r.pattern with
    | .start => if atStart then act launch r
    | .finish => if !atStart then act launch r
    | _ => pure ()

/-- Does the actions of the rules whose patterns apply to the record. -/
def rulesForRecord (launch : Launch) : List Rule → Eval Unit
  | [] => return
  | r :: rest => do
    if ← applies launch r.pattern then act launch r
    rulesForRecord launch rest

/-- Goes through all records. -/
def records (launch : Launch) (fuel : Nat) : Eval Unit :=
  match fuel with
  | 0 => expire launch
  | fuel + 1 => do
    match ← countedRecord launch with
    | none => return
    | some record =>
      setRecord (.given record)
      let skips ← tryCatch
        (do
          rulesForRecord launch (← get).program.rules
          return false)
        fun
          | .next => return false
          | .nextFile => return true
          | leave => throw leave
      if skips then skipFile
      records launch fuel

/-- Goes through a whole program: what is done first, with each record, and last. -/
def whole (launch : Launch) : Eval Unit := do
  let program := (← get).program
  let has (f : Pattern → Bool) : Bool := program.rules.any fun r => f r.pattern
  let isFinish : Pattern → Bool
    | .finish => true
    | _ => false
  let needsRecords := has fun
    | .start => false
    | _ => true
  let stopped (body : Eval Unit) : Eval Bool :=
    tryCatch
      (do
        body
        return false)
      fun
        | .exit => return true
        | .failed text => throw (.failed text)
        | _ => return false
  let left ← stopped (rules launch true)
  let _ ← stopped (if needsRecords && !left then records launch maxSteps else return)
  if has isFinish then
    let _ ← stopped (rules launch false)
  return

end Codemod.Shell.Awk.Evaluation
