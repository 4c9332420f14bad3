import Codemod.Shell.Arithmetic
import Codemod.Shell.Machine

/-!
# The values of parameters

A parameter is a variable, an argument by its number, or a sign for something that the shell knows.
Some variables of the rich language are not kept but told when they are asked for.

- `Parameter.value?` — the value of a parameter
- `Parameter.row?` — the list that a parameter stands for
- `Parameter.namesLike` — the variables whose names begin in some way
-/

namespace Codemod.Shell.Parameter

/-- The letters of the options that are on. -/
def optionLetters (m : Machine) : Octets :=
  let letter (c : Char) (on : Bool) : Octets := if on then [c] else []
  if m.rich.isOn then
    letter 'a' m.exportsAll ++ letter 'e' m.strict ++ letter 'f' m.literalPaths ++ ['h']
      ++ letter 'u' m.noUnset ++ letter 'x' m.traced ++ ['B'] ++ letter 'C' m.keepsFiles
      ++ letter 'c' m.rich.inline ++ m.idle
  else
    letter 'e' m.strict ++ letter 'f' m.literalPaths ++ letter 'x' m.traced
      ++ letter 'C' m.keepsFiles ++ letter 'a' m.exportsAll ++ letter 'u' m.noUnset ++ m.idle

/-- The number that is drawn after so many. -/
def drawn (n : Nat) : Nat := ((n + 1) * 1103515245 + 12345) / 65536 % 32768

/-- What a shell of the rich language tells about itself. -/
def told? (m : Machine) (name : Octets) : Option Octets :=
  match String.ofList name with
  | "LINENO" => some (Octets.ofNat m.line)
  | "RANDOM" => some (Octets.ofNat (drawn m.rich.drawn))
  | "SRANDOM" => some (Octets.ofNat (drawn m.rich.drawn * 65536 + drawn (m.rich.drawn + 1)))
  | "SECONDS" => some (Octets.ofNat (m.clock / 10 ^ 9))
  | "EPOCHSECONDS" => some (Octets.ofInt (m.now / 10 ^ 9))
  | "EPOCHREALTIME" =>
    let digits := Octets.ofInt (m.now / 1000 % 10 ^ 6)
    some (Octets.ofInt (m.now / 10 ^ 9) ++ '.' :: Octets.padLeft 6 digits '0')
  | "BASHPID" => some (Octets.ofNat Machine.pid)
  | "BASH_SUBSHELL" => some (Octets.ofNat (if m.inner then 1 else 0))
  | "_" => some m.rich.lastWord
  | _ => none

/-- The lists that a shell of the rich language tells about itself. -/
def toldRow? (m : Machine) (name : Octets) : Option Row :=
  let frames := m.rich.frames
  let outermost := if m.rich.inline then [] else [m.name]
  match String.ofList name with
  | "FUNCNAME" =>
    some (Row.ofList (frames.map (·.function)
      ++ (if frames.isEmpty || m.rich.inline then [] else ["main".toList])))
  | "BASH_LINENO" =>
    some (Row.ofList (frames.map (fun f => Octets.ofNat f.line) ++ (outermost.map fun _ => ['0'])))
  | "BASH_SOURCE" =>
    some (Row.ofList (frames.map (·.file) ++ (m.rich.file.toList.filter fun _ => frames.isEmpty)
      ++ outermost))
  | "PIPESTATUS" => some (Row.ofList (m.rich.statuses.map Octets.ofNat))
  | "DIRSTACK" => some (Row.ofList (m.entered :: m.rich.stack))
  | "GROUPS" => some (Row.ofList [['0']])
  | _ => none

/-- The list that a parameter stands for. A variable without a list counts as one with a single
value. -/
def row? (m : Machine) (name : Octets) : Option Row :=
  if !m.rich.isOn then none
  else
    match m.row? name with
    | some row => some row
    | none =>
      match toldRow? m name with
      | some row => some row
      | none => (m.get? name).or (told? m name) |>.map fun value => Row.ofList [value]

/-- The value of a parameter, if it is set. -/
def value? (m : Machine) (name : Octets) : Option Octets :=
  match name with
  | ['?'] => some (Octets.ofNat m.status)
  | ['$'] => some (Octets.ofNat Machine.pid)
  | ['#'] => some (Octets.ofNat m.parameters.length)
  | ['!'] =>
    if m.jobs.isEmpty then none else some (Octets.ofNat (Machine.pid + m.jobs.length))
  | ['-'] => some (optionLetters m)
  | ['@'] | ['*'] =>
    if m.parameters.isEmpty then none
    else some (List.intercalate (((m.get? "IFS".toList).getD [' ']).take 1) m.parameters)
  | ['0'] => some m.name
  | name =>
    if name.all Char.isDigit then
      m.parameters[(name.foldl (fun n c => n * 10 + (c.toNat - 48)) 0) - 1]?
    else
      match m.get? name with
      | some value => some value
      | none =>
        if !m.rich.isOn then none
        else ((toldRow? m name).bind Row.main?).or (told? m name)

/-- The names of the variables that begin in some way, in their order. -/
def namesLike (m : Machine) (start : Octets) : List Octets :=
  let names := m.bindings.map Prod.fst ++ m.rich.rows.map Prod.fst
  (names.filter start.isPrefixOf).mergeSort Octets.le

end Codemod.Shell.Parameter

/-!
## Calculations of the rich language

An expression is carried out while it is read, so what stands before a mistake has its effect. The
value of a variable is an expression itself.

- `Calculation.Fault` — why an expression has no value
- `Calculation.run` — the value of an expression, and the machine after its assignments
- `Act.calculate` — the same as a step of a script
-/

namespace Codemod.Shell.Calculation

/-- Why an expression has no value. -/
inductive Fault where
  /-- What is wrong, in which expression, and the text from the symbol on where it was noticed. -/
  | failed (expression : Octets) (what : String) (rest : Octets)
  | readOnly (name : Octets)
  | unset (name : Octets)

/-- A symbol of an expression. -/
inductive Symbol where
  | number (n : Int)
  /-- A variable, or an element of a list by its subscript. -/
  | name (name : Octets) (index : Option Octets)
  | sign (text : String)
  | ending
deriving DecidableEq

/-- How far an expression has been carried out. -/
structure Progress where
  machine : Machine
  /-- The whole expression. -/
  text : Octets := []
  /-- What follows the current symbol. -/
  rest : Octets := []
  /-- The text from the last symbol on. -/
  here : Octets := []
  current : Symbol := .ending
  /-- In how many parts nothing is carried out. -/
  idle : Nat := 0
  /-- The variable that the operand just read was. -/
  target : Option (Octets × Option Octets) := none
  /-- How many expressions are around the current one. -/
  depth : Nat := 0

/-- A step of a calculation. -/
abbrev Step := EStateM Fault Progress

/-- Ends a calculation. -/
def fail {α : Type} (what : String) : Step α := do
  let p ← get
  throw (.failed p.text what p.here)

/-! ### Symbols -/

/-- The value of a digit to a base; digits beyond nine are letters and two signs. -/
def digit? (base : Nat) (c : Char) : Option Nat :=
  if c.isDigit then some (c.toNat - 48)
  else if c.isLower then some (c.toNat - 87)
  else if c.isUpper then some (if base ≤ 36 then c.toNat - 55 else c.toNat - 29)
  else if c == '@' then some 62
  else if c == '_' then some 63
  else none

/-- The number of digits to a base. -/
def digits (base : Nat) (n : Nat) : Octets → Except String Nat
  | [] => .ok n
  | c :: rest =>
    match digit? base c with
    | none => .error "invalid number"
    | some d =>
      if d < base then digits base (n * base + d) rest else .error "value too great for base"

/-- The number that a word stands for: hexadecimal, octal, to a base that it names, or decimal. -/
def number (word : Octets) : Except String Nat :=
  match word with
  | ['0'] => .ok 0
  | '0' :: 'x' :: ds | '0' :: 'X' :: ds => digits 16 0 ds
  | '0' :: ds => if ds.contains '#' then .error "invalid number" else digits 8 0 ds
  | word =>
    match word.span (· != '#') with
    | (base, '#' :: ds) => do
      let base ← digits 10 0 base
      if base < 2 || 64 < base then throw "invalid arithmetic base"
      if ds.isEmpty then throw "invalid integer constant"
      digits base 0 ds
    | (ds, _) => digits 10 0 ds

/-- The signs of more than one character, longer ones first. -/
def longSigns : List String :=
  ["<<=", ">>=", "==", "!=", "<=", ">=", "<<", ">>", "&&", "||", "**", "+=", "-=", "*=", "/=", "%=",
    "&=",
    "|=", "^="]

/-- The sign at the front of a text. A sign that counts up or down belongs to the variable before
it, or to one that follows. -/
def signAt? (afterName : Bool) (cs : Octets) : Option (String × Octets) :=
  let counting (c : Char) (rest : Octets) : String × Octets :=
    if afterName then (s!"{c}{c}", rest)
    else if (rest.dropWhile Scan.isGap).head?.any Scan.startsName then (s!"{c}{c}.", rest)
    else (String.singleton c, c :: rest)
  match cs with
  | '+' :: '+' :: rest => some (counting '+' rest)
  | '-' :: '-' :: rest => some (counting '-' rest)
  | cs =>
    match longSigns.find? fun s => s.toList.isPrefixOf cs with
    | some s => some (s, cs.drop s.length)
    | none =>
      match cs with
      | c :: rest =>
        if "=+-*/%<>&|^!~?:,()".toList.contains c then some (String.singleton c, rest) else none
      | [] => none

/-- Goes to the next symbol. -/
def advance : Step Unit := do
  let p ← get
  let cs := p.rest.dropWhile fun c => Scan.isGap c || c == '\n'
  match cs with
  | [] => set { p with rest := [], current := .ending }
  | c :: _ =>
    set { p with here := cs }
    if Scan.startsName c then
      let (name, rest) := cs.span Scan.isNameChar
      match rest with
      | '[' :: inner =>
        match Scan.subscript? 0 inner with
        | some (index, rest) => set { p with here := cs, rest, current := .name name (some index) }
        | none => fail "bad array subscript"
      | rest => set { p with here := cs, rest, current := .name name none }
    else if c.isDigit then
      let (word, rest) := cs.span fun c => Scan.isNameChar c || c == '#' || c == '@'
      match number word with
      | .ok n => set { p with here := cs, rest, current := .number (Arithmetic.wrapped n) }
      | .error what => throw (.failed p.text what word)
    else
      let afterName := match p.current with
        | .name _ _ => true
        | _ => false
      match signAt? afterName cs with
      | some (sign, rest) => set { p with here := cs, rest, current := .sign sign }
      | none =>
        let afterOperand := match p.current with
          | .name _ _ | .number _ => true
          | .sign sign => sign == ")"
          | .ending => false
        fail (if afterOperand then "syntax error: invalid arithmetic operator"
          else "syntax error: operand expected")

/-- How deep the values of variables may be expressions. -/
def maxDepth : Nat := 1024

/-- Notes which variable the operand just read was. -/
def target (t : Option (Octets × Option Octets)) : Step Unit :=
  modify fun p => { p with target := t }

/-- The text of a variable or of an element. -/
def named (name : Octets) (index : Option Octets) : Octets :=
  match index with
  | some index => name ++ '[' :: index ++ [']']
  | none => name

mutual

/-- The value of an expression inside another one. -/
def inside (fuel : Nat) (text : Octets) : Step Int :=
  match fuel with
  | 0 => fail "expression recursion level exceeded"
  | fuel + 1 => do
    let before ← get
    if maxDepth ≤ before.depth then fail "expression recursion level exceeded"
    if text.all fun c => Scan.isGap c || c == '\n' then return 0
    set { before with text, rest := text, here := text, current := .ending, target := none,
                      depth := before.depth + 1 }
    advance
    let n ← commas fuel
    if (← get).current != .ending then fail "syntax error in expression"
    modify fun p => { before with machine := p.machine }
    return n

/-- The key of a subscript in a list. -/
def keyOf (fuel : Nat) (row : Row) (index : Octets) : Step Octets :=
  match fuel with
  | 0 => fail "expression recursion level exceeded"
  | fuel + 1 => do
    if row.keyed then return index
    let n ← inside fuel index
    match row.keyOf? n with
    | some key => return key
    | none => fail "bad array subscript"

/-- The value of a variable or of an element. -/
def valueOf (fuel : Nat) (name : Octets) (index : Option Octets) : Step Int :=
  match fuel with
  | 0 => fail "expression recursion level exceeded"
  | fuel + 1 => do
    let p ← get
    if 0 < p.idle then return 0
    let row := Parameter.row? p.machine name
    let found ← match index with
      | none => pure (Parameter.value? p.machine name)
      | some index => do
        let row := row.getD {}
        let key ← keyOf fuel row index
        pure (row.get? key)
    match found with
    | some text => inside fuel text
    | none =>
      if p.machine.noUnset then throw (.unset (named name index)) else return 0

/-- Gives a variable or an element a value. -/
def assign (fuel : Nat) (name : Octets) (index : Option Octets) (n : Int) : Step Unit :=
  match fuel with
  | 0 => fail "expression recursion level exceeded"
  | fuel + 1 => do
    let p ← get
    if 0 < p.idle then return ()
    if p.machine.readOnly.contains (p.machine.referent name) then throw (.readOnly name)
    match index with
    | none => set { p with machine := p.machine.set name (Octets.ofInt n) }
    | some index => do
      let row := ((p.machine.row? name).or (Parameter.row? p.machine name)).getD {}
      let key ← keyOf fuel row index
      modify fun p => { p with machine := p.machine.setRow name (row.set key (Octets.ofInt n)) }

/-- Expressions with commas between them; the last one counts. -/
def commas (fuel : Nat) : Step Int :=
  match fuel with
  | 0 => fail "expression recursion level exceeded"
  | fuel + 1 => do
    let n ← assignment fuel
    if (← get).current == .sign "," then
      advance
      commas fuel
    else return n

/-- An assignment or a conditional expression. -/
def assignment (fuel : Nat) : Step Int :=
  match fuel with
  | 0 => fail "expression recursion level exceeded"
  | fuel + 1 => do
    let n ← conditional fuel
    let p ← get
    match p.current with
    | .sign sign =>
      match Arithmetic.assignment? sign, p.target with
      | none, _ => return n
      | some _, none => fail "attempted assignment to non-variable"
      | some op, some (name, index) => do
        advance
        let value ← assignment fuel
        let value ←
          if op.isEmpty then pure value
          else if (op == "/" || op == "%") && value == 0 then
            if 0 < (← get).idle then pure 0 else fail "division by 0"
          else
            match Arithmetic.apply op n value with
            | .ok n => pure n
            | .error _ => pure 0
        assign fuel name index value
        target none
        return value
    | _ => return n

/-- A choice between two expressions. The one that is not chosen is not carried out. -/
def conditional (fuel : Nat) : Step Int :=
  match fuel with
  | 0 => fail "expression recursion level exceeded"
  | fuel + 1 => do
    let c ← operation fuel 1
    if (← get).current != .sign "?" then return c
    let skipping (skip : Bool) (body : Step Int) : Step Int := do
      modify fun p => { p with idle := p.idle + (if skip then 1 else 0) }
      let n ← body
      modify fun p => { p with idle := p.idle - (if skip then 1 else 0) }
      return n
    let a ← skipping (c == 0) do
      advance
      let p ← get
      if p.current == .ending || p.current == .sign ":" then fail "expression expected"
      commas fuel
    let p ← get
    if p.current != .sign ":" then fail "\x60:' expected for conditional expression"
    let b ← skipping (c != 0) do
      advance
      if (← get).current == .ending then fail "expression expected"
      conditional fuel
    target none
    return if c != 0 then a else b

/-- Operators that bind at least as tightly as a level, with their operands. -/
def operation (fuel : Nat) (least : Nat) : Step Int :=
  match fuel with
  | 0 => fail "expression recursion level exceeded"
  | fuel + 1 => do
    let a ← power fuel
    further fuel least a

/-- The operators and operands after the first operand. What cannot change the value is not carried
out. -/
def further (fuel : Nat) (least : Nat) (a : Int) : Step Int :=
  match fuel with
  | 0 => fail "expression recursion level exceeded"
  | fuel + 1 => do
    let p ← get
    match p.current with
    | .sign op =>
      match Arithmetic.level op with
      | none => return a
      | some n =>
        if n < least then return a
        let skips := (op == "&&" && a == 0) || (op == "||" && a != 0)
        modify fun p => { p with idle := p.idle + (if skips then 1 else 0) }
        advance
        let b ← operation fuel (n + 1)
        modify fun p => { p with idle := p.idle - (if skips then 1 else 0), target := none }
        let value ←
          match op with
          | "&&" => pure (Arithmetic.ofBool (a != 0 && b != 0))
          | "||" => pure (Arithmetic.ofBool (a != 0 || b != 0))
          | op =>
            match Arithmetic.apply op a b with
            | .ok value => pure value
            | .error _ =>
              if 0 < (← get).idle then pure 0
              else throw (.failed p.text "division by 0" (p.rest.dropWhile Scan.isGap))
        further fuel least value
    | _ => return a

/-- An operand, perhaps raised to a power. -/
def power (fuel : Nat) : Step Int :=
  match fuel with
  | 0 => fail "expression recursion level exceeded"
  | fuel + 1 => do
    let a ← operand fuel
    if (← get).current != .sign "**" then return a
    advance
    let b ← power fuel
    target none
    if b < 0 then fail "exponent less than 0"
    let step (n : Int) (_ : Nat) : Int := Arithmetic.wrapped (n * a)
    return (List.range (min b.toNat 4096)).foldl step 1

/-- A number, a variable, an expression in parentheses, or a sign in front of one. -/
def operand (fuel : Nat) : Step Int :=
  match fuel with
  | 0 => fail "expression recursion level exceeded"
  | fuel + 1 => do
    let p ← get
    match p.current with
    | .number n => do
      advance
      target none
      return n
    | .name name index => do
      let isAssigned := match p.rest.dropWhile Scan.isGap with
        | '=' :: '=' :: _ => false
        | '=' :: _ => true
        | _ => false
      let n ← if isAssigned then pure 0 else valueOf fuel name index
      advance
      let change (delta : Int) : Step Int := do
        assign fuel name index (Arithmetic.wrapped (n + delta))
        advance
        target none
        return n
      match (← get).current with
      | .sign "++" => change 1
      | .sign "--" => change (-1)
      | _ =>
        target (some (name, index))
        return n
    | .sign "(" => do
      advance
      let n ← commas fuel
      if (← get).current != .sign ")" then fail "missing \x60)'"
      advance
      target none
      return n
    | .sign sign => do
      let changed (delta : Int) : Step Int := do
        advance
        match (← get).current with
        | .name name index => do
          let n := Arithmetic.wrapped ((← valueOf fuel name index) + delta)
          assign fuel name index n
          advance
          target none
          return n
        | _ => fail "identifier expected after pre-increment or pre-decrement"
      let signed (f : Int → Int) : Step Int := do
        advance
        let n ← operand fuel
        target none
        return f n
      match sign with
      | "++." => changed 1
      | "--." => changed (-1)
      | "-" => signed fun n => Arithmetic.wrapped (-n)
      | "+" => signed id
      | "!" => signed fun n => Arithmetic.ofBool (n == 0)
      | "~" => signed fun n => -n - 1
      | _ => fail "syntax error: operand expected"
    | .ending => fail "syntax error: operand expected"

end

/-- As many steps as a calculation may take. -/
def maxSteps : Nat := 100000

/-- The value of an expression, and the machine after its assignments. -/
def run (m : Machine) (text : Octets) : Except Fault Int × Machine :=
  match (inside maxSteps text).run { machine := m } with
  | .ok n p => (.ok n, p.machine)
  | .error e p => (.error e, p.machine)

end Codemod.Shell.Calculation

namespace Codemod.Shell.Act

/-- The value of an expression; when there is none, a command says why. -/
def calculate (speaker : String) (text : Octets) : Act (Option Int) := do
  let (found, m) := Calculation.run (← get) text
  set m
  match found with
  | .ok n => return some n
  | .error (.failed expression what rest) => do
    let shown := (Octets.trimLeft expression).toText
    complain (speaker ++ shown ++ ": " ++ what ++ " (error token is \"" ++ rest.toText ++ "\")")
    return none
  | .error (.readOnly name) => do
    complain s!"{name.toText}: readonly variable"
    return none
  | .error (.unset name) => fail s!"{name.toText}: unbound variable"

/-- The value of an expression, without which the current complete command ends. -/
def calculated (text : Octets) : Act Int := do
  match ← calculate "" text with
  | some n => return n
  | none => throw .abandoned

end Codemod.Shell.Act
