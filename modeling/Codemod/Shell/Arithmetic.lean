import Codemod.Json.Reader
import Codemod.Shell.Token

/-!
# Arithmetic of the shell

Expressions over 64-bit integers with the operators of C. Variables stand for their values; a
variable that is not set counts as zero.

- `Arithmetic.Expression`, `Arithmetic.parse` — expressions and their reading
- `Arithmetic.evaluate` — the value of an expression and the assignments it makes
-/

namespace Codemod.Shell.Arithmetic

/-- An expression. -/
inductive Expression where
  | constant (n : Int)
  | value (name : Octets)
  | unary (op : String) (a : Expression)
  | binary (op : String) (a b : Expression)
  | conditional (c a b : Expression)
  | assign (name : Octets) (op : String) (a : Expression)

/-- Why an expression has no value. -/
inductive Fault where
  | malformed
  | divisionByZero
  | illegalNumber (text : Octets)
deriving DecidableEq

/-! ### Reading -/

/-- A symbol of an expression. -/
inductive Symbol where
  | number (n : Int)
  | name (name : Octets)
  | sign (text : String)

/-- The signs, longer ones first. -/
def signs : List String :=
  ["<<=", ">>=", "||", "&&", "==", "!=", "<=", ">=", "<<", ">>", "+=", "-=", "*=", "/=", "%=", "&=",
    "|=", "^=", "+", "-", "*", "/", "%", "<", ">", "=", "!", "~", "&", "|", "^", "?", ":", "(", ")"]

/-- The value of digits to a base, if they are such digits. -/
def natural? (base : Nat) (ds : Octets) : Option Nat := do
  if ds.isEmpty then none
  let values ← ds.mapM Json.Reader.hexValue?
  if values.all (· < base) then some (values.foldl (fun n d => n * base + d) 0) else none

/-- A character is a digit to a base. -/
def isDigitTo (base : Nat) (c : Char) : Bool := (Json.Reader.hexValue? c).any (· < base)

/-- The digits of a number at the front of a text, with what tells their base: hexadecimal, octal or
decimal. -/
def numberText (cs : Octets) : Octets × Octets :=
  match cs with
  | '0' :: x :: rest =>
    if (x == 'x' || x == 'X') && rest.head?.any (isDigitTo 16) then
      (['0', x] ++ rest.takeWhile (isDigitTo 16), rest.dropWhile (isDigitTo 16))
    else cs.span (isDigitTo 8)
  | cs => cs.span Char.isDigit

/-- A number: hexadecimal, octal or decimal. -/
def number? (cs : Octets) : Option Int :=
  match cs with
  | '0' :: 'x' :: ds | '0' :: 'X' :: ds => (natural? 16 ds).map Int.ofNat
  | '0' :: d :: ds => (natural? 8 (d :: ds)).map Int.ofNat
  | ds => (natural? 10 ds).map Int.ofNat

/-- The greatest number of 64 bits. Greater ones are read as this one. -/
def greatest : Int := 2 ^ 63 - 1

/-- The symbols of an expression. A character that belongs to none is a sign of its own, and nothing
is read after it. -/
def symbols (fuel : Nat) (cs : Octets) : List Symbol :=
  match fuel, cs with
  | 0, _ => []
  | _, [] => []
  | fuel + 1, c :: rest =>
    if Scan.isGap c || c == '\n' then symbols fuel rest
    else if c.isDigit then
      let (text, rest) := numberText (c :: rest)
      .number (min greatest ((number? text).getD 0)) :: symbols fuel rest
    else if Scan.startsName c then
      let (word, rest) := (c :: rest).span Scan.isNameChar
      .name word :: symbols fuel rest
    else
      match signs.find? fun s => s.toList.isPrefixOf (c :: rest) with
      | some s => .sign s :: symbols fuel ((c :: rest).drop s.length)
      | none => [.sign (String.singleton c)]

/-- The operators of two operands by how tightly they bind. -/
def level (op : String) : Option Nat :=
  match op with
  | "||" => some 1
  | "&&" => some 2
  | "|" => some 3
  | "^" => some 4
  | "&" => some 5
  | "==" | "!=" => some 6
  | "<" | ">" | "<=" | ">=" => some 7
  | "<<" | ">>" => some 8
  | "+" | "-" => some 9
  | "*" | "/" | "%" => some 10
  | _ => none

/-- The operator under an assignment sign. -/
def assignment? (op : String) : Option String :=
  if op == "=" then some ""
  else if ["+=", "-=", "*=", "/=", "%=", "&=", "|=", "^=", "<<=", ">>="].contains op then
    some (String.ofList op.toList.dropLast)
  else none

/-- What is missing where an expression cannot be read further. -/
inductive Missing where
  | primary
  | colon
  | parenthesis
  | ending
deriving DecidableEq

/-- What a complaint calls it. -/
def Missing.text : Missing → String
  | primary => "primary"
  | colon => "':'"
  | parenthesis => "')'"
  | ending => "EOF"

/-- An expression that was read and the symbols after it. -/
abbrev Read := Except Missing (Expression × List Symbol)

mutual

/-- An assignment or a conditional expression. -/
def whole (fuel : Nat) (ss : List Symbol) : Read :=
  match fuel with
  | 0 => .error .primary
  | fuel + 1 =>
    match ss with
    | .name name :: .sign op :: rest =>
      match assignment? op with
      | some op => do
        let (e, rest) ← whole fuel rest
        return (.assign name op e, rest)
      | none => conditional fuel ss
    | ss => conditional fuel ss

/-- An expression with a choice between two. -/
def conditional (fuel : Nat) (ss : List Symbol) : Read :=
  match fuel with
  | 0 => .error .primary
  | fuel + 1 => do
    match ← operation fuel 1 ss with
    | (c, .sign "?" :: rest) =>
      match ← whole fuel rest with
      | (a, .sign ":" :: rest) => do
        let (b, rest) ← conditional fuel rest
        return (.conditional c a b, rest)
      | _ => .error .colon
    | found => return found

/-- An expression of operators that bind at least as tightly as a level. -/
def operation (fuel : Nat) (least : Nat) (ss : List Symbol) : Read :=
  match fuel with
  | 0 => .error .primary
  | fuel + 1 => do
    let (a, rest) ← operand fuel ss
    further fuel least a rest

/-- The operators and operands after the first operand. -/
def further (fuel : Nat) (least : Nat) (a : Expression) (ss : List Symbol) : Read :=
  match fuel with
  | 0 => .error .primary
  | fuel + 1 =>
    match ss with
    | .sign op :: rest =>
      match level op with
      | some n =>
        if n < least then .ok (a, ss)
        else do
          let (b, rest) ← operation fuel (n + 1) rest
          further fuel least (.binary op a b) rest
      | none => .ok (a, ss)
    | ss => .ok (a, ss)

/-- A number, a variable, an expression in parentheses, or a sign in front of one. -/
def operand (fuel : Nat) (ss : List Symbol) : Read :=
  match fuel with
  | 0 => .error .primary
  | fuel + 1 =>
    match ss with
    | .number n :: rest => .ok (.constant n, rest)
    | .name name :: rest => .ok (.value name, rest)
    | .sign "(" :: rest => do
      match ← whole fuel rest with
      | (e, .sign ")" :: rest) => return (e, rest)
      | _ => .error .parenthesis
    | .sign op :: rest =>
      if ["+", "-", "!", "~"].contains op then do
        let (e, rest) ← operand fuel rest
        return (.unary op e, rest)
      else .error .primary
    | [] => .error .primary

end

/-- The expression of a text. An empty text is zero. -/
def parse (cs : Octets) : Except Missing Expression := do
  let ss := symbols (cs.length + 1) cs
  if ss.isEmpty then return .constant 0
  match ← whole (20 * ss.length + 20) ss with
  | (e, []) => return e
  | _ => .error .ending

/-! ### Values -/

/-- The value of 64 bits with the same low bits. -/
def wrapped (n : Int) : Int := n.bmod (2 ^ 64)

/-- One for truth, zero for falsehood. -/
def ofBool (b : Bool) : Int := if b then 1 else 0

/-- The value of an operator on two values. -/
def apply (op : String) (a b : Int) : Except Fault Int :=
  match op with
  | "+" => .ok (wrapped (a + b))
  | "-" => .ok (wrapped (a - b))
  | "*" => .ok (wrapped (a * b))
  | "/" => if b == 0 then .error .divisionByZero else .ok (wrapped (a.tdiv b))
  | "%" => if b == 0 then .error .divisionByZero else .ok (wrapped (a.tmod b))
  | "<" => .ok (ofBool (a < b))
  | ">" => .ok (ofBool (a > b))
  | "<=" => .ok (ofBool (a ≤ b))
  | ">=" => .ok (ofBool (a ≥ b))
  | "==" => .ok (ofBool (a == b))
  | "!=" => .ok (ofBool (a != b))
  | "<<" => .ok (wrapped (a * 2 ^ (b % 64).toNat))
  | ">>" => .ok (a >>> (b % 64).toNat)
  | "&" => .ok ((Int64.ofInt a &&& Int64.ofInt b).toInt)
  | "|" => .ok ((Int64.ofInt a ||| Int64.ofInt b).toInt)
  | "^" => .ok ((Int64.ofInt a ^^^ Int64.ofInt b).toInt)
  | _ => .error .malformed

/-- The number that a variable's value stands for. -/
def valueOf (text : Octets) : Except Fault Int :=
  let trimmed := text.dropWhile fun c => c == ' ' || c == '\t' || c == '\n'
  let (negative, ds) :=
    match trimmed with
    | '-' :: ds => (true, ds)
    | '+' :: ds => (false, ds)
    | ds => (false, ds)
  if trimmed.isEmpty then .ok 0
  else
    match number? ds with
    | some n => .ok (if negative then -n else n)
    | none => .error (.illegalNumber text)

/-- The variables an expression sees, latest assignment first. -/
abbrev Variables := List (Octets × Octets)

/-- The value of an expression, and the variables after its assignments. -/
def evaluate (vars : Variables) : Expression → Except Fault (Int × Variables)
  | .constant n => .ok (wrapped n, vars)
  | .value name => do return (← valueOf ((vars.lookup name).getD []), vars)
  | .unary op e => do
    let (n, vars) ← evaluate vars e
    match op with
    | "-" => return (wrapped (-n), vars)
    | "!" => return (ofBool (n == 0), vars)
    | "~" => return (-n - 1, vars)
    | _ => return (n, vars)
  | .binary "&&" a b => do
    let (x, vars) ← evaluate vars a
    if x == 0 then return (0, vars)
    else
      let (y, vars) ← evaluate vars b
      return (ofBool (y != 0), vars)
  | .binary "||" a b => do
    let (x, vars) ← evaluate vars a
    if x != 0 then return (1, vars)
    else
      let (y, vars) ← evaluate vars b
      return (ofBool (y != 0), vars)
  | .binary op a b => do
    let (x, vars) ← evaluate vars a
    let (y, vars) ← evaluate vars b
    return (← apply op x y, vars)
  | .conditional c a b => do
    let (x, vars) ← evaluate vars c
    if x != 0 then evaluate vars a else evaluate vars b
  | .assign name op e => do
    let (y, vars) ← evaluate vars e
    let n ←
      if op.isEmpty then pure y
      else do apply op (← valueOf ((vars.lookup name).getD [])) y
    return (n, (name, Octets.ofInt n) :: vars)

end Codemod.Shell.Arithmetic
