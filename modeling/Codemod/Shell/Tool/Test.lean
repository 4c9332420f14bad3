import Codemod.Shell.Regex.Reading
import Codemod.Shell.Tool.Lines

/-!
# Conditions

- `Condition.value` — the value of a condition, or what is wrong with it
- `Tool.shellTest`, `Tool.test` — a condition as a tool of the shell and as a program
-/

namespace Codemod.Shell

/-- What a word is in a condition. -/
inductive ConditionSign where
  /-- It asks for a property of the next word. -/
  | property
  /-- It compares the words around it. -/
  | comparison
  | both
  | either
  | negation
  | opening
  | closing
deriving DecidableEq

/-- What is wrong with a condition. -/
inductive ConditionFault where
  | argumentExpected (op : Octets)
  | unclosed
  | noInteger (text : Octets)
  | unexpected (text : Octets)
deriving DecidableEq

namespace Tool

/-- An integer with blanks around it. -/
def integer? (cs : Octets) : Option Int :=
  match Octets.trim cs with
  | '-' :: ds => (natural? ds).map fun n => -(n : Int)
  | '+' :: ds => (natural? ds).map Int.ofNat
  | ds => (natural? ds).map Int.ofNat

end Tool

namespace Condition

/-- The sign that a word is. -/
def sign? (word : Octets) : Option ConditionSign :=
  match word with
  | ['!'] => some .negation
  | ['('] => some .opening
  | [')'] => some .closing
  | ['-', 'a'] => some .both
  | ['-', 'o'] => some .either
  | ['-', c] => if "rwxefdcbpugkstznhOGLS".toList.contains c then some .property else none
  | word =>
    if ["=", "!=", "<", ">", "-eq", "-ne", "-lt", "-le", "-gt", "-ge", "-nt", "-ot", "-ef"].contains
        word.toText then some .comparison
    else none

/-- What stands at a place: nothing any more, or perhaps a sign. A word that asks for a property is
one itself when no other fits. -/
def signAt : List Octets → Option (Option ConditionSign)
  | [] => none
  | word :: rest =>
    let sign := sign? word
    match sign, rest with
    | some .property, [] | some .opening, [] => some none
    | some .property, next :: _ :: _ => some (if sign? next == some .comparison then none else sign)
    | _, _ => some sign

/-- A property of a text or of the file it names. -/
def hasProperty (disk : FileSystem) (op : Char) (text : Octets) : Bool :=
  let path := text.toText
  let isDevice :=
    Tool.devices.contains path || ["/dev/stdin", "/dev/stdout", "/dev/stderr"].contains path
  let found := (disk.find path).toOption
  let hasMode (bits : Nat) : Bool :=
    found.any fun (loc, node) => (disk.mode loc node) &&& bits != 0
  match op with
  | 'n' => !text.isEmpty
  | 'z' => text.isEmpty
  | 'e' | 'r' | 'w' | 'O' | 'G' => found.isSome || isDevice
  | 'f' => disk.isFile path
  | 'd' => disk.isDirectory path
  | 'x' => hasMode 0o111
  | 'u' => hasMode 0o4000
  | 'g' => hasMode 0o2000
  | 'k' => hasMode 0o1000
  | 's' =>
    found.any fun (_, node) =>
      match node with
      | .file bytes => bytes.size > 0
      | _ => true
  | 'h' | 'L' =>
    match disk.resolve false path with
    | .found _ (.link _) => true
    | _ => false
  | 'c' => Tool.devices.contains path
  | _ => false

/-- A file is newer than another one, which may be missing if that makes it older. -/
def isNewer (disk : FileSystem) (missingIsOlder : Bool) (a b : Octets) : Bool :=
  match disk.find a.toText, disk.find b.toText with
  | .ok (x, _), .ok (y, _) => decide (disk.modified y < disk.modified x)
  | .ok _, .error _ => missingIsOlder
  | _, _ => false

/-- Two paths lead to the same file. -/
def isSame (disk : FileSystem) (a b : Octets) : Bool :=
  match disk.find a.toText, disk.find b.toText with
  | .ok (x, _), .ok (y, _) => x == y || (disk.twins x).contains y
  | _, _ => false

/-- A comparison of two words. -/
def compared (disk : FileSystem) (missingIsOlder : Bool) (a op b : Octets) :
    Except ConditionFault Bool := do
  let numbers (f : Int → Int → Bool) : Except ConditionFault Bool :=
    match Tool.integer? a, Tool.integer? b with
    | some x, some y => .ok (f x y)
    | none, _ => .error (.noInteger a)
    | _, none => .error (.noInteger b)
  match op.toText with
  | "=" => return a == b
  | "!=" => return a != b
  | "<" => return Octets.le a b && a != b
  | ">" => return Octets.le b a && a != b
  | "-eq" => numbers (· == ·)
  | "-ne" => numbers (· != ·)
  | "-lt" => numbers (· < ·)
  | "-le" => numbers (· ≤ ·)
  | "-gt" => numbers (· > ·)
  | "-ge" => numbers (· ≥ ·)
  | "-nt" => return isNewer disk missingIsOlder a b
  | "-ot" => return isNewer disk missingIsOlder b a
  | _ => return isSame disk a b

/-- The value of a part of a condition, and what follows from its last word on. -/
abbrev Part := Except ConditionFault (Bool × List Octets)

/-- What the parts of a condition depend on. -/
structure Setting where
  disk : FileSystem
  /-- A file that is missing is older than one that is there. -/
  missingIsOlder : Bool

/-- The part that is a word, a property or a comparison. -/
def simple (s : Setting) (isOperand : Bool) (cs : List Octets) : Part :=
  match cs with
  | [] => .ok (false, [])
  | word :: rest =>
    if !isOperand && sign? word == some .property then
      match rest with
      | [] => .error (.argumentExpected word)
      | operand :: _ => .ok (hasProperty s.disk ((word.drop 1).headD 'n') operand, rest)
    else if signAt rest == some (some .comparison) then
      match rest with
      | op :: operand :: more =>
        (compared s.disk s.missingIsOlder word op operand).map fun holds => (holds, operand :: more)
      | rest => .error (.argumentExpected (rest.headD []))
    else .ok (!word.isEmpty, cs)

mutual

/-- Parts joined by the weaker connective; `found` tells that one before them held. -/
def anyOf (s : Setting) (fuel : Nat) (found : Bool) (sign : Option (Option ConditionSign))
    (cs : List Octets) : Part :=
  match fuel with
  | 0 => .ok (found, [])
  | fuel + 1 => do
    let (holds, cs) ← allOf s fuel true sign cs
    let found := found || holds
    if signAt (cs.drop 1) == some (some .either) then
      anyOf s fuel found (signAt (cs.drop 2)) (cs.drop 2)
    else return (found, cs)

/-- Parts joined by the stronger connective; `held` tells that all before them did. -/
def allOf (s : Setting) (fuel : Nat) (held : Bool) (sign : Option (Option ConditionSign))
    (cs : List Octets) : Part :=
  match fuel with
  | 0 => .ok (held, [])
  | fuel + 1 => do
    let (holds, cs) ← one s fuel sign cs
    let held := held && holds
    if signAt (cs.drop 1) == some (some .both) then
      allOf s fuel held (signAt (cs.drop 2)) (cs.drop 2)
    else return (held, cs)

/-- A single part. -/
def one (s : Setting) (fuel : Nat) (sign : Option (Option ConditionSign)) (cs : List Octets) :
    Part :=
  match fuel with
  | 0 => .ok (false, [])
  | fuel + 1 =>
    match sign with
    | none => .ok (false, cs)
    | some (some .negation) => do
      let next := signAt (cs.drop 1)
      let (holds, cs) ← one s fuel next (if next.isNone then cs else cs.drop 1)
      return (!holds, cs)
    | some (some .opening) => do
      let inside := cs.drop 1
      if signAt inside == some (some .closing) then return (false, inside)
      let (holds, cs) ← anyOf s fuel false (signAt inside) inside
      if signAt (cs.drop 1) == some (some .closing) then return (holds, cs.drop 1)
      else throw .unclosed
    | some sign => simple s (sign != some .property) cs

end

/-- The value of a condition. Up to four words are read by their number. -/
def value (s : Setting) (fuel : Nat) (words : List Octets) : Except ConditionFault Bool := do
  let read (sign : Option (Option ConditionSign)) (words : List Octets) : Except ConditionFault Bool := do
    match ← anyOf s (4 * words.length + 4) false sign words with
    | (_, word :: _ :: _) => throw (.unexpected word)
    | (holds, _) => return holds
  match fuel with
  | 0 => return false
  | fuel + 1 =>
    let few := words.length == 3 || words.length == 4
    if words.isEmpty then return false
    else if words.length == 3 && (words.drop 1).head?.bind sign? == some .comparison then
      read (some none) words
    else if few && words.head? == some ['('] && words.getLast? == some [')'] then
      let words := (words.drop 1).dropLast
      read (signAt words) words
    else if few && words.head? == some ['!'] then return !(← value s fuel (words.drop 1))
    else read (signAt words) words

/-- The word asks for a property in the rich language. -/
def isProperty (word : Octets) : Bool :=
  match word with
  | ['-', c] => "abcdefghknoprstuvwxzGLNORS".toList.contains c
  | _ => false

/-- The word compares two others in the rich language. -/
def isComparison (word : Octets) : Bool :=
  word == ['=', '='] || sign? word == some .comparison

/-- The value of a condition in the rich language, or what is wrong with it. `has` tells properties.
Up to four words are read by their number. -/
def richValue (disk : FileSystem) (has : Octets → Octets → Bool) (words : List Octets) :
    Except String Bool :=
  let compare (a op b : Octets) : Except String Bool :=
    match compared disk true a (if op == ['=', '='] then ['='] else op) b with
    | .ok holds => .ok holds
    | .error (.noInteger text) => .error s!"{text.toText}: integer expression expected"
    | .error _ => .error "too many arguments"
  let two (a b : Octets) : Except String Bool :=
    if a == ['!'] then .ok b.isEmpty
    else if isProperty a then .ok (has a b)
    else .error s!"{a.toText}: unary operator expected"
  let three (a b c : Octets) : Except String Bool :=
    if isComparison b then compare a b c
    else if b == ['-', 'a'] then .ok (!a.isEmpty && !c.isEmpty)
    else if b == ['-', 'o'] then .ok (!a.isEmpty || !c.isEmpty)
    else if a == ['!'] then (two b c).map (!·)
    else if a == ['('] && c == [')'] then .ok !b.isEmpty
    else .error s!"{b.toText}: binary operator expected"
  let general (words : List Octets) : Except String Bool :=
    let words := words.map fun w => if w == ['=', '='] then ['='] else w
    match value ⟨disk, true⟩ (words.length + 1) words with
    | .ok holds => .ok holds
    | .error (.noInteger text) => .error s!"{text.toText}: integer expression expected"
    | .error (.argumentExpected op) => .error s!"{op.toText}: argument expected"
    | .error .unclosed => .error "\x60)' expected"
    | .error (.unexpected _) => .error "too many arguments"
  match words with
  | [] => .ok false
  | [a] => .ok !a.isEmpty
  | [a, b] => two a b
  | [a, b, c] => three a b c
  | [a, b, c, d] =>
    if a == ['!'] then (three b c d).map (!·)
    else if a == ['('] && d == [')'] then two b c
    else general words
  | words => general words

end Condition

namespace Tool

/-- The words of a condition, without the bracket that has to close it. -/
def conditionWords (name : String) (arguments : List Octets) : Option (List Octets) :=
  if name != "[" then some arguments
  else if arguments.getLast? == some [']'] then some arguments.dropLast
  else none

/-- Tells by its status whether a condition holds, as a tool of the shell. -/
def shellTest (name : String) (arguments : List Octets) : Tool Nat := do
  let b ← get
  let fail (text : String) : Tool Nat := do
    complain s!"{b.caller.toText}: {name}: {text}"
    return 2
  match conditionWords name arguments with
  | none => fail "missing ]"
  | some words =>
    match Condition.value ⟨b.disk, false⟩ (words.length + 1) words with
    | .ok holds => return if holds then 0 else 1
    | .error (.argumentExpected op) => fail s!"{op.toText}: argument expected"
    | .error .unclosed => fail "closing paren expected"
    | .error (.noInteger text) => fail s!"Illegal number: {text.toText}"
    | .error (.unexpected text) =>
      fail (if text.isEmpty then "unexpected operator" else s!"{text.toText}: unexpected operator")

/-- Tells by its status whether a condition holds. -/
def test (name : String) (arguments : List Octets) : Tool Nat := do
  let b ← get
  let fail (text : String) : Tool Nat := do
    blame text
    return 2
  match conditionWords name arguments with
  | none => fail "missing ']'"
  | some words =>
    let words := words.map fun w => if w == ['=', '='] then ['='] else w
    match Condition.value ⟨b.disk, true⟩ (words.length + 1) words with
    | .ok holds => return if holds then 0 else 1
    | .error (.argumentExpected op) => fail s!"missing argument after {quoted op}"
    | .error .unclosed => fail "')' expected"
    | .error (.noInteger text) => fail s!"invalid integer {quoted text}"
    | .error (.unexpected text) =>
      match words with
      | [a, _] => fail s!"{quoted a}: unary operator expected"
      | [_, op, _] => fail s!"{quoted op}: binary operator expected"
      | _ => fail s!"extra argument {quoted text}"

end Tool

end Codemod.Shell

/-!
## Expressions given as arguments

Each operand and each operator is an argument. A value is a text; it counts as a number where one is
wanted.

- `Tool.evaluated` — the value of an expression
- `Tool.expression` — the tool
-/

namespace Codemod.Shell.Tool

/-- Why an expression has no value. -/
inductive ExpressionError where
  | missingOperand
  | missingAfter (argument : Octets)
  | unexpected (argument : Octets)
  | unclosed (argument : Octets)
  | noInteger
  | divisionByZero
deriving DecidableEq

/-- What is said about the error. -/
def ExpressionError.message : ExpressionError → String
  | missingOperand => "missing operand\nTry 'expr --help' for more information."
  | missingAfter argument => s!"syntax error: missing argument after '{argument.toText}'"
  | unexpected argument => s!"syntax error: unexpected argument '{argument.toText}'"
  | unclosed argument => s!"syntax error: expecting ')' after '{argument.toText}'"
  | noInteger => "non-integer argument"
  | divisionByZero => "division by zero"

/-- A value that counts as false. -/
def isNull (value : Octets) : Bool :=
  value.isEmpty || (integer? value).any fun n => n == 0 && value.head? != some '+'

/-- The text of a truth value. -/
def truth (b : Bool) : Octets := if b then ['1'] else ['0']

/-- What a pattern takes of the front of a text: its first group, or else how much it matches. -/
def matched (text pattern : Octets) : Octets :=
  match Regex.read .basic pattern with
  | .error _ => ['0']
  | .ok r =>
    match r.matchAt? text.toArray 0 with
    | some m => if r.hasGroups then m.group text 1 else Octets.ofNat m.stop
    | none => if r.hasGroups then [] else ['0']

/-- The operators of two operands by how tightly they bind. -/
def operatorLevel (op : String) : Option Nat :=
  match op with
  | "|" => some 1
  | "&" => some 2
  | "<" | "<=" | "=" | "==" | "!=" | ">=" | ">" => some 3
  | "+" | "-" => some 4
  | "*" | "/" | "%" => some 5
  | ":" => some 6
  | _ => none

/-- The value of an operator on two values. -/
def operate (op : String) (a b : Octets) : Except ExpressionError Octets :=
  let numbers (f : Int → Int → Except ExpressionError Int) : Except ExpressionError Octets :=
    match integer? a, integer? b with
    | some x, some y => (f x y).map Octets.ofInt
    | _, _ => .error .noInteger
  let compared (onNumbers : Int → Int → Bool) (onTexts : String → String → Bool) :
      Except ExpressionError Octets :=
    match integer? a, integer? b with
    | some x, some y => .ok (truth (onNumbers x y))
    | _, _ => .ok (truth (onTexts (String.ofList a) (String.ofList b)))
  match op with
  | "|" => .ok (if !isNull a then a else if isNull b then ['0'] else b)
  | "&" => .ok (if isNull a || isNull b then ['0'] else a)
  | "<" => compared (· < ·) (· < ·)
  | "<=" => compared (· ≤ ·) (· ≤ ·)
  | "=" | "==" => compared (· == ·) (· == ·)
  | "!=" => compared (· != ·) (· != ·)
  | ">=" => compared (· ≥ ·) (· ≥ ·)
  | ">" => compared (· > ·) (· > ·)
  | "+" => numbers fun x y => .ok (x + y)
  | "-" => numbers fun x y => .ok (x - y)
  | "*" => numbers fun x y => .ok (x * y)
  | "/" => numbers fun x y => if y == 0 then .error .divisionByZero else .ok (x.tdiv y)
  | "%" => numbers fun x y => if y == 0 then .error .divisionByZero else .ok (x.tmod y)
  | _ => .ok (matched a b)

/-- The part of a text from a position on, counted from one. -/
def part (text start length : Octets) : Octets :=
  match integer? start, integer? length with
  | some start, some length =>
    if start ≤ 0 || length ≤ 0 then [] else (text.drop (start.toNat - 1)).take length.toNat
  | _, _ => []

/-- A value, the argument read last, and the arguments after it. -/
abbrev Evaluated := Except ExpressionError (Octets × Octets × List Octets)

mutual

/-- The value of operations that bind at least as tightly as a level. -/
def evaluated (fuel least : Nat) (before : Octets) (arguments : List Octets) : Evaluated :=
  match fuel with
  | 0 => .error .missingOperand
  | fuel + 1 => do
    let (value, before, rest) ← operand fuel before arguments
    evaluatedFurther fuel least value before rest

/-- The value after the operators and operands that follow the first operand. -/
def evaluatedFurther (fuel least : Nat) (value before : Octets) (arguments : List Octets) :
    Evaluated :=
  match fuel with
  | 0 => .error .missingOperand
  | fuel + 1 =>
    match arguments with
    | op :: rest =>
      match operatorLevel op.toText with
      | some level =>
        if level < least then .ok (value, before, arguments)
        else do
          let (other, before, rest) ← evaluated fuel (level + 1) op rest
          evaluatedFurther fuel least (← operate op.toText value other) before rest
      | none => .ok (value, before, arguments)
    | [] => .ok (value, before, [])

/-- A value that stands for itself, in parentheses, or that a word asks for. -/
def operand (fuel : Nat) (before : Octets) (arguments : List Octets) : Evaluated :=
  match fuel with
  | 0 => .error .missingOperand
  | fuel + 1 =>
    match arguments with
    | [] => .error (.missingAfter before)
    | argument :: rest =>
      match argument.toText with
      | "(" => do
        let (value, before, rest) ← evaluated fuel 1 argument rest
        match rest with
        | [')'] :: rest => return (value, [')'], rest)
        | _ => throw (.unclosed before)
      | "+" =>
        match rest with
        | value :: rest => .ok (value, value, rest)
        | [] => .error (.missingAfter argument)
      | "length" => do
        let (text, before, rest) ← operand fuel argument rest
        return (Octets.ofNat text.length, before, rest)
      | "match" => do
        let (text, before, rest) ← operand fuel argument rest
        let (pattern, before, rest) ← operand fuel before rest
        return (matched text pattern, before, rest)
      | "index" => do
        let (text, before, rest) ← operand fuel argument rest
        let (wanted, before, rest) ← operand fuel before rest
        let place := (text.findIdx? wanted.contains).map (· + 1)
        return (Octets.ofNat (place.getD 0), before, rest)
      | "substr" => do
        let (text, before, rest) ← operand fuel argument rest
        let (start, before, rest) ← operand fuel before rest
        let (length, before, rest) ← operand fuel before rest
        return (part text start length, before, rest)
      | _ => .ok (argument, argument, rest)

end

/-- Prints the value of an expression; the status tells whether it counts as true. -/
def expression (arguments : List Octets) : Tool Nat := do
  let arguments := if arguments.head? == some ['-', '-'] then arguments.drop 1 else arguments
  let found : Except ExpressionError Octets := do
    if arguments.isEmpty then throw .missingOperand
    match ← evaluated (20 * arguments.length + 20) 1 [] arguments with
    | (value, _, []) => return value
    | (_, _, argument :: _) => throw (.unexpected argument)
  match found with
  | .ok value =>
    say (value ++ ['\n'])
    return if isNull value then 1 else 0
  | .error e =>
    blame e.message
    return 2

end Codemod.Shell.Tool
