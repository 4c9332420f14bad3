import Codemod.Shell.Arithmetic
import Codemod.Shell.Octets
import Codemod.Shell.Tool.Format
import Codemod.Shell.Tool.Lines

/-!
# Printing tools

The shell has these tools itself, and there are programs of the same names that know more.

- `Tool.shellEcho`, `Tool.echo` — words with blanks between them
- `Tool.shellPrintf`, `Tool.printf` — words in a format
-/

namespace Codemod.Shell.Tool

/-- The escapes of the shell's own tools in arguments. -/
def argumentEscapes : Escape.Style := { zero := true, stops := true }

/-- Prints its arguments with blanks between them and escapes replaced. -/
def shellEcho (arguments : List Octets) : Tool Nat := do
  let (silent, words) :=
    match arguments with
    | ['-', 'n'] :: rest => (true, rest)
    | words => (false, words)
  let text := List.intercalate [' '] words
  let (text, ended) := Escape.read argumentEscapes (text.length + 1) text
  say (if silent || ended then text else text ++ ['\n'])
  return 0

/-- Prints its arguments with blanks between them; options say whether escapes are replaced and
whether the line is ended. -/
def echo (arguments : List Octets) : Tool Nat := do
  let isOption (a : Octets) : Bool :=
    a.length > 1 && a.head? == some '-' && (a.drop 1).all "neE".toList.contains
  let (options, words) := arguments.span isOption
  let letters := options.flatMap (·.drop 1)
  let escapes := (letters.reverse.find? fun c => c == 'e' || c == 'E') == some 'e'
  let text := List.intercalate [' '] words
  let (text, ended) :=
    if escapes then
      Escape.read { zero := true, bare := false, stops := true,
                    rich := true } (text.length + 1) text
    else (text, false)
  say (if letters.contains 'n' || ended then text else text ++ ['\n'])
  return 0

/-! ### Formats -/

/-- What is wrong with an argument that should be a number. -/
inductive NumberFault where
  | notNumeric
  | trailing
  | range
deriving DecidableEq

/-- The whole number that an argument stands for. A quote in front asks for the code of the next
octet. -/
def wholeNumber (signed : Bool) (cs : Octets) : Int × Option NumberFault :=
  match cs with
  | [] => (0, none)
  | '\'' :: rest | '"' :: rest => (((rest.headD '\x00').toNat : Int), none)
  | cs =>
    let trimmed := Octets.trimLeft cs
    let (negative, ds) :=
      match trimmed with
      | '-' :: ds => (true, ds)
      | '+' :: ds => (false, ds)
      | ds => (false, ds)
    let (digits, rest) := Arithmetic.numberText ds
    match Arithmetic.number? digits with
    | none => (0, some .notNumeric)
    | some n =>
      let n := if negative then -n else n
      let least : Int := if signed then -(2 ^ 63) else -(2 ^ 64 - 1)
      let greatest : Int := if signed then 2 ^ 63 - 1 else 2 ^ 64 - 1
      if n < least then (if signed then least else greatest, some .range)
      else if greatest < n then (greatest, some .range)
      else (n, if rest.isEmpty then none else some .trailing)

/-- The number that an argument stands for, which need not be whole. -/
def realNumber (cs : Octets) : Ratio × Option NumberFault :=
  match cs with
  | [] => (.ofInt 0, none)
  | '\'' :: rest | '"' :: rest => (.ofInt (rest.headD '\x00').toNat, none)
  | cs =>
    match Ratio.read? cs with
    | none => (.ofInt 0, some .notNumeric)
    | some (r, rest) => (r, if rest.isEmpty then none else some .trailing)

/-- How one of the two tools differs from the other. -/
structure Printing where
  /-- Conversions by their letters. -/
  letters : Octets
  modifiers : Octets := []
  formatEscapes : Escape.Style
  argumentEscapes : Escape.Style
  /-- What is said about an argument. -/
  fault : Octets → NumberFault → String
  /-- What is said about something that is no conversion. -/
  bad : Octets → String
  badStatus : Nat
  /-- Numbers are rounded to 64 bits. -/
  rounds : Bool
  /-- A text that can be read again. -/
  quoting : Octets → Octets := Quote.ifNeeded

/-- A line of printing. -/
structure Printed where
  out : List Octets := []
  arguments : List Octets
  complaints : List String := []
  stopped : Bool := false
  status : Nat := 0

/-- The next argument. -/
def Printed.next (p : Printed) : Octets × Printed :=
  (p.arguments.headD [], { p with arguments := p.arguments.drop 1 })

/-- A length of a conversion, when it is given as an argument. -/
def Printed.length (style : Printing) (p : Printed) (l : FormatLength) : Int × Printed :=
  match l with
  | .fixed n => (n, p)
  | .given =>
    let (argument, p) := p.next
    let (n, fault) := wholeNumber true argument
    (n, match fault with
      | some f => { p with complaints := style.fault argument f :: p.complaints, status := 1 }
      | none => p)

/-- Prints one part of a format. -/
def Printed.part (style : Printing) (p : Printed) (part : FormatPart) : Printed :=
  if p.stopped then p
  else
    match part with
    | .bad text =>
      { p with complaints := style.bad text :: p.complaints, stopped := true,
               status := style.badStatus }
    | .text text =>
      let (text, ended) := Escape.read style.formatEscapes (text.length + 1) text
      { p with out := text :: p.out, stopped := ended }
    | .conversion c =>
      let (width, p) := p.length style c.width
      let c := { c with width := .fixed width.natAbs, left := c.left || width < 0 }
      let (precision, p) :=
        match c.precision with
        | none => (none, p)
        | some l =>
          let (n, p) := p.length style l
          (if n < 0 then none else some (FormatLength.fixed n.toNat), p)
      let c := { c with precision }
      let (argument, p) := p.next
      let put (text : Octets) (fault : Option NumberFault) (p : Printed) : Printed :=
        match fault with
        | some f =>
          { p with
            out := text :: p.out
            complaints := style.fault argument f :: p.complaints
            status := 1 }
        | none => { p with out := text :: p.out }
      match c.letter with
      | 's' => put (c.text argument) none p
      | 'q' => put (c.text (style.quoting argument)) none p
      | 'b' =>
        let (text, ended) := Escape.read style.argumentEscapes (argument.length + 1) argument
        put (c.text text) none { p with stopped := ended }
      | 'c' => put (c.padded [argument.headD '\x00']) none p
      | letter =>
        if "eEfFgGaA".toList.contains letter then
          let (r, fault) := realNumber argument
          put (c.real (if style.rounds then r.rounded else r)) fault p
        else
          let (n, fault) := wholeNumber (letter == 'd' || letter == 'i') argument
          put (c.integer n) fault p

/-- Prints a format as often as there are arguments left. -/
def Printed.all (style : Printing) (parts : List FormatPart) (fuel : Nat) (p : Printed) : Printed :=
  match fuel with
  | 0 => p
  | fuel + 1 =>
    let after := parts.foldl (Printed.part style) p
    if after.stopped || after.arguments.isEmpty || after.arguments.length == p.arguments.length then
      after
    else Printed.all style parts fuel after

/-- Arguments in a format. -/
def formatted (style : Printing) (format : Octets) (arguments : List Octets) : Printed :=
  let parts := Format.parts style.letters style.modifiers (format.length + 1) format
  Printed.all style parts (arguments.length + 1) { arguments }

/-- Prints arguments in a format. -/
def printFormat (style : Printing) (format : Octets) (arguments : List Octets) : Tool Printed := do
  let p := formatted style format arguments
  for text in p.complaints.reverse do
    complain text
  say p.out.reverse.flatten
  return p

/-- Prints its arguments in a format, as a tool of the shell. -/
def shellPrintf (arguments : List Octets) : Tool Nat := do
  let caller := (← get).caller.toText
  match arguments with
  | ('-' :: c :: _) :: _ =>
    if c != '-' then
      complain s!"{caller}: printf: Illegal option -{String.singleton c}"
      return 2
  | _ => pure ()
  let arguments := if arguments.head? == some ['-', '-'] then arguments.drop 1 else arguments
  match arguments with
  | [] =>
    complain s!"{caller}: printf: usage: printf format [arg ...]"
    return 2
  | format :: rest =>
    let style : Printing :=
      { letters := "sbcdiuoxXeEfFgGaA".toList
        formatEscapes := {}
        argumentEscapes := argumentEscapes
        fault := fun argument f =>
          let text := match f with
            | .notNumeric => "expected numeric value"
            | .trailing => "not completely converted"
            | .range => "Numerical result out of range"
          s!"{caller}: printf: {argument.toText}: {text}"
        bad := fun text =>
          if text.isEmpty then s!"{caller}: printf: missing format character"
          else s!"{caller}: printf: {text.toText}: invalid directive"
        badStatus := 2
        rounds := true }
    return (← printFormat style format rest).status

/-- How a shell of the rich language prints formats, with what its complaints begin with. -/
def richPrinting (caller : String) : Printing :=
  { letters := "sqbcdiuoxXeEfFgGaA".toList
    modifiers := "hlLjzt".toList
    formatEscapes := { stops := true, rich := true, quotes := true }
    argumentEscapes := { zero := true, stops := true, rich := true, quotes := true }
    fault := fun argument f =>
      match f with
      | .notNumeric | .trailing => s!"{caller}: printf: {argument.toText}: invalid number"
      | .range => s!"{caller}: printf: warning: {argument.toText}: Numerical result out of range"
    bad := fun text =>
      if text.length < 2 then caller ++ ": printf: \x60%': missing format character"
      else caller ++ ": printf: \x60" ++ Octets.toText (text.drop (text.length - 1))
        ++ "': invalid format character"
    badStatus := 1
    rounds := true
    quoting := Quoting.escaped }

/-- Prints its arguments in a format. -/
def printf (arguments : List Octets) : Tool Nat := do
  let arguments := if arguments.head? == some ['-', '-'] then arguments.drop 1 else arguments
  match arguments with
  | [] => missingOperand 1
  | format :: rest =>
    let tool := (← get).tool
    let style : Printing :=
      { letters := "sqbcdiuoxXeEfFgGaA".toList
        modifiers := "hlLjzt".toList
        formatEscapes := { stops := true, rich := true, quotes := true }
        argumentEscapes := { zero := true, stops := true, rich := true, quotes := true }
        fault := fun argument f =>
          let text := match f with
            | .notNumeric => "expected a numeric value"
            | .trailing => "value not completely converted"
            | .range => "Numerical result out of range"
          s!"{tool}: {quoted argument}: {text}"
        bad := fun text =>
          let shown := if text.isEmpty then "%" else text.toText
          s!"{tool}: {shown}: invalid conversion specification"
        badStatus := 1
        rounds := false }
    let p ← printFormat style format rest
    match p.arguments with
    | argument :: _ =>
      if !p.stopped then
        blame s!"warning: ignoring excess arguments, starting with {quoted argument}"
    | [] => pure ()
    return p.status

end Codemod.Shell.Tool
