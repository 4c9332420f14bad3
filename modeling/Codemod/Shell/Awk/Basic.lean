import Codemod.Shell.Awk.Evaluation
import Codemod.Shell.Awk.Grammar

/-!
# Running record programs

- `Awk.Invocation` — what the arguments of the tool ask for
- `Awk.run` — the tool
-/

namespace Codemod.Shell.Awk

/-- What the arguments of the tool ask for. -/
structure Invocation where
  separator : Option Octets := none
  /-- The files that hold the program. -/
  files : List Octets := []
  /-- Variables and their values. -/
  assignments : List (String × Octets) := []
  /-- The program, if no file holds it, and what it works on. -/
  operands : List Octets := []

/-- Why the tool does nothing but to print something. -/
inductive Instead where
  | usage
  | version
  | unknown (option : Octets)
  | lacking (letter : Char)
  | vacuous (option : Octets)
  | improper (text : Octets)

namespace Invocation

/-- What a long option asks for. -/
def long (i : Invocation) (name whole : Octets) : Except Instead Invocation :=
  match name with
  | 'v' :: _ => .error .version
  | 'h' :: _ | 'u' :: _ => .error .usage
  | 'p' :: _ | 'c' :: _ | 'i' :: _ | 'r' :: _ | 's' :: _ => .ok i
  | _ => .error (.unknown whole)

/-- What an option with a value asks for. -/
def withValue (i : Invocation) (letter : Char) (text : Octets) : Except Instead Invocation :=
  match letter with
  | 'f' => .ok { i with files := i.files ++ [text] }
  | 'F' => .ok { i with separator := some (withoutEscapes (text.length + 1) text) }
  | 'v' =>
    match Eval.assignment? text with
    | some (name, text) =>
      .ok { i with
        assignments := i.assignments ++ [(name, withoutEscapes (text.length + 1) text)] }
    | none => .error (.improper text)
  | _ =>
    match long i text text with
    | .ok i => .ok i
    | .error .usage => .error .usage
    | .error .version => .error .version
    | .error _ => .error (.vacuous text)

/-- Reads arguments. Options end at the first argument that is none. -/
def read (i : Invocation) : List Octets → Except Instead Invocation
  | [] => .ok i
  | ['-', '-'] :: rest => .ok { i with operands := rest }
  | ('-' :: '-' :: name) :: rest => do
    let i ← long i name ('-' :: '-' :: name)
    read i rest
  | ('-' :: letter :: joined) :: rest =>
    if !(['f', 'F', 'v', 'W'].contains letter) then .error (.unknown ('-' :: letter :: joined))
    else if !joined.isEmpty then do
      let i ← withValue i letter joined
      read i rest
    else
      match rest with
      | [] => .error (.lacking letter)
      | value :: rest => do
        let i ← withValue i letter value
        read i rest
  | operands => .ok { i with operands }

end Invocation

/-- How the tool is used. -/
def usage : String :=
  "Usage: mawk [Options] [Program] [file ...]

Program:
    The -f option value is the name of a file containing program text.
    If no -f option is given, a \"--\" ends option processing; the following
    parameters are the program text.

Options:
    -f program-file  Program  text is read from file instead of from the
                     command-line.  Multiple -f options are accepted.
    -F value         sets the field separator, FS, to value.
    -v var=value     assigns value to program variable var.
    --               unambiguous end of options.

    Implementation-specific options are prefixed with \"-W\".  They can be
    abbreviated:

    -W version       show version information and exit.
    -W compat        pre-POSIX 2001.
    -W dump          show assembler-like listing of program and exit.
    -W help          show this message and exit.
    -W interactive   set unbuffered output, line-buffered input.
    -W exec file     use file as program as well as last option.
    -W posix         stricter POSIX checking.
    -W random=number set initial random seed.
    -W sprintf=number adjust size of sprintf buffer.
    -W usage         show this message and exit."

/-- Says a line in the name of the tool. -/
def complain (name text : String) : Act Nat := do
  Act.grumble s!"{name}: {text}"
  return 2

/-- What is done instead of running a program; the value is the status. -/
def Instead.act (name : String) : Instead → Act Nat
  | usage => do
    Act.grumble Awk.usage
    return 0
  | version => do
    Act.say "mawk 1.3.4 20240123\n".toList
    return 0
  | unknown option => complain name s!"not an option: {option.toText}"
  | lacking letter => complain name s!"option -{letter} lacks argument"
  | vacuous option => do
    let _ ← complain name s!"vacuous option: -W \"{option.toText}\""
    return 2
  | improper text => complain name s!"improper assignment: -v {text.toText}"

/-- The contents of a file that holds a program. -/
def sourceOf (path : Octets) : Act (Except SystemError Octets) := do
  let m ← get
  if Eval.isInput path then
    match m.contents 0 with
    | .ok (text, _) =>
      set (m.left 0 [])
      return .ok text
    | .error cause => return .error cause
  else return (m.disk.readBytes path.toText).map Octets.ofBytes

/-- The contents of files that hold a program; or the first that cannot be read. -/
def sources : List Octets → Act (Except (Octets × SystemError) Octets)
  | [] => return .ok []
  | path :: rest => do
    match ← sourceOf path with
    | .error cause => return .error (path, cause)
    | .ok text =>
      match ← sources rest with
      | .error e => return .error e
      | .ok following => return .ok (text ++ following)

/-- Variables with the values that they have at the beginning. -/
def firstValues : List (String × Cell) :=
  let text (name value : String) : String × Cell := (name, .value (.text value.toList))
  let number (name : String) (x : Float) : String × Cell := (name, .value (.number x))
  [text "FS" " ", text "OFS" " ", text "ORS" "\n", text "RS" "\n", text "SUBSEP" "\x1c",
    text "CONVFMT" "%.6g", text "OFMT" "%.6g", text "FILENAME" "", number "NR" 0, number "FNR" 0,
    number "RSTART" 0, number "RLENGTH" (-1)]

/-- The state in which a program begins. -/
def Invocation.session (i : Invocation) (name : Octets) (environment : List (Octets × Octets))
    (program : Program) (operands : List Octets) : Session :=
  let listed (t : Table) (k v : Octets) : Table :=
    (t.touch true (.text k)).set (.text k) (.given v)
  let arguments : Table := (name :: operands).zipIdx.foldl
    (fun t (v, n) => (t.touch true (.whole n)).set (.whole n) (.given v)) {}
  let known : Table := environment.foldl (fun t (k, v) => listed t k v) {}
  let count : String × Cell := ("ARGC", .value (.ofInt (operands.length + 1)))
  let s : Session :=
    { tool := name.toText
      program
      tables := #[arguments, known]
      begun := Array.replicate program.ranges false
      shared := ("ARGV", .table 0) :: ("ENVIRON", .table 1) :: count :: firstValues }
  let given := (i.separator.map fun fs => ("FS", fs)).toList ++ i.assignments
  { s with
    shared := given.foldl
      (fun vs (name, text) => (name, .value (.given text)) :: vs.filter (·.1 != name)) s.shared }

/-- Runs a program to its end; the value is the status. -/
def perform (launch : Launch) (name : String) (s : Session) : Act Nat := do
  let (result, s) ← StateT.run (ExceptT.run (Evaluation.whole launch)) s
  let status ← match result with
    | .error (.failed text) => complain name text
    | _ => pure s.status
  let _ ← StateT.run (ExceptT.run (Eval.finish launch)) s
  return status

/-- Runs the program that the arguments hold or name. -/
def run (launch : Launch) (called : Octets) (arguments : List Octets) : Act Nat := do
  let name := called.toText
  match Invocation.read {} arguments with
  | .error instead => instead.act name
  | .ok i =>
    let found : Except (Octets × SystemError) (Octets × List Octets) ←
      match i.files, i.operands with
      | [], [] => pure (.ok ([], []))
      | [], program :: operands => pure (.ok (program, operands))
      | files, operands => do pure ((← sources files).map fun text => (text, operands))
    if let some text := i.separator then
      if let .error e := Separator.read text then
        return ← complain name ((Fault.regex e text).report 0)
    if i.files.isEmpty && i.operands.isEmpty then return ← Instead.act name .usage
    match found with
    | .error (path, cause) =>
      complain name s!"cannot open \"{path.toText}\" ({Tool.reason cause})"
    | .ok (text, operands) =>
      match parse text with
      | .error faults =>
        let place : String := match i.files.getLast? with
          | some path => s!"{path.toText}: "
          | none => ""
        for (line, fault) in faults do
          let _ ← complain name (place ++ fault.report line)
        return 2
      | .ok program =>
        let environment := (← get).environment
        perform launch name (i.session called environment program operands)

end Codemod.Shell.Awk
