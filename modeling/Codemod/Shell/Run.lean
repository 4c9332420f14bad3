import Codemod.Shell.Awk.Basic
import Codemod.Shell.BuiltIn.Naming
import Codemod.Shell.BuiltIn.Place
import Codemod.Shell.BuiltIn.Reading
import Codemod.Shell.Control
import Codemod.Shell.Explore.Basic
import Codemod.Shell.Proposition
import Codemod.Shell.Redirect
import Codemod.Shell.Runner
import Codemod.Shell.Script

/-!
# Running scripts

A script is run on a machine that holds the files, the variables and the streams.

- `Shell.runCommand`, `Shell.runScript` — commands and scripts
- `Shell.runAll` — a program from its beginning to its end
-/

namespace Codemod.Shell

/-! ### Commands -/

/-- A script that is nothing but the reading of a file gives the content of the file. -/
def readingFile (script : Octets) : Octets :=
  match script.dropWhile fun c => Scan.isGap c || c == '\n' with
  | '<' :: c :: _ => if c == '<' || c == '(' then script else "cat ".toList ++ script
  | _ => script

/-- Says how long a command took. -/
def tellTime (short : Bool) (nanoseconds : Nat) : Act Unit := do
  let milliseconds := nanoseconds / 10 ^ 6
  let seconds := milliseconds / 1000
  let padded (width n : Nat) : String := String.ofList (Octets.padLeft width (Octets.ofNat n) '0')
  if short then
    Act.grumble
      s!"real {seconds}.{padded 2 (milliseconds % 1000 / 10)}\nuser 0.00\nsys 0.00"
  else
    Act.grumble
      (s!"\nreal\t{seconds / 60}m{seconds % 60}.{padded 3 (milliseconds % 1000)}s"
        ++ "\nuser\t0m0.000s\nsys\t0m0.000s")

/-- Says that a script cannot be read on. The line is counted from the beginning of the script. -/
def refuseScript (e : ScriptError) (script : Octets) (base line : Nat) : Act Unit := do
  let m ← get
  let name := (m.rich.file.getD m.name).toText
  let who := match m.rich.nested with
    | some command => s!"{name}: {command}"
    | none => if m.rich.inline && m.rich.file.isNone then name ++ ": -c" else name
  let front := s!"{who}: line {base + line}: "
  let (message, shows) := e.richMessage
  match e with
  | .condition what _ => if !what.isEmpty then Act.grumble (front ++ what)
  | _ => pure ()
  Act.grumble (front ++ message)
  if shows then
    let text : Octets := (script.splitOn '\n').getD (line - 1) []
    Act.grumble (front ++ ScriptError.shown text.toText)

/-- The usual usage of a command that reads a script from a file. -/
def sourceUsage (name : String) : String := s!"{name}: usage: {name} filename [arguments]"

/-- The number of an argument, or a complaint that it is none. -/
def richNumber? (command : String) (argument : Octets) : Act (Option Int) := do
  match Brace.integer? argument with
  | some n => return some n
  | none =>
    Act.protest command s!"{argument.toText}: numeric argument required"
    return none

/-- Prints its arguments in a format, or keeps them in a variable. -/
def richPrint (arguments : List Octets) : Act Nat := do
  let m ← get
  let (target, arguments) :=
    match arguments with
    | ['-', 'v'] :: name :: rest => (some name, rest)
    | arguments => (none, arguments)
  let usage := "printf: usage: printf [-v var] format [arguments]"
  match if arguments.head? == some ['-', '-'] then arguments.drop 1 else arguments with
  | [] =>
    Act.grumble usage
    return 2
  | format :: rest =>
    if arguments.head? != some ['-', '-'] && format.head? == some '-' && 1 < format.length then
      Act.protest "printf" s!"{Octets.toText (format.take 2)}: invalid option"
      Act.grumble usage
      return 2
    let p := Tool.formatted (Tool.richPrinting m.place) format rest
    for complaint in p.complaints.reverse do
      Act.grumble complaint
    let text := p.out.reverse.flatten
    match target with
    | none =>
      Act.useTool "printf" (do
        Tool.say text
        return p.status) true
    | some name =>
      match name.span (· != '[') with
      | (name, '[' :: index) =>
        let row := (m.row? name).getD {}
        match ← Expand.keyOf (fun _ =>
          pure []) Expand.maxDepth name row [.plain index.dropLast] with
        | some key =>
          Act.store none name (some key) false text
          return p.status
        | none => return 1
      | (name, _) =>
        if !BuiltIn.isName name then
          return ← Act.protested "printf" (ScriptError.shown (Octets.toText name)
            ++ ": not a valid identifier")
        if m.readOnly.contains name then
          Act.complain s!"{Octets.toText name}: readonly variable"
          return 1
        Act.store none name none false text
        return p.status

/-- Tells by its status whether a condition holds. -/
def richTest (name : String) (arguments : List Octets) : Act Nat := do
  let m ← get
  match Tool.conditionWords name arguments with
  | none => Act.protested name ("missing " ++ ScriptError.shown "]")
  | some words =>
    let has (sign text : Octets) : Bool := Proposition.hasProperty m sign.toText text
    match Condition.richValue m.disk has words with
    | .ok holds => return if holds then 0 else 1
    | .error what => Act.protested name what

/-- Commands of a shell of the rich language that need nothing but their arguments. -/
def runRichTool? (name : String) (arguments : List Octets) : Option (Act Nat) :=
  match name with
  | "echo" => some (Act.useTool "echo" (Tool.echo arguments) true)
  | "printf" => some (richPrint arguments)
  | "test" | "[" => some (richTest name arguments)
  | "set" => some (Preference.change arguments)
  | "shopt" => some (Preference.shop arguments)
  | "read" => some (Intake.line arguments)
  | "mapfile" | "readarray" => some (Intake.lines name arguments)
  | "type" => some (Inquiry.describe "type" arguments)
  | "hash" => some (Inquiry.remember arguments)
  | "alias" => some (Inquiry.defineAliases arguments)
  | "unalias" => some (Inquiry.dropAliases arguments)
  | "cd" => some (Travel.go arguments)
  | "pwd" => some (Travel.tell arguments)
  | "pushd" => some (Travel.push arguments)
  | "popd" => some Travel.pop
  | "dirs" => some (Travel.list arguments)
  | "umask" => some (Travel.changeMask arguments)
  | "fg" | "bg" => some (Act.protested name "no job control" 1)
  | "logout" => some (Act.protested name ("not login shell: use " ++ ScriptError.shown "exit") 1)
  | "disown" =>
    some do if (← get).jobs.isEmpty then Act.protested name "current: no such job" 1 else return 0
  | "caller" => some do
    let m ← get
    match m.rich.frames with
    | [] => return 1
    | frame :: outer => do
      let file := (if m.rich.inline then "NULL" else frame.file.toText)
      let caller := match outer with
        | next :: _ => next.function.toText
        | [] => "main"
      let middle := if arguments.isEmpty then "" else caller ++ " "
      Act.say (Octets.ofString s!"{frame.line} {middle}{file}\n")
      return 0
  | "let" => some do
    if arguments.isEmpty then return ← Act.protested "let" "expression expected" 1
    let mut last : Int := 0
    for argument in arguments do
      match ← Act.calculate "let: " argument with
      | some n => last := n
      | none => return 1
    return if last == 0 then 1 else 0
  | "shift" => some do
    let m ← get
    let n ← match arguments with
      | [] => pure (some 1)
      | argument :: _ => richNumber? "shift" argument
    match n with
    | none => return 1
    | some n =>
      if n < 0 then Act.protested "shift" s!"{n}: shift count out of range" 1
      else if (m.parameters.length : Int) < n then return 1
      else
        set { m with parameters := m.parameters.drop n.toNat, optionPlace := 0 }
        return 0
  | "exit" => some do
    let m ← get
    match arguments with
    | [] => throw (.exit m.status)
    | argument :: more =>
      match ← richNumber? "exit" argument with
      | none => throw (.exit 2)
      | some n =>
        if more.isEmpty then throw (.exit (n % 256).toNat)
        else Act.protested "exit" "too many arguments" 1
  | "return" => some do
    let m ← get
    if m.rich.frames.isEmpty && m.rich.file.isNone then
      return ← Act.protested "return"
        ("can only " ++ ScriptError.shown "return" ++ " from a function or sourced script")
    match arguments with
    | [] => throw (.leaveFunction m.status)
    | argument :: more =>
      match ← richNumber? "return" argument with
      | none => throw (.leaveFunction 2)
      | some n =>
        if more.isEmpty then throw (.leaveFunction (n % 256).toNat)
        else Act.protested "return" "too many arguments" 1
  | "bind" | "compgen" | "complete" | "compopt" | "enable" | "fc" | "help" | "history" | "suspend" =>
    some (pure 0)
  | _ => none

mutual

/-- The output of a script that is a part of a word. -/
def capture (fuel : Nat) (script : Octets) : Act Octets :=
  match fuel with
  | 0 => throw .expired
  | fuel + 1 => do
    let rich := (← get).rich
    if rich.isOn then
      Act.captured do
        modify fun m => { m with strict := m.strict && rich.options.contains "inherit_errexit" }
        runScript fuel (readingFile script)
    else Act.captured (runScript fuel script)

/-- Runs a command; the value is its status, which the machine keeps too. Files of processes that
were made for it vanish with it. -/
def runCommand (fuel : Nat) (command : Command) : Act Nat :=
  match fuel with
  | 0 => throw .expired
  | fuel + 1 => do
    let planted := (← get).rich.planted.length
    let status ← runOne fuel command
    if planted < (← get).rich.planted.length then drain fuel planted
    return status

/-- Removes the files of processes until so many are left. What was written to them goes to the
scripts that read it. -/
def drain (fuel : Nat) (left : Nat) : Act Unit :=
  match fuel with
  | 0 => throw .expired
  | fuel + 1 => do
    let m ← get
    match m.rich.planted with
    | [] => return ()
    | (loc, sink) :: rest => do
      if rest.length < left then return ()
      let text := match m.disk.get? loc with
        | some (.file bytes) => Octets.ofBytes bytes
        | _ => []
      set { m with disk := m.disk.erase loc, rich := { m.rich with planted := rest } }
      if let some script := sink then
        let _ ← Act.apart do
          modify fun m => m.attach 0 (.incoming text false)
          runScript fuel script
        modify fun after => { after with status := m.status }
      drain fuel left

/-- Runs the script for commands that failed. -/
def runFailureTrap (fuel : Nat) (status : Nat) : Act Unit :=
  match fuel with
  | 0 => throw .expired
  | fuel + 1 => do
    let m ← get
    if status != 0 && m.rich.isOn && !m.guarded
      && (m.rich.frames.isEmpty || m.idle.contains 'E') then
      if let some action := m.traps.lookup Signal.failure then
        if !m.inner then
          set { m with traps := m.traps.filter (·.1 != Signal.failure) }
          let _ ← runNested fuel action
          modify fun after => { after with status := m.status, traps := m.traps }

/-- The value of an expression that is a word. -/
def runExpression (fuel : Nat) (expression : Word) : Act (Option Int) :=
  match fuel with
  | 0 => throw .expired
  | fuel + 1 => do
    let text := Expand.toText (← Expand.atoms (capture fuel) Expand.maxDepth true expression)
    trace [("((" : String).toList, text, "))".toList]
    Act.calculate "((: " (text.filter (· != '"'))

/-- Runs a command. -/
def runOne (fuel : Nat) (command : Command) : Act Nat :=
  match fuel with
  | 0 => throw .expired
  | fuel + 1 =>
    let capture := capture fuel
    match command with
    | .simple line assignments words rs => do
      modify fun m => { m with line }
      let status ← settle (← runSimple fuel assignments words rs)
      runTraps fuel
      runFailureTrap fuel status
      checkStrict status
      return status
    | .calculate line expression rs => do
      modify fun m => { m with line }
      let status ← underRedirections capture rs do
        match ← runExpression fuel expression with
        | some n => return if n == 0 then 1 else 0
        | none => return 1
      let status ← settle status
      runFailureTrap fuel status
      checkStrict status
      return status
    | .propose line proposition rs => do
      modify fun m => { m with line }
      let status ← underRedirections capture rs (Proposition.status capture proposition)
      let status ← settle status
      runFailureTrap fuel status
      checkStrict status
      return status
    | .pipeline negated commands => do
      let status ←
        match commands with
        | [single] => if negated then unguarded (runCommand fuel single) else runCommand fuel single
        | commands => do
          let status ← runPipeline fuel commands none (← get).clock none []
          if !negated then
            runFailureTrap fuel status
            checkStrict status
          pure status
      if negated then settle (if status == 0 then 1 else 0) else return status
    | .timed short command => do
      let start := (← get).clock
      let status ← runCommand fuel command
      tellTime short ((← get).clock - start)
      return status
    | .both first second => do
      let status ← unguarded (runCommand fuel first)
      if status == 0 then runCommand fuel second else return status
    | .either first second => do
      let status ← unguarded (runCommand fuel first)
      if status != 0 then runCommand fuel second else return status
    | .sequence commands => runSequence fuel commands
    | .background command => do
      let before ← get
      let _ ← Act.apart do
        modify fun m =>
          { m.attach 0 .nowhere with deadline := none, clock := m.clock + jobDelay }
        let _ ← runCommand fuel command
      modify fun m =>
        let held := channelsOf before command
        { m with
          outputHeld := if held.contains .output then max m.outputHeld m.clock else m.outputHeld
          complaintHeld :=
            if held.contains .complaint then max m.complaintHeld m.clock else m.complaintHeld
          jobs := before.jobs ++ [{ ends := m.clock, status := m.status }]
          clock := before.clock
          deadline := before.deadline }
      settle 0
    | .subshell body rs => do
      let status ← underRedirections capture rs (Act.apart (runBody fuel body))
      let status ← settle status
      runFailureTrap fuel status
      checkStrict status
      return status
    | .group body rs => do
      let status ← underRedirections capture rs (runCommand fuel body)
      settle status
    | .branch condition body otherwise rs => do
      let status ← underRedirections capture rs do
        if (← unguarded (runCommand fuel condition)) == 0 then runCommand fuel body
        else
          match otherwise with
          | some other => runCommand fuel other
          | none => return 0
      settle status
    | .loop inverted condition body rs => do
      let status ←
        underRedirections capture rs (insideLoop (runLoop fuel inverted condition body 0))
      settle status
    | .loopWith line start condition step body rs => do
      modify fun m => { m with line }
      let status ← underRedirections capture rs (insideLoop do
        match ← runExpression fuel start with
        | none => return 1
        | some _ => runCounting fuel line condition step body 0)
      settle status
    | .each name words body rs => do
      let values ← runValues fuel words
      let status ← underRedirections capture rs (insideLoop (runEach fuel name values body 0))
      settle status
    | .menu name words body rs => do
      let values ← runValues fuel words
      let status ← underRedirections capture rs (insideLoop (runMenu fuel name values body 0))
      settle status
    | .choice subject arms rs => do
      let text ← Expand.text capture subject
      let status ← underRedirections capture rs (runArms fuel text false arms 0)
      settle status
    | .define name body => do
      modify fun m => { m with functions := (name, body) :: m.functions.filter (·.1 != name) }
      settle 0

/-- The values that a loop goes over. -/
def runValues (fuel : Nat) (words : Option (List Word)) : Act (List Octets) :=
  match fuel with
  | 0 => throw .expired
  | fuel + 1 => do
    match words with
    | some words => do
      let fields ← words.mapM (Expand.fields (capture fuel))
      return fields.flatten
    | none => return (← get).parameters

/-- Runs commands one after another. -/
def runSequence (fuel : Nat) (commands : List Command) : Act Nat :=
  match fuel with
  | 0 => throw .expired
  | fuel + 1 =>
    match commands with
    | [] => return 0
    | [last] => runCommand fuel last
    | command :: rest => do
      let _ ← runCommand fuel command
      runSequence fuel rest

/-- Runs the commands of a pipeline, each with the output of the one before as its input. All start
at the same time. `supply` is that output in pieces with their times, if it would go on without an
end: it ends when the next command has enough of it. `statuses` are those of the commands before,
latest first. -/
def runPipeline (fuel : Nat) (commands : List Command) (input : Option Octets) (start : Nat)
    (supply : Option (List (Nat × Octets))) (statuses : List Nat) : Act Nat :=
  match fuel with
  | 0 => throw .expired
  | fuel + 1 => do
    let before ← get
    let feed (m : Machine) : Machine :=
      let m := { m with clock := start }
      match input with
      | some text => m.attach 0 (.incoming text supply.isSome)
      | none => m
    let finished (m : Machine) : Machine :=
      let rest := match before.openings.size, input with
        | place, some _ =>
          match m.openings[place]? with
          | some (.incoming text _) => text.length
          | _ => 0
        | _, none => 0
      let ended := match supply with
        | none => before.clock
        | some pieces => availableAt start ((input.getD []).length - rest) pieces
      before.cleared { m with clock := max m.clock ended }
    match commands with
    | [] => return 0
    | [last] => do
      let status ← Act.apart do
        modify feed
        let _ ← runCommand fuel last
      modify finished
      let all := status :: statuses
      let failed := (all.find? (· != 0)).getD 0
      let status := if before.rich.pipeFails then failed else status
      modify fun m => { m with status, rich := { m.rich with statuses := all.reverse } }
      return status
    | command :: rest => do
      let (pieces, status, endless) ← Act.gathered true do
        modify feed
        let _ ← runCommand fuel command
      modify finished
      if endless && before.deadline.isNone then modify fun m => { m with clock := before.clock }
      runPipeline fuel rest (some (pieces.flatMap Prod.snd)) start (if endless then some pieces
        else none)
        ((if endless then 141 else status) :: statuses)

/-- Runs a conditional loop. -/
def runLoop (fuel : Nat) (inverted : Bool) (condition body : Command) (status : Nat) : Act Nat :=
  match fuel with
  | 0 => throw .expired
  | fuel + 1 => do
    let goes ← afterTurn do
      let holds := (← unguarded (runCommand fuel condition)) == 0
      if holds != inverted then runCommand fuel body
      else throw (.leaveLoop 1)
    if goes then runLoop fuel inverted condition body (← get).status else return status

/-- Runs a loop with expressions: one for its condition, and one after each turn. -/
def runCounting (fuel : Nat) (line : Nat) (condition step : Word) (body : Command) (status : Nat) :
    Act Nat :=
  match fuel with
  | 0 => throw .expired
  | fuel + 1 => do
    modify fun m => { m with line }
    let found ← if condition.isEmpty then pure (some 1) else runExpression fuel condition
    match found with
    | none => return 1
    | some 0 => return status
    | some _ =>
      if ← afterTurn (runCommand fuel body) then
        let status := (← get).status
        match ← runExpression fuel step with
        | none => return 1
        | some _ => runCounting fuel line condition step body status
      else return 0

/-- Runs a body for each value. -/
def runEach (fuel : Nat) (name : Octets) (values : List Octets) (body : Command) (status : Nat) :
    Act Nat :=
  match fuel with
  | 0 => throw .expired
  | fuel + 1 =>
    match values with
    | [] => return status
    | value :: rest => do
      let m ← get
      if m.rich.isOn && m.readOnly.contains name then
        Act.complain s!"{name.toText}: readonly variable"
        return 1
      if m.rich.isOn then Act.store none name none false value else Act.assign none name value
      if ← afterTurn (runCommand fuel body) then runEach fuel name rest body (← get).status
      else return 0

/-- Runs a body for each value that the one who types has chosen. -/
def runMenu (fuel : Nat) (name : Octets) (values : List Octets) (body : Command) (status : Nat) :
    Act Nat :=
  match fuel with
  | 0 => throw .expired
  | fuel + 1 => do
    if values.isEmpty then return status
    for (value, i) in values.zipIdx do
      modify fun m => m.write 2 (Octets.ofNat (i + 1) ++ ')' :: ' ' :: value ++ ['\n'])
    modify fun m => m.write 2 ((m.get? "PS3".toList).getD "#? ".toList)
    if (← Intake.line []) != 0 then
      Act.say ['\n']
      return 1
    let reply := ((← get).get? "REPLY".toList).getD []
    if reply.isEmpty then runMenu fuel name values body status
    else
      let chosen := (Tool.natural? reply).bind fun n => if n == 0 then none else values[n - 1]?
      Act.store none name none false (chosen.getD [])
      if ← afterTurn (runCommand fuel body) then runMenu fuel name values body (← get).status
      else return 0

/-- Runs the first arm with a pattern that matches, and those that follow it as it says. -/
def runArms (fuel : Nat) (text : Octets) (through : Bool)
    (arms : List (List Word × Command × Sequel))
    (status : Nat) : Act Nat :=
  match fuel with
  | 0 => throw .expired
  | fuel + 1 =>
    match arms with
    | [] => return status
    | (patterns, body, sequel) :: rest => do
      let patterns ← if through then pure [] else patterns.mapM (Expand.pattern (capture fuel))
      if through || patterns.any fun p => Wildcard.accepts p text then
        let status ← runCommand fuel body
        match sequel with
        | .leave => return status
        | .through => runArms fuel text true rest status
        | .onward => runArms fuel text false rest status
      else runArms fuel text false rest status

/-- Makes assignments one after another; the value is their texts. -/
def assignAll (fuel : Nat) (assignments : List Assignment) : Act (List Octets) :=
  match fuel with
  | 0 => throw .expired
  | fuel + 1 =>
    match assignments with
    | [] => return []
    | a :: rest => do
      let text ← Assignment.perform (capture fuel) none a
      return text :: (← assignAll fuel rest)

/-- The arguments of a command that declares variables: assignments are not split. -/
def expandOperands (fuel : Nat) (words : List Word) : Act (List Operand) :=
  match fuel with
  | 0 => throw .expired
  | fuel + 1 => do
    let found ← (words.flatMap Brace.words).mapM fun word => do
      match Grammar.assignment? true word with
      | some a =>
        match a.value with
        | [.list _] => pure [Operand.assignment a]
        | value => do
          let text ← Expand.assigned (capture fuel) value
          pure [Operand.assignment { a with value := [.literal text] }]
      | none => do
        let fields ← Expand.fieldsOf (capture fuel) word
        pure (fields.map Operand.text)
    return found.flatten

/-- The fields of the words of a simple command. What declares variables takes assignments as they
are; in the rich language such arguments are given too. -/
def expandWords (fuel : Nat) (words : List Word) : Act (List Octets × Option (List Operand)) :=
  match fuel with
  | 0 => throw .expired
  | fuel + 1 => do
    let isRich := (← get).rich.isOn
    match words with
    | [] => return ([], none)
    | first :: rest => do
      let head ← Expand.fields (capture fuel) first
      if isRich && Declaration.commands.any fun c => head == [c.toList] then
        let operands ← expandOperands fuel rest
        let texts := operands.map fun
          | .text text => text
          | .assignment a =>
            a.name ++ (if a.appends then ['+', '='] else ['=']) ++ (match a.value with
            | [.literal text] => text
            | _ => ['(', ')'])
        return (head ++ texts, some operands)
      let declares := !isRich && ["export", "readonly", "local"].any fun c => head == [c.toList]
      let more ← rest.mapM fun word => do
        match if declares then Grammar.assignment? false word else none with
        | some a =>
          let text ← Expand.assigned (capture fuel) a.value
          pure [a.name ++ '=' :: text]
        | none => Expand.fields (capture fuel) word
      return (head ++ more.flatten, none)

/-- Makes the assignments in front of a command. In the rich language one that fails does not keep
the command from being run. -/
def assignBefore (fuel : Nat) (assignments : List Assignment) : Act (List Octets) :=
  match fuel with
  | 0 => throw .expired
  | fuel + 1 =>
    try assignAll fuel assignments
    catch
      | .abandoned => return []
      | stop => throw stop

/-- Runs a simple command. -/
def runSimple (fuel : Nat) (assignments : List Assignment) (words : List Word)
    (rs : List Redirection) : Act Nat :=
  match fuel with
  | 0 => throw .expired
  | fuel + 1 => do
    modify fun m => { m with substituted := none }
    let (fields, operands) ← expandWords fuel words
    let before ← get
    let isRich := before.rich.isOn
    let name := fields.headD []
    let isSpecial := !isRich && Lookup.special.contains name.toText
      && (before.functions.lookup name).isNone
    let names := assignments.map (·.name)
    let handOn : Act Unit :=
      modify fun m => { m with exported := names ++ m.exported.filter (!names.contains ·) }
    match fields with
    | [] => do
      let texts ← assignAll fuel assignments
      trace texts
      underRedirections (capture fuel) rs (return (← get).substituted.getD 0)
    | ['e', 'x', 'e', 'c'] :: arguments => do
      let texts ← assignAll fuel assignments
      trace (texts ++ fields)
      if !(← redirect (capture fuel) rs) then
        if isRich then return 1 else throw (.exit 2)
      match if arguments.head? == some ['-', '-'] then arguments.drop 1 else arguments with
      | [] => return 0
      | ['-', 'a'] :: _ :: name :: arguments => do
        handOn
        replaceShell fuel name arguments
      | name :: arguments => do
        handOn
        replaceShell fuel name arguments
    | name :: arguments => do
      let status ← underRedirections (capture fuel) rs (do
        let texts ← assignBefore fuel assignments
        trace (texts ++ fields)
        if !isSpecial then handOn
        let back : Act Unit := do
          if !names.isEmpty && !isSpecial then
            modify fun m =>
              let rows (m : Machine) (mine : Bool) : List (Octets × Row) :=
                m.rich.rows.filter fun (n, _) => names.contains n == mine
              { m with
                bindings := before.bindings.filter (fun (n, _) => names.contains n)
                  ++ m.bindings.filter (fun (n, _) => !names.contains n)
                exported := before.exported.filter (fun n => names.contains n)
                  ++ m.exported.filter (fun n => !names.contains n)
                rich := { m.rich with rows := rows before true ++ rows m false } }
        try
          let status ← runNamed fuel name arguments operands
          back
          return status
        catch stop =>
          back
          throw stop) isSpecial
      if isRich then
        modify fun m => { m with rich := { m.rich with lastWord := fields.getLastD [] } }
      return status

/-- Puts a program in the place of the shell. -/
def replaceShell (fuel : Nat) (name : Octets) (arguments : List Octets) : Act Nat :=
  match fuel with
  | 0 => throw .expired
  | fuel + 1 => do
    modify fun m => { m with traps := m.traps.filter (·.2.isEmpty) }
    let m ← get
    match Lookup.program (Lookup.searched m) m.disk name.toText with
    | .ok (path, program) => do
      match ← runProgram fuel path program name arguments with
      | .exited status => throw (.exit status)
      | .killed signal => throw (.signal signal)
    | .error cause =>
      let missing := cause == .notFound || cause == .notDirectory
      let what := if missing then "not found"
        else if m.rich.isOn then "cannot execute: " ++ Tool.reason cause
        else Tool.reason cause
      Act.protest "exec" s!"{name.toText}: {what}"
      throw (.exit (if cause == .denied then 126 else 127))

/-- Starts a program by its name, as a process of its own. -/
def launch (fuel : Nat) (command : List Octets) : Act (Except SystemError Ended) :=
  match fuel with
  | 0 => throw .expired
  | fuel + 1 => do
    let m ← get
    match command with
    | [] => return .error .notFound
    | name :: arguments =>
      match Lookup.program ((Lookup.searched m).or (some "/bin:/usr/bin")) m.disk name.toText with
      | .ok (path, program) => return .ok (← runProgram fuel path program name arguments)
      | .error cause => return .error cause

/-- Runs a command by its name. A command that declares variables may have arguments of its own
kind. -/
def runNamed (fuel : Nat) (name : Octets) (arguments : List Octets)
    (operands : Option (List Operand)) : Act Nat :=
  match fuel with
  | 0 => throw .expired
  | fuel + 1 => do
    let m ← get
    match Lookup.find m name with
    | .function body => do
      if maxCalls ≤ m.calls then
        Act.fail s!"Maximum function recursion depth ({maxCalls}) reached"
      let frame : Frame := { function := name, line := m.line, file := m.rich.file.getD m.name }
      modify fun m =>
        { m with
          parameters := arguments
          locals := some []
          calls := m.calls + 1
          loops := 0
          optionPlace := 0
          rich := { m.rich with frames := frame :: m.rich.frames } }
      let status ←
        try
          runCommand fuel body
        catch
          | .leaveFunction status => pure status
          | stop => do
            modify (BuiltIn.afterFunction m)
            throw stop
      modify (BuiltIn.afterFunction m)
      return status
    | .builtIn own =>
      if m.rich.isOn then
        try runRich fuel own arguments (operands.getD (arguments.map .text))
        catch
          | .refused status => return status
          | stop => throw stop
      else runBuiltIn fuel own arguments
    | .program path program => do
      if !name.contains '/' then
        modify fun m => { m with remembered := name :: m.remembered.filter (· != name) }
      match ← runProgram fuel path program name arguments with
      | .exited status => return status
      | .killed signal =>
        Signal.report signal
        return 128 + signal
    | .failed text status =>
      Act.complain s!"{name.toText}: {text}"
      return status

/-- Runs a command of a shell of the rich language. -/
def runRich (fuel : Nat) (name : String) (arguments : List Octets) (operands : List Operand) :
    Act Nat :=
  match fuel with
  | 0 => throw .expired
  | fuel + 1 => do
    let m ← get
    if Declaration.commands.contains name then Declaration.run (capture fuel) name operands
    else
      match name with
      | "unset" => Declaration.unset (capture fuel) arguments
      | "eval" =>
        let arguments := if arguments.head? == some ['-', '-'] then arguments.drop 1 else arguments
        modify fun m => { m with rich := { m.rich with nested := some "eval" } }
        let back : Act Unit :=
          modify fun after => { after with rich := { after.rich with nested := m.rich.nested } }
        try
          let status ← runNested fuel (List.intercalate [' '] arguments)
          back
          return status
        catch stop =>
          back
          throw stop
      | "." | "source" => runSource fuel name arguments
      | "builtin" =>
        match arguments with
        | [] => return 0
        | target :: rest =>
          if Lookup.isOwn m target.toText then runRich fuel target.toText rest (rest.map .text)
          else Act.protested "builtin" s!"{target.toText}: not a shell builtin" 1
      | "command" =>
        match arguments with
        | ['-', 'v'] :: targets => Inquiry.locate targets
        | ['-', 'V'] :: targets => Inquiry.describe "command" targets
        | arguments => runPlainly fuel arguments
      | name =>
        match runRichTool? name arguments with
        | some act => act
        | none => runBuiltIn fuel name arguments

/-- Runs the script of a file in the current shell. -/
def runSource (fuel : Nat) (name : String) (arguments : List Octets) : Act Nat :=
  match fuel with
  | 0 => throw .expired
  | fuel + 1 => do
    let m ← get
    match if arguments.head? == some ['-', '-'] then arguments.drop 1 else arguments with
    | [] =>
      Act.protest name "filename argument required"
      Act.grumble (sourceUsage name)
      return 2
    | path :: given => do
      let directories :=
        if path.contains '/' then [] else ((Lookup.searched m).getD "").toList.splitOn ':'
      let paths := directories.map fun d => Path.join (String.ofList d) path.toText
      let found := (paths.find? m.disk.isFile).getD path.toText
      match m.disk.readBytes found with
      | .error cause =>
        if cause == .isDirectory then Act.protested name s!"{found}: is a directory" 1
        else
          Act.complain s!"{found}: {Tool.reason cause}"
          return 1
      | .ok bytes => do
        modify fun m =>
          { m with
            line := 1
            parameters := if given.isEmpty then m.parameters else given
            rich := { m.rich with file := some found.toList, nested := none } }
        let back : Act Unit := modify fun after =>
          { after with
            line := m.line
            parameters := if given.isEmpty then after.parameters else m.parameters
            rich := { after.rich with file := m.rich.file, nested := m.rich.nested } }
        try
          let status ← runNested fuel (Octets.ofBytes bytes)
          back
          return status
        catch
          | .leaveFunction status =>
            back
            return status
          | stop =>
            back
            throw stop

/-- Runs a command of the shell itself. -/
def runBuiltIn (fuel : Nat) (name : String) (arguments : List Octets) : Act Nat :=
  match fuel with
  | 0 => throw .expired
  | fuel + 1 => do
    let m ← get
    match name with
    | ":" | "jobs" => return 0
    | "times" =>
      Act.say "0m0.000000s 0m0.000000s\n0m0.000000s 0m0.000000s\n".toList
      return 0
    | "ulimit" =>
      match arguments with
      | ['-', 'c'] :: _ => Act.say "0\n".toList
      | [] | [_] => Act.say "unlimited\n".toList
      | _ => pure ()
      return 0
    | "alias" => BuiltIn.defineAliases arguments
    | "unalias" => BuiltIn.dropAliases arguments
    | "hash" => BuiltIn.rememberPrograms arguments
    | "cd" => BuiltIn.changeDirectory arguments
    | "pwd" => BuiltIn.printDirectory arguments
    | "umask" => BuiltIn.changeMask arguments
    | "exit" => throw (.exit ((← BuiltIn.numberArgument "exit" m.status arguments) % 256))
    | "return" =>
      throw (.leaveFunction ((← BuiltIn.numberArgument "return" m.status arguments) % 256))
    | "break" => leaveLoops "break" arguments .leaveLoop
    | "continue" => leaveLoops "continue" arguments .nextTurn
    | "export" => BuiltIn.exportVariables arguments
    | "readonly" => BuiltIn.protectVariables arguments
    | "local" => BuiltIn.keepVariables arguments
    | "unset" => BuiltIn.unsetNames arguments
    | "set" => BuiltIn.setOptions arguments
    | "shift" =>
      let n ← BuiltIn.numberArgument "shift" 1 arguments
      if m.parameters.length < n then Act.failAs "shift" "can't shift that many"
      else
        set { m with parameters := m.parameters.drop n, optionPlace := 0 }
        return 0
    | "eval" => speakingAs "eval: " (runNested fuel (List.intercalate [' '] arguments))
    | "." =>
      match if arguments.head? == some ['-', '-'] then arguments.drop 1 else arguments with
      | [] => return 0
      | path :: _ =>
        let directories :=
          if path.contains '/' then [] else ((Lookup.searched m).getD "").toList.splitOn ':'
        let paths := directories.map fun d => Path.join (String.ofList d) path.toText
        match if path.contains '/' then some path.toText else paths.find? m.disk.isFile with
        | none => Act.failAs "." s!"{path.toText}: not found"
        | some found =>
          match m.disk.readBytes found with
          | .ok bytes => speakingAs (found ++ ": ") (do
              try
                runNested fuel (Octets.ofBytes bytes)
              catch
                | .leaveFunction status => return status
                | stop => throw stop)
          | .error cause =>
            if cause == .isDirectory then return 0
            Act.failAs "." (s!"cannot open {found}: " ++ openFailure "No such file" cause)
    | "read" => BuiltIn.readLine arguments
    | "getopts" => BuiltIn.nextOption arguments
    | "wait" => Signal.await arguments
    | "kill" => Signal.send arguments
    | "trap" => Signal.setTraps arguments
    | "command" => runPlainly fuel arguments
    | "type" => BuiltIn.describeNames arguments
    | "bg" | "fg" => Act.protested name "No current job"
    | name =>
      match Tool.builtIn? name with
      | some tool => Act.useTool name (tool arguments) true
      | none => return 0

/-- Runs a command that is no function, or says what names mean. -/
def runPlainly (fuel : Nat) (arguments : List Octets) : Act Nat :=
  match fuel with
  | 0 => throw .expired
  | fuel + 1 => do
    let m ← get
    match arguments with
    | [] => return 0
    | ['-', 'v'] :: targets => do
      let mut status := 127
      for target in targets do
        match Lookup.locate m target with
        | some text =>
          Act.say (text ++ ['\n'])
          status := 0
        | none => pure ()
      return status
    | ['-', 'V'] :: targets => BuiltIn.describeNames targets
    | ['-', 'p'] :: rest => do
      modify fun m => m.set "PATH".toList usualPath
      let status ← runPlainly fuel rest
      modify fun after =>
        { after with bindings := after.bindings.map fun (n, v) =>
            (n, if n == "PATH".toList then (m.get? n).getD v else v) }
      return status
    | ['-', '-'] :: rest => runPlainly fuel rest
    | ('-' :: c :: _) :: _ => Act.protested "command" s!"Illegal option -{String.singleton c}"
    | target :: rest => do
      let function := m.functions.lookup target
      modify fun m => { m with functions := m.functions.filter (·.1 != target) }
      let back : Act Unit := modify fun m =>
        match function with
        | some body => { m with functions := (target, body) :: m.functions.filter (·.1 != target) }
        | none => m
      let isSpecial := Lookup.special.contains target.toText
        && !(["exit", "return", "break", "continue", "exec"].contains target.toText)
      try
        let status ← runNamed fuel target rest none
        back
        return status
      catch
        | .exit 2 => do
          back
          if isSpecial then return 2 else throw (.exit 2)
        | stop => do
          back
          throw stop

/-- Runs a program as a process of its own. -/
def runProgram (fuel : Nat) (path : String) (program : Program) (name : Octets)
    (arguments : List Octets) : Act Ended :=
  match fuel with
  | 0 => throw .expired
  | fuel + 1 => do
    let apart (body : Act Ended) : Act Ended := do
      let before ← get
      modify fun m => { m with functions := [], inner := false, speaker := [] }
      let ended ← body
      modify fun m => { before.resumed m with status := m.status }
      return ended
    match program with
    | .file bytes =>
      match interpreter? bytes with
      | none => apart (runShell fuel (← get).rich.isOn name (Octets.ofString path :: arguments))
      | some (interpreter, given) => do
        let m ← get
        match Lookup.atPath m.disk interpreter.toText with
        | .ok program =>
          runProgram fuel interpreter.toText program interpreter
            (given ++ Octets.ofString path :: arguments)
        | .error cause =>
          let missing := cause == .notFound || cause == .notDirectory
          let what :=
            if m.rich.isOn && missing then "cannot execute: required file not found"
            else if missing then "not found"
            else Tool.reason cause
          Act.complain s!"{name.toText}: {what}"
          return .exited (if missing then 127 else 126)
    | .kept program =>
      match program with
      | "sleep" => return .exited (← BuiltIn.pause arguments)
      | "which" => return .exited (← BuiltIn.programPaths arguments)
      | "kill" => return .exited (← Signal.send arguments)
      | "sh" | "dash" => apart (runShell fuel false name arguments)
      | "bash" | "rbash" => apart (runShell fuel true name arguments)
      | "env" => apart (Runner.environment (launch fuel) name.toText arguments)
      | "nohup" =>
        apart (Runner.plainly (launch fuel) name.toText "" "failed to run command "
          (Runner.refuse name.toText 125 "missing operand") arguments)
      | "nice" =>
        apart (Runner.plainly (launch fuel) name.toText "n,adjustment:" ""
          (do
            Act.say ['0', '\n']
            return .exited 0) arguments)
      | "stdbuf" =>
        apart (Runner.plainly (launch fuel) name.toText "i,input: o,output: e,error:"
          "failed to run command " (Runner.refuse name.toText 125 "missing operand") arguments)
      | "setsid" =>
        apart (Runner.plainly (launch fuel) name.toText "c,ctty f,fork w,wait" "failed to execute "
          (return .exited 1) arguments)
      | "timeout" => apart (Runner.limit (launch fuel) name.toText arguments)
      | "xargs" => apart (Runner.batch (launch fuel) name.toText arguments)
      | "awk" | "mawk" =>
        apart do
          modify fun m => { m with clock := m.clock + programDelay }
          return .exited (← Awk.run (launch fuel) name arguments)
      | "find" =>
        apart do
          modify fun m => { m with clock := m.clock + programDelay }
          return .exited (← Explore.run (launch fuel) name arguments)
      | program =>
        match Tool.find? program with
        | some tool => do
          modify fun m => { m with clock := m.clock + programDelay }
          let shortNamed := ["rev", "getconf"].contains program
          return .exited (← Act.useTool (if shortNamed then program
            else name.toText) (tool arguments))
        | none => return .exited 127

/-- Runs the scripts for signals that came. A shell inside another leaves them to that one. -/
def runTraps (fuel : Nat) : Act Unit :=
  match fuel with
  | 0 => throw .expired
  | fuel + 1 => do
    let m ← get
    if m.inner then pure ()
    else
      match m.raised with
      | [] => pure ()
      | n :: rest => do
        set { m with raised := rest }
        let _ ← runNested fuel ((m.traps.lookup n).getD [])
        let _ ← settle m.status
        runTraps fuel

/-- Runs a script as a part of the current one. -/
def runNested (fuel : Nat) (script : Octets) : Act Nat :=
  match fuel with
  | 0 => throw .expired
  | fuel + 1 => do
    let line := (← get).line
    modify fun m => { m with status := 0 }
    runScript fuel script
    modify fun m => { m with line }
    return (← get).status

/-- Runs a shell of its own on a script that is given as a text or as a file. -/
def runShell (fuel : Nat) (inRich : Bool) (called : Octets) (arguments : List Octets) : Act Ended :=
  match fuel with
  | 0 => throw .expired
  | fuel + 1 => do
    match ← if inRich then richScriptOf called arguments else scriptOf called arguments with
    | .error status => return .exited status
    | .ok script =>
      let before ← get
      try
        let status ← Act.apart do
          modify fun m => childMachine m script
          runToEnd fuel (runScript fuel script.text)
        return .exited status
      catch
        | .signal n => do
          modify before.resumed
          return .killed n
        | stop => throw stop

/-- Runs a command to its end, with what is to run then. -/
def runBody (fuel : Nat) (command : Command) : Act Unit :=
  match fuel with
  | 0 => throw .expired
  | fuel + 1 =>
    runToEnd fuel do
      let _ ← runCommand fuel command

/-- Runs something to its end, and then what is to run at the end. -/
def runToEnd (fuel : Nat) (body : Act Unit) : Act Unit :=
  match fuel with
  | 0 => throw .expired
  | fuel + 1 => do
    let status ←
      try
        body
        pure (← get).status
      catch
        | .exit status | .leaveFunction status => pure status
        | .leaveLoop _ | .nextTurn _ => pure (← get).status
        | .abandoned => pure 1
        | .refused status => pure status
        | stop => throw stop
    let m ← get
    if let some action := m.traps.lookup 0 then
      set { m with traps := m.traps.filter (·.1 != 0), status }
      runScript fuel action
    throw (.exit status)

/-- Runs the complete commands of a script one after another. -/
def runScript (fuel : Nat) (script : Octets) : Act Unit :=
  match fuel with
  | 0 => throw .expired
  | fuel + 1 => do
    let m ← get
    let base := if m.rich.isOn then m.line - 1 else 0
    let (tokens, texts) := Scan.tokens m.rich.isOn script
    runTokens fuel texts script base (tokens.map fun (line, token) => (base + line, token))

/-- Runs the complete commands of tokens of a script whose first line has the number after
`base`. -/
def runTokens (fuel : Nat) (texts : List Word) (script : Octets) (base : Nat)
    (tokens : List Scan.Placed) : Act Unit :=
  match fuel with
  | 0 => throw .expired
  | fuel + 1 => do
    let before ← get
    let isRich := before.rich.isOn
    let aliases := if isRich && !before.rich.options.contains "expand_aliases" then []
      else before.aliases
    match Grammar.complete { rich := isRich, texts, aliases } tokens with
    | .ok none => return ()
    | .ok (some (command, rest)) => do
      if !before.unrun then
        try
          let _ ← runCommand fuel command
        catch
          | .abandoned => do
            if before.inner then throw (.exit 1)
            modify fun m => { m with guarded := before.guarded, loops := before.loops }
            let _ ← settle 1
          | stop => throw stop
      runTokens fuel texts script base rest
    | .error e => do
      let lastLine := base + script.count '\n' + 1
      let here := ((Grammar.skipLineEnds tokens).head?.map Prod.fst).getD lastLine
      if isRich then
        let line :=
          match e with
          | .unexpectedEnd _ | .unclosed =>
            if script.getLast? == some '\n' then lastLine else lastLine + 1
          | .unexpected _ _ _ | .condition _ _ =>
            Grammar.mistakeLine { rich := true, texts, aliases } tokens here
          | _ => here
        refuseScript e script base (line - base)
        throw (.refused 2)
      else
        modify fun m => { m with line := if e.isAtEnd then lastLine else here }
        Act.fail e.message

end

/-! ### Whole runs -/

/-- How a shell ended. -/
inductive Ending where
  | exited (status : Nat)
  | signalled
  /-- It was still running at its deadline. -/
  | running
deriving DecidableEq

/-- What a run of a shell came to. -/
structure Ran where
  disk : FileSystem
  output : List UInt8
  complaints : List UInt8
  ending : Ending
  /-- When the shell ended. -/
  finished : Nat
  /-- Until when its two streams were held. -/
  outputHeld : Nat
  complaintHeld : Nat

/-- Runs a program with arguments from its start. -/
def runAll (m : Machine) (path : String) (program : Program) (name : Octets)
    (arguments : List Octets) : Ran :=
  let act : Act Ended :=
    match program with
    | .kept "sh" | .kept "dash" | .kept "bash" | .kept "rbash" => do
      let inRich := match program with
        | .kept shell => shell == "bash" || shell == "rbash"
        | .file _ => false
      match ← if inRich then richScriptOf name arguments else scriptOf name arguments with
      | .ok script =>
        modify fun m => childMachine m script
        runToEnd maxSteps (runScript maxSteps script.text)
        return .exited (← get).status
      | .error status => return .exited status
    | program => runProgram maxSteps path program name arguments
  let gather (m : Machine) (ending : Ending) : Ran :=
    { disk := m.disk
      output := Octets.toBytes (m.printedTo .output)
      complaints := Octets.toBytes (m.printedTo .complaint)
      ending, finished := m.clock
      outputHeld := max m.clock m.outputHeld
      complaintHeld := max m.clock m.complaintHeld }
  match act.run m with
  | .ok (.exited status) m => gather m (.exited status)
  | .ok (.killed _) m => gather m .signalled
  | .error (.exit status) m => gather m (.exited status)
  | .error (.signal _) m => gather m .signalled
  | .error .expired m => gather m .running
  | .error _ m => gather m (.exited m.status)

end Codemod.Shell
