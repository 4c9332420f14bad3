import Codemod.Cli.Failure
import Codemod.Cli.Parse
import Codemod.Text.Search

/-!
# Where completion has a say

While a command line is written it passes through stops: the program, each command, and the help on
each of them. At a stop, flags and words may follow.

- `Stop` — a place in a command line with what may follow
- `stops` — all of them, a stop before those behind it
- `sorted` — the same with the names in order
-/

namespace Codemod.Cli.Completion

/-- A place in a command line with what may follow. -/
structure Stop where
  /-- The words up to the place, the program's name first. -/
  words : List String
  flags : List Flag := []
  positional : Option Positional := none
  /-- The words that may follow, with what they mean. -/
  commands : List (String × String) := []

/-- What the help command does. -/
def helpHelp : String := "Print this message or the help of the given subcommand(s)"

/-- The commands with what they do, the help command last. -/
def commandsOf (p : ProgramSpec) : List (String × String) :=
  p.commands.map (fun c => (c.name, c.help)) ++ [("help", helpHelp)]

/-- All places where something may follow. -/
def stops (p : ProgramSpec) : List Stop :=
  let commands := commandsOf p
  [{ words := [p.name], flags := p.rootFlags, commands }]
    ++ p.commands.map (fun c =>
      { words := [p.name, c.name], flags := p.flagsOf c, positional := c.positional })
    ++ [{ words := [p.name, "help"], commands }]
    ++ commands.map fun c => { words := [p.name, "help", c.1] }

namespace Stop

/-- The flags with values. -/
def valued (s : Stop) : List Flag := s.flags.filter (·.value.isSome)

/-- The flags without values. -/
def switches (s : Stop) : List Flag := s.flags.filter (·.value.isNone)

/-- The words of the place with a text between them. -/
def joined (s : Stop) (separator : String) : String := String.intercalate separator s.words

end Stop

/-- What stands between the words of a stop in the name of a function. -/
def wordMark : String := "__subcmd__"

/-- The first stop, and the others in the order of their names. -/
def sorted : List Stop → List Stop
  | [] => []
  | first :: rest => first :: rest.mergeSort fun s t => s.joined wordMark ≤ t.joined wordMark

/-- A letter as a text. -/
def letterText (c : Char) : String := String.ofList ['-', c]

/-- Blanks in front of a line. -/
def indent (n : Nat) (line : String) : String := String.ofList (List.replicate n ' ') ++ line

/-- Lines as a text. -/
def lines (ls : List String) : String := String.join (ls.map (· ++ "\n"))

end Codemod.Cli.Completion

/-!
## Completions for Bash

The script finds the stop that the words so far lead to and offers its flags and words.
-/

namespace Codemod.Cli.Completion.Bash

/-- The name by which the script knows a stop. -/
def stopName (s : Stop) : String := Text.replaceAll "-" wordMark (s.joined wordMark)

/-- What may follow at a stop. A value that is free is not offered. -/
def offers (s : Stop) : String :=
  let letters := s.flags.filterMap fun f => f.letter.map letterText
  let names := s.flags.map fun f => "--" ++ f.name
  let choices := s.positional.toList.flatMap fun p => p.value.kind.choices.map (·.name)
  String.intercalate " " (letters ++ names ++ choices ++ s.commands.map Prod.fst)

/-- The lines on the value of a flag. -/
def valueLines (f : Flag) : List String :=
  let choices := ((f.value.map fun v => v.kind.choices).getD []).map (·.name)
  let reply :=
    if choices.isEmpty then "COMPREPLY=($(compgen -f \"${cur}\"))"
    else
      let names := String.intercalate " " choices
      "COMPREPLY=($(compgen -W \"" ++ names ++ "\" -- \"${cur}\"))"
  [indent 16 s!"--{f.name})", indent 20 reply, indent 20 "return 0", indent 20 ";;"]

/-- The lines on a stop. -/
def stopLines (s : Stop) : List String :=
  let reply := "COMPREPLY=( $(compgen -W \"${opts}\" -- \"${cur}\") )"
  [indent 8 s!"{stopName s})",
   indent 12 s!"opts=\"{offers s}\"",
   indent 12 ("if [[ ${cur} == -* || ${COMP_CWORD} -eq " ++ toString s.words.length
     ++ " ]] ; then"),
   indent 16 reply, indent 16 "return 0", indent 12 "fi",
   indent 12 "case \"${prev}\" in"]
    ++ s.valued.flatMap valueLines
    ++ [indent 16 "*)", indent 20 "COMPREPLY=()", indent 20 ";;", indent 12 "esac",
        indent 12 reply, indent 12 "return 0", indent 12 ";;"]

/-- The lines on the step from a stop to the stops behind it, by name. -/
def stepLines (s : Stop) : List String :=
  (s.commands.mergeSort fun c d => c.1 ≤ d.1).flatMap fun c =>
    let next : Stop := { words := s.words ++ [c.1] }
    [indent 12 s!"{stopName s},{c.1})", indent 16 s!"cmd=\"{stopName next}\"", indent 16 ";;"]

/-- The script. -/
def script (p : ProgramSpec) : String :=
  let all := sorted (stops p)
  lines <|
    ["_" ++ p.name ++ "() \x7b", indent 4 "local i cur prev opts cmd", indent 4 "COMPREPLY=()",
     indent 4 "if [[ \"${BASH_VERSINFO[0]}\" -ge 4 ]]; then", indent 8 "cur=\"$2\"",
       indent 4 "else",
     indent 8 "cur=\"${COMP_WORDS[COMP_CWORD]}\"", indent 4 "fi", indent 4 "prev=\"$3\"",
     indent 4 "cmd=\"\"", indent 4 "opts=\"\"", "",
     indent 4 "for i in \"${COMP_WORDS[@]:0:COMP_CWORD}\"", indent 4 "do",
     indent 8 "case \"${cmd},${i}\" in", indent 12 "\",$1\")", indent 16 s!"cmd=\"{p.name}\"",
     indent 16 ";;"]
    ++ all.flatMap stepLines
    ++ [indent 12 "*)", indent 16 ";;", indent 8 "esac", indent 4 "done", "",
        indent 4 "case \"${cmd}\" in"]
    ++ all.flatMap stopLines
    ++ [indent 4 "esac", "\x7d", "",
        "if [[ \"${BASH_VERSINFO[0]}\" -eq 4 && \"${BASH_VERSINFO[1]}\" -ge 4 || \"${BASH_VERSINFO[0]}\" -gt 4 ]]; then",
        indent 4 s!"complete -F _{p.name} -o nosort -o bashdefault -o default {p.name}", "else",
        indent 4 s!"complete -F _{p.name} -o bashdefault -o default {p.name}", "fi"]

end Codemod.Cli.Completion.Bash

/-!
## Completions for Elvish

The script has an entry for each stop with the flags and words that may follow.
-/

namespace Codemod.Cli.Completion.Elvish

/-- An offer with what it means. -/
def offer (text help : String) : String :=
  indent 12 s!"cand {text} '" ++ Text.replaceAll "'" "''" help ++ "'"

/-- The offers of a flag. -/
def flagLines (f : Flag) : List String :=
  (f.letter.toList.map fun c => offer (letterText c) f.help) ++ [offer ("--" ++ f.name) f.help]

/-- The entry of a stop. -/
def stopLines (s : Stop) : List String :=
  [indent 8 ("&'" ++ s.joined ";" ++ "'= \x7b")]
    ++ (s.valued ++ s.switches).flatMap flagLines
    ++ s.commands.map (fun c => offer c.1 c.2)
    ++ [indent 8 "\x7d"]

/-- The script. -/
def script (p : ProgramSpec) : String :=
  lines <|
    ["", "use builtin;", "use str;", "",
     s!"set edit:completion:arg-completer[{p.name}] = \x7b|@words|",
     indent 4 "fn spaces \x7b|n|", indent 8 "builtin:repeat $n ' ' | str:join ''", indent 4 "\x7d",
     indent 4 "fn cand \x7b|text desc|",
     indent 8 "edit:complex-candidate $text &display=$text' '(spaces (- 14 (wcswidth $text)))$desc",
     indent 4 "\x7d", indent 4 s!"var command = '{p.name}'", indent 4 "for word $words[1..-1] \x7b",
     indent 8 "if (str:has-prefix $word '-') \x7b", indent 12 "break", indent 8 "\x7d",
     indent 8 "set command = $command';'$word", indent 4 "\x7d", indent 4 "var completions = ["]
    ++ (stops p).flatMap stopLines
    ++ [indent 4 "]", indent 4 "$completions[$command]", "\x7d"]

end Codemod.Cli.Completion.Elvish

/-!
## Completions for Fish

The script has one line for each flag and each word that may follow, under the condition that the
words so far lead to its stop.
-/

namespace Codemod.Cli.Completion.Fish

/-- A text between single quotes. -/
def quote (text : String) : String :=
  "'" ++ Text.replaceAll "'" "\\'" (Text.replaceAll "\\" "\\\\" text) ++ "'"

/-- The condition of a stop. -/
def condition (name : String) (s : Stop) : String :=
  match s.words with
  | [_] => s!"__fish_{name}_needs_command"
  | [_, command] =>
    s!"__fish_{name}_using_subcommand {command}"
      ++ (if s.commands.isEmpty then ""
          else "; and not __fish_seen_subcommand_from "
            ++ String.intercalate " " (s.commands.map Prod.fst))
  | _ => ""

/-- What is offered as the value of a flag. -/
def valueOffer (f : Flag) : String :=
  match f.value with
  | none => ""
  | some v =>
    match v.kind with
    | .text => " -r"
    | .path => " -r -F"
    | .choice choices =>
      " -r -f -a \"" ++ String.intercalate "\n" (choices.map fun c => c.name ++ "\\t"
        ++ quote c.help)
        ++ "\""

/-- The lines on a stop. -/
def stopLines (name : String) (s : Stop) : List String :=
  let start := s!"complete -c {name} -n \"{condition name s}\""
  (s.valued ++ s.switches).map (fun f =>
      start ++ (match f.letter with
        | some c => " -s " ++ String.ofList [c]
        | none => "") ++ s!" -l {f.name} -d {quote f.help}" ++ valueOffer f)
    ++ s.commands.map fun c => s!"{start} -f -a \"{c.1}\" -d {quote c.2}"

/-- A flag in the list of those that stand before a command. -/
def brief (f : Flag) : String :=
  (match f.letter with
    | some c => String.ofList [c, '/']
    | none => "") ++ f.name

/-- The script. -/
def script (p : ProgramSpec) : String :=
  let all := (stops p).filter fun s => s.words.length ≤ 2
  lines <|
    ["# Print an optspec for argparse to handle cmd's options that are independent of any subcommand.",
     s!"function __fish_{p.name}_global_optspecs",
     "\tstring join \\n " ++ String.intercalate " " (p.rootFlags.map brief), "end", "",
     s!"function __fish_{p.name}_needs_command",
     "\t# Figure out if the current invocation already has a command.",
     "\tset -l cmd (commandline -opc)",
     "\tset -e cmd[1]", s!"\targparse -s (__fish_{p.name}_global_optspecs) -- $cmd 2>/dev/null",
     "\tor return", "\tif set -q argv[1]",
     "\t\t# Also print the command, so this can be used to figure out what it is.",
     "\t\techo $argv[1]", "\t\treturn 1", "\tend", "\treturn 0",
     "end", "", s!"function __fish_{p.name}_using_subcommand",
     s!"\tset -l cmd (__fish_{p.name}_needs_command)", "\ttest -z \"$cmd\"", "\tand return 1",
     "\tcontains -- $cmd[1] $argv", "end", ""]
    ++ all.flatMap (stopLines p.name)

end Codemod.Cli.Completion.Fish

/-!
## Completions for PowerShell

The script has a case for each stop with the flags and words that may follow.
-/

namespace Codemod.Cli.Completion.PowerShell

/-- A text between single quotes. -/
def quote (text : String) : String := "'" ++ Text.replaceAll "'" "''" text ++ "'"

/-- An offer with what it means. -/
def offer (text shown kind help : String) : String :=
  indent 12
    s!"[CompletionResult]::new({quote text}, {quote shown}, [CompletionResultType]::{kind}, {quote help})"

/-- The offers of a flag: its letter, set off by a blank when it is a capital, and its name. -/
def flagLines (f : Flag) : List String :=
  (f.letter.toList.map fun c =>
      let text := letterText c
      offer text (if c.isUpper then text ++ " " else text) "ParameterName" f.help)
    ++ [offer ("--" ++ f.name) ("--" ++ f.name) "ParameterName" f.help]

/-- The case of a stop. -/
def stopLines (s : Stop) : List String :=
  [indent 8 (quote (s.joined ";") ++ " \x7b")]
    ++ (s.valued ++ s.switches).flatMap flagLines
    ++ s.commands.map (fun c => offer c.1 c.1 "ParameterValue" c.2)
    ++ [indent 12 "break", indent 8 "\x7d"]

/-- The script. -/
def script (p : ProgramSpec) : String :=
  lines <|
    ["", "using namespace System.Management.Automation",
     "using namespace System.Management.Automation.Language", "",
     s!"Register-ArgumentCompleter -Native -CommandName {quote p.name} -ScriptBlock \x7b",
     indent 4 "param($wordToComplete, $commandAst, $cursorPosition)", "",
     indent 4 "$commandElements = $commandAst.CommandElements", indent 4 "$command = @(",
     indent 8 (quote p.name),
     indent 8 "for ($i = 1; $i -lt $commandElements.Count; $i++) \x7b",
     indent 12 "$element = $commandElements[$i]",
     indent 12 "if ($element -isnot [StringConstantExpressionAst] -or",
     indent 16 "$element.StringConstantType -ne [StringConstantType]::BareWord -or",
     indent 16 "$element.Value.StartsWith('-') -or",
     indent 16 "$element.Value -eq $wordToComplete) \x7b", indent 16 "break", indent 8 "\x7d",
     indent 8 "$element.Value", indent 4 "\x7d) -join ';'", "",
     indent 4 "$completions = @(switch ($command) \x7b"]
    ++ (stops p).flatMap stopLines
    ++ [indent 4 "\x7d)", "",
        indent 4 "$completions.Where\x7b $_.CompletionText -like \"$wordToComplete*\" \x7d |",
        indent 8 "Sort-Object -Property ListItemText", "\x7d"]

end Codemod.Cli.Completion.PowerShell

/-!
## Completions for Zsh

The script describes the arguments at each stop and the commands that may follow.
-/

namespace Codemod.Cli.Completion.Zsh

/-- A text that stands between single quotes within a description. -/
def escaped (text : String) : String :=
  [("\\", "\\\\"), ("'", "'\\''"), ("[", "\\["), ("]", "\\]"), (":", "\\:"), ("$", "\\$"),
    ("`", "\\`")].foldl (fun text (old, new) => Text.replaceAll old new text) text

/-- The name of the function on the commands at a stop. -/
def functionName (s : Stop) : String := "_" ++ s.joined wordMark ++ "_commands"

/-- The last word that leads to a stop. -/
def lastWord (s : Stop) : String := s.words.getLastD ""

/-- The help on a positional part. -/
def plainEscaped (text : String) : String :=
  [("[", "\\["), ("]", "\\]"), ("'", "'\\''"), (":", "\\:")].foldl
    (fun text (old, new) => Text.replaceAll old new text) text

/-- What is offered as a value. -/
def valueOffer (v : ValueSpec) : String :=
  match v.kind with
  | .text => "_default"
  | .path => "_files"
  | .choice choices =>
    if choices.all (·.help.isEmpty) then
      "(" ++ String.intercalate " " (choices.map (·.name)) ++ ")"
    else
      "((" ++ String.intercalate "\n"
        (choices.map fun c => c.name ++ "\\:\"" ++ escaped c.help ++ "\"") ++ "))"

/-- The lines on a flag at a stop: one for its letter and one for its name. -/
def flagLines (s : Stop) (f : Flag) : List String :=
  let clash := s.flags.filter fun g => f.conflicts.contains g.name
  let names (g : Flag) := (g.letter.map letterText).toList ++ ["--" ++ g.name]
  let conflicts :=
    if clash.isEmpty then "" else "(" ++ String.intercalate " " (clash.flatMap names) ++ ")"
  let help := escaped f.help
  let tail :=
    match f.value with
    | some v => s!"=[{help}]:{v.label}:{valueOffer v}"
    | none => s!"[{help}]"
  let tailOfLetter :=
    match f.value with
    | some v => s!"+[{help}]:{v.label}:{valueOffer v}"
    | none => s!"[{help}]"
  (f.letter.toList.map fun c => s!"'{conflicts}{letterText c}{tailOfLetter}' \\")
    ++ [s!"'{conflicts}--{f.name}{tail}' \\"]

/-- The lines on what may follow at a stop. -/
def argumentLines (s : Stop) : List String :=
  ["_arguments \"${_arguments_options[@]}\" : \\"]
    ++ (s.valued ++ s.switches).flatMap (flagLines s)
    ++ (s.positional.toList.map fun p =>
      let mark := if p.isRequired then ":" else "::"
      s!"'{mark}{p.name} -- {plainEscaped p.help}:{valueOffer p.value}' \\")
    ++ (if s.commands.isEmpty then []
        else [s!"\":: :{functionName s}\" \\", "\"*::: :->" ++ lastWord s ++ "\" \\"])
    ++ ["&& ret=0"]

/-- The stops right behind a stop. -/
def behind (all : List Stop) (s : Stop) : List Stop :=
  all.filter fun t => t.words.dropLast == s.words

/-- The first of some lines set in by so many blanks. -/
def indentFirst (n : Nat) : List String → List String
  | [] => []
  | line :: rest => indent n line :: rest

/-- The cases of the commands at a stop. -/
def caseLines (all : List Stop) : (depth : Nat) → Stop → List String
  | 0, _ => []
  | depth + 1, s =>
    if s.commands.isEmpty then []
    else
      let name := s.joined "-"
      let behind := (behind all s).flatMap fun t =>
        let cases := caseLines all depth t
        ["(" ++ lastWord t ++ ")"] ++ argumentLines t ++ (if cases.isEmpty then [] else "" :: cases)
          ++ [";;"]
      [indent 4 "case $state in", indent 4 ("(" ++ lastWord s ++ ")"),
       indent 8 "words=($line[1] \"$\x7bwords[@]\x7d\")", indent 8 "(( CURRENT += 1 ))",
       indent 8 s!"curcontext=\"$\x7bcurcontext%:*:*\x7d:{name}-command-$line[1]:\"",
       indent 8 "case $line[1] in"]
        ++ indentFirst 12 behind ++ [indent 8 "esac", indent 4 ";;", "esac"]

/-- The function on the commands at a stop. -/
def functionLines (s : Stop) : List String :=
  let name := functionName s
  [s!"(( $+functions[{name}] )) ||", name ++ "() \x7b"]
    ++ (if s.commands.isEmpty then [indent 4 "local commands; commands=()"]
        else
          [indent 4 "local commands; commands=("]
            ++ s.commands.map (fun c => s!"'{c.1}:{escaped c.2}' \\") ++ [indent 4 ")"])
    ++ [indent 4 ("_describe -t commands '" ++ s.joined " " ++ " commands' commands \"$@\""),
      "\x7d"]

/-- The script. -/
def script (p : ProgramSpec) : String :=
  let all := stops p
  lines <|
    [s!"#compdef {p.name}", "", "autoload -U is-at-least", "", "_" ++ p.name ++ "() \x7b",
     indent 4 "typeset -A opt_args", indent 4 "typeset -a _arguments_options",
     indent 4 "local ret=1", "", indent 4 "if is-at-least 5.2; then",
     indent 8 "_arguments_options=(-s -S -C)", indent 4 "else",
       indent 8 "_arguments_options=(-s -C)",
     indent 4 "fi", "", indent 4 "local context curcontext=\"$curcontext\" state line"]
    ++ (all.head?.toList.flatMap fun s => indentFirst 4 (argumentLines s) ++ caseLines all 3 s)
    ++ ["\x7d", ""]
    ++ (sorted all).flatMap functionLines
    ++ ["", "if [ \"$funcstack[1]\" = \"_" ++ p.name ++ "\" ]; then", indent 4 s!"_{p.name} \"$@\"",
        "else", indent 4 s!"compdef _{p.name} {p.name}", "fi"]

end Codemod.Cli.Completion.Zsh

/-!
## Completion scripts

- `Completion.script` — the script for a shell
- `Completion.fileName` — the file that a shell looks for
- `Completion.write` — writes the script into a directory
-/

namespace Codemod.Cli.Completion

/-- The script for a shell. -/
def script (shell : CompletionShell) : String :=
  match shell with
  | .bash => Bash.script program
  | .zsh => Zsh.script program
  | .fish => Fish.script program
  | .powerShell => PowerShell.script program
  | .elvish => Elvish.script program

/-- The file that a shell looks for. -/
def fileName (shell : CompletionShell) : String :=
  match shell with
  | .bash => program.name ++ ".bash"
  | .zsh => "_" ++ program.name
  | .fish => program.name ++ ".fish"
  | .powerShell => "_" ++ program.name ++ ".ps1"
  | .elvish => program.name ++ ".elv"

/-- Writes the script for a shell into a directory, which has to be given and is made if need be:
the script's path and the files after it. -/
def write (fs : FileSystem) (shell : CompletionShell) (directory : Option String) :
    Except Failure (String × FileSystem) := do
  match directory with
  | none => throw .noDirectory
  | some directory =>
    let fs ← (fs.createDirectories directory).mapError (Failure.directory directory)
    let path := Path.join directory (fileName shell)
    let fs ← (fs.writeBytes path (script shell).toUTF8).mapError
      (Failure.completions shell directory)
    return (path, fs)

end Codemod.Cli.Completion
