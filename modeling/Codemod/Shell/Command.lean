import Codemod.Shell.Octets

/-!
# Commands of a shell script

- `Piece`, `Word` — words before they are expanded
- `Redirection` — where a stream of a command goes to or comes from
- `Command` — commands
-/

namespace Codemod.Shell

/-- Which matches of a pattern are replaced. -/
inductive Scope where
  | first
  | every
  /-- One at the front of the value. -/
  | front
  /-- One at its end. -/
  | ending
deriving DecidableEq

/-- A change of letters. -/
inductive Case where
  | upper
  | lower
  /-- Each letter gets the case that it has not. -/
  | other
deriving DecidableEq

mutual

/-- What is taken of a parameter. -/
inductive Use where
  | value
  | length
  /-- Another word when the parameter is not set, or also when it is empty. -/
  | default (orEmpty : Bool) (word : List Piece)
  /-- The same, and the parameter is set to it. -/
  | assign (orEmpty : Bool) (word : List Piece)
  /-- A failure when the parameter is not set, or also when it is empty. -/
  | require (orEmpty : Bool) (word : List Piece)
  /-- Another word when the parameter is set, and perhaps also not empty. -/
  | alternative (orEmpty : Bool) (word : List Piece)
  /-- The value without the shortest or longest match at its front. -/
  | trimFront (longest : Bool) (pattern : List Piece)
  /-- The value without the shortest or longest match at its end. -/
  | trimEnd (longest : Bool) (pattern : List Piece)
  /-- A part of the value, by its first place and its length. -/
  | slice (offset : List Piece) (length : Option (List Piece))
  /-- The value with matches of a pattern replaced. -/
  | replace (scope : Scope) (pattern replacement : List Piece)
  /-- The value with its first letter, or all letters, that match a pattern in one case. -/
  | cased (change : Case) (all : Bool) (pattern : List Piece)
  /-- The value transformed as a letter says. -/
  | transformed (letter : Char)
  /-- A use of the parameter whose name is the value. -/
  | referred (use : Use)
  /-- The subscripts of a list. -/
  | keys
  /-- The names of the variables that begin with the name. -/
  | names (joined : Bool)
  /-- Nothing that the shell knows, as it was written. -/
  | invalid (text : Octets)

/-- Which elements of a list are meant. -/
inductive Index where
  /-- All, each as a word of its own. -/
  | each
  /-- All, as one word. -/
  | joined
  | place (subscript : List Piece)

/-- A part of a word. -/
inductive Piece where
  /-- Text outside quotes. -/
  | plain (text : Octets)
  /-- Text as it stands. -/
  | literal (text : Octets)
  /-- What stands between double quotes. -/
  | quotes (pieces : List Piece)
  | parameter (name : Octets) (use : Use)
  /-- Elements of a list. -/
  | element (name : Octets) (index : Index) (use : Use)
  /-- Words in parentheses, which are assigned to a list. -/
  | list (words : List (List Piece))
  /-- The element of a list that is assigned; without a name one of the list that is being given. -/
  | target (name : Octets) (subscript : List Piece)
  /-- The path of a file that holds the output of a script, or whose content is the script's
  input. -/
  | process (reads : Bool) (script : Octets)
  /-- The output of a script. -/
  | output (script : Octets)
  /-- The value of an expression. -/
  | arithmetic (expression : List Piece)

end

/-- A word before it is expanded. -/
abbrev Word := List Piece

/-- What happens to a stream. -/
inductive Direction where
  /-- A file is read. -/
  | input
  /-- A file is written from its beginning. -/
  | output
  /-- A file is written from its beginning, even where files are kept. -/
  | overwrite
  /-- A file is written at its end. -/
  | append
  /-- A file is read and written. -/
  | both
  /-- A file is written by both streams for output, from its beginning or at its end. -/
  | everything (appends : Bool)
  /-- Another stream is taken, or the stream is closed. -/
  | duplicate
  /-- A text is read. -/
  | text
deriving DecidableEq

/-- A redirection of a stream. -/
structure Redirection where
  stream : Nat
  direction : Direction
  target : Word

/-- An assignment in front of a command. -/
structure Assignment where
  name : Octets
  /-- The subscript of an element of a list. -/
  index : Option Word := none
  /-- The value is put after the old one. -/
  appends : Bool := false
  value : Word

/-- An argument of a command that declares variables. -/
inductive Operand where
  | text (text : Octets)
  | assignment (a : Assignment)

/-- A condition between double brackets. -/
inductive Proposition where
  | word (w : Word)
  /-- A property of a word, by the letter of its sign. -/
  | property (sign : String) (w : Word)
  | relation (a : Word) (sign : String) (b : Word)
  | not (p : Proposition)
  | both (p q : Proposition)
  | either (p q : Proposition)

/-- What follows an arm of a choice. -/
inductive Sequel where
  /-- The choice ends. -/
  | leave
  /-- The next arm is run too. -/
  | through
  /-- The patterns of the next arms are tried. -/
  | onward
deriving DecidableEq

/-- A command. -/
inductive Command where
  | simple (line : Nat) (assignments : List Assignment) (words : List Word)
      (redirections : List Redirection)
  /-- The value of an expression is not zero. -/
  | calculate (line : Nat) (expression : Word) (redirections : List Redirection)
  | propose (line : Nat) (proposition : Proposition) (redirections : List Redirection)
  | pipeline (negated : Bool) (commands : List Command)
  | both (first second : Command)
  | either (first second : Command)
  | sequence (commands : List Command)
  | background (command : Command)
  | subshell (body : Command) (redirections : List Redirection)
  | group (body : Command) (redirections : List Redirection)
  | branch (condition body : Command) (otherwise : Option Command)
      (redirections : List Redirection)
  /-- A loop while a condition holds, or until it does. -/
  | loop (inverted : Bool) (condition body : Command) (redirections : List Redirection)
  /-- A loop over words; without words over the positional parameters. -/
  | each (name : Octets) (words : Option (List Word)) (body : Command)
      (redirections : List Redirection)
  /-- A loop with expressions: one before it, one for its condition, and one after each turn. -/
  | loopWith (line : Nat) (start condition step : Word) (body : Command)
      (redirections : List Redirection)
  | choice (subject : Word) (arms : List (List Word × Command × Sequel))
      (redirections : List Redirection)
  /-- A choice by the one who types. -/
  | menu (name : Octets) (words : Option (List Word)) (body : Command)
      (redirections : List Redirection)
  /-- A command whose time is told. -/
  | timed (short : Bool) (command : Command)
  | define (name : Octets) (body : Command)

/-- A command that does nothing. -/
def Command.nothing : Command := .sequence []

/-- The command with its complaints in its output. -/
def Command.withComplaints (command : Command) : Command :=
  let joined : Redirection := ⟨2, .duplicate, [.literal ['1']]⟩
  match command with
  | .simple line assignments words rs => .simple line assignments words (rs ++ [joined])
  | .calculate line e rs => .calculate line e (rs ++ [joined])
  | .propose line p rs => .propose line p (rs ++ [joined])
  | .subshell body rs => .subshell body (rs ++ [joined])
  | .group body rs => .group body (rs ++ [joined])
  | .branch c body other rs => .branch c body other (rs ++ [joined])
  | .loop inverted c body rs => .loop inverted c body (rs ++ [joined])
  | .each name words body rs => .each name words body (rs ++ [joined])
  | .loopWith line a b c body rs => .loopWith line a b c body (rs ++ [joined])
  | .choice subject arms rs => .choice subject arms (rs ++ [joined])
  | .menu name words body rs => .menu name words body (rs ++ [joined])
  | command => .group command [joined]

end Codemod.Shell
