import Codemod.Shell.Tool.Options

/-!
# Arguments from an input

The words of an input are handed to commands as arguments, all at once or so many at a time, or one
line at a time in the place of a mark.

- `Batch` — what is to be done with an input
- `Batch.ofOptions` — from options
- `Batch.commands` — the commands for an input
-/

namespace Codemod.Shell

/-- What is to be done with an input. -/
structure Batch where
  /-- How many words each command gets, if not all. -/
  size : Option Nat := none
  /-- How many lines each command gets, if not all. -/
  lines : Option Nat := none
  /-- The word after which nothing counts. -/
  ends : Option Octets := none
  /-- The mark that a line takes the place of. -/
  mark : Option Octets := none
  /-- The character that separates words, and nothing else does. -/
  separator : Option Char := none
  /-- Without words nothing is run. -/
  skipsEmpty : Bool := false
  command : List Octets := []

namespace Batch

/-- The options of a batch. -/
def known : String :=
  "n,max-args: L,max-lines: l:: I,replace: i:: d,delimiter: 0,null r,no-run-if-empty t,verbose "
    ++ "P,max-procs: s,max-chars: a,arg-file: E,eof: x,exit p,interactive help version"

/-- The character that an argument names. -/
def delimiterOf (text : Octets) : Char :=
  match text with
  | ['\\', 'n'] => '\n'
  | ['\\', 't'] => '\t'
  | ['\\', '0'] => '\x00'
  | ['\\', '\\'] => '\\'
  | text => text.headD ' '

/-- The batch that options ask for. -/
def ofOptions (o : Options) : Batch :=
  let last := o.last? ["n", "L", "I", "i", "l"]
  { size := if last == some "n" then (o.value? "n").bind Tool.natural? else none
    lines := match last with
      | some "L" => (o.value? "L").bind Tool.natural?
      | some "l" => some (((o.value? "l").bind Tool.natural?).getD 1)
      | _ => none
    mark := match last with
      | some "I" => o.value? "I"
      | some "i" => some (match o.value? "i" with
          | some (c :: cs) => c :: cs
          | _ => "\x7b\x7d".toList)
      | _ => none
    separator := match o.last? ["0", "d"] with
      | some "0" => some '\x00'
      | some _ => (o.value? "d").map delimiterOf
      | none => none
    skipsEmpty := o.has "r"
    ends := o.value? "E"
    command := if o.operands.isEmpty then ["echo".toList] else o.operands }

/-- The words of a text, where quotes keep blanks together, each with whether its line ends with it;
or the name of a quote that is not closed. The first argument is the word that has begun. -/
def words (current : Option Octets) (quote : Option Char) :
    Octets → Except String (List (Octets × Bool))
  | [] =>
    match quote with
    | some q => .error (if q == '"' then "double" else "single")
    | none => .ok (current.toList.map fun w => (w, true))
  | '\\' :: c :: rest =>
    if quote.isNone then words (some (current.getD [] ++ [c])) none rest
    else words (some (current.getD [] ++ ['\\'])) quote (c :: rest)
  | c :: rest =>
    match quote with
    | some q =>
      if c == q then words current none rest
      else if c == '\n' then .error (if q == '"' then "double" else "single")
      else words (some (current.getD [] ++ [c])) quote rest
    | none =>
      if c == '\'' || c == '"' then words (some (current.getD [])) (some c) rest
      else if c == ' ' || c == '\t' || c == '\n' then
        (words none none rest).map (current.toList.map (fun w => (w, c == '\n')) ++ ·)
      else words (some (current.getD [] ++ [c])) none rest
termination_by cs => cs.length

/-- A text with a mark replaced. -/
def replace (mark replacement : Octets) (fuel : Nat) (cs : Octets) : Octets :=
  match fuel, cs with
  | 0, cs => cs
  | _, [] => []
  | fuel + 1, c :: rest =>
    if !mark.isEmpty && mark.isPrefixOf (c :: rest) then
      replacement ++ replace mark replacement fuel ((c :: rest).drop mark.length)
    else c :: replace mark replacement fuel rest

/-- Pieces of a list of so many members. -/
def pieces {α : Type} (size : Nat) (fuel : Nat) (xs : List α) : List (List α) :=
  match fuel, xs with
  | 0, _ => []
  | _, [] => []
  | fuel + 1, xs => xs.take size :: pieces size fuel (xs.drop size)

/-- Words line by line. -/
def byLine (line : List Octets) : List (Octets × Bool) → List (List Octets)
  | [] => if line.isEmpty then [] else [line.reverse]
  | (word, last) :: rest =>
    if last then (word :: line).reverse :: byLine [] rest else byLine (word :: line) rest

/-- A line without quotes and backslashes, and without blanks at its front. -/
def unquoted (line : Octets) : Except String Octets :=
  let bare := line.dropWhile fun c => c == ' ' || c == '\t'
  go none bare
where
  /-- The rest of a line, inside a quote or outside. -/
  go (quote : Option Char) : Octets → Except String Octets
    | [] =>
      match quote with
      | some q => .error (if q == '"' then "double" else "single")
      | none => .ok []
    | '\\' :: c :: rest =>
      if quote.isNone then (go none rest).map (c :: ·) else (go quote (c :: rest)).map ('\\' :: ·)
    | c :: rest =>
      if quote == some c then go none rest
      else if quote.isNone && (c == '\'' || c == '"') then go (some c) rest
      else (go quote rest).map (c :: ·)
  termination_by cs => cs.length

/-- The commands for an input, or the name of a quote that is not closed. -/
def commands (b : Batch) (input : Octets) : Except String (List (List Octets)) := do
  match b.mark with
  | some mark =>
    let lines ←
      match b.separator with
      | some c => pure (Octets.pieces c input)
      | none => (Octets.pieces '\n' input).mapM unquoted
    return (lines.filter (!·.isEmpty)).map fun line =>
      b.command.map fun word => replace mark line (word.length + 1) word
  | none =>
    let found ←
      match b.separator with
      | some c => pure ((Octets.pieces c input).map fun w => (w, true))
      | none => words none none input
    let found := match b.ends with
      | some word => found.takeWhile (·.1 != word)
      | none => found
    if found.isEmpty then return if b.skipsEmpty then [] else [b.command]
    match b.lines with
    | some n =>
      return (pieces (max 1 n) (found.length + 1) (byLine [] found)).map fun lines =>
        b.command ++ lines.flatten
    | none =>
      let size := max 1 (b.size.getD found.length)
      return (pieces size (found.length + 1) (found.map Prod.fst)).map (b.command ++ ·)

end Batch

end Codemod.Shell
