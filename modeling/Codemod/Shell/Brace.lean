import Codemod.Shell.Token
import Codemod.Shell.Tool.Bench

/-!
# Braces in words

In the rich language a word with alternatives between braces stands for several words, one for each
alternative. The alternatives are listed with commas, or are the numbers or letters from one to
another.

- `Brace.words` — the words that a word stands for
-/

namespace Codemod.Shell.Brace

/-- A part of a word: a character outside quotes, or something that is kept as it is. -/
inductive Cell where
  | char (c : Char)
  | piece (p : Piece)

/-- The cells of a word. -/
def cells (word : Word) : List Cell :=
  word.flatMap fun
    | .plain text => text.map .char
    | p => [.piece p]

/-- The word of cells. -/
def word (cs : List Cell) : Word :=
  cs.foldr (fun cell rest =>
    match cell with
    | .char c => Scan.consPlain [c] rest
    | .piece p => p :: rest) []

/-- The cell is the character. -/
def Cell.is (c : Char) : Cell → Bool
  | .char d => c == d
  | .piece _ => false

/-- What stands between braces, and what follows the closing one. It has to hold a comma or two dots
that are between no other braces. `taken` is what was passed, last cell first. -/
def inside? (depth : Nat) (divided : Bool) (taken : List Cell) :
    List Cell → Option (List Cell × List Cell)
  | [] => none
  | cell :: rest =>
    if cell.is '\x7d' && depth == 0 && divided then some (taken.reverse, rest)
    else
      let opens := cell.is '\x7b'
      let closes := cell.is '\x7d'
      let follows (c : Char) : Bool := (rest.head?.map (Cell.is c)).getD false
      let ends := ((rest.drop 1).head?.map (Cell.is '\x7d')).getD false
      let divides := depth == 0 && (cell.is ',' || (cell.is '.' && follows '.' && !ends))
      inside? (if opens then depth + 1 else if closes then depth - 1 else depth) (divided
        || divides)
        (cell :: taken) rest

/-- Splits cells at the commas that are between no other braces. -/
def alternatives (depth : Nat) (current : List Cell) : List Cell → List (List Cell)
  | [] => [current.reverse]
  | cell :: rest =>
    if cell.is ',' && depth == 0 then current.reverse :: alternatives depth [] rest
    else
      let depth := if cell.is '\x7b' then depth + 1 else if cell.is '\x7d' then depth - 1 else depth
      alternatives depth (cell :: current) rest

/-- The plain text of cells, if there is nothing else. -/
def plain? (cs : List Cell) : Option Octets :=
  cs.mapM fun
    | .char c => some c
    | .piece _ => none

/-- A whole number with a sign. -/
def integer? (cs : Octets) : Option Int :=
  match cs with
  | '-' :: ds => (Tool.natural? ds).map fun n => -(n : Int)
  | '+' :: ds => (Tool.natural? ds).map Int.ofNat
  | ds => (Tool.natural? ds).map Int.ofNat

/-- The numbers from one to another in steps. -/
def range (a b : Int) (step : Nat) : List Int :=
  let count := (b - a).natAbs / step + 1
  (List.range count).map fun (i : Nat) => if a ≤ b then a + i * step else a - i * step

/-- The greatest number of words that a range may stand for. -/
def maxWords : Nat := 100000

/-- A number with zeros up to a width. -/
def padded (width : Nat) (n : Int) : Octets :=
  let digits := Octets.ofNat n.natAbs
  let sign : Octets := if n < 0 then ['-'] else []
  sign ++ Octets.padLeft (width - sign.length) digits '0'

/-- The texts from one to another: numbers, or letters, perhaps in steps. -/
def sequence? (text : Octets) : Option (List Octets) := do
  let parts := text.splitOnP (· == '.')
  let (a, b, step) ←
    match parts with
    | [a, [], b] => some (a, b, 1)
    | [a, [], b, [], step] => (integer? step).map fun n => (a, b, max n.natAbs 1)
    | _ => none
  match integer? a, integer? b with
  | some x, some y =>
    let isPadded (ds : Octets) : Bool :=
      match ds with
      | '0' :: _ :: _ | '-' :: '0' :: _ :: _ => true
      | _ => false
    let width := if isPadded a || isPadded b then max a.length b.length else 0
    if maxWords < (y - x).natAbs / step then none
    else some ((range x y step).map (padded width))
  | none, none =>
    match a, b with
    | [c], [d] =>
      if c.isAlpha && d.isAlpha then
        some ((range c.toNat d.toNat step).map fun n => [Char.ofNat n.toNat])
      else none
    | _, _ => none
  | _, _ => none

/-- The words that cells stand for. -/
def expand (fuel : Nat) (cs : List Cell) : List (List Cell) :=
  match fuel with
  | 0 => [cs]
  | fuel + 1 =>
    match cs with
    | [] => [[]]
    | cell :: rest =>
      let onward : List (List Cell) := (expand fuel rest).map (cell :: ·)
      if !cell.is '\x7b' then onward
      else
        match inside? 0 false [] rest with
        | none => onward
        | some (inner, after) =>
          let parts := alternatives 0 [] inner
          let found : Option (List (List Cell)) :=
            if 1 < parts.length then some (parts.flatMap (expand fuel))
            else (plain? inner).bind sequence? |>.map fun texts => texts.map (·.map .char)
          match found with
          | none =>
            let kept := cell :: inner ++ [.char '\x7d']
            (expand fuel after).map (kept ++ ·)
          | some found =>
            let tails := expand fuel after
            found.flatMap fun front => tails.map (front ++ ·)

/-- The words that a word stands for. Words of braces that hold nothing are dropped. -/
def words (w : Word) : List Word :=
  let cs := cells w
  if cs.any (Cell.is '\x7b') then
    ((expand (2 * cs.length + 2) cs).map word).filter (!·.isEmpty)
  else [w]

end Codemod.Shell.Brace
