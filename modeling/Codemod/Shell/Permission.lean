import Codemod.FileSystem.Record
import Codemod.Shell.Octets

/-!
# Permissions as text

Permissions are written in octal digits, in clauses such as `u+rw,go=`, or as a row of letters.

- `Permission.changed?` — permissions after the change that a text describes
- `Permission.symbolic`, `Permission.octal`, `Permission.row` — permissions as text
-/

namespace Codemod.Shell.Permission

/-- The bits of those a letter means. -/
def whose (c : Char) : Nat :=
  match c with
  | 'u' => 0o4700
  | 'g' => 0o2070
  | 'o' => 0o1007
  | _ => 0o7777

/-- The bits of a letter for all. The capital means execution where someone has it or what is a
directory. -/
def bits (runnable : Bool) (c : Char) : Nat :=
  match c with
  | 'r' => 0o444
  | 'w' => 0o222
  | 'x' => 0o111
  | 'X' => if runnable then 0o111 else 0
  | 's' => 0o6000
  | 't' => 0o1000
  | _ => 0

/-- The permissions that one of user, group and others has, for all. -/
def copied (old : Nat) (c : Char) : Nat :=
  let n := match c with
    | 'u' => old / 64 % 8
    | 'g' => old / 8 % 8
    | _ => old % 8
  n * 0o111

/-- Permissions after the operations of a clause on those who are `mine`; `hidden` bits are never
given. -/
def operated? (isDirectory : Bool) (mine hidden : Nat) (fuel : Nat) (old : Nat) (cs : Octets) :
    Option Nat :=
  match fuel, cs with
  | _, [] => some old
  | 0, _ => none
  | fuel + 1, op :: rest =>
    let runnable := isDirectory || old &&& 0o111 != 0
    let (letters, rest) := rest.span "rwxXst".toList.contains
    let (value, rest) := match letters, rest with
      | [], c :: more => if "ugo".toList.contains c then (copied old c, more) else (0, rest)
      | letters, rest => (letters.foldl (fun n c => n ||| bits runnable c) 0, rest)
    let given := (value &&& mine) &&& (0o7777 ^^^ hidden)
    match op with
    | '+' => operated? isDirectory mine hidden fuel (old ||| given) rest
    | '-' => operated? isDirectory mine hidden fuel (old &&& (0o7777 ^^^ given)) rest
    | '=' => operated? isDirectory mine hidden fuel ((old &&& (0o7777 ^^^ mine)) ||| given) rest
    | _ => none

/-- Permissions after a clause; `mask` is what is not given when nobody is named. -/
def clause? (isDirectory : Bool) (mask old : Nat) (clause : Octets) : Option Nat :=
  let (who, rest) := clause.span "ugoa".toList.contains
  let mine := if who.isEmpty then 0o7777 else who.foldl (fun n c => n ||| whose c) 0
  if rest.isEmpty then none
  else operated? isDirectory mine (if who.isEmpty then mask else 0) rest.length old rest

/-- The number of octal digits. -/
def octal? (cs : Octets) : Option Nat :=
  if cs.isEmpty || !cs.all (fun c => '0' ≤ c && c ≤ '7') then none
  else some (cs.foldl (fun n c => n * 8 + (c.toNat - 48)) 0)

/-- Permissions after the change that a text describes; none when it describes none. -/
def changed? (isDirectory : Bool) (mask old : Nat) (text : Octets) : Option Nat :=
  match octal? text with
  | some n => if n ≤ 0o7777 then some n else none
  | none => (text.splitOn ',').foldlM (clause? isDirectory mask) old

/-- The three letters of one of user, group and others; `mark` stands in the place of the last
one. -/
def letters (n : Nat) (mark : Option Char) : List Char :=
  let last := match mark, n &&& 1 != 0 with
    | none, x => if x then 'x' else '-'
    | some c, x => if x then c else c.toUpper
  [if n &&& 4 != 0 then 'r' else '-', if n &&& 2 != 0 then 'w' else '-', last]

/-- Permissions as nine letters. -/
def row (mode : Nat) : String :=
  let mark (bit : Nat) (c : Char) : Option Char := if mode &&& bit != 0 then some c else none
  String.ofList (letters (mode / 64 % 8) (mark 0o4000 's')
    ++ letters (mode / 8 % 8) (mark 0o2000 's')
    ++ letters (mode % 8) (mark 0o1000 't'))

/-- Permissions as one clause for each of user, group and others. -/
def symbolic (mode : Nat) : String :=
  let part (n : Nat) : String := String.ofList ((letters n none).filter (· != '-'))
  s!"u={part (mode / 64 % 8)},g={part (mode / 8 % 8)},o={part (mode % 8)}"

/-- Permissions in octal digits. -/
def octal (width mode : Nat) : String :=
  String.ofList (Octets.padLeft width (Nat.toDigits 8 mode) '0')

end Codemod.Shell.Permission
