import Codemod.Text.Utf8

/-!
# Octets as text

Shell scripts and the tools they run work on octets. A sequence of octets is written as a list of
characters, each the character of the octet's number.

- `Octets.ofString`, `Octets.ofBytes`, `Octets.toBytes`, `Octets.toText` — conversions
- `Octets.lines` — the lines of a text, and whether the last one is complete
-/

namespace Codemod.Shell

/-- A sequence of octets, each as the character of its number. -/
abbrev Octets := List Char

namespace Octets

/-- The octets of bytes. -/
def ofBytes (bytes : ByteArray) : Octets := bytes.data.toList.map fun b => Char.ofNat b.toNat

/-- The octets of a text. -/
def ofString (s : String) : Octets := ofBytes s.toUTF8

/-- The bytes of octets. -/
def toBytes (cs : Octets) : List UInt8 := cs.map fun c => c.toNat.toUInt8

/-- The bytes of octets as the content of a file. -/
def toContent (cs : Octets) : ByteArray := ⟨(toBytes cs).toArray⟩

/-- The text of octets; what is not UTF-8 is replaced. -/
def toText (cs : Octets) : String :=
  if cs.all (·.toNat < 128) then String.ofList cs else String.ofList (Text.Utf8.decode (toBytes cs))

/-- The decimal digits of a number. -/
def ofNat (n : Nat) : Octets := (toString n).toList

/-- The decimal digits of a number with its sign. -/
def ofInt (n : Int) : Octets := (toString n).toList

/-- The lines of a text without their line feeds, and whether the last one has one. An empty text
has no lines. -/
def lines (cs : Octets) : List Octets × Bool :=
  match cs.splitOn '\n' with
  | [] => ([], true)
  | pieces =>
    match pieces.getLast? with
    | some [] => (pieces.dropLast, true)
    | _ => (pieces, false)

/-- The pieces of a text that each end in a delimiter, which is kept; the last piece may lack it. -/
def records (delimiter : Char) (cs : Octets) : List Octets :=
  go [] cs
where
  /-- The pieces when a part of the first has been read, last octet first. -/
  go (current : Octets) : Octets → List Octets
    | [] => if current.isEmpty then [] else [current.reverse]
    | c :: rest =>
      if c == delimiter then (c :: current).reverse :: go [] rest else go (c :: current) rest

/-- The pieces of a text that each end in a delimiter, without it. -/
def pieces (delimiter : Char) (cs : Octets) : List Octets :=
  (records delimiter cs).map fun r => if r.getLast? == some delimiter then r.dropLast else r

/-- A text with blanks in front up to a width. -/
def padLeft (width : Nat) (cs : Octets) (filler : Char := ' ') : Octets :=
  List.replicate (width - cs.length) filler ++ cs

/-- A text with blanks after it up to a width. -/
def padRight (width : Nat) (cs : Octets) : Octets := cs ++ List.replicate (width - cs.length) ' '

/-- The text without blanks at its front. -/
def trimLeft (cs : Octets) : Octets := cs.dropWhile fun c => c == ' ' || ('\t' ≤ c && c ≤ '\r')

/-- The text without blanks at its ends. -/
def trim (cs : Octets) : Octets := (trimLeft (trimLeft cs).reverse).reverse

/-- Octets in their order, as a program compares them. -/
def le (a b : Octets) : Bool := String.ofList a ≤ String.ofList b

/-- Lines, each with a line feed, the last one only when it is complete. -/
def unlines (lines : List Octets) (complete : Bool) : Octets :=
  if complete then lines.flatMap (· ++ ['\n']) else List.intercalate ['\n'] lines

end Octets

end Codemod.Shell

/-!
## Values that can be read again

The rich language prints values so that they can be read again, in several ways.

- `Quoting.single`, `Quoting.double`, `Quoting.dollar` — between quotes of three kinds
- `Quoting.escaped` — with backslashes
- `Quoting.value`, `Quoting.declared`, `Quoting.reusable` — in the way that suits a value
-/

namespace Codemod.Shell.Quoting

/-- The value between single quotes. -/
def single (cs : Octets) : Octets :=
  if cs == ['\''] then ['\\', '\'']
  else '\'' :: cs.flatMap (fun c => if c == '\'' then "'\\''".toList else [c]) ++ ['\'']

/-- The value between double quotes. -/
def double (cs : Octets) : Octets :=
  let escapes (c : Char) : Bool := c == '"' || c == '\\' || c == '$' || c == '\x60'
  '"' :: cs.flatMap (fun c => if escapes c then ['\\', c] else [c]) ++ ['"']

/-- Three octal digits of a character. -/
def octal (c : Char) : Octets := Octets.padLeft 3 (Nat.toDigits 8 c.toNat) '0'

/-- A character between dollar quotes. -/
def dollarChar (c : Char) : Octets :=
  match c.toNat with
  | 7 => ['\\', 'a']
  | 8 => ['\\', 'b']
  | 9 => ['\\', 't']
  | 10 => ['\\', 'n']
  | 11 => ['\\', 'v']
  | 12 => ['\\', 'f']
  | 13 => ['\\', 'r']
  | 27 => ['\\', 'E']
  | n =>
    if c == '\\' || c == '\'' then ['\\', c]
    else if n < 32 || n == 127 then '\\' :: octal c else [c]

/-- The value between dollar quotes, which know escapes. -/
def dollar (cs : Octets) : Octets := '$' :: '\'' :: cs.flatMap dollarChar ++ ['\'']

/-- The value holds a character that cannot be shown. -/
def isHidden (cs : Octets) : Bool := cs.any fun c => c.toNat < 32 || c.toNat == 127

/-- The character means something outside quotes. -/
def isActive (c : Char) : Bool := " \t\n'\"\\|&;()<>!\x7b\x7d*[]?^$\x60".toList.contains c

/-- The value holds something that has a meaning outside quotes. -/
def needsQuotes (cs : Octets) : Bool :=
  let tilde := cs.head? == some '~' || (cs.zip (cs.drop 1)).any fun (a, b) =>
    b == '~' && (a == '=' || a == ':')
  let hash := cs.head? == some '#' || (cs.zip (cs.drop 1)).any fun (a, b) =>
    b == '#' && (a == ' ' || a == '\t')
  cs.any isActive || tilde || hash

/-- The value with backslashes. -/
def escaped (cs : Octets) : Octets :=
  if cs.isEmpty then ['\'', '\'']
  else if isHidden cs then dollar cs
  else
    let before := '\x00' :: cs
    (before.zip cs).flatMap fun (a, c) =>
      let first := a == '\x00'
      let special := isActive c || c == ',' || (c == '#' && first)
        || (c == '~' && (first || a == ':' || a == '='))
      if special then ['\\', c] else [c]

/-- The value as lists of variables show it. -/
def value (cs : Octets) : Octets :=
  if isHidden cs then dollar cs else if needsQuotes cs then single cs else cs

/-- The value as declarations show it. -/
def declared (cs : Octets) : Octets := if isHidden cs then dollar cs else double cs

/-- The value between the quotes that suit it. -/
def reusable (cs : Octets) : Octets := if isHidden cs then dollar cs else single cs

end Codemod.Shell.Quoting
