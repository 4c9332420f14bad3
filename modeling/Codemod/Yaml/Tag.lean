import Codemod.Json.Reader
import Codemod.Yaml.Token

/-!
# Quoted texts of YAML

A text between quotes may go over several lines. A line end with the blanks around it counts as one
blank, and empty lines count as line feeds. Single quotes are written twice; between double quotes a
backslash begins an escape, or hides a line end.

- `Scan.escape` — what an escape stands for
- `Scan.quoted` — a text from its opening quote to the end of its line
-/

namespace Codemod.Yaml.Scan

/-- The character that a letter after a backslash stands for. -/
def escaped? : Char → Option Char
  | '0' => some '\x00'
  | 'a' => some (Char.ofNat 7)
  | 'b' => some (Char.ofNat 8)
  | 't' | '\t' => some '\t'
  | 'n' => some '\n'
  | 'v' => some (Char.ofNat 11)
  | 'f' => some (Char.ofNat 12)
  | 'r' => some '\r'
  | 'e' => some (Char.ofNat 27)
  | ' ' => some ' '
  | '"' => some '"'
  | '/' => some '/'
  | '\\' => some '\\'
  | 'N' => some (Char.ofNat 0x85)
  | '_' => some (Char.ofNat 0xA0)
  | 'L' => some (Char.ofNat 0x2028)
  | 'P' => some (Char.ofNat 0x2029)
  | _ => none

/-- How many hexadecimal digits follow a letter after a backslash. -/
def codeLength? : Char → Option Nat
  | 'x' => some 2
  | 'u' => some 4
  | 'U' => some 8
  | _ => none

/-- The value of hexadecimal digits. -/
def hexNumber? (cs : List Char) : Option Nat :=
  cs.foldlM (fun n c => (Json.Reader.hexValue? c).map (n * 16 + ·)) 0

/-- The character of a code, unless the code is that of a surrogate or too large. -/
def ofCode? (n : Nat) : Option Char :=
  if h : n.isValidChar then some (Char.ofNatAux n h) else none

/-- The character of an escape at the place. -/
def escape : Scanner Char := do
  let letter ← peek 1
  match escaped? letter, codeLength? letter with
  | some c, _ => advance (·.skipMany 2); return c
  | none, some length =>
    let digits := (← place).rest.drop 2 |>.take length
    require (digits.length == length)
    advance (·.skipMany (2 + length))
    match (hexNumber? digits).bind ofCode? with
    | some c => return c
    | none => failure
  | none, none => failure

/-- Characters of a text between quotes up to a separator or the closing quote, and whether a hidden
line end was met last. -/
def quotedWord (quote : Char) : Scanner (List Char × Bool) := do loop (← bound) []
where
  /-- One character; `word` holds those before it, last first. -/
  loop : Nat → List Char → Scanner (List Char × Bool)
    | 0, _ => failure
    | fuel + 1, word => do
      let c ← peek 0
      let next ← peek 1
      if isSeparator c then return (word.reverse, false)
      else if quote == '\'' && c == '\'' && next == '\'' then
        advance (·.skipMany 2)
        loop fuel ('\'' :: word)
      else if c == quote then return (word.reverse, false)
      else if quote == '"' && c == '\\' && isBreak next then
        advance fun cur => cur.skip.skipBreak
        return (word.reverse, true)
      else if quote == '"' && c == '\\' then loop fuel ((← escape) :: word)
      else
        advance Cursor.skip
        loop fuel (c :: word)

/-- The blanks and line ends between two words of a text between quotes, as what they stand for.
`hidden` tells that a hidden line end was met before them. -/
def quotedGap (hidden : Bool) : Scanner (List Char) := do loop (← bound) [] false hidden 0
where
  /-- One blank or line end: the blanks on the first line, last first, whether a line end was met
  that counts, whether any was, and how many empty lines. -/
  loop : Nat → List Char → Bool → Bool → Nat → Scanner (List Char)
    | 0, _, _, _, _ => failure
    | fuel + 1, blanks, folded, broken, empty => do
      let s ← get
      let c := s.cursor.char
      if isGap c then
        require !(broken && c == '\t' && s.cursor.column < s.indent)
        advance Cursor.skipBlank
        loop fuel (if broken then blanks else c :: blanks) folded broken empty
      else if isBreak c then
        advance Cursor.skipBreak
        if broken then loop fuel blanks folded broken (empty + 1)
        else loop fuel [] true true empty
      else if !broken then return blanks.reverse
      else if folded && empty == 0 then return [' ']
      else return List.replicate empty '\n'

/-- What may stand after a text between quotes: the end of the line, a colon after a key, and
between brackets what ends a member. Outside of brackets a key stands on one line. -/
def endsQuoted (s : Scan) (line : Nat) : Bool :=
  let c := s.cursor.char
  isBreakOrEnd c || c == ':' && (s.inFlow || line == s.cursor.line)
    || s.inFlow && (c == ',' || c == '\x7d' || c == ']')

/-- A text between quotes, which is indented like its block. -/
def quoted (quote : Char) : Scanner (List Char) := do
  let line := (← place).line
  advance Cursor.skip
  let text ← loop (← bound) []
  advance Cursor.skip
  let _ ← skipToLineEnd true
  require (endsQuoted (← get) line)
  return text
where
  /-- One word and the gap after it. -/
  loop : Nat → List Char → Scanner (List Char)
    | 0, _ => failure
    | fuel + 1, text => do
      let s ← get
      require !(s.cursor.column == 0 && s.cursor.atDocumentMark)
      require !(isEnd s.cursor.char)
      require (s.indent ≤ s.cursor.column)
      let (word, hidden) ← quotedWord quote
      if (← peek 0) == quote then return text ++ word
      loop fuel (text ++ word ++ (← quotedGap hidden))

end Codemod.Yaml.Scan

/-!
## Tags, anchors and directives of YAML

A tag names a type: by a whole address between angle brackets, or by a handle and what follows it. A
directive gives the version of the format, or another beginning for the tags of a handle; a
directive of another name counts as a rule for no handle.

- `Scan.tag` — a tag, as a handle and the rest
- `Scan.name` — the name of an anchor
- `Scan.directive` — a directive
-/

namespace Codemod.Yaml.Scan

/-- How many bytes the character has that begins with a byte. -/
def leadLength? (byte : Nat) : Option Nat :=
  if byte < 0x80 then some 1
  else if byte / 32 == 6 then some 2
  else if byte / 16 == 14 then some 3
  else if byte / 8 == 30 then some 4
  else none

/-- A byte, written as a percent sign and two digits. -/
def escapedByte : Scanner Nat := do
  let cur ← place
  require (cur.char == '%')
  match hexNumber? [cur.peek 1, cur.peek 2] with
  | some byte => advance (·.skipMany 3); return byte
  | none => failure

/-- The character that escaped bytes stand for. The bytes are put side by side as they are, so
beyond ASCII this is not the character that they encode. -/
def escapedChar : Scanner Char := do
  let first ← escapedByte
  match leadLength? first with
  | none => failure
  | some length =>
    let code ← (List.range (length - 1)).foldlM (fun code _ => do
      let byte ← escapedByte
      require (byte / 64 == 2)
      return code * 256 + byte) first
    match ofCode? code with
    | some c => return c
    | none => failure

/-- Characters of a class, where a percent sign begins an escape. -/
def address (p : Char → Bool) : Scanner (List Char) := do loop (← bound) []
where
  /-- One character; `cs` holds those before it, last first. -/
  loop : Nat → List Char → Scanner (List Char)
    | 0, _ => failure
    | fuel + 1, cs => do
      let c ← peek 0
      if !p c then return cs.reverse
      else if c == '%' then loop fuel ((← escapedChar) :: cs)
      else
        advance Cursor.skip
        loop fuel (c :: cs)

/-- Characters of a class without escapes. -/
def word (p : Char → Bool) : Scanner (List Char) := do
  let cs := (← place).rest.takeWhile p
  advance (·.skipMany cs.length)
  return cs

/-- An exclamation mark, perhaps with a name and another mark after it. In a directive the name
needs the other mark. -/
def handle (isDirective : Bool) : Scanner (List Char) := do
  require ((← peek 0) == '!')
  advance Cursor.skip
  let name ← word isHandleChar
  if (← peek 0) == '!' then
    advance Cursor.skip
    return '!' :: name ++ ['!']
  else
    require !(isDirective && !name.isEmpty)
    return '!' :: name

/-- A handle that has a mark at both ends. -/
def isFullHandle (handle : List Char) : Bool :=
  2 ≤ handle.length && handle.getLast? == some '!'

/-- A tag: its handle and the rest. A single mark is the rest of a tag without a handle. -/
def tag : Scanner Token := do
  let (handle, rest) ←
    if (← peek 1) == '<' then
      advance (·.skipMany 2)
      let text ← address isAddressChar
      require ((← peek 0) == '>')
      advance Cursor.skip
      pure ([], text)
    else
      let handle ← handle false
      if isFullHandle handle then
        let rest ← address isTagChar
        require !rest.isEmpty
        pure (handle, rest)
      else
        let rest := handle.drop 1 ++ (← address isTagChar)
        pure (if rest.isEmpty then ([], ['!']) else (['!'], rest))
  let s ← get
  require (isSeparator s.cursor.char || s.inFlow && isFlow s.cursor.char)
  return .tag (String.ofList handle) (String.ofList rest)

/-- The name of an anchor after its mark. -/
def name : Scanner String := do
  advance Cursor.skip
  let cs ← word isAnchorChar
  require !cs.isEmpty
  return String.ofList cs

/-- A part of a version. -/
def versionNumber : Scanner Unit := do
  let ds ← word Char.isDigit
  require (!ds.isEmpty && ds.length ≤ 9)

/-- The value of a directive for tags: a handle, and what stands for it. -/
def tagRule : Scanner Token := do
  advance (·.skipWhile isGap)
  let handle ← handle true
  advance (·.skipWhile isGap)
  let c ← peek 0
  let beginning ←
    if c == '!' then
      advance Cursor.skip
      pure ['!']
    else if !isTagChar c then failure
    else if c == '%' then pure [← escapedChar]
    else
      advance Cursor.skip
      pure [c]
  let rest ← address isAddressChar
  require (isSeparator (← peek 0))
  return .tagRule (String.ofList handle) (String.ofList (beginning ++ rest))

/-- A directive and the end of its line. -/
def directive : Scanner Token := do
  advance Cursor.skip
  let name ← word isHandleChar
  require (!name.isEmpty && isSeparator (← peek 0))
  let token ←
    match String.ofList name with
    | "YAML" =>
      advance (·.skipWhile isGap)
      versionNumber
      require ((← peek 0) == '.')
      advance Cursor.skip
      versionNumber
      pure Token.version
    | "TAG" => tagRule
    | _ =>
      advance Cursor.skipLine
      pure (Token.tagRule "" "")
  let _ ← skipToLineEnd true
  require (isBreakOrEnd (← peek 0))
  advance Cursor.skipBreak
  return token

end Codemod.Yaml.Scan
