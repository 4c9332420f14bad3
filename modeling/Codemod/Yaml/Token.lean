import Codemod.Instance

/-!
# Places in a YAML text

A scan knows how far it has come: the line, the column, the characters passed, and whether the line
has shown anything but blanks yet. A null character counts as the end of the text.

- `Yaml.isBreak`, `Yaml.isGap`, `Yaml.isFlow`, … — the classes of characters
- `Yaml.Cursor` — a place, and the text from there on
- `Cursor.skip`, `Cursor.skipBlank`, `Cursor.skipBreak` — the ways to go on
-/

namespace Codemod.Yaml

/-- The end of the text. -/
def isEnd (c : Char) : Bool := c == '\x00'

/-- A character that ends a line. -/
def isBreak (c : Char) : Bool := c == '\n' || c == '\r'

/-- A blank within a line. -/
def isGap (c : Char) : Bool := c == ' ' || c == '\t'

/-- The end of a line, or that of the text. -/
def isBreakOrEnd (c : Char) : Bool := isBreak c || isEnd c

/-- What separates words. -/
def isSeparator (c : Char) : Bool := isGap c || isBreakOrEnd c

/-- A character with a meaning inside of brackets. -/
def isFlow (c : Char) : Bool := c == ',' || c == '[' || c == ']' || c == '\x7b' || c == '\x7d'

/-- A character of the name of a directive or of a tag handle. -/
def isHandleChar (c : Char) : Bool := c.isAlphanum || c == '_' || c == '-'

/-- A character of an address. -/
def isAddressChar (c : Char) : Bool :=
  c.isAlphanum || "-#;/?:@&=+$,_.!~*'()[]%".toList.contains c

/-- A character of a tag. -/
def isTagChar (c : Char) : Bool := isAddressChar c && !isFlow c && c != '!'

/-- A character of the name of an anchor. -/
def isAnchorChar (c : Char) : Bool := !isSeparator c && !isFlow c && c.toNat != 0xFEFF

/-- A place in a text. -/
structure Cursor where
  /-- The text from the place on. -/
  rest : List Char
  line : Nat := 0
  column : Nat := 0
  /-- How many characters are before the place. -/
  offset : Nat := 0
  /-- The line has shown nothing but blanks yet. -/
  fresh : Bool := true

namespace Cursor

/-- The character so many places on. -/
def peek (cur : Cursor) (n : Nat) : Char := cur.rest[n]?.getD '\x00'

/-- The character at the place. -/
def char (cur : Cursor) : Char := cur.peek 0

/-- Goes over a blank. -/
def skipBlank (cur : Cursor) : Cursor :=
  { cur with rest := cur.rest.drop 1, column := cur.column + 1, offset := cur.offset + 1 }

/-- Goes over a character that is no blank. -/
def skip (cur : Cursor) : Cursor := { cur.skipBlank with fresh := false }

/-- Goes over several characters that are no blanks. -/
def skipMany (cur : Cursor) : Nat → Cursor
  | 0 => cur
  | n + 1 => cur.skip.skipMany n

/-- Goes over the end of a line, which a carriage return and a line feed are together. -/
def skipBreak (cur : Cursor) : Cursor :=
  let cur := if cur.char == '\r' && cur.peek 1 == '\n' then cur.skipBlank else cur
  if isBreak cur.char then
    { cur.skipBlank with column := 0, line := cur.line + 1, fresh := true }
  else cur

/-- Goes over the characters of a class, none of which ends a line. -/
def skipWhile (cur : Cursor) (p : Char → Bool) : Cursor :=
  let passed := (cur.rest.takeWhile p).length
  { cur with
    rest := cur.rest.drop passed, column := cur.column + passed, offset := cur.offset + passed }

/-- Goes to the end of the line. -/
def skipLine (cur : Cursor) : Cursor := cur.skipWhile (!isBreakOrEnd ·)

/-- Three equal characters and a separator stand at the place. -/
def atMark (cur : Cursor) (c : Char) : Bool :=
  cur.peek 0 == c && cur.peek 1 == c && cur.peek 2 == c && isSeparator (cur.peek 3)

/-- A line begins that starts or ends a document. -/
def atDocumentMark (cur : Cursor) : Bool := cur.atMark '-' || cur.atMark '.'

end Cursor

end Codemod.Yaml

/-!
## Tokens of YAML

A text is cut into tokens. Blocks have no brackets of their own: their beginnings and ends follow
from the columns in which lines begin, and a key is known as one only at the colon after it. A scan
therefore keeps the open columns and, for every level of brackets, the token that may turn out to be
a key.

- `Yaml.Token` — the tokens
- `Yaml.Scan` — the state of a scan
- `Scan.rollIndent`, `Scan.unrollIndent` — where blocks begin and end
- `Scan.saveKey`, `Scan.removeKey` — tokens that may be keys
- `Scan.skipToLineEnd`, `Scan.skipToToken` — blanks, line ends and comments
-/

namespace Codemod.Yaml

/-- A token. -/
inductive Token where
  /-- A directive that names a version. -/
  | version
  /-- A directive that gives tags with a handle another beginning. -/
  | tagRule (handle replacement : String)
  | documentStart
  | documentEnd
  | blockSequence
  | blockMapping
  | blockEnd
  | flowSequence
  | flowSequenceEnd
  | flowMapping
  | flowMappingEnd
  /-- A dash before a member. -/
  | item
  /-- A comma between brackets. -/
  | comma
  | key
  | value
  | reference (name : String)
  | anchor (name : String)
  | tag (handle suffix : String)
  | scalar (plain : Bool) (text : String)
deriving DecidableEq, Inhabited

namespace Token

/-- The token belongs to the node after it. -/
def isProperty : Token → Bool
  | anchor _ | tag _ _ => true
  | _ => false

end Token

/-- A token that may turn out to be a key. -/
structure KeyMark where
  possible : Bool := false
  /-- Nothing else can stand there. -/
  required : Bool := false
  /-- How many tokens are before it. -/
  index : Nat := 0
  line : Nat := 0
  column : Nat := 0
  offset : Nat := 0

/-- An open column: the one around it, and whether a block begins with it. -/
structure Indent where
  outer : Int
  isBlock : Bool

/-- The state of a scan. -/
structure Scan where
  cursor : Cursor
  /-- The tokens so far, each with its column. -/
  tokens : Array (Nat × Token) := #[]
  /-- A key may begin here. -/
  keyAllowed : Bool := true
  /-- For every open bracket and for the text around them, innermost first. -/
  keys : List KeyMark := [{}]
  /-- The column of the innermost block. -/
  indent : Int := -1
  indents : List Indent := []
  /-- How many brackets are open. -/
  depth : Nat := 0
  /-- Where a colon ends a key without a blank after it. -/
  adjacent : Nat := 0
  /-- A brace or a question mark has announced a mapping. -/
  announced : Bool := false
  /-- For every open square bracket: a mapping without braces is open in it. -/
  bare : List Bool := []

/-- A step of a scan; a text that breaks the rules has none. -/
abbrev Scanner := StateT Scan Option

namespace Scan

/-- Goes on in the text. -/
def advance (f : Cursor → Cursor) : Scanner Unit :=
  modify fun s => { s with cursor := f s.cursor }

/-- The place in the text. -/
def place : Scanner Cursor := return (← get).cursor

/-- The character so many places on. -/
def peek (n : Nat) : Scanner Char := return (← get).cursor.peek n

/-- Goes on only if the condition holds. -/
def require (condition : Bool) : Scanner Unit := if condition then pure () else failure

/-- Brackets are open. -/
def inFlow (s : Scan) : Bool := 0 < s.depth

/-- A bound for the steps of a loop that goes on by a character in every step. -/
def bound : Scanner Nat := return (← get).cursor.rest.length + 2

/-- Adds a token that stands in a column. -/
def push (column : Nat) (token : Token) : Scanner Unit :=
  modify fun s => { s with tokens := s.tokens.push (column, token) }

/-- Puts a token before the one of an index. -/
def insert (index column : Nat) (token : Token) : Scanner Unit :=
  modify fun s =>
    { s with
      tokens := s.tokens.extract 0 index ++ #[(column, token)]
        ++ s.tokens.extract index s.tokens.size }

/-- A key may begin here, or not. -/
def allowKey (allowed : Bool) : Scanner Unit := modify fun s => { s with keyAllowed := allowed }

/-! ### Columns -/

/-- Opens a block at a column that lies further in than the open ones. Its beginning goes before the
token of the index, or last. -/
def rollIndent (column : Nat) (index : Option Nat) (token : Token) : Scanner Unit := do
  if (← get).inFlow then return
  let s ← get
  if s.indent ≤ column then
    match s.indents with
    | indent :: outer =>
      if !indent.isBlock then set { s with indent := indent.outer, indents := outer }
    | [] => pure ()
  let s ← get
  if s.indent < column then
    set { s with indent := column, indents := ⟨s.indent, true⟩ :: s.indents }
    match index with
    | some index => insert index column token
    | none => push column token

/-- Closes the blocks that lie further in than a column. -/
def unrollIndent (column : Int) : Scanner Unit := do
  if (← get).inFlow then return
  for indent in (← get).indents do
    if column < (← get).indent then
      modify fun s => { s with indent := indent.outer, indents := s.indents.drop 1 }
      if indent.isBlock then push 0 .blockEnd

/-- Asks what follows to lie one column further in than the innermost block. -/
def rollOneColumn : Scanner Unit :=
  modify fun s =>
    match s.indents with
    | indent :: _ =>
      if !s.inFlow && indent.isBlock then
        { s with indent := s.indent + 1, indents := ⟨s.indent, false⟩ :: s.indents }
      else s
    | [] => s

/-- Forgets the columns at which no block begins. -/
def unrollColumns : Scanner Unit :=
  modify fun s =>
    match s.indents with
    | indent :: outer =>
      if indent.isBlock then s else { s with indent := indent.outer, indents := outer }
    | [] => s

/-! ### Keys -/

/-- Remembers that the next token may be a key. -/
def saveKey : Scanner Unit :=
  modify fun s =>
    if s.keyAllowed then
      let isBlock := (s.indents.head?.map Indent.isBlock).getD false
      let mark : KeyMark := {
        possible := true
        required := !s.inFlow && s.indent == s.cursor.column && isBlock
        index := s.tokens.size
        line := s.cursor.line
        column := s.cursor.column
        offset := s.cursor.offset }
      { s with keys := mark :: s.keys.drop 1 }
    else s

/-- Changes the mark of the innermost level. -/
def mapKey (f : KeyMark → KeyMark) : Scanner Unit :=
  modify fun s => { s with keys := match s.keys with | mark :: rest => f mark :: rest | [] => [] }

/-- The mark of the innermost level. -/
def keyMark : Scanner KeyMark := return (← get).keys.head?.getD {}

/-- What could have been a key is none. -/
def removeKey : Scanner Unit := do
  let mark ← keyMark
  require !(mark.possible && mark.required)
  mapKey fun mark => { mark with possible := false }

/-- How many characters a key may have outside of brackets. -/
def maxKeyLength : Nat := 1024

/-- Outside of brackets a key ends on its line and has a bounded length. -/
def dropStaleKeys : Scanner Unit := do
  let s ← get
  if s.inFlow then return
  let isStale (mark : KeyMark) : Bool :=
    mark.possible
      && (mark.line < s.cursor.line || mark.offset + maxKeyLength < s.cursor.offset)
  require !(s.keys.any fun mark => isStale mark && mark.required)
  set { s with
    keys := s.keys.map fun mark => if isStale mark then { mark with possible := false } else mark }

/-! ### What lies between tokens -/

/-- Goes to the end of the line or the next token: whether tabs and blanks were met. A comment needs
one of them before it. -/
def skipToLineEnd (tabs : Bool) : Scanner (Bool × Bool) := do loop (← bound) false false
where
  /-- One blank, or a comment. -/
  loop : Nat → Bool → Bool → Scanner (Bool × Bool)
    | 0, _, _ => failure
    | fuel + 1, tab, blank => do
      match ← peek 0 with
      | ' ' => advance Cursor.skipBlank; loop fuel tab true
      | '\t' => if tabs then advance Cursor.skipBlank; loop fuel true blank else return (tab, blank)
      | '#' => require (tab || blank); advance Cursor.skipLine; loop fuel tab blank
      | _ => return (tab, blank)

/-- Goes to the next token over blanks, line ends and comments. A tab does not bring text into the
column that a block asks for. -/
def skipToToken : Scanner Unit := do loop (← bound)
where
  /-- One blank, one line end, or a comment. -/
  loop : Nat → Scanner Unit
    | 0 => failure
    | fuel + 1 => do
      let s ← get
      match s.cursor.char with
      | '\t' =>
        if !s.indents.isEmpty && s.cursor.fresh && s.cursor.column < s.indent then
          let _ ← skipToLineEnd true
          require (isBreakOrEnd (← peek 0))
        else advance Cursor.skipBlank
        loop fuel
      | ' ' => advance Cursor.skipBlank; loop fuel
      | '\n' | '\r' =>
        advance Cursor.skipBreak
        if !s.inFlow then allowKey true
        loop fuel
      | '#' => advance Cursor.skipLine; loop fuel
      | _ => return

/-- Goes over blanks, line ends and comments, of which there has to be one that is no comment. Tabs
do not count. -/
def skipSpace : Scanner Unit := do loop (← bound) false
where
  /-- One blank, one line end, or a comment. -/
  loop : Nat → Bool → Scanner Unit
    | 0, _ => failure
    | fuel + 1, met => do
      match ← peek 0 with
      | ' ' => advance Cursor.skipBlank; loop fuel true
      | '\n' | '\r' =>
        advance Cursor.skipBreak
        if !(← get).inFlow then allowKey true
        loop fuel true
      | '#' => advance Cursor.skipLine; loop fuel met
      | _ => require met

end Scan

end Codemod.Yaml
