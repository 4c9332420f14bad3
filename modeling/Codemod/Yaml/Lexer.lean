import Codemod.Yaml.Node
import Codemod.Yaml.Tag
import Codemod.Yaml.Token

/-!
# Texts of YAML in blocks

A bar or a greater-than sign at the end of a line begins a text of whole lines, which share an
indent. After a greater-than sign a line end between two lines that do not begin with a blank counts
as one blank. A sign tells whether the line ends after the last line count.

- `Scan.Chomping` — which line ends at the end count
- `Scan.blockText` — a text from its first line on
-/

namespace Codemod.Yaml.Scan

/-- Which of the line ends at the end of a text count: none, the first, or all. -/
inductive Chomping where
  | strip
  | clip
  | keep
deriving DecidableEq

/-- The meaning of a sign at the beginning. -/
def Chomping.ofSign? : Char → Option Chomping
  | '-' => some strip
  | '+' => some keep
  | _ => none

/-- A digit that adds to the indent of the block. -/
def indentDigit : Scanner (Option Nat) := do
  let c ← peek 0
  if c.isDigit then
    require (c != '0')
    advance Cursor.skip
    return some (c.toNat - 48)
  else return none

/-- A sign that tells how the text ends. -/
def chompingSign : Scanner (Option Chomping) := do
  match Chomping.ofSign? (← peek 0) with
  | some chomping => advance Cursor.skip; return some chomping
  | none => return none

/-- The sign and the digit at the beginning, in any order. -/
def blockHeader : Scanner (Chomping × Option Nat) := do
  match ← chompingSign with
  | some chomping => return (chomping, ← indentDigit)
  | none =>
    match ← indentDigit with
    | some digit => return ((← chompingSign).getD .clip, some digit)
    | none => return (.clip, none)

/-- Goes over blanks up to a column. -/
def skipIndent (column : Nat) (cur : Cursor) : Cursor :=
  let blanks := (cur.rest.take (column - cur.column)).takeWhile (· == ' ')
  { cur with
    rest := cur.rest.drop blanks.length
    column := cur.column + blanks.length
    offset := cur.offset + blanks.length }

/-- Goes over empty lines and the indent of the line after them: how many there were. -/
def emptyLines (column : Nat) : Scanner Nat := do loop (← bound) 0
where
  /-- One line. -/
  loop : Nat → Nat → Scanner Nat
    | 0, _ => failure
    | fuel + 1, lines => do
      advance (skipIndent column)
      if isBreak (← peek 0) then
        advance Cursor.skipBreak
        loop fuel (lines + 1)
      else return lines

/-- Goes over empty lines and blanks before the first line of a text that gives no indent: the
indent and how many lines there were. -/
def firstIndent : Scanner (Nat × Nat) := do
  let (lines, widest) ← loop (← bound) 0 0
  let indent := (← get).indent
  return (max widest ((indent + 1).toNat), lines)
where
  /-- One line. -/
  loop : Nat → Nat → Nat → Scanner (Nat × Nat)
    | 0, _, _ => failure
    | fuel + 1, lines, widest => do
      advance (·.skipWhile (· == ' '))
      let widest := max widest (← place).column
      if isBreak (← peek 0) then
        advance Cursor.skipBreak
        loop fuel (lines + 1) widest
      else return (lines, widest)

/-- What has been read of a text: its lines, the line end after the last one, if it was met, the
empty lines after that, and whether the last line began with a blank. -/
structure Draft where
  text : List Char := []
  broken : Bool := false
  empty : Nat := 0
  blankStart : Bool := false

/-- The line end that was met. -/
def Draft.lineEnd (draft : Draft) : List Char := if draft.broken then ['\n'] else []

/-- The line feeds of the empty lines. -/
def Draft.emptyText (draft : Draft) : List Char := List.replicate draft.empty '\n'

/-- What stands for the line ends before another line that begins with a blank or not. -/
def Draft.gap (draft : Draft) (folded blank : Bool) : List Char :=
  if folded && draft.broken && !draft.blankStart && !blank then
    if draft.empty == 0 then [' '] else draft.emptyText
  else draft.lineEnd ++ draft.emptyText

/-- The lines of a text with an indent. -/
def blockLines (folded : Bool) (column : Nat) (draft : Draft) : Scanner Draft := do
  loop (← bound) draft
where
  /-- One line. -/
  loop : Nat → Draft → Scanner Draft
    | 0, _ => failure
    | fuel + 1, draft => do
      let cur ← place
      if cur.column != column || isEnd cur.char then return draft
      if column == 0 && cur.atMark '.' then return draft
      let blank := isGap cur.char
      let line := cur.rest.takeWhile (!isBreakOrEnd ·)
      advance fun cur => { cur.skipLine with fresh := false }
      let text := draft.text ++ draft.gap folded blank ++ line
      if isEnd (← peek 0) then return { text, blankStart := blank }
      advance Cursor.skipBreak
      let empty ← emptyLines column
      loop fuel { text, broken := true, empty, blankStart := blank }

/-- A text in a block, from its bar or greater-than sign on. -/
def blockText (folded : Bool) : Scanner (List Char) := do
  let start := (← place).line
  advance Cursor.skip
  unrollColumns
  let (chomping, digit) ← blockHeader
  let _ ← skipToLineEnd true
  require (isBreakOrEnd (← peek 0))
  let broken := isBreak (← peek 0)
  advance Cursor.skipBreak
  require ((← peek 0) != '\t')
  let outer := (← get).indent
  let (column, empty) ←
    match digit with
    | some digit =>
      let column := (max outer 0).toNat + digit
      pure (column, ← emptyLines column)
    | none => firstIndent
  let cur ← place
  if isEnd cur.char then
    let lineEnd := if broken then ['\n'] else []
    if chomping == .strip || cur.line == start then return []
    else if chomping == .keep && 0 < empty then return List.replicate empty '\n'
    else return lineEnd
  require !(cur.column < column && outer < cur.column)
  let draft ← blockLines folded column { empty }
  let cur ← place
  let lineEnd :=
    if chomping == .strip then []
    else draft.lineEnd ++ (if isEnd cur.char && max column 1 ≤ cur.column then ['\n'] else [])
  return draft.text ++ lineEnd ++ (if chomping == .keep then draft.emptyText else [])

end Codemod.Yaml.Scan

/-!
## From text to tokens

- `Scan.step` — the next token, with the ends of blocks before it and the key mark it may bring
- `Yaml.tokens?` — the tokens of a text
-/

namespace Codemod.Yaml

namespace Scan

/-- How many brackets may be open. -/
def maxDepth : Nat := 255

/-- A mapping without braces, if one is open between the innermost square brackets, ends. -/
def endBareMapping : Scanner Unit := do
  match (← get).bare with
  | true :: outer =>
    modify fun s => { s with announced := false, bare := false :: outer }
    push 0 .flowMappingEnd
  | _ => pure ()

/-- A token at which text begins that may be a key. -/
def textToken (read : Scanner Token) : Scanner Unit := do
  saveKey
  allowKey false
  let column := (← place).column
  push column (← read)

/-- A text between quotes. A colon may follow it at once. -/
def quotedToken (quote : Char) : Scanner Unit := do
  saveKey
  allowKey false
  let column := (← place).column
  let text ← quoted quote
  skipToToken
  modify fun s => { s with adjacent := s.cursor.offset }
  push column (.scalar false (String.ofList text))

/-- A text in a block. The line after it may begin with a key. -/
def blockToken (folded : Bool) : Scanner Unit := do
  saveKey
  allowKey true
  let column := (← place).column
  let text ← blockText folded
  push column (.scalar false (String.ofList text))

/-- An opening bracket, with which a key may begin. -/
def openBracket (token : Token) : Scanner Unit := do
  saveKey
  rollOneColumn
  require ((← get).depth < maxDepth)
  modify fun s => { s with keys := {} :: s.keys, depth := s.depth + 1, keyAllowed := true }
  let column := (← place).column
  advance Cursor.skip
  if token == .flowMapping then modify fun s => { s with announced := true }
  else modify fun s => { s with bare := false :: s.bare }
  let _ ← skipToLineEnd true
  push column token

/-- A closing bracket. Between other brackets a colon may follow it at once. -/
def closeBracket (token : Token) : Scanner Unit := do
  removeKey
  if (← get).inFlow then modify fun s => { s with depth := s.depth - 1, keys := s.keys.drop 1 }
  allowKey false
  if token == .flowSequenceEnd then
    endBareMapping
    modify fun s => { s with bare := s.bare.drop 1 }
  let column := (← place).column
  advance Cursor.skip
  let _ ← skipToLineEnd true
  if (← get).inFlow then modify fun s => { s with adjacent := s.cursor.offset }
  push column token

/-- A comma between brackets. -/
def commaToken : Scanner Unit := do
  removeKey
  allowKey true
  endBareMapping
  let column := (← place).column
  advance Cursor.skip
  let _ ← skipToLineEnd true
  push column .comma

/-- A dash before a member of a block. -/
def itemToken : Scanner Unit := do
  let s ← get
  require (!s.inFlow && s.keyAllowed)
  match s.tokens.back? with
  | some (0, token) => require !(token.isProperty && s.cursor.column == 0 && -1 < s.indent)
  | _ => pure ()
  advance Cursor.skip
  rollIndent s.cursor.column none .blockSequence
  let (tab, _) ← skipToLineEnd true
  let cur ← place
  require !(tab && cur.char == '-' && isSeparator (cur.peek 1))
  if isBreak cur.char || isFlow cur.char then rollOneColumn
  removeKey
  allowKey true
  push cur.column .item

/-- A question mark before a key. -/
def keyToken : Scanner Unit := do
  let s ← get
  let column := s.cursor.column
  if s.inFlow then modify fun s => { s with announced := true }
  else
    require s.keyAllowed
    rollIndent column none .blockMapping
  removeKey
  allowKey !s.inFlow
  advance Cursor.skip
  skipSpace
  require ((← peek 0) != '\t')
  push column .key

/-- A colon before a value. It makes a key of the text before it, if that may be one. -/
def valueToken : Scanner Unit := do
  let mark ← keyMark
  let start ← place
  let bare := !(← get).bare.isEmpty && !(← get).announced
  if bare then modify fun s => { s with bare := true :: s.bare.drop 1 }
  advance Cursor.skip
  if (← peek 0) == '\t' then
    let (_, blank) ← skipToLineEnd true
    let c ← peek 0
    require (blank || !(c == '-' || isHandleChar c))
  if mark.possible then
    insert mark.index mark.column .key
    if bare then
      require (start.line ≤ mark.line)
      insert mark.index mark.column .flowMapping
    rollIndent mark.column (some mark.index) .blockMapping
    rollOneColumn
    mapKey fun mark => { mark with possible := false }
    allowKey false
  else
    if bare then push start.column .flowMapping
    let s ← get
    if !s.inFlow then
      require s.keyAllowed
      rollIndent start.column none .blockMapping
    rollOneColumn
    allowKey !s.inFlow
  push start.column .value

/-- A mark between documents. -/
def documentMark (token : Token) : Scanner Unit := do
  unrollIndent (-1)
  removeKey
  allowKey false
  let column := (← place).column
  advance (·.skipMany 3)
  push column token

/-- The end of the text, where every block ends. -/
def finish : Scanner Unit := do
  require !((← get).keys.any fun mark => mark.required && mark.possible)
  modify fun s => { s with keys := s.keys.map fun mark => { mark with possible := false } }
  unrollIndent (-1)

/-- The next token by its first characters. -/
def dispatch : Scanner Unit := do
  let s ← get
  let c := s.cursor.char
  let next := s.cursor.peek 1
  match c with
  | '[' => openBracket .flowSequence
  | '\x7b' => openBracket .flowMapping
  | ']' => closeBracket .flowSequenceEnd
  | '\x7d' => closeBracket .flowMappingEnd
  | ',' => commaToken
  | '*' => textToken (Token.reference <$> name)
  | '&' => textToken (Token.anchor <$> name)
  | '!' => textToken tag
  | '\'' | '"' => quotedToken c
  | _ =>
    if c == '-' && isSeparator next then itemToken
    else if c == '?' && isSeparator next then keyToken
    else if c == ':' && (isSeparator next
        || s.inFlow && (isFlow next || s.cursor.offset == s.adjacent)) then valueToken
    else if (c == '|' || c == '>') && !s.inFlow then blockToken (c == '>')
    else
      require !(c == '%' || c == '@' || c.toNat == 96)
      textToken do return .scalar true (String.ofList (← plain))

/-- The next token. At the end of the text there is none. -/
def step : Scanner Bool := do
  skipToToken
  dropStaleKeys
  unrollIndent (← place).column
  let s ← get
  let cur := s.cursor
  if isEnd cur.char then
    finish
    return false
  if cur.column == 0 && cur.char == '%' then
    unrollIndent (-1)
    removeKey
    allowKey false
    push 0 (← directive)
  else if cur.column == 0 && cur.atMark '-' then documentMark .documentStart
  else if cur.column == 0 && cur.atMark '.' then
    documentMark .documentEnd
    let _ ← skipToLineEnd true
    require (isBreakOrEnd (← peek 0))
  else
    require (s.indent ≤ cur.column)
    dispatch
  return true

/-- All tokens that are left. -/
def all : Nat → Scanner Unit
  | 0 => failure
  | fuel + 1 => do if ← step then all fuel

end Scan

/-- The tokens of a text. -/
def tokens? (text : String) : Option (List Token) := do
  let cs := text.toList
  let (_, s) ← (Scan.all (cs.length + 2)).run { cursor := { rest := cs } }
  return s.tokens.toList.map Prod.snd

end Codemod.Yaml
