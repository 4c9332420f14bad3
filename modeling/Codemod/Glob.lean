import Codemod.Instance

/-!
# File globs

A glob is read into a list of tokens. `**` is special only as a whole path component, groups nest,
and a backslash escapes the next character.

- `Glob.Token` — the pieces of a glob
- `Glob.parse` — the tokens of a pattern, or what is wrong with it
- `Glob.Fault`, `Glob.Error.message` — what can be wrong, and how it is reported
-/

namespace Codemod.Glob

/-- A piece of a glob. -/
inductive Token where
  | literal (c : Char)
  /-- `?` -/
  | one
  /-- `*` -/
  | star
  /-- `**` and the slash after it, at the beginning. -/
  | treePrefix
  /-- A slash and `**`, at the end. -/
  | treeSuffix
  /-- `**` between two slashes. -/
  | treeInfix
  | class (negated : Bool) (ranges : List (Char × Char))
  | alternatives (branches : List (List Token))
deriving Inhabited

namespace Token

/-- The token stands for `**` at the beginning. -/
def isTreePrefix : Token → Bool
  | treePrefix => true
  | _ => false

/-- The token stands for `**` at the end. -/
def isTreeSuffix : Token → Bool
  | treeSuffix => true
  | _ => false

end Token

/-- What can be wrong with a pattern. -/
inductive Fault where
  | unclosedClass
  | invalidRange (low high : Char)
  | unclosedGroup
  | unopenedGroup
  | danglingEscape
deriving DecidableEq

/-- The description of a fault. -/
def Fault.message : Fault → String
  | .unclosedClass => "unclosed character class; missing ']'"
  | .invalidRange low high => s!"invalid range; '{low}' > '{high}'"
  | .unclosedGroup =>
    "unclosed alternate group; missing '\x7d' (maybe escape '\x7b' with '[\x7b]'?)"
  | .unopenedGroup =>
    "unopened alternate group; missing '\x7b' (maybe escape '\x7d' with '[\x7d]'?)"
  | .danglingEscape => "dangling '\\'"

/-- A pattern that cannot be read. -/
structure Error where
  pattern : String
  fault : Fault
deriving DecidableEq

/-- How the error is reported. -/
def Error.message (e : Error) : String :=
  s!"error parsing glob '{e.pattern}': {e.fault.message}"

/-- The rest of a character class after its opening bracket and mark of negation: the ranges, and
the pattern after the class. `dash` says that a range waits for its upper end. -/
def classBody (first dash : Bool) (ranges : List (Char × Char)) :
    List Char → Except Fault (List (Char × Char) × List Char)
  | [] => .error .unclosedClass
  | c :: rest =>
    if c == ']' && !first then
      .ok ((if dash then ('-', '-') :: ranges else ranges).reverse, rest)
    else if c == '-' && !first && !dash then classBody false true ranges rest
    else if dash then
      match ranges with
      | (low, _) :: others =>
        if c < low then .error (.invalidRange low c)
        else classBody false false ((low, c) :: others) rest
      | [] => classBody false false [(c, c)] rest
    else classBody false false ((c, c) :: ranges) rest

/-- A group that is being read: the finished branches and the tokens of the current one, both
newest first. -/
structure Group where
  branches : List (List Token) := []
  current : List Token := []

/-- The state of the reader: the current group and those around it. -/
structure State where
  group : Group := {}
  outer : List Group := []

namespace State

/-- Adds a token to the current branch. -/
def push (s : State) (t : Token) : State :=
  { s with group := { s.group with current := t :: s.group.current } }

/-- Replaces the last token of the current branch. -/
def replaceLast (s : State) (t : Token) : State :=
  { s with group := { s.group with current := t :: s.group.current.drop 1 } }

/-- Opens a group. -/
def openGroup (s : State) : State := { group := {}, outer := s.group :: s.outer }

/-- Ends a branch and begins the next. -/
def nextBranch (s : State) : State :=
  { s with group := { branches := s.group.current.reverse :: s.group.branches, current := [] } }

/-- All branches of a group. -/
def finished (g : Group) : List (List Token) := (g.current.reverse :: g.branches).reverse

/-- Closes a group. -/
def closeGroup? (s : State) : Option State :=
  match s.outer with
  | [] => none
  | g :: outer => some (State.push ⟨g, outer⟩ (.alternatives (finished s.group)))

/-- More than one branch is open. -/
def inGroup (s : State) : Bool := !s.outer.isEmpty

/-- What `**` becomes, given the character before it and the pattern after it, and whether a slash
after it goes with it. -/
def pushTree (s : State) (previous : Option Char) (rest : List Char) : State × Bool :=
  let twoStars := ((s.push .star).push .star, false)
  let atSlash := rest.head? == some '/'
  if s.group.current.isEmpty then
    if rest.isEmpty || atSlash then (s.push .treePrefix, atSlash) else twoStars
  else if previous != some '/'
    && !(s.inGroup && (previous == some ',' || previous == some '\x7b')) then
    twoStars
  else
    let ends := rest.isEmpty
      || (s.inGroup && (rest.head? == some ',' || rest.head? == some '\x7d'))
    if !ends && !atSlash then twoStars
    else
      match s.group.current.head? with
      | some .treePrefix => (s, atSlash)
      | some .treeSuffix => (s, atSlash)
      | _ => (s.replaceLast (if ends then .treeSuffix else .treeInfix), atSlash)

end State

/-- How an opening bracket is read. -/
inductive Brackets where
  /-- It opens a class, which has to be closed. -/
  | strict
  /-- It opens a class, or stands for itself when nothing closes it. -/
  | lenient
  /-- It stands for itself. -/
  | literal
deriving DecidableEq

/-- Reads a pattern character by character. After a bracket that nothing closes every other one is
literal too. -/
def read (brackets : Brackets) : Nat → State → Option Char → List Char → Except Fault State
  | 0, s, _, _ => .ok s
  | _, s, _, [] => .ok s
  | fuel + 1, s, previous, c :: rest =>
    match c with
    | '?' => read brackets fuel (s.push .one) (some c) rest
    | '*' =>
      match rest with
      | '*' :: rest =>
        match s.pushTree previous rest with
        | (s, true) => read brackets fuel s (some '/') (rest.drop 1)
        | (s, false) => read brackets fuel s (some '*') rest
      | rest => read brackets fuel (s.push .star) (some c) rest
    | '[' =>
      let (negated, body) :=
        match rest with
        | '!' :: body => (true, body)
        | '^' :: body => (true, body)
        | body => (false, body)
      match brackets, classBody true false [] body with
      | .literal, _ => read .literal fuel (s.push (.literal c)) (some c) rest
      | .lenient, .error .unclosedClass => read .literal fuel (s.push (.literal c)) (some c) rest
      | _, .ok (ranges, rest) =>
        read brackets fuel (s.push (.class negated ranges)) (some ']') rest
      | _, .error fault => .error fault
    | '\x7b' => read brackets fuel s.openGroup (some c) rest
    | '\x7d' =>
      match s.closeGroup? with
      | some s => read brackets fuel s (some c) rest
      | none => .error .unopenedGroup
    | ',' =>
      read brackets fuel (if s.inGroup then s.nextBranch else s.push (.literal c)) (some c) rest
    | '\\' =>
      match rest with
      | [] => .error .danglingEscape
      | d :: rest => read brackets fuel (s.push (.literal d)) (some d) rest
    | c => read brackets fuel (s.push (.literal c)) (some c) rest

/-- The tokens of a pattern. -/
def tokens (brackets : Brackets) (pattern : String) : Except Fault (List Token) :=
  let cs := pattern.toList
  match read brackets (cs.length + 1) {} none cs with
  | .error fault => .error fault
  | .ok s => if s.inGroup then .error .unclosedGroup else .ok s.group.current.reverse

end Codemod.Glob

/-!
## Matching globs

A glob matches the bytes of a path. Matching goes forward through the tokens with the set of rests
that the text may have left after the tokens so far.

- `Glob.Pattern` — tokens and what `*` and `?` may cross
- `Glob.Pattern.matches` — the whole text matches
-/

namespace Codemod.Glob

/-- A glob ready for matching. -/
structure Pattern where
  tokens : List Token
  /-- `*` and `?` stop at a slash. -/
  literalSeparator : Bool

/-- The code of the slash. -/
def slash : UInt8 := 47

/-- A text of bytes that is left to match. -/
abbrev Rest := List UInt8

/-- The rests without repetitions. All are ends of one text, so their lengths tell them apart. -/
def distinctRests (rests : List Rest) : List Rest :=
  rests.foldr (fun r kept => if kept.any (fun k => k.length == r.length) then kept
    else r :: kept) []

/-- The rests after the given bytes. -/
def afterBytes (bytes : List UInt8) (rests : List Rest) : List Rest :=
  rests.filterMap fun r => if bytes.isPrefixOf r then some (r.drop bytes.length) else none

/-- All ends of a text, itself included. -/
def ends : Rest → List Rest
  | [] => [[]]
  | b :: r => (b :: r) :: ends r

/-- The ends of a text after any number of bytes that are no slash. -/
def endsInComponent : Rest → List Rest
  | [] => [[]]
  | b :: r => if b == slash then [b :: r] else (b :: r) :: endsInComponent r

/-- The ends of a text that follow a slash. -/
def endsAfterSlash : Rest → List Rest
  | [] => []
  | b :: r => if b == slash then r :: endsAfterSlash r else endsAfterSlash r

/-- The bytes of a character. -/
def charBytes (c : Char) : List UInt8 := String.utf8EncodeChar c

/-- The byte belongs to a range of characters taken as bytes: the bytes of the lower end but its
last, the bytes of the upper end but its first, and all between those two. -/
def inRange (b : UInt8) (range : Char × Char) : Bool :=
  let low := charBytes range.1
  let high := charBytes range.2
  if range.1 == range.2 then low.contains b
  else
    low.dropLast.contains b || (high.drop 1).contains b
      || (match low.getLast?, high.head? with
          | some l, some h => decide (l ≤ b) && decide (b ≤ h)
          | _, _ => false)

mutual

/-- The token stands for nothing at all: a group without a branch that is not void. -/
def Token.isVoid : Token → Bool
  | .alternatives branches => allBranchesVoid branches
  | _ => false

/-- Every token stands for nothing. -/
def allVoid : List Token → Bool
  | [] => true
  | t :: ts => t.isVoid && allVoid ts

/-- Every branch stands for nothing. -/
def allBranchesVoid : List (List Token) → Bool
  | [] => true
  | ts :: others => allVoid ts && allBranchesVoid others

end

mutual

/-- The rests after one token. -/
def Token.advance (literalSeparator : Bool) (rests : List Rest) : Token → List Rest
  | .literal c => afterBytes (charBytes c) rests
  | .one =>
    rests.filterMap fun r =>
      match r with
      | b :: r => if literalSeparator && b == slash then none else some r
      | [] => none
  | .star => distinctRests (rests.flatMap (if literalSeparator then endsInComponent else ends))
  | .treePrefix =>
    distinctRests (rests.flatMap fun r => r :: endsAfterSlash r)
  | .treeSuffix => distinctRests ((afterBytes [slash] rests).flatMap ends)
  | .treeInfix => distinctRests ((afterBytes [slash] rests).flatMap fun r => r :: endsAfterSlash r)
  | .class negated ranges =>
    rests.filterMap fun r =>
      match r with
      | b :: r => if ranges.any (inRange b) != negated then some r else none
      | [] => none
  | .alternatives branches =>
    if allBranchesVoid branches then rests
    else distinctRests (advanceBranches literalSeparator rests branches)

/-- The rests after all tokens in turn. -/
def advanceAll (literalSeparator : Bool) (rests : List Rest) : List Token → List Rest
  | [] => rests
  | t :: ts => advanceAll literalSeparator (t.advance literalSeparator rests) ts

/-- The rests after any of the branches that are not void. -/
def advanceBranches (literalSeparator : Bool) (rests : List Rest) : List (List Token) → List Rest
  | [] => []
  | ts :: others =>
    (if allVoid ts then [] else advanceAll literalSeparator rests ts)
      ++ advanceBranches literalSeparator rests others

end

namespace Pattern

/-- The whole text matches. A lone `**` matches everything. -/
def matchesBytes (p : Pattern) (text : List UInt8) : Bool :=
  match p.tokens with
  | [.treePrefix] => true
  | ts => (advanceAll p.literalSeparator [text] ts).any List.isEmpty

/-- The whole text of a path matches. -/
def «matches» (p : Pattern) (path : String) : Bool := p.matchesBytes path.toUTF8.data.toList

/-- Reads a pattern. -/
def parse (literalSeparator : Bool) (pattern : String) : Except Error Pattern :=
  match Glob.tokens .strict pattern with
  | .ok tokens => .ok { tokens, literalSeparator }
  | .error fault => .error { pattern, fault }

/-- Reads a pattern in which an unclosed class is a literal bracket. -/
def parseLenient? (pattern : String) : Option Pattern :=
  match Glob.tokens .lenient pattern with
  | .ok tokens => some { tokens, literalSeparator := true }
  | .error _ => none

end Pattern

end Codemod.Glob
