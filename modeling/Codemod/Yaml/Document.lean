import Codemod.Yaml.Lexer
import Codemod.Yaml.Node

/-!
# Documents of YAML

The tokens of a text are read as documents, each of which is one node. Where a node is missing it
counts as nothing. An anchor gives a node a name, under which it can be referred to from then on.

- `Yaml.Reading` — the tokens that are left, and the names and tags in force
- `Reading.node` — one node
- `Yaml.documents?` — the nodes of all documents
- `Yaml.parse?` — the value of a text that holds at most one document
-/

namespace Codemod.Yaml

/-- The state of reading tokens. -/
structure Reading where
  tokens : List Token
  /-- The anchors of the document, with their numbers, the last one first. -/
  anchors : List (String × Nat) := []
  /-- The nodes that are complete, by the numbers of their anchors. -/
  nodes : List (Nat × Node) := []
  /-- The number of the next anchor. -/
  next : Nat := 0
  /-- The beginnings that directives gave to tags. -/
  tags : List (String × String) := []

/-- A step of reading. -/
abbrev Reader := StateT Reading Option

namespace Reading

/-- The next token, which stays; none at the end. -/
def peek : Reader (Option Token) := return (← get).tokens.head?

/-- Leaves the next token behind. -/
def skip : Reader Unit := modify fun r => { r with tokens := r.tokens.drop 1 }

/-- The next token is this one; then it is left behind. -/
def accept (token : Token) : Reader Bool := do
  if (← peek) == some token then
    skip
    return true
  else return false

/-- The beginning of the tags of the common types. -/
def commonTags : String := "tag:yaml.org,2002:"

/-- The whole tag of a handle and a rest: the beginning that the handle stands for, and the rest. A
handle with a mark at both ends has to be given by a directive. -/
def resolveTag (handle rest : String) : Reader (String × String) := do
  match (← get).tags.lookup handle with
  | some beginning => return (beginning, rest)
  | none =>
    if handle == "!!" then return (commonTags, rest)
    else if Scan.isFullHandle handle.toList then failure
    else return (handle, rest)

/-- Takes a new number for an anchor. -/
def register (name : String) : Reader Nat := do
  let r ← get
  set { r with anchors := (name, r.next) :: r.anchors, next := r.next + 1 }
  return r.next

/-- The tag before a node, if there is one. -/
def tag? : Reader (Option (String × String)) := do
  match ← peek with
  | some (.tag handle rest) => skip; return some (← resolveTag handle rest)
  | _ => return none

/-- The anchor before a node, if there is one. -/
def anchor? : Reader (Option Nat) := do
  match ← peek with
  | some (.anchor name) => skip; return some (← register name)
  | _ => return none

/-- The anchor and the tag before a node, in any order. -/
def properties : Reader (Option Nat × Option (String × String)) := do
  match ← anchor? with
  | some anchor => return (some anchor, ← tag?)
  | none =>
    match ← tag? with
    | some tag => return (← anchor?, some tag)
    | none => return (none, none)

/-- A scalar. A text between quotes or in a block is a text under any tag. -/
def scalar (tag : Option (String × String)) (isPlain : Bool) (text : String) : Node :=
  if !isPlain then .text text
  else
    match tag with
    | none => .ofPlain text
    | some (beginning, rest) => if beginning == commonTags then .ofTagged rest text else .text text

/-- The next token is one of these. -/
def among (tokens : List Token) : Reader Bool := do
  match ← peek with
  | some token => return tokens.contains token
  | none => return false

mutual

/-- A node. A block may begin with it, or only what stands between brackets; a list may lack an
indent of its own. -/
def node (fuel : Nat) (block unindented : Bool) : Reader Node :=
  match fuel with
  | 0 => failure
  | fuel + 1 => do
    match ← peek with
    | some (.reference name) =>
      skip
      match (← get).anchors.lookup name with
      | some anchor => return ((← get).nodes.lookup anchor).getD .unfit
      | none => failure
    | _ =>
      let (anchor, tag) ← properties
      let result ← content fuel block unindented tag (anchor.isSome || tag.isSome)
      match anchor with
      | some anchor => modify fun r => { r with nodes := (anchor, result) :: r.nodes }
      | none => pure ()
      return result

/-- What follows the anchor and the tag of a node. It may be missing after one of them. -/
def content (fuel : Nat) (block unindented : Bool) (tag : Option (String × String))
    (optional : Bool) : Reader Node :=
  match fuel with
  | 0 => failure
  | fuel + 1 => do
    match ← peek with
    | some (.scalar isPlain text) => skip; return scalar tag isPlain text
    | some .flowSequence => skip; return .list (← flowItems fuel true)
    | some .flowMapping => skip; Node.table? (← flowFields fuel true)
    | some token =>
      if token == .item && unindented then return .list (← unindentedItems fuel)
      else if token == .blockSequence && block then
        skip
        return .list (← blockItems fuel)
      else if token == .blockMapping && block then
        skip
        Node.table? (← blockFields fuel)
      else if optional then return scalar tag true ""
      else failure
    | none => if optional then return scalar tag true "" else failure

/-- A node, or nothing before one of some tokens. -/
def nodeUnless (fuel : Nat) (ends : List Token) (block unindented : Bool) : Reader Node :=
  match fuel with
  | 0 => failure
  | fuel + 1 => do if ← among ends then return .nothing else node fuel block unindented

/-- The members of a list with an indent of its own. -/
def blockItems (fuel : Nat) : Reader (List Node) :=
  match fuel with
  | 0 => failure
  | fuel + 1 => do
    if ← accept .blockEnd then return []
    else if ← accept .item then
      let item ← nodeUnless fuel [.item, .blockEnd] true false
      return item :: (← blockItems fuel)
    else failure

/-- The members of a list in the column of the keys around it. -/
def unindentedItems (fuel : Nat) : Reader (List Node) :=
  match fuel with
  | 0 => failure
  | fuel + 1 => do
    if ← accept .item then
      let item ← nodeUnless fuel [.item, .key, .value, .blockEnd] true false
      return item :: (← unindentedItems fuel)
    else return []

/-- The keys and values of a block by turns. -/
def blockFields (fuel : Nat) : Reader (List Node) :=
  match fuel with
  | 0 => failure
  | fuel + 1 => do
    let ends : List Token := [.key, .value, .blockEnd]
    if ← accept .blockEnd then return []
    let key ←
      if ← accept .key then nodeUnless fuel ends true true
      else if ← among [.value] then pure Node.nothing
      else failure
    let value ← if ← accept .value then nodeUnless fuel ends true true else pure Node.nothing
    return key :: value :: (← blockFields fuel)

/-- The members of a list between square brackets. -/
def flowItems (fuel : Nat) (first : Bool) : Reader (List Node) :=
  match fuel with
  | 0 => failure
  | fuel + 1 => do
    if ← accept .flowSequenceEnd then return []
    if !first && !(← accept .comma) then failure
    if ← accept .flowSequenceEnd then return []
    let item ← if ← accept .key then bareField fuel else node fuel false false
    return item :: (← flowItems fuel false)

/-- A mapping of one key without braces, as a member of a list. A key that is missing takes the
token after it along. -/
def bareField (fuel : Nat) : Reader Node :=
  match fuel with
  | 0 => failure
  | fuel + 1 => do
    let key ←
      if ← among [.value, .comma, .flowSequenceEnd] then
        skip
        pure Node.nothing
      else node fuel false false
    let value ←
      if ← accept .value then nodeUnless fuel [.comma, .flowSequenceEnd] false false
      else pure Node.nothing
    Node.table? [key, value]

/-- The keys and values between braces by turns. -/
def flowFields (fuel : Nat) (first : Bool) : Reader (List Node) :=
  match fuel with
  | 0 => failure
  | fuel + 1 => do
    if ← accept .flowMappingEnd then return []
    if !first && !(← accept .comma) then failure
    if ← accept .flowMappingEnd then return []
    let (key, valued) ←
      if ← accept .key then
        pure (← nodeUnless fuel [.value, .comma, .flowMappingEnd] false false, true)
      else if ← among [.value] then pure (Node.nothing, true)
      else pure (← node fuel false false, false)
    let value ←
      if valued && (← accept .value) then nodeUnless fuel [.comma, .flowMappingEnd] false false
      else pure Node.nothing
    return key :: value :: (← flowFields fuel false)

end

/-! ### Documents -/

/-- The directives before a document: one version at most, and rules for tags, of which the last
directive counts. -/
def directives (fuel : Nat) (versioned : Bool) : Reader Unit :=
  match fuel with
  | 0 => failure
  | fuel + 1 => do
    match ← peek with
    | some .version =>
      if versioned then failure
      skip
      modify fun r => { r with tags := [] }
      directives fuel true
    | some (.tagRule handle beginning) =>
      skip
      modify fun r => { r with tags := [(handle, beginning)] }
      directives fuel versioned
    | _ => return

/-- A token that belongs to the head of a document. -/
def startsHead : Token → Bool
  | .version | .tagRule _ _ => true
  | _ => false

/-- A token that belongs between documents. -/
def isBetween (token : Token) : Bool :=
  startsHead token || token == .documentStart || token == .documentEnd

/-- The documents that are left. `bare` tells that the next one may lack its mark. -/
def documents (fuel : Nat) (bare : Bool) : Reader (List Node) :=
  match fuel with
  | 0 => failure
  | fuel + 1 => do
    if ← accept .documentEnd then return ← documents fuel bare
    match ← peek with
    | none => return []
    | some token =>
      modify fun r => { r with anchors := [] }
      let result ←
        if startsHead token || token == .documentStart || !bare then do
          directives fuel false
          if !(← accept .documentStart) then failure
          match ← peek with
          | some token => if isBetween token then pure Node.nothing else node fuel true false
          | none => pure Node.nothing
        else node fuel true false
      modify fun r => { r with tags := [] }
      let ended ← accept .documentEnd
      if !ended && ((← peek).map startsHead).getD false then failure
      return result :: (← documents fuel ended)

end Reading

/-- The nodes of the documents of a text. -/
def documents? (text : String) : Option (List Node) := do
  let tokens ← tokens? text
  let (nodes, _) ← (Reading.documents (4 * tokens.length + 4) true).run { tokens }
  return nodes

/-- The value of a text that holds one document, or none, which counts as an empty record. -/
def parse? (text : String) : Option Json := do
  match ← documents? text with
  | [] => some (.object [])
  | [node] => node.toJson?
  | _ => none

end Codemod.Yaml
