import Codemod.Shell.Calendar
import Codemod.Shell.Explore.Picture

/-!
# The text of queries

- `Explore.Search.read` — the search that arguments ask for
- `Explore.Refusal.message` — why they ask for none
-/

namespace Codemod.Shell.Explore

/-- A word of a query. -/
inductive Sign where
  | query (q : Query)
  | negation (word : Octets)
  | both (word : Octets)
  | either (word : Octets)
  | comma
  | opening
  | closing

/-- A query while it is read. -/
structure Reading where
  search : Search
  /-- What was read, latest first. -/
  signs : List Sign := []
  warnings : List String := []
  style : RegexStyle := .editor
  errands : Nat := 0
  /-- Some action makes it needless to print each entry. -/
  acts : Bool := false
  /-- Ages are counted from the end of the day. -/
  fromDayEnd : Bool := false
  /-- The last predicate that took an argument, if it was read just now. -/
  last : Option Octets := none
  /-- Nothing is looked for; a text is printed instead. -/
  instead : Option String := none

namespace Reading

/-- Adds a test. -/
def withTest (r : Reading) (t : Test) : Reading := { r with signs := .query (.test t) :: r.signs }

/-- Adds an action. -/
def withAction (r : Reading) (a : Action) : Reading :=
  { r with signs := .query (.act a) :: r.signs, acts := true }

/-- What is asked of a number. -/
def amount? (cs : Octets) : Option Amount :=
  match cs with
  | '+' :: ds => (Tool.natural? ds).map .more
  | '-' :: ds => (Tool.natural? ds).map .fewer
  | ds => (Tool.natural? ds).map .exactly

/-- The pattern of a text. -/
def pattern (folded : Bool) (cs : Octets) : List Wildcard :=
  Wildcard.ofMarked ((if folded then cs.map Char.toLower else cs).map fun c => (c, true))

/-- The kinds that a list of letters asks for. -/
def kinds (option : Octets) (seen : List Char) : Octets → Except Refusal (List Char)
  | [] => .error (.noKind option)
  | c :: rest =>
    if !"fdlbcpsD".toList.contains c then .error (.kindLetter option c)
    else if seen.contains c then .error (.invalidArgument option [c])
    else
      match rest with
      | [] => .ok [c]
      | [','] => .error (.openKinds option)
      | ',' :: rest => (kinds option (c :: seen) rest).map (c :: ·)
      | _ => .error (.kindSeparator option)

/-- The size that a text asks for, and its unit. -/
def size (cs : Octets) : Except Refusal (Amount × Nat) := do
  let (digits, unit) := match cs.getLast? with
    | some c => if c.isDigit then (cs, none) else (cs.dropLast, some c)
    | none => (cs, none)
  let bytes ← match unit with
    | none | some 'b' => pure 512
    | some 'c' => pure 1
    | some 'w' => pure 2
    | some 'k' => pure 1024
    | some 'M' => pure (1024 * 1024)
    | some 'G' => pure (1024 * 1024 * 1024)
    | some c => throw (.sizeUnit [c])
  match amount? digits with
  | some a => return (a, bytes)
  | none => throw (.sizeUnit cs)

/-- The permissions that a text asks for. -/
def permission (cs : Octets) : Except Refusal Test := do
  let (m, text) := match cs with
    | '-' :: text => (Matching.all, text)
    | '/' :: text => (.any, text)
    | text => (.exactly, text)
  if text.head? == some '+' && m == .exactly && text.length > 1
    && (text.drop 1).all Char.isDigit then
    throw (.mode cs)
  match Permission.changed? false 0 0 text with
  | some bits => return .permission m bits
  | none => throw (.mode cs)

/-- The ways of writing regular expressions. -/
def regexStyles : List (String × RegexStyle) :=
  [("findutils-default", .editor), ("ed", .basic), ("emacs", .editor), ("gnu-awk", .extended),
    ("grep", .basic), ("posix-awk", .extended), ("awk", .extended), ("posix-basic", .basic),
    ("posix-egrep", .extended), ("egrep", .extended), ("posix-extended", .extended),
    ("posix-minimal-basic", .basic), ("sed", .basic)]

/-- The text holds a pair of braces. -/
def holdsBraces : Octets → Bool
  | '{' :: '}' :: _ => true
  | _ :: rest => holdsBraces rest
  | [] => false

/-- A command up to its end, whether it is for all entries at once, and what follows. -/
def commandOf? (before : List Octets) : List Octets → Option (List Octets × Bool × List Octets)
  | [] => none
  | [';'] :: rest => some (before.reverse, false, rest)
  | ['+'] :: rest =>
    if before.head?.any holdsBraces then some (before.reverse, true, rest)
    else commandOf? (['+'] :: before) rest
  | word :: rest => commandOf? (word :: before) rest

/-- An errand with the words that follow its option. -/
def errand (r : Reading) (option : Octets) (words : List Octets) :
    Except Refusal (Reading × List Octets) := do
  match commandOf? [] words with
  | none => throw (.missingArgument option)
  | some ([], _, _) => throw (.invalidArgument option [';'])
  | some (command, gathers, rest) =>
    if gathers then
      let braces := command.filter holdsBraces
      match braces.find? (· != ['{', '}']) with
      | some word => throw (.joined option word)
      | none => if 1 < braces.length then throw (.twice option)
    let e : Errand :=
      { id := r.errands
        command := if gathers then command.dropLast else command
        inPlace := option == "-execdir".toList || option == "-okdir".toList
        asks := option == "-ok".toList || option == "-okdir".toList
        gathers }
    let r := { r with errands := r.errands + 1 }
    return (r.withAction (.run e), rest)

/-- What the tool says of its version. -/
def version : String := "find (GNU findutils) 4.9.0\n"

/-- How the tool is used. -/
def usage : String :=
  "Usage: find [-H] [-L] [-P] [-Olevel] [-D debugopts] [path...] [expression]\n"

/-- A predicate without arguments. -/
def plain? (r : Reading) (word : String) : Option Reading :=
  let sign (s : Sign) : Option Reading := some { r with signs := s :: r.signs }
  match word with
  | "(" => sign .opening
  | ")" => sign .closing
  | "," => sign .comma
  | "!" | "-not" => sign (.negation word.toList)
  | "-a" | "-and" => sign (.both word.toList)
  | "-o" | "-or" => sign (.either word.toList)
  | "-print" => some (r.withAction (.print .output '\n'))
  | "-print0" => some (r.withAction (.print .output '\x00'))
  | "-ls" => some (r.withAction (.list .output))
  | "-delete" =>
    let r := r.withAction .delete
    some { r with search := { r.search with insideFirst := true } }
  | "-quit" => some (r.withAction .quit)
  | "-prune" => some { r with signs := .query (.act .prune) :: r.signs }
  | "-true" | "-readable" | "-writable" => some (r.withTest (.constant true))
  | "-false" | "-nouser" | "-nogroup" => some (r.withTest (.constant false))
  | "-empty" => some (r.withTest .empty)
  | "-executable" => some (r.withTest .executable)
  | "-depth" | "-d" => some (always { r with search := { r.search with insideFirst := true } })
  | "-follow" => some (always { r with search := { r.search with following := .always } })
  | "-daystart" => some (always { r with fromDayEnd := true })
  | "-mount" | "-xdev" | "-noleaf" | "-warn" | "-nowarn" | "-ignore_readdir_race"
  | "-noignore_readdir_race" => some (always r)
  | "-version" | "--version" => some { r with instead := some version }
  | "-help" | "--help" => some { r with instead := some usage }
  | _ => none
where
  /-- An option, which always holds. -/
  always (r : Reading) : Reading := r.withTest (.constant true)

/-- The time that a comparison is about. -/
def timeOf (disk : FileSystem) (now : Int) (isDate : Bool) (argument : Octets) :
    Except Refusal Int :=
  if isDate then
    match Moment.read? now argument with
    | some time => .ok time
    | none => .error (.time argument)
  else
    match disk.find argument.toText with
    | .ok (loc, _) => .ok (disk.modified loc)
    | .error cause => .error (.file argument cause)

/-- A predicate with an argument; none if there is no such one. -/
def withArgument? (disk : FileSystem) (now : Int) (r : Reading) (word argument : Octets) :
    Option (Except Refusal Reading) :=
  let test (t : Test) : Option (Except Refusal Reading) := some (.ok (r.withTest t))
  let about (f : Amount → Test) : Option (Except Refusal Reading) :=
    match amount? argument with
    | some a => test (f a)
    | none => some (.error (.invalidArgument word argument))
  let age (unit : Int) (counted : Bool) : Option (Except Refusal Reading) :=
    about fun a => .age a (unit.natAbs * 10 ^ 9) counted
  let depth (f : Nat → Search) : Option (Except Refusal Reading) :=
    match Tool.natural? argument with
    | some n =>
      let r := { r with search := f n }
      some (.ok (r.withTest (.constant true)))
    | none => some (.error (.notInteger word argument))
  let regex (f : Regex → Regex) : Option (Except Refusal Reading) :=
    match Regex.read r.style argument with
    | .ok found => test (.regex (f found))
    | .error .unmatchedClosing => test (.constant false)
    | .error e => some (.error (.file argument (.custom e.message)))
  let account (refusal : Octets → Refusal) : Option (Except Refusal Reading) :=
    match argument with
    | ['0'] => test (.constant true)
    | text =>
      if (Account.find? text).isSome || (Tool.natural? text).isSome then
        test (.constant (text == "root".toList))
      else some (.error (refusal argument))
  let written (path : Octets) (a : Action) : Option (Except Refusal Reading) :=
    let r := { r with search := { r.search with files := r.search.files ++ [path] } }
    some (.ok (r.withAction a))
  match word.toText with
  | "-name" => test (.name false (pattern false argument))
  | "-iname" => test (.name true (pattern true argument))
  | "-path" | "-wholename" => test (.path false (pattern false argument))
  | "-ipath" | "-iwholename" => test (.path true (pattern true argument))
  | "-lname" => test (.target false (pattern false argument))
  | "-ilname" => test (.target true (pattern true argument))
  | "-regex" => regex id
  | "-iregex" => regex Regex.caseless
  | "-regextype" =>
    some (match regexStyles.lookup argument.toText with
      | some style =>
        let r := { r with style }
        .ok (r.withTest (.constant true))
      | none => .error (.regexStyle argument))
  | "-type" => some ((kinds word [] argument).map fun ks => r.withTest (.kind false ks))
  | "-xtype" => some ((kinds word [] argument).map fun ks => r.withTest (.kind true ks))
  | "-size" => some ((size argument).map fun (a, unit) => r.withTest (.size a unit))
  | "-perm" => some ((permission argument).map r.withTest)
  | "-newer" | "-anewer" | "-cnewer" | "-newermm" =>
    some ((timeOf disk now false argument).map fun t => r.withTest (.changedAfter t))
  | "-newermt" => some ((timeOf disk now true argument).map fun t => r.withTest (.changedAfter t))
  | "-mtime" | "-atime" | "-ctime" => age 86400 false
  | "-mmin" | "-amin" | "-cmin" => age 60 true
  | "-links" => about .links
  | "-inum" => about .number
  | "-uid" | "-gid" => about fun a => .constant (a.admits 0)
  | "-user" => account .user
  | "-group" => account .group
  | "-samefile" =>
    some ((timeOf disk now false argument).map fun _ => r.withTest (.sameAs argument))
  | "-maxdepth" => depth fun n => { r.search with most := some n }
  | "-mindepth" => depth fun n => { r.search with least := n }
  | "-printf" =>
    some ((Piece.read (argument.length + 1) argument).map fun (pieces, warnings) =>
      let r := { r with warnings := r.warnings ++ warnings }
      r.withAction (.describe .output pieces))
  | "-fprint" => written argument (.print (.file argument) '\n')
  | "-fprint0" => written argument (.print (.file argument) '\x00')
  | "-fls" => written argument (.list (.file argument))
  | "-fstype" => test (.constant (argument == "ext4".toList))
  | "-used" => test (.constant false)
  | _ => none

/-- A word at which a query goes on, or begins when it is the `first`. -/
def isExpression (first : Bool) : Octets → Bool
  | '-' :: rest => !rest.isEmpty
  | ['('] | ['!'] => true
  | [')'] | [','] => !first
  | _ => false

/-- Reads the predicates of a query. -/
def predicates (disk : FileSystem) (now : Int) (fuel : Nat) (r : Reading) (words : List Octets) :
    Except Refusal Reading :=
  match fuel, words with
  | 0, _ | _, [] => .ok r
  | fuel + 1, word :: rest => do
    if !isExpression false word then
      let isThere := disk.pathExists word.toText
      throw (.notBeforeExpression word (if isThere then r.last else none))
    let text := word.toText
    if ["-exec", "-execdir", "-ok", "-okdir"].contains text then
      let (r, rest) ← r.errand word rest
      return ← predicates disk now fuel { r with last := none } rest
    match r.plain? text with
    | some r =>
      if r.instead.isSome then return r
      predicates disk now fuel { r with last := none } rest
    | none =>
      if text == "-fprintf" then
        match rest with
        | path :: format :: rest =>
          let (pieces, warnings) ← Piece.read (format.length + 1) format
          let search := { r.search with files := r.search.files ++ [path] }
          let r := { r with search, warnings := r.warnings ++ warnings }
          predicates disk now fuel (r.withAction (.describe (.file path) pieces)) rest
        | path :: _ => throw (.invalidArgument word path)
        | [] => throw (.missingArgument word)
      else
        match rest with
        | [] =>
          match withArgument? disk now r word ['0'] with
          | some _ => throw (.missingArgument word)
          | none => throw (unknown word)
        | argument :: rest =>
          match withArgument? disk now r word argument with
          | none => throw (unknown word)
          | some found =>
            let r ← found
            predicates disk now fuel { r with last := some word } rest
where
  /-- The refusal of a word that is no predicate. -/
  unknown (word : Octets) : Refusal :=
    if "-newer".toList.isPrefixOf word && word.length == 8 then .invalidPredicate word
    else .unknownPredicate word

end Reading

/-! ### Combinations -/

mutual

/-- Queries with commas between them. -/
def listed (fuel : Nat) (signs : List Sign) : Except Refusal (Query × List Sign) :=
  match fuel with
  | 0 => .error .unclosed
  | fuel + 1 => do
    let (q, rest) ← alternatives fuel signs
    match rest with
    | .comma :: [] => throw (.nothingAfter [','])
    | .comma :: rest =>
      let (p, rest) ← listed fuel rest
      return (.after q p, rest)
    | rest => return (q, rest)

/-- Queries of which one has to hold. -/
def alternatives (fuel : Nat) (signs : List Sign) : Except Refusal (Query × List Sign) :=
  match fuel with
  | 0 => .error .unclosed
  | fuel + 1 => do
    let (q, rest) ← conjunction fuel signs
    match rest with
    | .either word :: [] => throw (.nothingAfter word)
    | .either _ :: rest =>
      let (p, rest) ← alternatives fuel rest
      return (.either q p, rest)
    | rest => return (q, rest)

/-- Queries that have to hold together. -/
def conjunction (fuel : Nat) (signs : List Sign) : Except Refusal (Query × List Sign) :=
  match fuel with
  | 0 => .error .unclosed
  | fuel + 1 => do
    let (q, rest) ← single fuel signs
    match rest with
    | .both word :: [] => throw (.nothingAfter word)
    | .both _ :: rest =>
      let (p, rest) ← conjunction fuel rest
      return (.both q p, rest)
    | [] | .either _ :: _ | .comma :: _ | .closing :: _ => return (q, rest)
    | rest =>
      let (p, rest) ← conjunction fuel rest
      return (.both q p, rest)

/-- A query without an operator at its top. -/
def single (fuel : Nat) (signs : List Sign) : Except Refusal (Query × List Sign) :=
  match fuel with
  | 0 => .error .unclosed
  | fuel + 1 =>
    match signs with
    | .query q :: rest => .ok (q, rest)
    | .negation word :: [] => .error (.nothingAfter word)
    | .negation _ :: rest => do
      let (q, rest) ← single fuel rest
      return (.not q, rest)
    | .both word :: _ | .either word :: _ => .error (.nothingBefore word)
    | .comma :: _ => .error (.nothingBefore [','])
    | .opening :: [] => .error (.nothingAfter ['('])
    | .opening :: .closing :: _ => .error .emptyParentheses
    | .opening :: rest => do
      let (q, rest) ← listed fuel rest
      match rest with
      | .closing :: rest => return (q, rest)
      | _ => throw .unclosed
    | .closing :: _ | [] => .error .unopened

end

/-- The query that signs make up; without any it holds always. -/
def queryOf (signs : List Sign) : Except Refusal Query := do
  if signs.isEmpty then return .test (.constant true)
  let (q, rest) ← listed (6 * signs.length + 6) signs
  match rest with
  | [] => return q
  | _ => throw .unopened

/-- Reads the options in front of the paths: which links are followed, and what is warned about. -/
def leading (following : Following) (warnings : List String) :
    List Octets → Following × List String × List Octets
  | [] => (following, warnings, [])
  | word :: rest =>
    match word.toText with
    | "-H" => leading .atStart warnings rest
    | "-L" => leading .always warnings rest
    | "-P" => leading .never warnings rest
    | "--" => (following, warnings, rest)
    | "-D" =>
      match rest with
      | flag :: rest =>
        leading following (warnings
          ++ [s!"Ignoring unrecognised debug flag {Tool.quoted flag}"]) rest
      | [] => (following, warnings, [word])
    | text =>
      if text.startsWith "-O" && (word.drop 2).all Char.isDigit && word.length > 2 then
        leading following warnings rest
      else (following, warnings, word :: rest)

/-- The search that arguments ask for. -/
def Reading.ofArguments (disk : FileSystem) (now : Int) (arguments : List Octets) :
    List String × Except Refusal Reading :=
  let (following, warnings, rest) := leading .never [] arguments
  let (starts, words) := rest.span fun w => !isExpression true w
  let first : Reading :=
    { search := { following, starts := if starts.isEmpty then [['.']] else starts } }
  (warnings, do
    let r ← predicates disk now (words.length + 1) first words
    let q ← queryOf r.signs.reverse
    let query := if r.acts then q else .both q (.act (.print .output '\n'))
    return { r with search := { r.search with query } })

/-- Why nothing is looked for. -/
def Refusal.message : Refusal → List String
  | unknownPredicate word => [s!"unknown predicate {inSigns word}"]
  | invalidPredicate word => [s!"invalid predicate {inSigns word}"]
  | missingArgument word => [s!"missing argument to {inSigns word}"]
  | notBeforeExpression word after =>
    s!"paths must precede expression: {inSigns word}" :: match after with
      | some option => [s!"possible unquoted pattern after predicate {inSigns option}?"]
      | none => []
  | notInteger option argument =>
    [s!"Expected a positive decimal integer argument to {option.toText}, "
      ++ s!"but got {Tool.quoted argument}"]
  | invalidArgument option argument =>
    if argument.length == 1 && (option.toText == "-type" || option.toText == "-xtype") then
      [s!"Duplicate file type {Tool.quoted argument} in the argument list to {option.toText}."]
    else [s!"invalid argument {inSigns argument} to {inSigns option}"]
  | kindLetter option c => [s!"Unknown argument to {option.toText}: {String.singleton c}"]
  | kindSeparator option => [s!"Must separate multiple arguments to {option.toText} using: ','"]
  | openKinds option =>
    [s!"Last file type in list argument to {option.toText} is missing, i.e., list is ending on: ','"]
  | noKind option => [s!"Arguments to {option.toText} should contain at least one letter"]
  | sizeUnit unit =>
    [if unit.isEmpty then "invalid null argument to -size"
     
     
     
      else if unit.any Char.isDigit || unit.length != 1 then s!"Invalid argument {inSigns unit} to -size"
     
     
     
      else if "bcwkMG".toList.contains (unit.headD ' ') then s!"Invalid argument {inSigns unit} to -size"
      else s!"invalid -size type {inSigns unit}"]
  | regexStyle name =>
    let names := String.intercalate ", " (Reading.regexStyles.map fun (n, _) => s!"'{n}'")
    [s!"Unknown regular expression type {Tool.quoted name}; valid types are {names}."]
  | regex e => [e.message]
  | mode text => [s!"invalid mode {Tool.quoted text}"]
  | user name => [s!"{Tool.quoted name} is not the name of a known user"]
  | group name => [s!"{Tool.quoted name} is not the name of an existing group"]
  | time text => [s!"I cannot figure out how to interpret {Tool.quoted text} as a date or time"]
  | file name (.custom text) =>
    [s!"failed to compile regular expression {Tool.quoted name}: {text}"]
  | file name cause => [s!"{Tool.quoted name}: {Tool.reason cause}"]
  | twice option => [s!"Only one instance of \x7b\x7d is supported with {option.toText} ... +"]
  | joined option argument =>
    [s!"In '{option.toText} ... \x7b\x7d +' the '\x7b\x7d' must appear by itself, "
      ++ s!"but you specified {Tool.quoted argument}"]
  | nothingBefore operator =>
    ["invalid expression; you have used a binary operator " ++
      s!"'{operator.toText}' with nothing before it."]
  | nothingAfter ['('] =>
    ["invalid expression; expected to find a ')' but didn't see one. " ++
      "Perhaps you need an extra predicate after '('"]
  | nothingAfter operator => [s!"expected an expression after '{operator.toText}'"]
  | unclosed => ["invalid expression; I was expecting to find a ')' somewhere but did not see one."]
  | unopened => ["you have too many ')'"]
  | emptyParentheses => ["invalid expression; empty parentheses are not allowed."]
  | formatEnd => ["error: % at end of format string"]
where
  /-- A word between signs of quotation. -/
  inSigns (word : Octets) : String := "\x60" ++ word.toText ++ "'"

end Codemod.Shell.Explore
