import Codemod.Environment
import Codemod.FileSystem.Basic
import Codemod.Glob
import Codemod.Text.Blank
import Codemod.Text.Search

/-!
# Ignore rules

A rule is one line of an ignore file: a glob relative to the file's directory, which may apply to
directories only, and which either ignores what it matches or takes it back in.

- `Rule.ofLine?` — the rule on a line
- `Rule.ofBytes` — the rules of a file
- `Rule.verdict` — what a list of rules says of a path
-/

namespace Codemod.Ignore

/-- What rules say of a path. -/
inductive Verdict where
  | ignored
  | allowed
deriving DecidableEq

/-- One rule. -/
structure Rule where
  pattern : Glob.Pattern
  /-- The rule applies to directories only. -/
  onlyDirectories : Bool
  verdict : Verdict

/-- The glob of a line without its leading marks: a pattern without a slash matches at any depth,
and one that ends in a tree matches what is inside the tree only. -/
def widen (anchored : Bool) (line : List Char) : List Char :=
  let anywhere :=
    if !anchored && !line.contains '/' && line != ['*', '*'] then '*' :: '*' :: '/' :: line
    else line
  if "/**".toList.isSuffixOf anywhere then anywhere ++ ['/', '*'] else anywhere

/-- The rule on a line; none for comments, blank lines and unreadable globs. -/
def Rule.ofLine? (line : String) : Option Rule := do
  let cs := line.toList
  if cs.head? == some '#' then none
  let cs := if "\\ ".toList.isSuffixOf cs then cs else Text.trimEnd cs
  if cs.isEmpty then none
  let (verdict, anchored, cs) :=
    match cs with
    | '\\' :: '!' :: rest => (Verdict.ignored, false, '!' :: rest)
    | '\\' :: '#' :: rest => (Verdict.ignored, false, '#' :: rest)
    | '!' :: '/' :: rest => (Verdict.allowed, true, rest)
    | '!' :: rest => (Verdict.allowed, false, rest)
    | '/' :: rest => (Verdict.ignored, true, rest)
    | rest => (Verdict.ignored, false, rest)
  let onlyDirectories := cs.getLast? == some '/'
  let cs := if onlyDirectories then cs.dropLast else cs
  let cs := if onlyDirectories && cs.getLast? == some '\\' then cs.dropLast else cs
  let pattern ← Glob.Pattern.parseLenient? (String.ofList (widen anchored cs))
  return { pattern, onlyDirectories, verdict }

/-- The lines of a text file up to the first that is not UTF-8, without line ends. -/
def textLines (bytes : ByteArray) : List String :=
  let lines := (bytes.data.toList.splitOn 10).map fun piece => String.fromUTF8? ⟨piece.toArray⟩
  (lines.takeWhile Option.isSome).filterMap fun line =>
    line.map fun text =>
      let cs := text.toList
      if cs.getLast? == some '\r' then String.ofList cs.dropLast else text

/-- The rules of a file. Byte-order marks before the first line do not count. -/
def Rule.ofBytes (bytes : ByteArray) : List Rule :=
  match textLines bytes with
  | [] => []
  | first :: rest =>
    let first := String.ofList (first.toList.dropWhile (· == '\uFEFF'))
    (first :: rest).filterMap Rule.ofLine?

/-- The rule applies to a path relative to its directory. -/
def Rule.applies (rule : Rule) (path : String) (directory : Bool) : Bool :=
  (directory || !rule.onlyDirectories) && rule.pattern.matches path

/-- What rules say of a path: the last rule that applies decides. -/
def Rule.verdict? (rules : List Rule) (path : String) (directory : Bool) : Option Verdict :=
  (rules.reverse.find? fun rule => rule.applies path directory).map Rule.verdict

end Codemod.Ignore

/-!
## Ignore files of nested directories

Every directory from the root of the file system down to the one being listed is a level with rules
of its own. Rules of a repository count only inside one, and only up to its top directory.

- `configuration?` — where a repository keeps its configuration
- `Level.read` — the level of a directory
- `Level.above` — the levels of a directory and of those above it
- `verdict?` — what a stack of levels says of an entry
-/

namespace Codemod.Ignore

/-- The ignore rules of one directory. -/
structure Level where
  directory : Location
  /-- Rules that count everywhere. -/
  general : List Rule
  /-- Rules that count inside a repository. -/
  shared : List Rule
  /-- Rules of the repository's own configuration. -/
  personal : List Rule
  /-- The directory is the top of a repository. -/
  isRepository : Bool

/-- The absolute path of a file below a directory. -/
def pathBelow (directory : Location) (name : String) : String :=
  "/" ++ Location.text (directory ++ [name])

/-- The rules of a file, if it can be read. -/
def rulesIn (fs : FileSystem) (path : String) : List Rule :=
  match fs.readBytes path with
  | .ok bytes => Rule.ofBytes bytes
  | .error _ => []

/-- The first line of a text file without its end, if there is one. -/
def firstLine? (fs : FileSystem) (path : String) : Option String := do
  let bytes ← (fs.readBytes path).toOption
  if bytes.isEmpty then none
  let line ← String.fromUTF8? ⟨(bytes.data.toList.takeWhile (· != 10)).toArray⟩
  if bytes.data.contains 10 && line.endsWith "\r" then some (line.dropEnd 1).toString else some line

/-- How a file begins that names the directory of a linked repository. -/
def linkMark : String := "gitdir: "

/-- The directory that holds the configuration of a repository. It is the entry `.git`, unless that
is a file; then the file names a directory, and the file `commondir` in it the directory asked for.
A name that begins with a dot is relative to that directory. -/
def configuration? (fs : FileSystem) (directory : Location) : Option String :=
  let entry := pathBelow directory ".git"
  if fs.isFile entry then do
    let line ← firstLine? fs entry
    if !line.startsWith linkMark then none
    let linked := (line.drop linkMark.length).toString
    let shared ← firstLine? fs (Path.join linked "commondir")
    return if shared.startsWith "." then Path.join linked shared else shared
  else some entry

/-- The entries that make a directory the top of a repository. -/
def repositoryMarks : List String := [".git", ".jj"]

/-- Reads the level of a directory. -/
def Level.read (fs : FileSystem) (directory : Location) : Level where
  directory := directory
  general := rulesIn fs (pathBelow directory ".ignore")
  shared := rulesIn fs (pathBelow directory ".gitignore")
  personal :=
    ((configuration? fs directory).map fun path =>
      rulesIn fs (Path.join path "info/exclude")).getD []
  isRepository := repositoryMarks.any fun mark => fs.pathExists (pathBelow directory mark)

/-- The levels of a directory and of all above it, nearest first. -/
def Level.above (fs : FileSystem) (directory : Location) : List Level :=
  (List.range (directory.length + 1)).reverse.map fun n => Level.read fs (directory.take n)

/-- What one list of rules of a level says of an entry below it. -/
def Level.ask (level : Level) (rules : List Rule) (entry : Location) (directory : Bool) :
    Option Verdict :=
  if rules.isEmpty then none
  else Rule.verdict? rules (Location.text (entry.drop level.directory.length)) directory

/-- The levels up to the top of the innermost repository, none outside of one. -/
def repositoryLevels : List Level → List Level
  | [] => []
  | level :: rest =>
    if level.isRepository then [level]
    else match repositoryLevels rest with
      | [] => []
      | inside => level :: inside

/-- What the levels, nearest first, say of an entry: general rules before shared before personal
ones, and of each kind the nearest level that says anything. -/
def verdict? (levels : List Level) (entry : Location) (directory : Bool) : Option Verdict :=
  let inside := repositoryLevels levels
  levels.findSome? (fun level => level.ask level.general entry directory)
    <|> inside.findSome? (fun level => level.ask level.shared entry directory)
    <|> inside.findSome? (fun level => level.ask level.personal entry directory)

end Codemod.Ignore

/-!
## Ignore rules for all repositories

A user may have a file of rules that count in every repository. A setting of the version control
names it, which is looked for in two files; without the setting the file has a usual place.

- `SystemEnvironment.homeBytes`, `SystemEnvironment.configurationHome?` — the user's directories
- `Excludes.setting?` — what a configuration has for the name of the file
- `Excludes.path?` — where the file is
- `Excludes.read`, `Excludes.verdict?` — its rules, and what they say of an entry of a walk
-/

namespace Codemod

namespace SystemEnvironment

/-- The value of a variable that is set and not empty. -/
def value? (env : SystemEnvironment) (name : String) : Option ByteArray :=
  (env.bindings.lookup name).filter fun value => !value.isEmpty

/-- The path of the user's directory. -/
def homeBytes (env : SystemEnvironment) : ByteArray :=
  (env.value? "HOME").getD Environment.defaultHome.toUTF8

/-- The user's directory; none when its path is no text, since no entry has such a path. -/
def home? (env : SystemEnvironment) : Option String := String.fromUTF8? env.homeBytes

/-- The directory of the user's configuration. -/
def configurationHome? (env : SystemEnvironment) : Option String :=
  match env.value? "XDG_CONFIG_HOME" with
  | some bytes => String.fromUTF8? bytes
  | none => env.home?.map fun home => Path.join home ".config"

end SystemEnvironment

namespace Ignore.Excludes

/-- White space between the parts of a setting, line ends among it. -/
def isSpace (b : UInt8) : Bool := b == 32 || (9 ≤ b && b ≤ 13)

/-- Nothing but white space is left on the line, or on the blank lines after it. -/
def endsLine : List UInt8 → Bool
  | [] => true
  | b :: rest => b == 10 || (isSpace b && endsLine rest)

/-- A value may end here: a quotation mark may follow, and then the line ends. -/
def closes (bytes : List UInt8) : Bool :=
  endsLine bytes ||
    match bytes.dropWhile isSpace with
    | 34 :: rest => endsLine rest
    | _ => false

/-- The shortest value at the front: bytes without white space, up to where it may end. -/
def shortestValue? : List UInt8 → Option (List UInt8)
  | [] => none
  | b :: rest =>
    if isSpace b then none
    else if closes rest then some [b]
    else (shortestValue? rest).map fun value => b :: value

/-- The value at the front. A quotation mark opens it, or else belongs to it. -/
def value? (bytes : List UInt8) : Option (List UInt8) :=
  match bytes with
  | 34 :: quoted => shortestValue? (quoted.dropWhile isSpace) <|> shortestValue? bytes
  | _ => shortestValue? bytes

/-- The name of the setting. -/
def settingName : List UInt8 := "excludesfile".toUTF8.data.toList

/-- A small letter for a capital one. -/
def lower (b : UInt8) : UInt8 := if 65 ≤ b && b ≤ 90 then b + 32 else b

/-- The value of the setting when it begins on the line at the front, or after blank lines. -/
def settingAt? (bytes : List UInt8) : Option (List UInt8) :=
  let bytes := bytes.dropWhile isSpace
  if (bytes.take settingName.length).map lower == settingName then
    match (bytes.drop settingName.length).dropWhile isSpace with
    | 61 :: rest => value? (rest.dropWhile isSpace)
    | _ => none
  else none

/-- The value of the setting on the first line that has one, from the beginning of a line or from
the next one on. Sections of the configuration do not count. -/
def settingFrom? : (atLine : Bool) → List UInt8 → Option (List UInt8)
  | _, [] => none
  | atLine, b :: rest =>
    (if atLine then settingAt? (b :: rest) else none) <|> settingFrom? (b == 10) rest

/-- What a configuration has for the name of the file. -/
def setting? (bytes : ByteArray) : Option (List UInt8) := settingFrom? true bytes.data.toList

/-- The file that a configuration names. Every tilde stands for the user's directory. -/
def named? (fs : FileSystem) (env : SystemEnvironment) (configuration : String) :
    Option String := do
  let value ← setting? (← (fs.readBytes configuration).toOption)
  let path ← String.fromUTF8? ⟨value.toArray⟩
  return Text.replaceAll "~" (Text.Utf8.decodeBytes env.homeBytes) path

/-- Where the file is: where the configuration in the user's directory says, else where the one in
the directory of configurations says, else beside that one. -/
def path? (fs : FileSystem) (env : SystemEnvironment) : Option String :=
  (env.home?.bind fun home => named? fs env (Path.join home ".gitconfig"))
    <|> (env.configurationHome?.bind fun home => named? fs env (Path.join home "git/config"))
    <|> env.configurationHome?.map fun home => Path.join home "git/ignore"

end Ignore.Excludes

namespace Ignore

/-- The rules for all repositories, as a walk comes to look at them. -/
structure Excludes where
  rules : List Rule
  /-- The directory that the walk was started from. -/
  workingDirectory : String
  /-- The root of the walk, as it is written. -/
  root : String

namespace Excludes

/-- The rules that a user has, for a walk of a root. -/
def read (fs : FileSystem) (env : SystemEnvironment) (root : String) : Excludes where
  rules := ((path? fs env).map (rulesIn fs)).getD []
  workingDirectory := "/" ++ Location.text fs.workingDirectory
  root := root

/-- Drops one `./` at the beginning. -/
def dropDotSlash : List Char → List Char
  | '.' :: '/' :: rest => rest
  | cs => cs

/-- Drops one slash at the beginning. -/
def dropSlash : List Char → List Char
  | '/' :: rest => rest
  | cs => cs

/-- How rules see a path: without a `./` at its beginning, taken off twice, and without the text of
the working directory. -/
def seenFrom (workingDirectory path : List Char) : List Char :=
  let path := dropDotSlash (dropDotSlash path)
  if path.contains '/' && workingDirectory.isPrefixOf path then
    dropSlash (path.drop workingDirectory.length)
  else path

/-- What the rules say of an entry of the walk. They count inside of a repository. -/
def verdict? (e : Excludes) (levels : List Level) (relative : Location) (directory : Bool) :
    Option Verdict :=
  let path := (Path.join e.root (Location.text relative)).toList
  if levels.any Level.isRepository then
    Rule.verdict? e.rules (String.ofList (seenFrom e.workingDirectory.toList path)) directory
  else none

end Excludes

end Ignore

end Codemod

/-!
## Enumerating the files of a workspace

A walk goes down from a root directory and yields the regular files that no rule hides: not those of
ignore files, not those matched by the walker's own globs, and not hidden ones unless asked for.
Directories that are hidden by a rule are not entered. The result is sorted name by name.

- `Walker` — the globs to leave out and whether hidden entries count
- `Walker.files` — the files below a root
- `Walker.matching` — those of them that match a file pattern
-/

namespace Codemod

/-- A pattern that cannot be read, and what it was for. -/
inductive PatternError where
  | ignore (pattern : String) (cause : Glob.Error)
  | file (pattern : String) (cause : Glob.Error)
deriving DecidableEq

namespace PatternError

/-- What could not be done. -/
def message : PatternError → String
  | ignore pattern _ => s!"Invalid ignore pattern: {pattern}"
  | file pattern _ => s!"Invalid file pattern: {pattern}"

/-- Why it could not be done. -/
def cause : PatternError → Glob.Error
  | ignore _ cause | file _ cause => cause

end PatternError

/-- What a walk leaves out. -/
structure Walker where
  /-- Globs on paths relative to the root. -/
  ignores : List Glob.Pattern := []
  includeHidden : Bool := false

namespace Walker

/-- The globs of a configuration that lists none. -/
def defaultIgnores : List String :=
  ["target/**", "node_modules/**", "dist/**", "build/**", ".git/**"]

/-- A walker that leaves out what the globs match. -/
def ofPatterns (patterns : List String) : Except PatternError Walker := do
  let ignores ← patterns.mapM fun pattern =>
    (Glob.Pattern.parse false pattern).mapError (PatternError.ignore pattern)
  return { ignores }

/-- The walker's own globs leave the path out. -/
def omits (w : Walker) (path : String) : Bool := w.ignores.any fun p => p.matches path

/-- The walker does not enter the directory: its path is left out, or that of any entry in it is. -/
def prunes (w : Walker) (path : String) : Bool := w.omits path || w.omits (path ++ "/_")

/-- The name begins with a dot. -/
def isHiddenName (name : String) : Bool := name.toList.head? == some '.'

/-- Ignore files or hiddenness hide the entry. The rules for all repositories are asked after those
of the directories. An entry that a rule takes back in is visible even when its name is hidden. -/
def hides (w : Walker) (excludes : Ignore.Excludes) (levels : List Ignore.Level)
    (entry relative : Location) (name : String) (directory : Bool) : Bool :=
  match Ignore.verdict? levels entry directory
    <|> excludes.verdict? levels relative directory with
  | some .ignored => true
  | some .allowed => false
  | none => !w.includeHidden && isHiddenName name

/-- The files below a directory in listing order, as locations relative to the root. `fuel` bounds
the depth. -/
def descend (w : Walker) (fs : FileSystem) (excludes : Ignore.Excludes) :
    (fuel : Nat) → (levels : List Ignore.Level) → (directory relative : Location) → List Location
  | 0, _, _, _ => []
  | fuel + 1, levels, directory, relative =>
    (fs.children directory).flatMap fun (name, node) =>
      let entry := directory ++ [name]
      let path := relative ++ [name]
      match node with
      | .link _ => []
      | .file _ =>
        if w.hides excludes levels entry path name false || w.omits (Location.text path) then []
        else [path]
      | .directory =>
        if w.hides excludes levels entry path name true || w.prunes (Location.text path) then []
        else descend w fs excludes fuel (Ignore.Level.read fs entry :: levels) entry path

/-- The files below a root in listing order. A root that is a file yields itself. -/
def unsorted (w : Walker) (fs : FileSystem) (root : String) (env : SystemEnvironment := {}) :
    List Location :=
  match fs.find root with
  | .ok (loc, .directory) =>
    w.descend fs (Ignore.Excludes.read fs env root) (fs.entries.length + 1)
      (Ignore.Level.above fs loc) loc []
  | .ok (_, .file _) => if w.omits "" then [] else [[]]
  | _ => []

/-- The files below a root, sorted name by name. The environment says where the user keeps the rules
for all repositories. -/
def files (w : Walker) (fs : FileSystem) (root : String) (env : SystemEnvironment := {}) :
    List Location :=
  (w.unsorted fs root env).mergeSort Location.le

/-- Drops every `./` at the beginning. -/
def dropDotSlashes : List Char → List Char
  | '.' :: '/' :: rest => dropDotSlashes rest
  | cs => cs

/-- Reads a file pattern: blanks around it and `./` at its beginning do not count, and `*` does not
cross directories. -/
def filePattern (pattern : String) : Except PatternError Glob.Pattern :=
  let pattern := String.ofList (dropDotSlashes (Text.trim pattern.toList))
  (Glob.Pattern.parse true pattern).mapError (PatternError.file pattern)

/-- The files below a root that match a file pattern, sorted name by name. -/
def matching (w : Walker) (fs : FileSystem) (root pattern : String)
    (env : SystemEnvironment := {}) : Except PatternError (List Location) :=
  (filePattern pattern).map fun p => (w.files fs root env).filter fun loc =>
    p.matches (Location.text loc)

end Walker

end Codemod
