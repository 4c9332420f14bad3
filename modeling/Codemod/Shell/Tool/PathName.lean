import Codemod.Shell.Tool.Lines

/-!
# Names of files

- `Tool.baseName`, `Tool.directoryName` — the last part of a path, and what stands before it
- `Canonical.of` — the location of a path, some of which may be missing
- `Tool.realPath`, `Tool.readLink` — paths without links in them
- `Tool.checkPaths` — paths that may be used everywhere
-/

namespace Codemod.Shell

namespace Tool

/-- A path without the slashes at its end. -/
def withoutEnd (path : Octets) : Octets := (path.reverse.dropWhile (· == '/')).reverse

/-- The last part of a path, without an ending. -/
def lastPart (path ending : Octets) : Octets :=
  let bare := withoutEnd path
  if bare.isEmpty then (if path.isEmpty then [] else ['/'])
  else
    let part := (bare.reverse.takeWhile (· != '/')).reverse
    if part != ending && ending.isSuffixOf part then part.take (part.length - ending.length)
    else part

/-- Prints the last parts of paths. -/
def baseName (arguments : List Octets) : Tool Nat := do
  match Options.read (Options.known "a,multiple s,suffix: z,zero help version") arguments false with
  | .error refusal => refuse 1 refusal.message
  | .ok o =>
    let ending := if o.has "z" then '\x00' else '\n'
    match o.has "a" || o.has "s", o.operands with
    | _, [] => missingOperand 1
    | true, names =>
      let part := (o.value? "s").getD []
      say (names.flatMap fun name => lastPart name part ++ [ending])
      return 0
    | false, [name] =>
      say (lastPart name [] ++ [ending])
      return 0
    | false, [name, part] =>
      say (lastPart name part ++ [ending])
      return 0
    | false, _ :: _ :: extra :: _ => extraOperand 1 extra

/-- What stands before the last part of a path. -/
def firstPart (path : Octets) : Octets :=
  let bare := withoutEnd path
  if bare.isEmpty then (if path.isEmpty then ['.'] else ['/'])
  else
    match bare.reverse.dropWhile (· != '/') with
    | [] => ['.']
    | rest =>
      let before := withoutEnd rest.reverse
      if before.isEmpty then ['/'] else before

/-- Prints what stands before the last parts of paths. -/
def directoryName : List Octets → Tool Nat :=
  withOptions "z,zero" 1 fun o => do
  if o.operands.isEmpty then missingOperand 1
  else
    let ending := if o.has "z" then '\x00' else '\n'
    say (o.operands.flatMap fun name => firstPart name ++ [ending])
    return 0

end Tool

/-! ### Locations of paths -/

/-- Which parts of a path have to exist. -/
inductive Canonical where
  | all
  | allButLast
  | none
deriving DecidableEq

namespace Canonical

/-- Names one after another below a location, where what is missing is taken as it is written. -/
def below (disk : FileSystem) (loc : Location) : List String → Location
  | [] => loc
  | "." :: rest => below disk loc rest
  | ".." :: rest => below disk loc.dropLast rest
  | name :: rest =>
    match disk.resolve true ("/" ++ Location.text (loc ++ [name])) with
    | .found next _ => below disk next rest
    | .free next _ => below disk next rest
    | _ => below disk (loc ++ [name]) rest

/-- The names of a path with the names that lead back taken away, after names before it. -/
def straightened (before : Location) : List String → Location
  | [] => before
  | "." :: rest => straightened before rest
  | ".." :: rest => straightened before.dropLast rest
  | name :: rest => straightened (before ++ [name]) rest

/-- The location of a path, or why it has none. -/
def of (c : Canonical) (disk : FileSystem) (path : String) : Except SystemError Location :=
  if path.isEmpty then .error .notFound
  else
    match c with
    | .none =>
      .ok (below disk (if Path.isAbsolute path then []
        else disk.workingDirectory) (Path.names path))
    | c =>
      match disk.resolve true path with
      | .found loc _ => .ok loc
      | .free loc _ => if c == .all then .error .notFound else .ok loc
      | .crossing _ _ _ => .error .linkLoop
      | .failed cause => .error cause

/-- The path that leads from one location to another. -/
def relative : Location → Location → List String
  | a :: as, b :: bs =>
    if a == b then relative as bs else List.replicate (as.length + 1) ".." ++ b :: bs
  | [], bs => bs
  | as, [] => List.replicate as.length ".."

/-- A location as a path. -/
def shown (loc : Location) : Octets := Octets.ofString ("/" ++ Location.text loc)

end Canonical

namespace Tool

/-- What options say about the parts of a path that have to exist. -/
def existence (o : Options) (usual : Canonical) : Canonical :=
  match o.last? ["e", "f", "m"] with
  | some "e" => .all
  | some "f" => .allButLast
  | some "m" => .none
  | _ => usual

/-- Prints paths without links in them. -/
def realPath : List Octets → Tool Nat :=
  withOptions ("e,canonicalize-existing E m,canonicalize-missing L,logical P,physical q,quiet "
    ++ "relative-to: relative-base: s,strip,no-symlinks z,zero") 1 fun o => do
  if o.operands.isEmpty then return ← missingOperand 1
  let mode := existence o .allButLast
  let disk := (← get).disk
  let located (path : Octets) : Except SystemError Location :=
    if o.has "s" then
      let start := if path.head? == some '/' then [] else disk.workingDirectory
      if mode == .all && !disk.pathExists path.toText then .error .notFound
      else .ok (Canonical.straightened start (Path.names path.toText))
    else mode.of disk path.toText
  let ending := if o.has "z" then '\x00' else '\n'
  let given (name : String) : Tool (Option Location × Bool) := do
    match o.value? name with
    | none => return (none, true)
    | some path =>
      match located path with
      | .ok loc => return (some loc, true)
      | .error cause =>
        blameFor path cause
        return (none, false)
  let (base, baseFine) ← given "relative-base"
  let (start, startFine) ← given "relative-to"
  if !baseFine || !startFine then return 1
  let start := start.or base
  let mut status := 0
  for path in o.operands do
    match located path with
    | .ok loc =>
      let inside := base.all fun b => b.isPrefixOf loc && start.all fun s => b.isPrefixOf s
      let text : Octets := match start with
        | some s =>
          if inside then
            let names := Canonical.relative s loc
            if names.isEmpty then ['.'] else Octets.ofString (Location.text names)
          else Canonical.shown loc
        | none => Canonical.shown loc
      say (text ++ [ending])
    | .error cause =>
      if !o.has "q" then blameFor path cause
      status := 1
  return status

/-- Prints where links lead. -/
def readLink : List Octets → Tool Nat :=
  withOptions ("f,canonicalize e,canonicalize-existing m,canonicalize-missing n,no-newline q,quiet "
    ++ "s,silent v,verbose z,zero") 1 fun o => do
  if o.operands.isEmpty then return ← missingOperand 1
  let disk := (← get).disk
  let several := o.operands.length > 1
  if several && o.has "n" then blame "ignoring --no-newline with multiple arguments"
  let ending : Octets :=
    if o.has "z" then ['\x00'] else if o.has "n" && !several then [] else ['\n']
  let canonical := (o.last? ["e", "f", "m"]).isSome
  let mut status := 0
  for path in o.operands do
    let found : Except SystemError Octets :=
      if canonical then ((existence o .allButLast).of disk path.toText).map Canonical.shown
      else
        match disk.resolve false path.toText with
        | .found _ (.link target) => .ok (Octets.ofString target)
        | .found _ _ => .error (.code 22)
        | .failed cause => .error cause
        | _ => .error .notFound
    match found with
    | .ok text => say (text ++ ending)
    | .error cause =>
      if o.has "v" then blameFor path cause
      status := 1
  return status

/-- Checks whether paths may be used. -/
def checkPaths : List Octets → Tool Nat :=
  withOptions "p P portability" 1 fun o => do
  if o.operands.isEmpty then return ← missingOperand 1
  let isPortable (c : Char) : Bool := c.isAlphanum || "/._-".toList.contains c
  let disk := (← get).disk
  let mut status := 0
  for path in o.operands do
    let portable := o.has "p" || o.has "portability"
    let fault : Option String :=
      if (o.has "P" || o.has "portability") && path.isEmpty then some "empty file name"
      else if portable && path.isEmpty then some "empty file name"
      else
        match path.find? fun c => portable && !isPortable c with
        | some c => some s!"non-portable character {quoted [c]} in file name {quoted path}"
        | none =>
          match disk.find path.toText with
          | .error cause =>
            if cause == .notFound then none else some s!"{shown path}: {reason cause}"
          | .ok _ => none
    if let some text := fault then
      blame text
      status := 1
  return status

end Tool

end Codemod.Shell
