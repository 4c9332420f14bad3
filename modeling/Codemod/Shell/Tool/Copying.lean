import Codemod.Shell.Permission
import Codemod.Shell.Tool.Lines
import Codemod.Shell.Tool.Making
import Codemod.Shell.Tool.Removal

/-!
# From where and to where

The tools that copy, rename and link take sources and a target, which may be a directory for all of
them.

- `Passage`, `Tool.passages` — each source with where it goes
- `Backup` — where what stands in the way is kept
-/

namespace Codemod.Shell

/-- A source and where it goes. -/
structure Passage where
  source : Octets
  target : Octets
deriving DecidableEq

/-- How what stands in the way is kept. -/
structure Backup where
  /-- The names have numbers: always, or when there is such a name already. -/
  numbered : Bool
  asBefore : Bool
  ending : Octets

namespace Backup

/-- The path of a backup with a number. -/
def numberedPath (path : Octets) (n : Nat) : Octets :=
  path ++ ".~".toList ++ Octets.ofNat n ++ ['~']

/-- Where what stands at a path is kept. -/
def path (b : Backup) (disk : FileSystem) (path : Octets) : Octets :=
  let isTaken (n : Nat) : Bool := disk.isTaken (numberedPath path n).toText
  let taken := (List.range (disk.entries.length + 1)).filter fun n => n > 0 && isTaken n
  let next := taken.foldl max 0 + 1
  if b.numbered || (b.asBefore && !taken.isEmpty) then numberedPath path next else path ++ b.ending

/-- The names of the kinds of backups. -/
def kinds : Choice (Option (Bool × Bool)) where
  called := "backup type"
  values := [(["none", "off"], none), (["simple", "never"], some (false, false)),
    (["existing", "nil"], some (false, true)), (["numbered", "t"], some (true, false))]

end Backup

namespace Tool

/-- How what stands in the way is kept, if options say so; none when they cannot be followed. -/
def backupOf (o : Options) : Tool (Option (Option Backup)) := do
  let ending := (o.value? "S").getD ['~']
  let kept (kind : Bool × Bool) : Backup := ⟨kind.1, kind.2, ending⟩
  if (o.value? "backup").any (!·.isEmpty) then
    let some kind ← chosen Backup.kinds o "backup" none | return none
    return some (kind.map kept)
  else if o.has "backup" || o.has "b" || o.has "S" then return some (some (kept (false, true)))
  else return some none

/-- A path in a directory for a source. -/
def within (directory source : Octets) : Octets :=
  let last := lastPart source []
  if last == ['.', '.'] then directory
  else if directory.getLast? == some '/' then directory ++ last
  else directory ++ '/' :: last

/-- Says that what should be a directory is none. -/
def noDirectory (what : String) (path : Octets) : Tool Unit := do
  let cause := match (← get).disk.find path.toText with
    | .ok _ => SystemError.notDirectory
    | .error cause => cause
  blame s!"{what} {quoted path}: {reason cause}"

/-- Each source with where it goes, as options and operands say. One operand may be enough: it goes
to the working directory. -/
def passages (o : Options) (oneIsEnough : Bool) (isDirectory : Octets → Bool) :
    Tool (Option (List Passage)) := do
  let into (directory : Octets) (sources : List Octets) : List Passage :=
    sources.map fun s => ⟨s, within directory s⟩
  let refused (text : String) : Tool (Option (List Passage)) := do
    let _ ← refuse 1 text
    return none
  match o.value? "t", o.operands with
  | _, [] => refused "missing file operand"
  | some path, operands =>
    if o.has "T" then
      blame "cannot combine --target-directory (-t) and --no-target-directory (-T)"
      return none
    else if (← get).disk.isDirectory path.toText then return some (into path operands)
    else
      noDirectory "target directory" path
      return none
  | none, [single] =>
    if oneIsEnough && !o.has "T" then return some (into ['.'] [single])
    else refused s!"missing destination file operand after {quoted single}"
  | none, first :: second :: rest =>
    if o.has "T" then
      match rest with
      | [] => return some [⟨first, second⟩]
      | extra :: _ => refused s!"extra operand {quoted extra}"
    else
      let last := (second :: rest).getLast?.getD []
      if isDirectory last then return some (into last o.operands.dropLast)
      else if rest.isEmpty then return some [⟨first, second⟩]
      else
        noDirectory "target" last
        return none

/-- Where a new entry goes that may be a link. -/
def newPlace (disk : FileSystem) (path : Octets) : Except SystemError Location :=
  match disk.resolve false path.toText with
  | .free loc slash => if slash then .error .notFound else .ok loc
  | .found _ _ => .error .alreadyExists
  | .crossing _ _ _ => .error .linkLoop
  | .failed cause => .error cause

/-- Puts what stands at a path out of the way. The value is where it went. -/
def keepAside (backup : Backup) (path : Octets) : Tool Octets := do
  let b ← get
  let aside := backup.path b.disk path
  if let .ok (loc, _) := entryAt b.disk path then
    let place := loc.dropLast ++ [(lastPart aside []).toText]
    set { b with disk := b.disk.rename loc place }
  return aside

/-- The text about a backup in a line about what was done. -/
def asideText (aside : Option Octets) : String :=
  match aside with
  | some path => s!" (backup: {quoted path})"
  | none => ""

/-- Two locations hold the same. -/
def isSame (disk : FileSystem) (a b : Location) : Bool := a == b || (disk.twins a).contains b

end Tool

end Codemod.Shell

/-!
## Copying

- `Copying` — how things are copied
- `Tool.copyEntry` — one entry, a directory with what is in it
- `Tool.copy`, `Tool.install` — the tools
-/

namespace Codemod.Shell

/-- How things are copied. -/
structure Copying where
  recursive : Bool
  verbose : Bool
  /-- Links are followed, always or only where they are named. -/
  followsAll : Bool
  followsNamed : Bool
  /-- Existing files are replaced, kept, or replaced after a question. -/
  force : Bool
  keeps : Bool
  asks : Bool
  /-- Only files that are older are replaced. -/
  updates : Bool
  /-- Existing files are removed before. -/
  removes : Bool
  /-- Links are made. -/
  asNames : Bool
  asLinks : Bool
  /-- What is kept about entries stays. -/
  keepsMode : Bool
  keepsTime : Bool
  keepsNames : Bool
  emptied : Bool
  backup : Option Backup

/-- The copy of a directory that is being made. -/
structure CopyRoot where
  passage : Passage
  /-- Where the copy is; it is not copied itself. -/
  place : Location

namespace Tool

/-- Amends what is kept about the entry at a path. -/
def amendAt (follow : Bool) (path : Octets) (f : Record → Record) : Tool Unit :=
  modify fun b =>
    match Entry.at? b.disk follow path with
    | .ok e => { b with disk := b.disk.amend e.loc f }
    | .error _ => b

/-- Gives a copy what is kept about its source, where that is asked for. -/
def inherit (c : Copying) (disk : FileSystem) (e : Entry) (isNew : Bool) (target : Octets) :
    Tool Unit := do
  let mask := (← get).mask
  let mode := disk.mode e.loc e.node
  let time := disk.modified e.loc
  if c.keepsMode then amendAt true target fun r => { r with mode := some mode }
  else if isNew then
    amendAt true target fun r => { r with mode := some (mode &&& (0o777 ^^^ mask)) }
  if c.keepsTime then amendAt true target fun r => { r with modified := some time }

/-- Makes a symbolic link. -/
def putLink (path : Octets) (leads : String) : Tool (Except SystemError Unit) := do
  let b ← get
  match newPlace b.disk path with
  | .ok loc =>
    let disk := (b.disk.set loc (.link leads)).amend loc fun _ => { modified := some b.now }
    set { b with disk }
    return .ok ()
  | .error cause => return .error cause

/-- Gives a file one more name. -/
def putName (loc : Location) (node : Node) (path : Octets) : Tool (Except SystemError Unit) := do
  let b ← get
  match newPlace b.disk path with
  | .ok place =>
    set { b with disk := b.disk.addName loc place node }
    return .ok ()
  | .error cause => return .error cause

/-- What is read when a path is copied that is no file of the disk. -/
def deviceText? (path : Octets) : Tool (Option Octets) := do
  if path == "/dev/null".toList then return some []
  else if path != ['-'] && isInput path then return (← contentOf path).toOption
  else return none

/-- Copies one thing that is no directory. -/
def copySingle (c : Copying) (e : Entry) (passage : Passage) (known : List (Location × Octets)) :
    Tool Bool := do
  let target := passage.target
  let before := (← get).disk
  let lstat := (entryAt before target).toOption
  let say (aside : Option Octets) : Tool Unit := do
    if c.verbose then
      sayText s!"{quoted passage.source} -> {quoted target}{asideText aside}\n"
  let proceeds ← match lstat with
    | none => pure true
    | some (loc, _) =>
      if c.keeps then pure false
      else if c.updates && before.modified loc ≥ before.modified e.loc then pure false
      else if c.asks then agrees s!"overwrite {quoted target}"
      else pure true
  if !proceeds then return true
  let aside ← match c.backup, lstat with
    | some backup, some _ => do pure (some (← keepAside backup target))
    | _, _ => pure none
  let isLink := match e.node with
    | .link _ => true
    | _ => false
  if lstat.isSome && aside.isNone
    && (c.removes || isLink || (c.force && (c.asNames || c.asLinks))) then
    modify fun b =>
      match entryAt b.disk target with
      | .ok (loc, _) => { b with disk := b.disk.erase loc }
      | .error _ => b
  let fail (what : String) (cause : SystemError) : Tool Bool := do
    blame s!"cannot create {what}: {reason cause}"
    return false
  let twin := if c.keepsNames then
      known.find? fun (loc, _) => loc != e.loc && (before.twins e.loc).contains loc
    else none
  if c.asLinks then
    if passage.source.head? != some '/' && target.contains '/' then
      blame s!"{shown target}: can make relative symbolic links only in current directory"
      return false
    match ← putLink target passage.source.toText with
    | .ok () =>
      say aside
      return true
    | .error cause => fail s!"symbolic link {quoted target} to {quoted passage.source}" cause
  else if c.asNames || twin.isSome then
    let disk := (← get).disk
    let source := (twin.bind fun (_, path) => (entryAt disk path).toOption).getD (e.loc, e.node)
    match ← putName source.1 source.2 target with
    | .ok () =>
      say aside
      return true
    | .error cause => fail s!"hard link {quoted target} to {quoted passage.source}" cause
  else
    match e.node with
    | .link leads =>
      match ← putLink target leads with
      | .ok () =>
        say aside
        return true
      | .error cause => fail s!"symbolic link {quoted target}" cause
    | node =>
      let text := match node with
        | .file bytes => if c.emptied then [] else Octets.ofBytes bytes
        | _ => []
      let disk := (← get).disk
      let isNew := (disk.find target.toText).toOption.isNone
      if isNew && (entryAt disk target).toOption.isSome then
        blame s!"not writing through dangling symlink {quoted target}"
        return false
      match ← store target.toText text with
      | .ok () =>
        inherit c before e isNew target
        say aside
        return true
      | .error cause =>
        let cause :=
          if target.getLast? == some '/' && cause == .isDirectory then .notDirectory else cause
        fail s!"regular file {quoted target}" cause

/-- Copies an entry, a directory with what is in it. `known` are the copies that were made before.
The value tells whether that went well. -/
def copyEntry (c : Copying) (fuel : Nat) (root : Option CopyRoot) (known : List (Location × Octets))
    (passage : Passage) : Tool (Bool × List (Location × Octets)) := do
  match fuel with
  | 0 => return (true, known)
  | fuel + 1 =>
    let source := passage.source
    let target := passage.target
    let disk := (← get).disk
    let follow := c.followsAll || (c.followsNamed && root.isNone)
    match Entry.at? disk follow source with
    | .error cause =>
      match ← deviceText? source with
      | some text =>
        match ← store target.toText text with
        | .ok () => return (true, known)
        | .error cause =>
          blame s!"cannot create regular file {quoted target}: {reason cause}"
          return (false, known)
      | none =>
        blame s!"cannot stat {quoted source}: {reason cause}"
        return (false, known)
    | .ok e =>
      let isDirectory := e.node == .directory
      if isDirectory && !c.recursive then
        blame s!"-r not specified; omitting directory {quoted source}"
        return (false, known)
      let there := if isDirectory || c.removes then (entryAt disk target).toOption
        else ((disk.find target.toText).toOption).or (entryAt disk target).toOption
      let isOwn := there.any fun (loc, _) => isSame disk loc e.loc
      let linkToSource := match entryAt disk target, disk.find target.toText with
        | .ok (loc, .link _), .ok (reached, _) => c.removes && loc != reached
        | _, _ => false
      if isOwn && !linkToSource then
        if c.asNames then return (true, known)
        blame s!"{quoted source} and {quoted target} are the same file"
        return (false, known)
      match isDirectory, there with
      | false, some (_, .directory) =>
        blame s!"cannot overwrite directory {quoted target} with non-directory"
        return (false, known)
      | false, _ => return (← copySingle c e passage known, (e.loc, target) :: known)
      | true, some (_, .directory) | true, none =>
        if there.isNone then
          match disk.createDirectory target.toText with
          | .ok after =>
            modify fun b => { b with disk := after }
            amendAt true target fun _ => { modified := none }
            if c.verbose then sayText s!"{quoted source} -> {quoted target}\n"
          | .error cause =>
            blame s!"cannot create directory {quoted target}: {reason cause}"
            return (false, known)
        let place := ((← get).disk.find target.toText).toOption.map Prod.fst
        let root := root.getD ⟨passage, place.getD []⟩
        let mut known := known
        let mut fine := true
        let slash (path : Octets) : Octets := if path.getLast? == some '/' then [] else ['/']
        for (name, _) in (← get).disk.children e.loc do
          if e.loc ++ [name] == root.place then
            blame (s!"cannot copy a directory, {quoted root.passage.source}, into itself, "
              ++ quoted root.passage.target)
            fine := false
          else
            let inner (path : Octets) : Octets := path ++ slash path ++ Octets.ofString name
            let (went, now) ← copyEntry c fuel (some root) known ⟨inner source, inner target⟩
            known := now
            if !went then fine := false
        inherit c disk e there.isNone target
        return (fine, known)
      | true, some _ =>
        blame s!"cannot overwrite non-directory {quoted target} with directory {quoted source}"
        return (false, known)

/-- Makes the directories of a source below a directory. The value tells whether that went well. -/
def makeParents (verbose : Bool) (directory source : Octets) : Tool Bool := do
  let mut fine := true
  for part in pathsDown (firstPart source) do
    let target := directory ++ '/' :: part
    if fine && part != ['.'] && !(← get).disk.isDirectory target.toText then
      fine ← change s!"cannot make directory {quoted target}" (·.createDirectory target.toText)
      if fine && verbose then sayText s!"{part.toText} -> {target.toText}\n"
  return fine

/-- What may be preserved by a copy. -/
def preservable : Choice Unit where
  called := "--preserve"
  values := ["mode", "timestamps", "ownership", "links", "context", "xattr", "all"].map fun n =>
    ([n], ())

/-- Copies files and directories. -/
def copy : List Octets → Tool Nat :=
  withOptions ("a,archive attributes-only b backup:: copy-contents d debug f,force H i,interactive l,link "
    ++ "L,dereference n,no-clobber P,no-dereference p preserve:: no-preserve: parents path R,r,recursive "
    ++ "reflink:: remove-destination S,suffix: sparse: s,symbolic-link strip-trailing-slashes "
    ++ "t,target-directory: T,no-target-directory u update:: v,verbose x,one-file-system Z context::")
    1 fun o => do
  for value in o.values "preserve" do
    for part in value.splitOn ',' do
      if !part.isEmpty then
        let some () ← chosen preservable { given := [("preserve", part)] } "preserve" () | return 1
  let some backup ← backupOf o | return 1
  let isDirectory (path : Octets) (disk : FileSystem) : Bool := disk.isDirectory path.toText
  let disk := (← get).disk
  let some passages ← passages o false (isDirectory · disk) | return 1
  let preserved := (o.values "preserve").flatMap (·.splitOn ',')
  let preserves (name : String) : Bool :=
    o.has "a" || preserved.contains name.toList || preserved.contains "all".toList
  let recursive := o.has "R" || o.has "a"
  let links := o.last? ["L", "P", "H", "d", "a"]
  let updateWord := (o.value? "update").getD []
  let c : Copying :=
    { recursive
      verbose := o.has "v" || o.has "debug"
      followsAll := links == some "L" || (links.isNone && !recursive && !o.has "s" && !o.has "l")
      followsNamed := links == some "H"
      force := o.has "f"
      keeps := o.last? ["n", "i", "f"] == some "n" || updateWord == "none".toList
      asks := o.last? ["n", "i"] == some "i"
      updates := o.has "u" || (o.has "update"
        && (updateWord.isEmpty || updateWord == "older".toList))
      removes := o.has "remove-destination"
      asNames := o.has "l"
      asLinks := o.has "s"
      keepsMode := o.has "p" || o.value? "preserve" == some [] || preserves "mode"
      keepsTime := o.has "p" || o.value? "preserve" == some [] || preserves "timestamps"
      keepsNames := o.has "d" || preserves "links"
      emptied := o.has "attributes-only"
      backup }
  let fuel := disk.entries.length + passages.length + 2
  let parents := o.has "parents" || o.has "path"
  let directory := (o.value? "t").orElse fun _ => o.operands.getLast?
  if parents && !(directory.any fun d => disk.isDirectory d.toText) then
    return ← refuse 1 "with --parents, the destination must be a directory"
  let mut status := 0
  let mut known : List (Location × Octets) := []
  let mut done : List (Passage × Option Location) := []
  for passage in passages do
    let disk := (← get).disk
    let passage := if parents then
        { passage with target := (directory.getD []) ++ '/' :: withoutEnd passage.source }
      else passage
    let source := (disk.find passage.source.toText).toOption
    let loc := source.map Prod.fst
    let isFile := source.any fun (_, node) => node != .directory
    if loc.isSome && done.any fun d => d.1.target == passage.target && d.2 == loc then
      let what := if isFile then "file" else "directory"
      blame s!"warning: source {what} {quoted passage.source} specified more than once"
    else if isFile && done.any fun d => d.1.target == passage.target then
      blame s!"will not overwrite just-created {quoted passage.target} with {quoted passage.source}"
      status := 1
    else
      let ready ← if parents then makeParents c.verbose (directory.getD []) passage.source
        else pure true
      if ready then
        let (fine, now) ← copyEntry c fuel none known passage
        known := now
        done := (passage, loc) :: done
        if !fine then status := 1
      else status := 1
  return status

/-! ### Installing -/

/-- Makes a directory and those above it. -/
def makeAll (verbose : Bool) (mode : Nat) (path : Octets) : Tool Bool := do
  let parts := pathsDown path
  let mut fine := true
  for (part, i) in parts.zipIdx do
    let disk := (← get).disk
    let isLast := i + 1 == parts.length
    if fine && !disk.isDirectory part.toText then
      fine ← change s!"cannot create directory {quoted part}" (·.createDirectory part.toText)
      if fine && verbose then sayText s!"{(← get).tool}: creating directory {quoted part}\n"
      if fine && isLast && mode != 0o755 then
        amendAt true part fun r => { r with mode := some mode }
  return fine

/-- Copies files and gives them permissions, or makes directories. -/
def install : List Octets → Tool Nat :=
  withOptions ("b backup:: c C,compare d,directory D g,group: m,mode: o,owner: p,preserve-timestamps "
    ++ "s,strip strip-program: S,suffix: t,target-directory: T,no-target-directory v,verbose "
    ++ "preserve-context Z context::") 1 fun o => do
  let some backup ← backupOf o | return 1
  let mode ← match o.value? "m" with
    | none => pure 0o755
    | some text =>
      match Permission.changed? false 0 0 text with
      | some mode => pure mode
      | none =>
        blame s!"invalid mode {quoted text}"
        return 1
  let verbose := o.has "v"
  if o.has "d" then
    if o.operands.isEmpty then return ← refuse 1 "missing file operand"
    let mut status := 0
    for path in o.operands do
      if !(← makeAll verbose mode path) then status := 1
    return status
  let disk := (← get).disk
  if o.has "D" then
    let directory := (o.value? "t").orElse fun _ =>
      if o.operands.length == 2
        && !(o.operands.getLast?.any fun p => disk.isDirectory p.toText) then
        o.operands.getLast?.map firstPart
      else none
    if let some path := directory then
      if !(← makeAll verbose 0o755 path) then return 1
  let disk := (← get).disk
  let some passages ← passages o false (fun p => disk.isDirectory p.toText) | return 1
  let c : Copying :=
    { recursive := false, verbose, followsAll := true, followsNamed := true, force := false
      keeps := false, asks := false, updates := false, removes := backup.isNone, asNames := false
      asLinks := false, keepsMode := false, keepsTime := o.has "p", keepsNames := false,
        emptied := false
      backup }
  let mut status := 0
  for passage in passages do
    let disk := (← get).disk
    match Entry.at? disk true passage.source with
    | .ok ⟨_, _, .directory⟩ =>
      blame s!"omitting directory {quoted passage.source}"
      status := 1
    | source =>
      let same := match source, entryAt disk passage.target with
        | .ok e, .ok (_, .file bytes) => e.node == .file bytes && o.has "C"
        | _, _ => false
      if !same then
        let standing := (entryAt disk passage.target).toOption
        let replaces := standing.any fun (loc, node) =>
          node != .directory && source.toOption.any fun e => !isSame disk loc e.loc
        if replaces && verbose && backup.isNone then sayText s!"removed {quoted passage.target}\n"
        let (fine, _) ← copyEntry c 1 none [] passage
        if fine then amendAt true passage.target fun r => { r with mode := some mode }
        else status := 1
  return status

end Tool

end Codemod.Shell

/-!
## Other names for entries

- `Tool.move` — entries get other names
- `Tool.link` — entries get one more name, or links that lead to them
-/

namespace Codemod.Shell.Tool

/-- How entries are renamed. -/
structure Moving where
  verbose : Bool
  keeps : Bool
  asks : Bool
  updates : Bool
  backup : Option Backup

/-- Gives an entry another name. The value tells whether that went well. -/
def moveEntry (m : Moving) (passage : Passage) : Tool Bool := do
  let source := passage.source
  let target := passage.target
  let disk := (← get).disk
  let fail (text : String) : Tool Bool := do
    blame text
    return false
  let stuck (cause : SystemError) : Tool Bool :=
    fail s!"cannot move {quoted source} to {quoted target}: {reason cause}"
  match entryAt disk source with
  | .error cause => fail s!"cannot stat {quoted source}: {reason cause}"
  | .ok (loc, node) =>
    let there := (entryAt disk target).toOption
    let reached := (disk.find target.toText).toOption
    let last := lastPart source []
    let isLink (node : Node) : Bool := match node with
      | .link _ => true
      | _ => false
    let sourceReached := (disk.find source.toText).toOption
    let same := there.any fun (place, other) =>
      isSame disk place loc || (!isLink other && isLink node
        && sourceReached.any fun (l, _) => l == place)
    let slashed := source.getLast? == some '/'
      && (entryAt disk (withoutEnd source)).toOption.any fun (_, n) => isLink n
    let inside (place : Location) : Bool :=
      node == .directory && loc.isPrefixOf place && place != loc
    let free := if slashed then Except.error SystemError.notDirectory
      else
        match disk.resolve false target.toText with
        | .free place slash =>
          if slash && node != .directory then .error .notDirectory else .ok place
        | .found place _ => .ok place
        | .crossing _ _ _ => .error .linkLoop
        | .failed cause => .error cause
    if same && !slashed then fail s!"{quoted source} and {quoted target} are the same file"
    else
      match node == .directory, there with
      | false, some (_, .directory) =>
        fail s!"cannot overwrite directory {quoted target} with non-directory"
      | isDirectory, there =>
        let isOther := there.any fun (_, n) => n != .directory
        if isDirectory && isOther && !slashed then
          fail s!"cannot overwrite non-directory {quoted target} with directory {quoted source}"
        else
          let proceeds ← match there with
            | none => pure true
            | some (place, _) =>
              if m.keeps then pure false
              else if m.updates && disk.modified place ≥ disk.modified loc then pure false
              else if m.asks then agrees s!"overwrite {quoted target}"
              else pure true
          if !proceeds then return true
          if last == ['.'] || last == ['.', '.'] || loc.isEmpty then return ← stuck (.code 16)
          match free with
          | .error cause => stuck cause
          | .ok place =>
            if inside place || (reached.any fun r => inside r.1) then
              fail s!"cannot move {quoted source} to a subdirectory of itself, {quoted target}"
            else
              let aside ← match m.backup, there with
                | some backup, some _ => do pure (some (← keepAside backup target))
                | _, _ => pure none
              let disk := (← get).disk
              if hasEntries disk place && (disk.get? place).isSome then
                fail s!"cannot overwrite {quoted target}: Directory not empty"
              else
                modify fun b => { b with disk := disk.rename loc place }
                if m.verbose then
                  sayText s!"renamed {quoted source} -> {quoted target}{asideText aside}\n"
                return true

/-- Gives entries other names. -/
def move : List Octets → Tool Nat :=
  withOptions ("b backup:: debug f,force i,interactive n,no-clobber no-copy strip-trailing-slashes S,suffix: "
    ++ "t,target-directory: T,no-target-directory u update:: v,verbose Z,context exchange") 1 fun o => do
  let some backup ← backupOf o | return 1
  let disk := (← get).disk
  let some passages ← passages o false (fun p => disk.isDirectory p.toText) | return 1
  let asked := o.last? ["f", "i", "n"]
  let updateWord := (o.value? "update").getD []
  let m : Moving :=
    { verbose := o.has "v" || o.has "debug"
      keeps := asked == some "n" || updateWord == "none".toList
      asks := asked == some "i"
      updates := o.has "u" || (o.has "update"
        && (updateWord.isEmpty || updateWord == "older".toList))
      backup }
  let mut status := 0
  let mut done : List Octets := []
  for passage in passages do
    let passage := if o.has "strip-trailing-slashes" then
        { passage with source := withoutEnd passage.source }
      else passage
    let isFile := ((entryAt (← get).disk passage.source).toOption).any fun e => e.2 != .directory
    if isFile && done.contains passage.target then
      blame s!"will not overwrite just-created {quoted passage.target} with {quoted passage.source}"
      status := 1
    else
      done := passage.target :: done
      if !(← moveEntry m passage) then status := 1
  return status

/-! ### Links -/

/-- How links are made. -/
structure Linking where
  symbolic : Bool
  force : Bool
  asks : Bool
  relative : Bool
  /-- A name for a link is one for what it leads to. -/
  logical : Bool
  verbose : Bool
  backup : Option Backup

/-- Where a link leads that is to be relative to the directory in which it stands. -/
def relativeLead (disk : FileSystem) (passage : Passage) : Octets :=
  let place := Canonical.none.of disk (firstPart passage.target).toText
  let source := Canonical.none.of disk passage.source.toText
  match place, source with
  | .ok place, .ok source =>
    let names := Canonical.relative place source
    if names.isEmpty then ['.'] else Octets.ofString (Location.text names)
  | _, _ => passage.source

/-- Makes one link. The value tells whether that went well. -/
def linkEntry (l : Linking) (passage : Passage) : Tool Bool := do
  let source := passage.source
  let target := passage.target
  let disk := (← get).disk
  let fail (text : String) : Tool Bool := do
    blame text
    return false
  let entry := Entry.at? disk l.logical source
  match l.symbolic, entry with
  | false, .error cause => fail s!"failed to access {quoted source}: {reason cause}"
  | false, .ok ⟨_, _, .directory⟩ => fail s!"{shown source}: hard link not allowed for directory"
  | _, entry =>
    let there := (entryAt disk target).toOption
    let kind := if l.symbolic then "symbolic" else "hard"
    let same := there.any fun (loc, _) =>
      (Entry.at? disk (!l.symbolic && l.logical) source).toOption.any fun e => isSame disk loc e.loc
    if there.isSome && (l.force || l.asks || l.backup.isSome) && same then
      return ← fail s!"{quoted source} and {quoted target} are the same file"
    if l.asks && there.isSome then
      if !(← agrees s!"replace {quoted target}") then return false
    if let some (_, .directory) := there then
      if l.force || l.asks || l.backup.isSome then
        return ← fail s!"{shown target}: cannot overwrite directory"
    let aside ← match l.backup, there with
      | some backup, some _ => do pure (some (← keepAside backup target))
      | _, _ => pure none
    if (l.force || l.asks) && aside.isNone then
      if let some (loc, _) := there then modify fun b => { b with disk := b.disk.erase loc }
    let leads := if l.relative then relativeLead disk passage else source
    let made ←
      if l.symbolic then
        if source.isEmpty then pure (.error .notFound) else putLink target leads.toText
      else
        match entry with
        | .ok e => putName e.loc e.node target
        | .error cause => pure (.error cause)
    match made with
    | .ok () =>
      let arrow := if l.symbolic then "->" else "=>"
      if l.verbose then sayText s!"{quoted target} {arrow} {quoted leads}{asideText aside}\n"
      return true
    | .error cause =>
      let after := if l.symbolic then (if source.isEmpty then s!" -> {quoted source}" else "")
        else if cause == .alreadyExists then "" else s!" => {quoted source}"
      fail s!"failed to create {kind} link {quoted target}{after}: {reason cause}"

/-- Makes links. -/
def link : List Octets → Tool Nat :=
  withOptions ("b backup:: d,F,directory f,force i,interactive L,logical n,no-dereference P,physical "
    ++ "r,relative s,symbolic S,suffix: t,target-directory: T,no-target-directory v,verbose") 1 fun o => do
  let some backup ← backupOf o | return 1
  if o.has "r" && !o.has "s" then
    blame "cannot do --relative without --symbolic"
    return 1
  let disk := (← get).disk
  let isDirectory (path : Octets) : Bool :=
    if o.has "n" then (entryAt disk path).toOption.any fun e => e.2 == .directory
    else disk.isDirectory path.toText
  let some passages ← passages o true isDirectory | return 1
  let l : Linking :=
    { symbolic := o.has "s"
      force := o.last? ["f", "i"] == some "f"
      asks := o.last? ["f", "i"] == some "i"
      relative := o.has "r"
      logical := o.last? ["L", "P"] == some "L"
      verbose := o.has "v"
      backup }
  let mut status := 0
  let mut done : List Octets := []
  for passage in passages do
    if done.contains passage.target then
      blame s!"will not overwrite just-created {quoted passage.target} with {quoted passage.source}"
      status := 1
    else
      done := passage.target :: done
      if !(← linkEntry l passage) then status := 1
  return status

/-- Gives a file one more name. -/
def linkOnce : List Octets → Tool Nat :=
  withOptions "" 1 fun o => do
  match o.operands with
  | [] => missingOperand 1
  | [source] => refuse 1 s!"missing operand after {quoted source}"
  | [source, target] =>
    let disk := (← get).disk
    let made ← match entryAt disk source with
      | .error cause => pure (.error cause)
      | .ok (_, .directory) => pure (.error (.code 1))
      | .ok (loc, node) => putName loc node target
    match made with
    | .ok () => return 0
    | .error cause =>
      blame s!"cannot create link {quoted target} to {quoted source}: {reason cause}"
      return 1
  | _ :: _ :: extra :: _ => extraOperand 1 extra

end Codemod.Shell.Tool
