import Codemod.Shell.Calendar
import Codemod.Shell.Permission
import Codemod.Shell.Tool.Options
import Codemod.Shell.Tool.Removal

/-!
# Making and changing entries

- `Tool.makeDirectory`, `Tool.touch`, `Tool.makeScratch`, `Tool.resize` — new directories and files
- `Tool.changeMode`, `Tool.changeOwner` — permissions and owners
-/

namespace Codemod.Shell.Tool

/-- What is kept about a new entry with some permissions. -/
def stamped (b : Bench) (loc : Location) (mode : Option Nat) (usual : Nat) : FileSystem :=
  let mode := mode.or (if b.mask == 0o022 then none else some (usual &&& (0o777 ^^^ b.mask)))
  b.disk.amend loc fun _ => { mode, modified := some b.now }

/-- Makes a directory. -/
def putDirectory (path : Octets) (mode : Option Nat) : Tool Bool := do
  let before ← get
  if ← change s!"cannot create directory {quoted path}" (·.createDirectory path.toText) then
    let b ← get
    match b.disk.find path.toText with
    | .ok (loc, _) =>
      if (before.disk.get? loc).isNone then set { b with disk := stamped b loc mode 0o777 }
    | .error _ => pure ()
    return true
  else return false

/-- A path as the paths that lead to it, shortest first. -/
def pathsDown (path : Octets) : List Octets :=
  let names := (path.splitOn '/').filter (!·.isEmpty)
  let front : Octets := if path.head? == some '/' then ['/'] else []
  (List.range names.length).map fun i => front ++ List.intercalate ['/'] (names.take (i + 1))

/-- Makes directories, perhaps with those above them. -/
def makeDirectory : List Octets → Tool Nat :=
  withOptions "m,mode: p,parents v,verbose Z,context::" 1 fun o => do
  if o.operands.isEmpty then return ← missingOperand 1
  let mode ← match o.value? "m" with
    | none => pure none
    | some text =>
      match Permission.changed? true 0 0o777 text with
      | some mode => pure (some mode)
      | none =>
        blame s!"invalid mode {quoted text}"
        return 1
  let made (path : Octets) : Tool Unit := do
    if o.has "v" then sayText s!"{(← get).tool}: created directory {quoted path}\n"
  let mut status := 0
  for path in o.operands do
    if o.has "p" then
      let paths : List Octets := if path.isEmpty then [[]] else pathsDown path
      let mut going := true
      for (part, i) in paths.zipIdx do
        let disk := (← get).disk
        let last := i + 1 == paths.length
        if going && !disk.isDirectory part.toText then
          if !last && disk.pathExists part.toText then
            blame s!"cannot create directory {quoted part}: Not a directory"
            going := false
          else
            going ← putDirectory part (if last then mode else none)
            if going then made part
      if !going then status := 1
    else if ← putDirectory path mode then made path
    else status := 1
  return status

/-! ### Times -/

/-- The time of digits: perhaps a century and a year, then month, day, hour and minute, and perhaps
seconds after a point. -/
def compactTime? (now : Int) (text : Octets) : Option Int := do
  let (ds, rest) := text.span Char.isDigit
  let seconds ← match rest with
    | [] => some 0
    | ['.', a, b] => natural? [a, b]
    | _ => none
  let n (k : Nat) : Nat := (natural? ((ds.drop k).take 2)).getD 0
  let (year, k) ← match ds.length with
    | 8 => some ((Moment.ofNanoseconds now).year, 0)
    | 10 => some (((if n 0 < 69 then 2000 else 1900) + n 0 : Nat), 2)
    | 12 => some ((n 0 * 100 + n 2 : Nat), 4)
    | _ => none
  let (month, day) := (n k, n (k + 2))
  if month < 1 || 12 < month || day < 1 || Timestamp.daysInMonth year month < day then none
  if n (k + 4) > 23 || n (k + 6) > 59 || seconds > 60 then none
  let time : Nat := n (k + 4) * 3600 + n (k + 6) * 60 + seconds
  return (Timestamp.daysOfDate year month day * 86400 + time) * 10 ^ 9

/-- Sets the times of files, which are made when they are missing. -/
def touch : List Octets → Tool Nat :=
  withOptions "a c,no-create d,date: f h,no-dereference m r,reference: t: time:" 1 fun o => do
  let b ← get
  let time ← match o.value? "t", o.value? "d", o.value? "r" with
    | some text, _, _ =>
      match compactTime? b.now text with
      | some time => pure time
      | none =>
        blame s!"invalid date format {quoted text}"
        return 1
    | none, some text, _ =>
      match Moment.read? b.now text with
      | some time => pure time
      | none =>
        blame s!"invalid date format {quoted text}"
        return 1
    | none, none, some name =>
      match b.disk.find name.toText with
      | .ok (loc, _) => pure (b.disk.modified loc)
      | .error cause =>
        blame s!"failed to get attributes of {quoted name}: {reason cause}"
        return 1
    | none, none, none => pure b.now
  if o.operands.isEmpty then return ← refuse 1 "missing file operand"
  let keeps := o.has "a" && !o.has "m"
  let mut status := 0
  for path in o.operands do
    let disk := (← get).disk
    let mark (loc : Location) : Tool Unit :=
      modify fun b =>
        let all := loc :: b.disk.twins loc
        { b with disk := all.foldl (fun disk l =>
            disk.amend l fun r => { r with modified := some time }) b.disk }
    match if o.has "h" then entryAt disk path else disk.find path.toText with
    | .ok (loc, _) => if !keeps then mark loc
    | .error cause =>
      if cause == .notFound && o.has "c" then pure ()
      else if devices.contains path.toText || path == ['-'] then pure ()
      else
        let made := if cause == .notFound then disk.writeTarget path.toText else .error cause
        match made with
        | .ok loc =>
          modify fun b => { b with disk := b.disk.set loc (.file ByteArray.empty) }
          modify fun b => { b with disk := stamped b loc none 0o666 }
          mark loc
        | .error other =>
          if cause == .notFound && other == .isDirectory then
            blame s!"setting times of {quoted path}: {reason cause}"
          else blame s!"cannot touch {quoted path}: {reason other}"
          status := 1
  return status

/-! ### Scratch files -/

/-- Signs in the place of the marks of a template; a number chooses them. -/
def chosenSigns (count n : Nat) : Octets :=
  let signs := "abcdefghijklmnopqrstuvwxyzABCDEFGHIJKLMNOPQRSTUVWXYZ0123456789".toList
  (List.range count).map fun i => signs.getD ((n + 7919 * (i + 1)) / 62 ^ (i % 4) % 62) 'a'

/-- Makes a file or directory with a new name. -/
def makeScratch : List Octets → Tool Nat :=
  withOptions "d,directory u,dry-run q,quiet suffix: p: tmpdir:: t" 1 fun o => do
  let b ← get
  match o.operands with
  | _ :: extra :: _ => refuse 1 "too many templates" <* pure extra
  | operands =>
    let template := operands.headD "tmp.XXXXXXXXXX".toList
    let temporary := ((b.environment.lookup "TMPDIR".toList).filter (!·.isEmpty)).getD "/tmp".toList
    let place : Option Octets :=
      match (o.value? "p").or (o.value? "tmpdir") with
      | some given => some (if given.isEmpty then temporary else given)
      | none => if operands.isEmpty || o.has "t" then some temporary else none
    let quiet := o.has "q"
    let fail (text : String) : Tool Nat := do
      if !quiet then blame text
      return 1
    let (before, ending) : Octets × Octets :=
      match o.value? "suffix" with
      | some ending => (template, ending)
      | none =>
        let tail := (template.reverse.takeWhile (· != 'X')).reverse
        (template.take (template.length - tail.length), tail)
    let count := (before.reverse.takeWhile (· == 'X')).length
    if count < 3 then fail s!"too few X's in template {quoted template}"
    else
      let front := before.take (before.length - count)
      let whole (signs : Octets) : Octets :=
        let name := front ++ signs ++ ending
        match place with
        | some directory => directory ++ '/' :: name
        | none => name
      let start := ((b.now / 1000).toNat + b.disk.entries.length) % 10 ^ 9
      let path := ((List.range (b.disk.entries.length + 1)).map fun i =>
        whole (chosenSigns count (start + i))).find?
        (fun path => !b.disk.isTaken path.toText) |>.getD (whole (chosenSigns count start))
      let kind := if o.has "d" then "directory" else "file"
      if o.has "u" then
        say (path ++ ['\n'])
        return 0
      else
        let made := if o.has "d" then b.disk.createDirectory path.toText
          else b.disk.createFile path.toText ByteArray.empty
        match made with
        | .ok disk =>
          let disk := match disk.find path.toText with
            | .ok (loc, _) =>
              disk.amend loc fun _ =>
                { mode := some (if o.has "d" then 0o700 else 0o600), modified := some b.now }
            | .error _ => disk
          set { b with disk }
          say (path ++ ['\n'])
          return 0
        | .error cause =>
          let template := quoted (whole (List.replicate count 'X'))
          fail s!"failed to create {kind} via template {template}: {reason cause}"

/-! ### Sizes -/

/-- A size after a change that a text describes. -/
def newSize? (text : Octets) (old : Nat) : Option Nat :=
  match text with
  | '+' :: ds => (Size.read? ds).map (old + ·)
  | '-' :: ds => (Size.read? ds).map (old - ·)
  | '<' :: ds => (Size.read? ds).map (min old)
  | '>' :: ds => (Size.read? ds).map (max old)
  | '/' :: ds => (Size.read? ds).map fun n => old / n * n
  | '%' :: ds => (Size.read? ds).map fun n => if n == 0 then old else (old + n - 1) / n * n
  | ds => Size.read? ds

/-- Gives files another size; what is new is zeros. -/
def resize : List Octets → Tool Nat :=
  withOptions "c,no-create o,io-blocks r,reference: s,size:" 1 fun o => do
  let b ← get
  if (o.value? "s").isNone && (o.value? "r").isNone then
    return ← refuse 1 "you must specify either '--size' or '--reference'"
  let bare (text : Octets) : Octets := text.dropWhile fun c => "+-<>/%".toList.contains c
  if let some text := o.value? "s" then
    if (newSize? text 0).isNone then
      blame s!"Invalid number: {quoted (bare text)}"
      return 1
    if (text.head? == some '/' || text.head? == some '%') && Size.read? (bare text) == some 0 then
      blame "division by zero"
      return 1
  if o.operands.isEmpty then return ← refuse 1 "missing file operand"
  let reference ← match o.value? "r" with
    | none => pure none
    | some name =>
      match b.disk.find name.toText with
      | .ok (_, .file bytes) => pure (some bytes.size)
      | .ok _ => pure (some 0)
      | .error cause =>
        blame s!"cannot stat {quoted name}: {reason cause}"
        return 1
  let mut status := 0
  for path in o.operands do
    let disk := (← get).disk
    let old := ((disk.readBytes path.toText).toOption.map Octets.ofBytes)
    if old.isNone && o.has "c" && !disk.pathExists path.toText then pure ()
    else
      let text := old.getD []
      let size := (o.value? "s").bind fun s => newSize? s (reference.getD text.length)
      let size := (size.or reference).getD text.length
      let resized := text.take size ++ List.replicate (size - text.length) '\x00'
      match ← store path.toText resized with
      | .ok () => pure ()
      | .error cause =>
        blame s!"cannot open {quoted path} for writing: {reason cause}"
        status := 1
  return status

/-! ### Permissions and owners -/

/-- The paths below a path, with their locations, each directory before what is in it. -/
def pathsBelow (disk : FileSystem) (depth : Nat) (path : Octets) (loc : Location) :
    List (Octets × Location) :=
  match depth with
  | 0 => []
  | depth + 1 =>
    (sortedNames disk loc).flatMap fun name =>
      let slash : Octets := if path.getLast? == some '/' then [] else ['/']
      let inner := loc ++ [name.toText]
      (path ++ slash ++ name, inner) ::
        (if disk.get? inner == some .directory then
          pathsBelow disk depth (path ++ slash ++ name) inner
        else [])

/-- A word is a change of permissions that begins with a dash. -/
def isModeWord (a : Octets) : Bool :=
  match a with
  | '-' :: c :: rest =>
    "rwxXstugoa0123456789".toList.contains c && rest.all "rwxXstugoa0123456789,+=-".toList.contains
  | _ => false

/-- Changes permissions. -/
def changeMode (arguments : List Octets) : Tool Nat := do
  let (front, back) := arguments.span (!isModeWord ·)
  let given : List Octets := match back with
    | word :: _ => [word]
    | [] => []
  match Options.read (Options.known ("R,recursive v,verbose c,changes f,silent,quiet reference: "
      ++ "preserve-root no-preserve-root help version")) (front ++ back.drop 1) true with
  | .error refusal => refuse 1 refusal.message
  | .ok o =>
    let b ← get
    let (text, names) : Option Octets × List Octets :=
      if o.has "reference" then (none, o.operands)
      else
        match given ++ o.operands with
        | text :: names => (some text, names)
        | [] => (none, [])
    let fixed := (o.value? "reference").bind fun name =>
      (b.disk.find name.toText).toOption.map fun (loc, node) => b.disk.mode loc node
    match text, names with
    | none, [] => missingOperand 1
    | some text, [] => refuse 1 s!"missing operand after {quoted text}"
    | text, names =>
      let after (isDirectory : Bool) (old : Nat) : Option Nat :=
        match text with
        | some text => Permission.changed? isDirectory b.mask old text
        | none => fixed
      if (after false 0o644).isNone then
        return ← match text with
          | some text => refuse 1 s!"invalid mode: {quoted text}"
          | none => do
            let name := (o.value? "reference").getD []
            blame s!"failed to get attributes of {quoted name}: No such file or directory"
            return 1
      let mut status := 0
      for name in names do
        let disk := (← get).disk
        match disk.find name.toText with
        | .error cause =>
          if !o.has "f" then blame s!"cannot access {quoted name}: {reason cause}"
          status := 1
        | .ok (loc, _) =>
          let below := if o.has "R" then pathsBelow disk (disk.entries.length + 1) name loc else []
          for (path, loc) in (name, loc) :: below do
            let disk := (← get).disk
            match disk.get? loc with
            | none | some (.link _) => pure ()
            | some node =>
              let old := disk.mode loc node
              let mode := (after (node == .directory) old).getD old
              let all := loc :: disk.twins loc
              modify fun b =>
                { b with disk := all.foldl (fun disk l =>
                    disk.amend l fun r => { r with mode := some mode }) b.disk }
              let shownMode (mode : Nat) : String :=
                s!"{Permission.octal 4 mode} ({Permission.row mode})"
              if mode != old && (o.has "v" || o.has "c") then
                sayText s!"mode of {quoted path} changed from {shownMode old} to {shownMode mode}\n"
              else if o.has "v" then
                sayText s!"mode of {quoted path} retained as {shownMode mode}\n"
      return status

/-- The users and groups that there are. -/
def knownNames : List String :=
  ["root", "daemon", "bin", "sys", "adm", "sync", "games", "man", "lp", "mail", "news", "uucp",
    "proxy",
    "www-data", "backup", "list", "irc", "nobody", "nogroup", "staff", "users", "tty", "disk",
      "sudo"]

/-- Changes owners; all that it does is to check its arguments. -/
def changeOwner (kind : String) : List Octets → Tool Nat :=
  withOptions ("R,recursive v,verbose c,changes f,silent,quiet h,no-dereference dereference from: "
    ++ "reference: H L P preserve-root no-preserve-root") 1 fun o => do
  let isKnown (name : Octets) : Bool :=
    name.isEmpty || name.all Char.isDigit || knownNames.contains name.toText
  let (owner, names) : Octets × List Octets :=
    if o.has "reference" then ([], o.operands) else (o.operands.headD [], o.operands.drop 1)
  let parts := owner.splitOnP fun c => c == ':'
  if o.operands.isEmpty then missingOperand 1
  else if names.isEmpty then refuse 1 s!"missing operand after {quoted owner}"
  else if kind == "group" && !isKnown owner then
    blame s!"invalid group: {quoted owner}"
    return 1
  else if !isKnown (parts.headD []) then
    blame s!"invalid user: {quoted owner}"
    return 1
  else if !isKnown (parts.getD 1 []) then
    blame s!"invalid group: {quoted owner}"
    return 1
  else
    let mut status := 0
    for name in names do
      if let .error cause := (← get).disk.find name.toText then
        if !o.has "f" then blame s!"cannot access {quoted name}: {reason cause}"
        status := 1
    return status

end Codemod.Shell.Tool
