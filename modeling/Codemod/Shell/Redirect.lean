import Codemod.Shell.Expand
import Codemod.Shell.Grammar

/-!
# Redirections

- `Shell.openFile` — a file as a stream
- `Shell.redirect` — the streams of a command
- `Shell.underRedirections` — a command whose streams are its own
- `Shell.staticStreams` — where streams go, as far as the script shows it
-/

namespace Codemod.Shell

/-- The number of the stream that a path stands for. -/
def streamPath? (path : String) : Option Nat :=
  match path with
  | "/dev/stdin" => some 0
  | "/dev/stdout" => some 1
  | "/dev/stderr" => some 2
  | path =>
    ["/dev/fd/", "/proc/self/fd/"].findSome? fun directory =>
      if path.startsWith directory then Tool.natural? (path.toList.drop directory.length) else none

/-- The stream of a device. -/
def device? (path : String) : Option Stream :=
  match path with
  | "/dev/null" => some .nowhere
  | "/dev/full" => some .full
  | "/dev/zero" => some .full
  | "/dev/urandom" | "/dev/random" => some (.incoming (List.replicate Tool.manyZeros 'k') true)
  | _ => none

/-- The permissions of a new file. -/
def newFileMode (m : Machine) : Option Nat :=
  if m.mask == 0o022 then none else some (0o666 &&& (0o777 ^^^ m.mask))

/-- The machine with a file of its disk opened at a location. -/
def openAt (m : Machine) (loc : Location) (direction : Direction) : Machine × Stream :=
  let old := match m.disk.get? loc with
    | some (.file bytes) => some bytes
    | _ => none
  let disk :=
    if direction == .output || direction == .overwrite || old.isNone then
      m.disk.write loc (.file .empty) m.now
    else m.disk
  let disk :=
    if old.isNone then disk.amend loc fun r => { r with mode := newFileMode m } else disk
  let (identity, disk) := disk.identify loc
  let f : OpenFile :=
    { identity
      before := match disk.get? loc with
        | some (.file bytes) => bytes
        | _ => .empty
      reads := direction == .input || direction == .both
      writes := direction != .input
      appends := direction == .append }
  ({ m with disk }, .file f)

/-- The machine with a file opened by its path. -/
def openFile (m : Machine) (path : String) (direction : Direction) :
    Except SystemError (Machine × Stream) :=
  match device? path with
  | some stream => .ok (m, stream)
  | none =>
    match direction with
    | .input =>
      match m.disk.find path with
      | .ok (loc, .file _) => .ok (openAt m loc .input)
      | .ok (_, .directory) => .ok (m, .directory)
      | .ok (_, .link _) => .error .linkLoop
      | .error cause => .error cause
    | direction =>
      match m.disk.writeTarget path with
      | .ok loc =>
        if direction == .output && m.keepsFiles && (m.disk.get? loc).isSome then
          .error .alreadyExists
        else .ok (openAt m loc direction)
      | .error cause => .error cause

/-- Why a file could not be opened, as the shell says it. -/
def openFailure (missing : String) (cause : SystemError) : String :=
  if cause == .notFound || cause == .notDirectory then missing else Tool.reason cause

/-- Gives a stream what another one has, closes it, or says that there is no other one. -/
def duplicate (r : Redirection) (target : Octets) : Act Bool := do
  let m ← get
  let take (n : Nat) : Act Bool := do
    match m.streams.lookup n with
    | some opening =>
      set (m.bound r.stream (some opening))
      return true
    | none =>
      Act.complain s!"{n}: Bad file descriptor"
      return false
  match target, Tool.natural? target with
  | ['-'], _ =>
    set (m.bound r.stream none)
    return true
  | [_], some n => take n
  | _, some n => if m.rich.isOn then take n else Act.fail "Syntax error: Bad fd number"
  | target, none =>
    if m.rich.isOn then
      Act.complain s!"{target.toText}: ambiguous redirect"
      return false
    else Act.fail "Syntax error: Bad fd number"

/-- The target of a redirection, if it is one. In the rich language it is one only when it stands
for one word. -/
def targetOf? (capture : Expand.Capture) (r : Redirection) : Act (Option Octets) := do
  if (← get).rich.isOn && r.direction != .text then
    match ← Expand.fields capture r.target with
    | [target] => return some target
    | _ =>
      Act.complain s!"{Grammar.Token.plain (.word r.target)}: ambiguous redirect"
      return none
  else return some (← Expand.text capture r.target)

/-- Says why a file could not be opened. -/
def refuseOpening (direction : Direction) (path : String) (cause : SystemError) : Act Bool := do
  let m ← get
  if m.rich.isOn then
    let what :=
      if cause == .alreadyExists then "cannot overwrite existing file" else Tool.reason cause
    Act.complain s!"{path}: {what}"
  else if direction == .input then
    Act.complain (s!"cannot open {path}: " ++ openFailure "No such file" cause)
  else Act.complain (s!"cannot create {path}: " ++ openFailure "Directory nonexistent" cause)
  return false

/-- Opens a file, or takes the stream that a path stands for. -/
def openTarget (r : Redirection) (direction : Direction) (path : String) : Act Bool := do
  let m ← get
  match if m.rich.planted.isEmpty then streamPath? path else none with
  | some n =>
    match m.streams.lookup n with
    | some opening =>
      set (m.bound r.stream (some opening))
      return true
    | none => refuseOpening direction path .notFound
  | none =>
    match openFile m path direction with
    | .ok (m, stream) =>
      set (m.attach r.stream stream)
      return true
    | .error cause => refuseOpening direction path cause

/-- Applies one redirection; whether that went well. -/
def redirectOne (capture : Expand.Capture) (r : Redirection) : Act Bool := do
  match ← targetOf? capture r with
  | none => return false
  | some target =>
    match r.direction with
    | .text =>
      modify fun m => m.attach r.stream (.incoming target false)
      return true
    | .duplicate => duplicate r target
    | .everything appends => do
      if !(← openTarget { r with stream := 1 } (if appends then .append
        else .output) target.toText) then
        return false
      modify fun m => m.bound 2 (m.streams.lookup 1)
      return true
    | direction => openTarget r direction target.toText

/-- Applies redirections from left to right up to the first that fails. -/
def redirect (capture : Expand.Capture) : List Redirection → Act Bool
  | [] => return true
  | r :: rest => do if ← redirectOne capture r then redirect capture rest else return false

/-- The streams that a redirection changes. -/
def changedBy (r : Redirection) : List Nat :=
  match r.direction with
  | .everything _ => [1, 2]
  | _ => [r.stream]

/-- The machine with the streams of some redirections as they were before. -/
def restored (before : Machine) (rs : List Redirection) (m : Machine) : Machine :=
  before.cleared
    ((rs.flatMap changedBy).foldl (fun m n => m.bound n (before.streams.lookup n)) m)

/-- Runs a body under redirections, which end with it. When one of them fails the body is not run;
that ends the script if it is `fatal`. -/
def underRedirections (capture : Expand.Capture) (rs : List Redirection) (body : Act Nat)
    (fatal : Bool := false) : Act Nat := do
  if rs.isEmpty then body
  else
    let before ← get
    if ← redirect capture rs then
      try
        let status ← body
        modify (restored before rs)
        return status
      catch stop =>
        modify (restored before rs)
        throw stop
    else
      modify (restored before rs)
      if before.rich.isOn then return 1
      if fatal then throw (.exit 2)
      return 2

/-- The plain text of a word without expansions. -/
def literalTarget : Word → Option Octets
  | [.plain text] => some text
  | [.literal text] => some text
  | _ => none

/-- Where the streams go after redirections, as far as that is plain to see. -/
def staticStreams (streams : List (Nat × Stream)) : List Redirection → List (Nat × Stream)
  | [] => streams
  | r :: rest =>
    let others := streams.filter (·.1 != r.stream)
    match r.direction with
    | .duplicate =>
      match (literalTarget r.target).bind Tool.natural? |>.bind fun n => streams.lookup n with
      | some stream => staticStreams ((r.stream, stream) :: others) rest
      | none => staticStreams others rest
    | .everything _ =>
      staticStreams ((1, .nowhere) :: (2, .nowhere) :: streams.filter fun (n, _) => n != 1
        && n != 2) rest
    | _ => staticStreams ((r.stream, .nowhere) :: others) rest

/-- The redirections of a command as a whole. -/
def ownRedirections : Command → List Redirection
  | .simple _ _ _ rs | .subshell _ rs | .group _ rs | .branch _ _ _ rs | .loop _ _ _ rs
  | .each _ _ _ rs | .choice _ _ rs | .calculate _ _ rs | .propose _ _ rs | .loopWith _ _ _ _ _ rs
  | .menu _ _ _ rs => rs
  | _ => []

/-- The script's own channels that a command holds while it runs. -/
def channelsOf (m : Machine) (command : Command) : List Channel :=
  let streams := m.streams.filterMap fun (n, opening) =>
    (m.openings[opening]?).map fun stream => (n, stream)
  (staticStreams streams (ownRedirections command)).filterMap fun (_, stream) =>
    match stream with
    | .own channel => some channel
    | _ => none

end Codemod.Shell
