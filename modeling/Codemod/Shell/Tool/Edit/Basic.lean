import Codemod.Shell.Tool.Edit.Desk
import Codemod.Shell.Tool.Options

/-!
# Editing files

- `Tool.edit` — prints files with their lines edited, or edits them in place
-/

namespace Codemod.Shell.Tool

namespace Edit

open Codemod.Shell.Edit

/-- The options. -/
def known : String :=
  "n,quiet,silent debug e,expression: f,file: follow-symlinks i,in-place:: l,line-length: posix "
    ++ "E,r,regexp-extended sandbox s,separate u,unbuffered z,null-data,zero-terminated b,binary"

/-- The first line of the advice on the use. -/
def usage : String :=
  "Usage: sed [OPTION]... \x7bscript-only-if-no-other-script\x7d [input-file]..."

/-- The parts of the script, and the files to be edited. -/
def parts (o : Options) : Tool (Except SystemError (List (Origin × Octets) × List Octets)) := do
  let mut found : List (Origin × Octets) := []
  let mut count := 0
  for (name, value) in o.given do
    if name == "e" then
      count := count + 1
      found := (.argument count, value) :: found
    else if name == "f" then
      match ← contentOf value with
      | .ok text => found := (.file value, text) :: found
      | .error cause =>
        blame s!"couldn't open file {value.toText}: {reason cause}"
        return .error cause
  match found, o.operands with
  | [], script :: files => return .ok ([(.argument 1, script)], files)
  | latest, files => return .ok (latest.reverse, files)

/-- A file to be edited. -/
def source (s : Settings) (name : Octets) : Tool Source := do
  let isInput := name == ['-'] && !s.inPlace
  if isInput then
    let b ← get
    match b.deaf with
    | some cause => return { name, lines := .error cause }
    | none =>
      return { name, lines := .ok (linesOf s.ending (← peek)), endless := b.endless }
  else return { name, lines := (← contentOf name).map (linesOf s.ending) }

/-- The name of the file that keeps what was there before. -/
def backupName (suffix name : Octets) : Octets :=
  let directory := (name.reverse.dropWhile (· != '/')).reverse
  let base := name.drop directory.length
  let kept := if suffix.contains '*' then suffix.flatMap fun c => if c == '*' then base else [c]
    else base ++ suffix
  if kept.contains '/' then kept else directory ++ kept

/-- Puts the new text of a file in its place. -/
def replace (suffix : Octets) (follows : Bool) (name text : Octets) : Tool Unit := do
  let b ← get
  let own : Option Location := match b.disk.resolve follows name.toText with
    | .found loc _ => some loc
    | _ => none
  match own, b.disk.find name.toText with
  | some loc, .ok (source, _) =>
    let mode := (b.disk.record source).mode
    let disk :=
      if suffix.isEmpty then b.disk.erase loc
      else
        match b.disk.writeTarget (backupName suffix name).toText with
        | .ok kept => b.disk.rename loc kept
        | .error _ => b.disk.erase loc
    let disk := disk.write loc (.file text.toContent) b.now
    set { b with disk := disk.amend loc fun r => { r with mode } }
  | _, _ => pure ()

/-- Opens the files to which lines are written; those are then empty. -/
def openTargets : List Octets → Tool (Option Edit.Fault)
  | [] => return none
  | path :: rest => do
    match ← store path.toText [] with
    | .ok _ => openTargets rest
    | .error cause => return some (.unopened path (reason cause))

/-- Edits files by a script. -/
def onFiles (o : Options) (s : Settings) (script : Script) (targets names : List Octets) :
    Tool Nat := do
  if let some fault ← openTargets targets then
    blame fault.message
    return 4
  let names := if names.isEmpty then [['-']] else names
  let readsInput := !names.contains ['-'] && script.commands.any fun c =>
    match c.action with
    | .readFile path => path == "/dev/stdin".toList
    | _ => false
  let input ← if readsInput then readAll else pure []
  let sources ← names.mapM (source s)
  let settings := { s with quiet := s.quiet || script.quiet, input }
  let desk : Desk :=
    { settings, disk := (← get).disk, sources, ranges := script.commands.map initialRange }
  let (status, desk) := (work script).run desk
  let isComplaint (w : Channel × Octets) : Bool := w.1 == .complaint
  let latest := if o.has "u" then desk.written
    else desk.written.filter (!isComplaint ·) ++ desk.written.filter isComplaint
  modify fun b => { b with written := latest ++ b.written }
  for (path, sink) in desk.files do
    let _ ← store path.toText sink.text
  for (name, text) in desk.edited.reverse do
    replace ((o.value? "i").getD []) (o.has "follow-symlinks") name text
  if names.contains ['-'] && !s.inPlace then
    let begun := !(desk.sources.any (·.name == ['-']))
    let left := if desk.name == ['-'] then desk.left else []
    if begun then leave (left.flatMap fun l => if l.complete then l.text ++ [s.ending] else l.text)
    if o.has "u" then modify fun b => { b with exact := true }
  if desk.stuck then modify fun b => { b with stuck := true }
  return status

end Edit

open Codemod.Shell.Edit in
/-- Prints files with their lines edited by a script, or edits them in place. -/
def edit (arguments : List Octets) : Tool Nat := do
  match Options.read (Options.known (Edit.known ++ " help version")) arguments true with
  | .error refusal =>
    blame s!"{refusal.message}\n{Edit.usage}"
    return 1
  | .ok o =>
    let hasScript := o.has "e" || o.has "f"
    if !hasScript && o.operands.isEmpty then
      complain Edit.usage
      return 1
    match ← Edit.parts o with
    | .error _ => return 4
    | .ok (parts, names) =>
      let inPlace := o.has "i"
      let width := ((o.value? "l").bind natural?).getD 70
      let settings : Settings :=
        { tool := (← get).tool
          quiet := o.has "n"
          strict := o.has "posix"
          separate := o.has "s" || inPlace
          inPlace
          ending := if o.has "z" then '\x00' else '\n'
          width }
      let manner : Manner :=
        { extended := o.has "E", nul := o.has "z", sandboxed := o.has "sandbox" }
      match readScript manner parts with
      | .error refusal =>
        blame refusal.text
        return refusal.status
      | .ok (script, targets) =>
        if inPlace && names.isEmpty then
          blame "no input files"
          return 4
        Edit.onFiles o settings script targets names

end Codemod.Shell.Tool
