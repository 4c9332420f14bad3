import Codemod.Cli.Run
import Codemod.FileSystem.Basic

/-!
# The program on real files

The files below the working directory and the workspace are taken up, with the ignore rules that the
user has for all repositories; the program runs on them as a value, and what it changed is put back.
-/

namespace Codemod.Cli.Disk

/-- The absolute path of a location. -/
def pathOf (place : Location) : String := "/" ++ Location.text place

/-- The location of an absolute path. -/
def placeOf (path : String) : Location := Path.names path

/-- The names of ignore lists, below a directory. -/
def ignoreLists : List Location := [[".gitignore"], [".ignore"], [".git", "info", "exclude"]]

/-- Takes up a file, if there is one that can be read. -/
def takeFile (fs : FileSystem) (place : Location) : IO FileSystem := do
  try
    return fs.plant place (.file (← IO.FS.readBinFile (pathOf place)))
  catch _ => return fs

/-- Takes up the ignore lists of a directory. -/
def takeIgnoreLists (fs : FileSystem) (place : Location) : IO FileSystem :=
  ignoreLists.foldlM (fun fs name => takeFile fs (place ++ name)) fs

/-- How deep directories are followed. -/
def maxDepth : Nat := 100

/-- Takes up what is below a directory; of a repository's own directory only the ignore list. -/
def takeBelow : (depth : Nat) → FileSystem → Location → IO FileSystem
  | 0, fs, _ => return fs
  | depth + 1, fs, place => do
    let mut fs := fs.plant place .directory
    for entry in ← (← IO.FS.realPath (pathOf place)).readDir do
      let inner := place ++ [entry.fileName]
      match (← entry.path.symlinkMetadata).type with
      | .dir =>
        if entry.fileName == ".git" then fs ← takeIgnoreLists (fs.plant inner .directory) place
        else fs ← takeBelow depth fs inner
      | .file => fs ← takeFile fs inner
      | .symlink =>
        let target ← try pure (← IO.FS.realPath entry.path).toString catch _ => pure ""
        fs := fs.plant inner (.link target)
      | .other => pure ()
    return fs

/-- Takes up the user's rules for all repositories, and the configurations that may say where they
are. -/
def takeExcludes (env : SystemEnvironment) (fs : FileSystem) : IO FileSystem := do
  let take (fs : FileSystem) (path : String) : IO FileSystem :=
    if Path.isAbsolute path then takeFile fs (placeOf path) else return fs
  let configurations :=
    (env.home?.map fun home => Path.join home ".gitconfig").toList
      ++ (env.configurationHome?.map fun home => Path.join home "git/config").toList
  let fs ← configurations.foldlM take fs
  (Ignore.Excludes.path? fs env).toList.foldlM take fs

/-- The files that a run with the given words may look at. -/
def takeUp (env : Environment) (here : Location) (words : List String) : IO FileSystem := do
  let above := (List.range here.length).map here.take
  let fs ← above.foldlM takeIgnoreLists
    (((default : FileSystem).plant (placeOf ((env.get? "TMPDIR").getD "/tmp")) .directory).plant
      here .directory)
  let fs ← takeExcludes env (← takeBelow maxDepth (fs.enter here) here)
  match Invocation.ofWords words with
  | .ok { command := .migrate _ options, .. } =>
    match Workspace.resolve env options.workspace with
    | .ok path =>
      if Path.isAbsolute path && !here.isPrefixOf (placeOf path) then
        try takeBelow maxDepth fs (placeOf path) catch _ => return fs
      else return fs
    | .error _ => return fs
  | _ => return fs

/-- Puts back what is different. -/
def putBack (before after : FileSystem) : IO Unit := do
  for (place, node) in before.entries.reverse do
    if (after.get? place).isNone then
      match node with
      | .directory => IO.FS.removeDirAll (pathOf place)
      | _ => IO.FS.removeFile (pathOf place)
  for (place, node) in after.entries do
    if before.get? place != some node then
      match node with
      | .directory => IO.FS.createDirAll (pathOf place)
      | .file bytes =>
        IO.FS.createDirAll (pathOf place.dropLast)
        IO.FS.writeBinFile (pathOf place) bytes
      | .link _ => pure ()

/-- The variables of the environment. -/
def environment : IO Environment := do
  let bytes ← try IO.FS.readBinFile "/proc/self/environ" catch _ => pure .empty
  let entries := (Text.Utf8.decode bytes.data.toList).splitOn '\x00'
  return entries.foldl
    (fun env entry =>
      let (name, value) := entry.span (· != '=')
      if value.isEmpty then env else env.set (String.ofList name) (String.ofList (value.drop 1)))
    {}

/-- When the program was started. -/
def startTime : IO Timestamp := do
  let modified := (← (← IO.FS.realPath "/proc/self").metadata).modified
  return ⟨modified.sec, modified.nsec.toNat⟩

end Codemod.Cli.Disk

open Codemod Codemod.Cli in
/-- Runs the program on the files of the machine. -/
def main (words : List String) : IO UInt32 := do
  let env ← Disk.environment
  let here := Disk.placeOf (← IO.currentDir).toString
  let disk ← Disk.takeUp env here words
  let exit := Cli.run env (← Disk.startTime) disk words
  Disk.putBack disk exit.terminal.disk
  IO.eprint exit.terminal.notes
  IO.print exit.terminal.output
  IO.eprint exit.complaint
  return exit.status.toUInt32
