import Codemod.Instance
import Codemod.SystemError

/-!
# Path texts

A path is a text of names separated by slashes. A location is the list of names from the root, with
nothing left to resolve.

- `Path.names` — the names of a path text
- `Path.join`, `Path.parent?` — combining and shortening path texts
- `Location.le` — the order that compares name by name
-/

namespace Codemod

/-- The names from the root to an entry of a file system. -/
abbrev Location := List String

namespace Location

/-- Compares name by name: a directory's entries stay together, before longer siblings. -/
def le : Location → Location → Bool
  | [], _ => true
  | _ :: _, [] => false
  | a :: as, b :: bs => if a == b then le as bs else decide (a < b)

/-- The text of a relative location. -/
def text (names : Location) : String := String.intercalate "/" names

end Location

namespace Path

/-- The path begins at the root. -/
def isAbsolute (path : String) : Bool := path.toList.head? == some '/'

/-- The path ends in a slash, and so means a directory. -/
def endsInSlash (path : String) : Bool := path.toList.getLast? == some '/'

/-- The path without the slashes at its end; the root keeps one. -/
def withoutSlashes (path : String) : String :=
  match path.toList.reverse.dropWhile (· == '/') with
  | [] => if path.isEmpty then "" else "/"
  | cs => String.ofList cs.reverse

/-- The names between the slashes; empty ones do not count. -/
def names (path : String) : List String :=
  ((path.toList.splitOn '/').filter (fun name => !name.isEmpty)).map String.ofList

/-- `path` seen from `base`: an absolute path stands for itself. -/
def join (base path : String) : String :=
  if isAbsolute path then path
  else if base.isEmpty || endsInSlash base then base ++ path
  else base ++ "/" ++ path

/-- Splits off the last name with the slash before it, going over slashes and dot names at the end
of the reversed text. -/
def parentOfReversed : List Char → Option (List Char)
  | [] => none
  | ['/'] => none
  | '/' :: rest => parentOfReversed rest
  | '.' :: '/' :: rest => parentOfReversed ('/' :: rest)
  | cs =>
    match cs.dropWhile (· != '/') with
    | [] => some []
    | before => some (closing before)
where
  /-- Takes slashes and dot names from the end, the root slash excepted. -/
  closing : List Char → List Char
    | ['/'] => ['/']
    | '/' :: '.' :: '/' :: rest => closing ('/' :: rest)
    | '/' :: rest => closing rest
    | cs => cs

/-- The path of the directory that holds the last name; none for the root and the empty path. -/
def parent? (path : String) : Option String :=
  (parentOfReversed path.toList.reverse).map fun cs => String.ofList cs.reverse

end Path

end Codemod

/-!
## File systems as values

A file system is a finite map from locations to files, directories and symbolic links. The order of
the entries is the order in which a directory lists them; nothing else depends on it. Paths are
resolved as the operating system does: name by name, through symbolic links, against a working
directory.

- `FileSystem.get?`, `FileSystem.set`, `FileSystem.erase` — the map
- `FileSystem.resolve` — from a path to a location
- `FileSystem.sharesFile`, `FileSystem.overwrite` — names of one file, and what they hold
- `FileSystem.readBytes`, `FileSystem.writeBytes` — whole files
- `FileSystem.createDirectories`, `FileSystem.removeTree` — directories
-/

namespace Codemod

/-- What stands at a location. -/
inductive Node where
  | file (bytes : ByteArray)
  | directory
  | link (target : String)
deriving DecidableEq, Inhabited

namespace Node

/-- A regular file. -/
def isFile : Node → Bool
  | file _ => true
  | _ => false

/-- A directory. -/
def isDirectory : Node → Bool
  | directory => true
  | _ => false

/-- A file with other bytes; what is no file stays as it is. -/
def refilled (bytes : ByteArray) : Node → Node
  | file _ => file bytes
  | node => node

end Node

/-- What is kept about an entry beside what it holds. -/
structure Record where
  /-- Its permission bits, when they are not the usual ones. -/
  mode : Option Nat := none
  /-- When it was changed last, in nanoseconds since 1970; none before all that is counted. -/
  modified : Option Int := none
  /-- The number of what it holds, which other names may share. -/
  identity : Option Nat := none
deriving DecidableEq, Inhabited

/-- A file system seen from a working directory. The root is always a directory and has no entry. -/
structure FileSystem where
  entries : List (Location × Node) := []
  workingDirectory : Location := []
  /-- What is kept about entries, where there is anything. -/
  records : List (Location × Record) := []
  distinct : (entries.map Prod.fst).Nodup := by simp

namespace FileSystem

instance : Inhabited FileSystem := ⟨{}⟩

/-- The node stored under a location in a list of entries. -/
def lookup (loc : Location) : List (Location × Node) → Option Node
  | [] => none
  | (l, n) :: rest => if l = loc then some n else lookup loc rest

/-- Replaces the node of a location, or adds the entry at the end. -/
def store (loc : Location) (node : Node) : List (Location × Node) → List (Location × Node)
  | [] => [(loc, node)]
  | (l, n) :: rest => if l = loc then (loc, node) :: rest else (l, n) :: store loc node rest

theorem mem_map_fst_store {loc l : Location} {node : Node} {es : List (Location × Node)} :
    l ∈ (store loc node es).map Prod.fst ↔ l = loc ∨ l ∈ es.map Prod.fst := by
  induction es with
  | nil => simp [store]
  | cons e rest ih =>
    obtain ⟨k, n⟩ := e
    by_cases h : k = loc
    · subst h
      simp [store]
    · simp only [store, if_neg h, List.map_cons, List.mem_cons, ih]
      grind

theorem nodup_store {loc : Location} {node : Node} {es : List (Location × Node)}
    (h : (es.map Prod.fst).Nodup) : ((store loc node es).map Prod.fst).Nodup := by
  induction es with
  | nil => simp [store]
  | cons e rest ih =>
    obtain ⟨k, n⟩ := e
    simp only [List.map_cons, List.nodup_cons] at h
    by_cases hk : k = loc
    · subst hk
      simpa [store] using h
    · simp only [store, if_neg hk, List.map_cons, List.nodup_cons, mem_map_fst_store]
      exact ⟨by grind, ih h.2⟩

theorem lookup_store {loc l : Location} {node : Node} {es : List (Location × Node)} :
    lookup l (store loc node es) = if l = loc then some node else lookup l es := by
  induction es with
  | nil => grind [store, lookup]
  | cons e rest ih =>
    obtain ⟨k, n⟩ := e
    by_cases hk : k = loc <;> grind [store, lookup]

/-- The node at a location. -/
def get? (fs : FileSystem) (loc : Location) : Option Node :=
  if loc = [] then some .directory else lookup loc fs.entries

/-- Puts a node at a location. -/
def set (fs : FileSystem) (loc : Location) (node : Node) : FileSystem where
  entries := store loc node fs.entries
  workingDirectory := fs.workingDirectory
  records := fs.records
  distinct := nodup_store fs.distinct

/-- Keeps the entries whose locations satisfy `p`. -/
def restrict (fs : FileSystem) (p : Location → Bool) : FileSystem where
  entries := fs.entries.filter fun e => p e.1
  workingDirectory := fs.workingDirectory
  records := fs.records.filter fun e => p e.1
  distinct := by
    have h := fs.distinct.filter p
    rwa [List.filter_map] at h

/-- Removes a location and everything below it. -/
def erase (fs : FileSystem) (loc : Location) : FileSystem :=
  fs.restrict fun l => !loc.isPrefixOf l

/-- The same files seen from another working directory. -/
def enter (fs : FileSystem) (loc : Location) : FileSystem := { fs with workingDirectory := loc }

/-- What is at a location after a node was put at one. -/
theorem get?_set (fs : FileSystem) (loc l : Location) (node : Node) (h : loc ≠ []) :
    (fs.set loc node).get? l = if l = loc then some node else fs.get? l := by
  by_cases hl : l = []
  · subst hl
    simp [get?, Ne.symm h]
  · simp only [get?, if_neg hl, set]
    exact lookup_store

/-- What is kept about a location. -/
def record (fs : FileSystem) (loc : Location) : Record := (fs.records.lookup loc).getD {}

/-- Two locations are names of one file: they are the same, or have the same number. -/
def sharesFile (fs : FileSystem) (loc other : Location) : Bool :=
  loc == other ||
    ((fs.record loc).identity.isSome && (fs.record loc).identity == (fs.record other).identity)

/-- Replaces the content of the files at the locations that satisfy `p`. -/
def refill (fs : FileSystem) (p : Location → Bool) (bytes : ByteArray) : FileSystem where
  entries := fs.entries.map fun (l, node) => (l, if p l then node.refilled bytes else node)
  workingDirectory := fs.workingDirectory
  records := fs.records
  distinct := by
    rw [List.map_map]
    exact fs.distinct

/-- Puts a file at a location. What it holds, it holds under all of its names. -/
def overwrite (fs : FileSystem) (loc : Location) (bytes : ByteArray) : FileSystem :=
  (fs.set loc (.file bytes)).refill (fs.sharesFile loc) bytes

/-- Where a walk along names ended. -/
inductive Arrival where
  /-- At an entry. -/
  | found (loc : Location) (node : Node)
  /-- At a free name in an existing directory, which may be asked to be a directory too. -/
  | free (loc : Location) (asDirectory : Bool)
  /-- At a symbolic link in the directory, with names still to go. -/
  | crossing (directory : Location) (target : String) (rest : List String)
  | failed (cause : SystemError)

/-- How many bytes a name may have. -/
def maxNameBytes : Nat := 255

/-- How many bytes a path has to stay below. -/
def maxPathBytes : Nat := 4096

/-- A walk of names from a directory up to the first symbolic link. A link at the very end counts
only when links are followed there. An empty name stands for a slash at the end of a path. -/
def walkNames (fs : FileSystem) (follow : Bool) (place : Location) : List String → Arrival
  | [] => .found place .directory
  | "" :: rest => walkNames fs follow place rest
  | "." :: rest => walkNames fs follow place rest
  | ".." :: rest => walkNames fs follow place.dropLast rest
  | name :: rest =>
    let loc := place ++ [name]
    if maxNameBytes < name.utf8ByteSize then .failed .nameTooLong
    else match fs.get? loc with
    | some .directory => walkNames fs follow loc rest
    | some (.link target) =>
      if rest.isEmpty && !follow then .found loc (.link target) else .crossing place target rest
    | some (.file bytes) => if rest.isEmpty then .found loc (.file bytes) else .failed .notDirectory
    | none =>
      match rest with
      | [] => .free loc false
      | [""] => .free loc true
      | _ => .failed .notFound

/-- A walk through at most `links` symbolic links. -/
def walkThrough (fs : FileSystem) (follow : Bool) : Nat → Location → List String → Arrival
  | links, start, names =>
    match walkNames fs follow start names with
    | .crossing directory target rest =>
      match links with
      | 0 => .failed .linkLoop
      | links + 1 =>
        if target.isEmpty then .failed .notFound
        else
          let start := if Path.isAbsolute target then [] else directory
          let slash := if Path.endsInSlash target then [""] else []
          walkThrough fs follow links start (Path.names target ++ slash ++ rest)
    | arrival => arrival

/-- How many symbolic links one path may cross. -/
def maxLinks : Nat := 40

/-- Resolves a path. A slash at the end asks for a directory and follows a link there. -/
def resolve (fs : FileSystem) (follow : Bool) (path : String) : Arrival :=
  if path.toList.contains '\x00' then .failed .nullInName
  else if maxPathBytes ≤ path.utf8ByteSize then .failed .nameTooLong
  else if path.isEmpty then .failed .notFound
  else
    let start := if Path.isAbsolute path then [] else fs.workingDirectory
    let slash := if Path.endsInSlash path then [""] else []
    walkThrough fs follow maxLinks start (Path.names path ++ slash)

/-- The node that a path leads to. -/
def find (fs : FileSystem) (path : String) : Except SystemError (Location × Node) :=
  match fs.resolve true path with
  | .found loc node => .ok (loc, node)
  | .free _ _ => .error .notFound
  | .crossing _ _ _ => .error .linkLoop
  | .failed cause => .error cause

/-- The path leads to something. -/
def pathExists (fs : FileSystem) (path : String) : Bool := (fs.find path).isOk

/-- The path leads to a directory. -/
def isDirectory (fs : FileSystem) (path : String) : Bool :=
  match fs.find path with
  | .ok (_, node) => node.isDirectory
  | .error _ => false

/-- The path leads to a regular file. -/
def isFile (fs : FileSystem) (path : String) : Bool :=
  match fs.find path with
  | .ok (_, node) => node.isFile
  | .error _ => false

/-- The content of the file at a path. -/
def readBytes (fs : FileSystem) (path : String) : Except SystemError ByteArray :=
  match fs.find path with
  | .ok (_, .file bytes) => .ok bytes
  | .ok (_, .directory) => .error .isDirectory
  | .ok (_, .link _) => .error .linkLoop
  | .error cause => .error cause

/-- The content of the text file at a path. -/
def readString (fs : FileSystem) (path : String) : Except SystemError String :=
  match fs.readBytes path with
  | .ok bytes =>
    match String.fromUTF8? bytes with
    | some text => .ok text
    | none => .error .notText
  | .error cause => .error cause

/-- Where a write to a path goes: an existing file, or a free name in an existing directory. -/
def writeTarget (fs : FileSystem) (path : String) : Except SystemError Location :=
  match fs.resolve true path with
  | .found loc (.file _) => .ok loc
  | .found _ .directory => .error .isDirectory
  | .found _ (.link _) => .error .linkLoop
  | .free loc asDirectory => if asDirectory then .error .isDirectory else .ok loc
  | .crossing _ _ _ => .error .linkLoop
  | .failed cause =>
    match fs.resolve false (Path.withoutSlashes path) with
    | .failed _ => .error cause
    | _ => .error (if Path.endsInSlash path then .isDirectory else cause)

/-- Replaces the whole content of the file at a path, which is created if its directory exists. Its
other names, if it has any, then lead to the same content. -/
def writeBytes (fs : FileSystem) (path : String) (bytes : ByteArray) :
    Except SystemError FileSystem :=
  (fs.writeTarget path).map fun loc => fs.overwrite loc bytes

/-- Makes one directory. A link in its place is not followed, even with a slash after it. -/
def createDirectory (fs : FileSystem) (path : String) : Except SystemError FileSystem :=
  match fs.resolve false (Path.withoutSlashes path) with
  | .found _ _ => .error .alreadyExists
  | .free loc _ => .ok (fs.set loc .directory)
  | .crossing _ _ _ => .error .linkLoop
  | .failed cause => .error cause

/-- Makes a directory and those above it that are missing, at most `fuel` of them. -/
def createDirectoriesWithin : Nat → FileSystem → String → Except SystemError FileSystem
  | 0, _, _ => .error (.custom "failed to create whole tree")
  | fuel + 1, fs, path =>
    if path.isEmpty then .ok fs
    else match fs.createDirectory path with
      | .ok made => .ok made
      | .error cause =>
        if cause = .notFound then
          match Path.parent? path with
          | none => .error (.custom "failed to create whole tree")
          | some parent =>
            match createDirectoriesWithin fuel fs parent with
            | .error cause => .error cause
            | .ok fs =>
              match fs.createDirectory path with
              | .ok made => .ok made
              | .error cause => if fs.isDirectory path then .ok fs else .error cause
        else if fs.isDirectory path then .ok fs
        else .error cause

/-- Makes a directory and those above it that are missing. -/
def createDirectories (fs : FileSystem) (path : String) : Except SystemError FileSystem :=
  createDirectoriesWithin ((Path.names path).length + 1) fs path

/-- Removes what a path names, a directory with everything in it; a link is removed itself. -/
def removeTree (fs : FileSystem) (path : String) : Except SystemError FileSystem :=
  match fs.resolve false path with
  | .found loc _ => .ok (fs.erase loc)
  | .free _ _ => .error .notFound
  | .crossing _ _ _ => .error .linkLoop
  | .failed cause => .error cause

/-- The entries of a directory: their names and nodes, in listing order. -/
def children (fs : FileSystem) (directory : Location) : List (String × Node) :=
  fs.entries.filterMap fun (loc, node) =>
    match loc.getLast? with
    | some name => if loc.dropLast = directory then some (name, node) else none
    | none => none

end FileSystem

end Codemod

/-!
## Whole trees

- `FileSystem.plant` — puts an entry with the directories above it
- `FileSystem.listing` — what is below a directory
-/

namespace Codemod.FileSystem

/-- Makes the directories along a location that are missing. -/
def clear (fs : FileSystem) (loc : Location) : FileSystem :=
  (List.range (loc.length + 1)).foldl
    (fun fs n => if (fs.get? (loc.take n)).isSome then fs else fs.set (loc.take n) .directory) fs

/-- Puts an entry and the directories above it. -/
def plant (fs : FileSystem) (loc : Location) (node : Node) : FileSystem :=
  if node = .directory then fs.clear loc else (fs.clear loc.dropLast).set loc node

/-- The entries below a directory by their relative locations: files, links, and directories that
hold nothing. -/
def listing (fs : FileSystem) (directory : Location) : List (Location × Node) :=
  fs.entries.filterMap fun (loc, node) =>
    if directory.isPrefixOf loc && loc != directory
        && !(node.isDirectory && !(fs.children loc).isEmpty) then
      some (loc.drop directory.length, node)
    else none

end Codemod.FileSystem
