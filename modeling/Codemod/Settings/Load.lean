import Codemod.Environment
import Codemod.FileSystem.Text
import Codemod.Settings.Decode
import Codemod.Text.Search
import Codemod.Text.Utf8
import Codemod.Toml.Table
import Codemod.Yaml.Document

/-!
# Loading the settings of a workspace

Settings come in three layers: the defaults, the first settings file that exists, and the variables
of the environment, each over the one before.

- `Settings.fileNames` — where settings are looked for
- `Settings.Format` — the formats of settings files
- `Settings.fileLayer`, `Settings.environmentLayer` — the two layers over the defaults
- `Settings.load` — the settings of a workspace
-/

namespace Codemod

namespace Path

/-- The names that lead from one location to another, up first. -/
def between : Location → Location → List String
  | a :: base, b :: target =>
    if a == b then between base target else climb (a :: base) (b :: target)
  | base, target => climb base target
where
  /-- Up from the base, then down to the target. -/
  climb (base target : Location) : List String := base.map (fun _ => "..") ++ target

end Path

namespace Settings

/-- The names of settings files in a workspace, the first that exists wins. -/
def fileNames : List String := ["gfactor.toml", "gfactor.yaml", "gfactor.json", ".gfactor.toml"]

/-- The formats of settings files. -/
inductive Format where
  | toml
  | yaml
  | json
deriving DecidableEq

namespace Format

/-- The format of files with an extension. -/
def ofExtension? : String → Option Format
  | "toml" => some toml
  | "yaml" | "yml" => some yaml
  | "json" => some json
  | _ => none

/-- The format of a file by its name. -/
def ofName? (name : String) : Option Format :=
  let ending := (name.toList.reverse.takeWhile (· != '.')).reverse
  ofExtension? (String.ofList ending)

/-- The fields of a settings file. The file as a whole has to be a record. -/
def parse? (format : Format) (text : String) : Option (List (String × Json)) :=
  let value :=
    match format with
    | toml => Toml.parse? text
    | yaml => Yaml.parse? text
    | json => Json.parse? text
  match value with
  | some (.object fields) => some fields
  | _ => none

end Format

/-- Why there are no settings. -/
inductive LoadError where
  /-- What bears the name of a settings file is none. -/
  | notFound (path : String)
  /-- A settings file does not have the form of its format. -/
  | malformed (path : String)
  /-- A value has no reading. -/
  | unfit (cause : Misfit)
deriving DecidableEq

namespace LoadError

/-- How the error is reported. -/
def message : LoadError → String
  | notFound _ | malformed _ => "Failed to load configuration"
  | unfit _ => "Failed to parse configuration"

/-- The causes of the error that have a wording. -/
def causes : LoadError → List String
  | notFound path => [s!"configuration file \"{path}\" not found"]
  | malformed _ => []
  | unfit cause => [cause.message]

end LoadError

/-- The text of a settings file, whatever its bytes, without a byte-order mark. -/
def fileText (bytes : ByteArray) : String :=
  let text := Text.Utf8.decodeBytes bytes
  match text.toList with
  | c :: rest => if c.toNat == 0xFEFF then String.ofList rest else text
  | [] => text

/-- A path as seen from the working directory. -/
def shownPath (fs : FileSystem) (path : String) : String :=
  let absolute := Path.join ("/" ++ fs.workingDirectory.text) path
  Location.text (Path.between fs.workingDirectory ((Path.names absolute).filter (· != ".")))

/-- The extensions tried after a name that is not that of a regular file. -/
def extensions : List String := ["toml", "json", "yaml", "yml"]

/-- The regular file that a name stands for: itself, or with one more extension. -/
def regularFile? (fs : FileSystem) (path : String) : Option String :=
  (path :: extensions.map fun ext => path ++ "." ++ ext).find? fs.isFile

/-- The assignments of the first settings file that exists. -/
def fileLayer (fs : FileSystem) (root : String) : Except LoadError (List (String × Tree)) :=
  match (fileNames.map (Path.join root)).find? fs.pathExists with
  | none => .ok []
  | some path =>
    match regularFile? fs path with
    | none => .error (.notFound path)
    | some file =>
      match fs.readBytes file, Format.ofName? file with
      | .ok bytes, some format =>
        match format.parse? (fileText bytes) with
        | some fields => .ok (Tree.ofFields (shownPath fs file) fields)
        | none => .error (.malformed file)
      | _, _ => .error (.malformed file)

/-- The beginning of the names of variables that are settings, in lower case. -/
def variableMark : String := "gfactor_"

/-- What the settings that variables give are said to come from. -/
def environmentOrigin : String := "the environment"

/-- A character in lower case, as far as that is ASCII: besides the capitals of ASCII this is the
case for the sign of the kelvin alone. -/
def lowered (c : Char) : Char := if c.toNat == 0x212A then 'k' else c.toLower

/-- The name of the setting that a variable gives: sections are set off by two underscores. -/
def settingName? (key : String) : Option String :=
  let name := key.map lowered
  if name.startsWith variableMark then
    some (Text.replaceAll "__" "." (String.ofList (name.toList.drop variableMark.length)))
  else none

/-- The assignments of the environment. All values are texts. -/
def environmentLayer (env : Environment) : List (String × Tree) :=
  env.bindings.filterMap fun (key, value) =>
    (settingName? key).map fun name => (name, .scalar (some environmentOrigin) (.text value))

/-- The tree of all layers over the defaults. -/
def gather (env : Environment) (file : List (String × Tree)) : Tree :=
  ((Tree.table none []).layer file).layer (environmentLayer env)

/-- The settings of the workspace at `root`. -/
def load (env : Environment) (fs : FileSystem) (root : String) : Except LoadError Settings := do
  let file ← fileLayer fs root
  (ofTree (gather env file)).mapError .unfit

end Settings

end Codemod
