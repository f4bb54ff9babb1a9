import Highlighter.Config.Settings
import Highlighter.Files
import Highlighter.Toml.Document

/-!
# Loading a configuration

A configuration is made of layers: the values that are built in, then files, then
single values. A later layer prevails over an earlier one, and a single value over
every file, in whatever order they are given. A file is looked for under its name
and then under its name with the extension `toml`.
-/

namespace Highlighter.Config

/-! ## Layers -/

/-- A source of settings. -/
inductive Layer where
  /-- A file, which may have to be there. -/
  | file (path : Text) (required : Bool)
  /-- A single value. -/
  | single (key : Key) (s : Scalar)
  deriving DecidableEq, Repr

/-- The layer of a single value under a key that is given as a text. -/
def Layer.single? (key : Text) (s : Scalar) : Except ConfigError Layer :=
  match Key.read key with
  | .ok key => .ok (.single key s)
  | .error e => .error (.badKey e)

/-- A field of a group that is built in. -/
def builtIn (name : String) (s : Scalar) : Text × Value := (name.toList, .scalar none s)

/-- A group that is built in. -/
def builtInGroup (name : String) (fields : List (Text × Value)) : Text × Value :=
  (name.toList, .table none fields)

/-- The values that are built in. -/
def defaults : List (Text × Value) := [
  builtInGroup "highlight" [
    builtIn "grammar" (.string "pdfile".toList), builtIn "format" (.string "ansi".toList)],
  builtInGroup "html" [
    builtIn "class_prefix" (.string []), builtIn "wrap" (.boolean true)],
  builtInGroup "ansi" [builtIn "enabled" (.boolean true)]]

/-! ## Files -/

/-- A path with the extension of a configuration. -/
def extended (path : Text) : Text := FilePath.normalize path ++ ".toml".toList

/-- The file of a path: its path without the parts that mean nothing, and its text if its bytes
are a text. -/
def locate? (files : Files) (path : Text) : Option (Text × Option Text) :=
  match files path with
  | .file text => some (FilePath.normalize path, text)
  | _ =>
    if (FilePath.fileName? path).isNone then none
    else
      match files (extended path) with
      | .file text => some (extended path, text)
      | _ => none

/-- The fields in a text that comes from a file. -/
def fieldsOf (file text : Text) : Except ConfigError (List (Text × Value)) :=
  match Toml.read text with
  | .ok fields => .ok (Value.fieldsOfToml (some file) fields)
  | .error rest =>
    let (line, column) := Toml.placeOf text rest
    .error (.badFile file line column)

/-- The fields of the file that is found for a path, if one is. A file that does not have to be
there may be missing or no text. -/
def fieldsFound (path : Text) (required : Bool) :
    Option (Text × Option Text) → Except ConfigError (List (Text × Value))
  | some (file, some text) => fieldsOf file text
  | some (_, none) => if required then .error .notText else .ok []
  | none => if required then .error (.notFound path) else .ok []

/-- The fields of a file. -/
def readFile (files : Files) (path : Text) (required : Bool) :
    Except ConfigError (List (Text × Value)) :=
  fieldsFound path required (locate? files path)

/-! ## The tree of values -/

/-- The fields of the files among some layers, in order. -/
def readFiles (files : Files) : List Layer → Except ConfigError (List (List (Text × Value)))
  | [] => .ok []
  | .file path required :: rest => do
    let fields ← readFile files path required
    let more ← readFiles files rest
    return fields :: more
  | .single _ _ :: rest => readFiles files rest

/-- A tree of values with the fields of a source put into it. -/
def addSource (root : Value) (fields : List (Text × Value)) : Value :=
  fields.foldl Value.putTop root

/-- A tree of values with the single values among some layers put into it. -/
def addSingles (root : Value) : List Layer → Value
  | [] => root
  | .single key s :: rest => addSingles (Value.putAt key (.scalar none s) root) rest
  | .file _ _ :: rest => addSingles root rest

/-- The tree of values of the sources and the single values of some layers: the built-in values
first, then the sources, then the single values. -/
def assemble (sources : List (List (Text × Value))) (layers : List Layer) : Value :=
  addSingles ((defaults :: sources).foldl addSource (.table none [])) layers

/-- The tree of values of some layers. -/
def build (files : Files) (layers : List Layer) : Except ConfigError Value := do
  return assemble (← readFiles files layers) layers

/-- The settings that some layers give. -/
def load (files : Files) (layers : List Layer) : Except ConfigError Settings := do
  readSettings (← build files layers)

end Highlighter.Config
