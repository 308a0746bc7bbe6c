import Liveness.Ini.Document
import Liveness.Json.Reader
import Liveness.Json5.Reader
import Liveness.Ron.Reader
import Liveness.Settings.Environment
import Liveness.Settings.Path
import Liveness.Toml.Document
import Liveness.Yaml.Document

/-! # Settings from a file

* `Folder`: the regular files of the configuration directory.
* `Format`: the formats, which are told by the ending of a file name.
* `Folder.names`, `Folder.select?`: the file that an environment reads.
* `Folder.entries`: the settings in it.
-/

namespace Liveness.Settings
set_option autoImplicit false

/-- The regular files of a directory, by name. -/
structure Folder where
  path : String
  file? : String → Option ByteArray

/-- The format of a configuration file. -/
inductive Format where
  | toml
  | json
  | yaml
  | ini
  | ron
  | json5
  deriving DecidableEq, Repr

namespace Format

/-- All formats, in one of the orders in which an unordered registry gives them. -/
def all : List Format := [toml, json, yaml, ini, ron, json5]

/-- The endings of a file name. -/
def endings : Format → List String
  | toml => [".toml"]
  | json => [".json"]
  | yaml => [".yaml", ".yml"]
  | ini => [".ini"]
  | ron => [".ron"]
  | json5 => [".json5"]

/-- The members of a table. -/
def members? : Datum → Option Members
  | .table ms => some ms
  | _ => none

/-- The settings that a text holds. What is no table has none, but for one format it is refused. -/
def parse? (text : String) : Format → Option Members
  | toml => Toml.parse? text.toList
  | json => (Json.read? text.toList).map fun d => (members? d).getD []
  | yaml => Yaml.parse? text.toList
  | ini => Ini.parse? text.toList
  | ron => (Ron.read? text.toList).map fun d => (members? d).getD []
  | json5 => (Json5.read? text.toList).bind members?

end Format

namespace Folder

/-- The name of a file together with the path of its folder. -/
def join (folder : Folder) (name : String) : String :=
  if folder.path = "" then name else folder.path ++ "/" ++ name

/-- The name of the file of an environment. -/
def fileName (env : Environment) : String := env.name ++ ".toml"

/-- The names that the file of an environment may have, the first that exists being its name. If
there is no file of the plain name, one counts whose name has a further ending. -/
def names (env : Environment) : List (String × Format) :=
  (fileName env, .toml) ::
    Format.all.flatMap fun f => f.endings.map fun ending => (fileName env ++ ending, f)

/-- The file that an environment reads, with its format and content. -/
def select? (folder : Folder) (env : Environment) : Option (String × Format × ByteArray) :=
  (names env).findSome? fun (name, format) => (folder.file? name).map (name, format, ·)

/-- The settings in the file of an environment. The error is the path of a file that breaks the
rules of its format; a file that is not text holds no settings. -/
def entries (folder : Folder) (env : Environment) : Except String Tree.Entries :=
  match folder.select? env with
  | none => .ok []
  | some (name, format, content) =>
    match String.fromUTF8? content with
    | none => .ok []
    | some text =>
      match format.parse? text with
      | some members => .ok (Tree.ofMembers (some (.file (folder.join name))) members)
      | none => .error (folder.join name)

end Folder
end Liveness.Settings
