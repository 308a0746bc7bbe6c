import Liveness.Settings.Decode
import Liveness.Settings.Folder
import Liveness.Settings.Variables

/-! # Loading the settings

* `environment`: the environment that the variables select.
* `defaults`: the built-in settings.
* `layers`: the settings of a file, those of variables over them, and both over the built-in ones.
* `load`: the application settings of a folder and of variables.
-/

namespace Liveness.Settings
set_option autoImplicit false

/-- The variable that selects the environment. -/
def environmentVariable : String := "APP_ENVIRONMENT"

/-- The environment that the variables select. -/
def environment (vars : Variables) : Except LoadError Environment :=
  let name := (vars.get? environmentVariable).getD Environment.development.name
  match Environment.read? name with
  | some env => .ok env
  | none => .error (.unsupportedEnvironment name)

/-- The built-in settings. -/
def defaults : Tree :=
  let host := Tree.leaf none (.text Application.defaultHost)
  let port := Tree.leaf none (.integer Application.defaultPort)
  (Tree.empty.put ⟨"application", [.name "host"]⟩ host).put ⟨"application", [.name "port"]⟩ port

/-- The settings of a file with those of the variables laid over them, and the result laid over the
built-in settings. -/
def layers (file vars : Tree.Entries) : Tree :=
  defaults.putAll ((Tree.empty.putAll file).putAll vars).entries

/-- The application settings of a folder and of variables. Where two entries are about one setting, the
order of the lists decides; it stands for one order of the unordered maps that they come from. -/
def load (folder : Folder) (vars : Variables) : Except LoadError Application := do
  let env ← environment vars
  let file ← (folder.entries env).mapError .malformedFile
  Decode.application (layers file vars.entries)

end Liveness.Settings
