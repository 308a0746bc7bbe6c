import Liveness.Settings.Path
import Liveness.Text.Lowercase

/-! # Settings from environment variables

* `Variables`: environment variables by name.
* `Variables.setting?`: the name of the setting that a variable gives.
* `Variables.entries`: all settings that the variables give.
-/

namespace Liveness.Settings
set_option autoImplicit false

/-- Environment variables; no name comes twice. They come from a map without order: that of the list
stands for one order in which the map is gone through. -/
abbrev Variables := List (String × String)

namespace Variables

/-- The value of a variable. -/
def get? (vars : Variables) (name : String) : Option String := vars.lookup name

/-- What the name of a variable begins with if it gives a setting, in lower case. -/
def opening : List Char := ['a', 'p', 'p', '_']

/-- A text with a point in place of each two underscores, from the left. -/
def pointed : List Char → List Char
  | '_' :: '_' :: rest => '.' :: pointed rest
  | c :: rest => c :: pointed rest
  | [] => []

/-- The name of the setting that a variable gives. Letters are taken in lower case. -/
def setting? (name : String) : Option String :=
  let lower := Text.lowercase name.toList
  if opening.isPrefixOf lower then some (String.ofList (pointed (lower.drop opening.length)))
  else none

/-- The setting that a variable gives. -/
def entry? (var : String × String) : Option (String × Tree) :=
  (setting? var.1).map (·, .leaf (some .vars) (.text var.2))

/-- The settings that variables give. -/
def entries (vars : Variables) : Tree.Entries := vars.filterMap entry?

end Variables
end Liveness.Settings
