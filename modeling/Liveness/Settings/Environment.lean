import Liveness.Text.Lowercase

/-! # Runtime environments

* `Environment`: the environments that have a configuration file of their own.
* `Environment.read?`: the environment named by a text in any case.
* `Environment.unsupported`: what is said of any other text.
-/

namespace Liveness.Settings
set_option autoImplicit false

/-- The runtime environment. -/
inductive Environment where
  | development
  | production
  deriving DecidableEq, Repr

namespace Environment

/-- The name of an environment, which is also the name of its configuration file. -/
def name : Environment → String
  | development => "local"
  | production => "production"

/-- A name in lower case. -/
def folded (text : String) : String := String.ofList (Text.lowercase text.toList)

/-- The environment named by a text, letters of any case. -/
def read? (text : String) : Option Environment :=
  if folded text = development.name then some development
  else if folded text = production.name then some production
  else none

/-- What is said of a text that names no environment. -/
def unsupported (text : String) : String :=
  folded text ++ " is not a supported environment. Must be \x60local\x60 or \x60production\x60"

end Environment
end Liveness.Settings
