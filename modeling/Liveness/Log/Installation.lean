import Liveness.Log.Recorder

/-! # The recorder of a process

* `Installation`: the recorder that all of a process writes to, once there is one.
* `Installation.install`: the only way to get one; it works once.
* `Installation.recorder`: what the process records with.
-/

namespace Liveness.Log
set_option autoImplicit false

/-- The recorder that all of a process writes to. A process starts without one. -/
structure Installation where
  recorder? : Option Recorder := none

/-- Why a recorder cannot be installed. -/
inductive InstallError where
  /-- There is one already. -/
  | installed
  deriving DecidableEq, Repr

namespace InstallError

/-- The error in words. -/
def message : InstallError → String
  | installed => "attempted to set a logger after the logging system was already initialized"

/-- The error in its parts. -/
def parts : InstallError → String
  | installed => "SetLoggerError(())"

end InstallError

namespace Installation

/-- A process with a recorder, which is never replaced. -/
def install (i : Installation) (r : Recorder) : Except InstallError Installation :=
  match i.recorder? with
  | none => .ok ⟨some r⟩
  | some _ => .error .installed

/-- The recorder of a process. As long as there is none, nothing is recorded. -/
def recorder (i : Installation) : Recorder := i.recorder?.getD { name := "", filter := .empty }

end Installation
end Liveness.Log
