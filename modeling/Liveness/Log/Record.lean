import Liveness.Json.Writer
import Liveness.Log.Field
import Liveness.Log.Level

/-! # Log records

* `Record`: one line of the log.
* `Source`: the process that writes it, and the time.
* `Record.members`: the line as named values.
* `Record.line`: the line as text.
-/

namespace Liveness.Log
set_option autoImplicit false

/-- One line of the log. -/
structure Record where
  name : String
  level : Level
  message : String
  target : String
  fields : Fields
  deriving DecidableEq, Repr

/-- The process that writes a record, and the time. -/
structure Source where
  hostname : String
  pid : Nat
  time : String

namespace Record

/-- The version of the format. -/
def version : Int := 0

/-- The line as named values. -/
def members (r : Record) (source : Source) : Members :=
  [("v", .integer version), ("name", .text r.name), ("msg", .text r.message),
    ("level", .integer r.level.code), ("hostname", .text source.hostname),
    ("pid", .integer source.pid), ("time", .text source.time), ("target", .text r.target)] ++
  r.fields.map fun (k, v) => (k, v.toDatum)

/-- The line as text. -/
def line (r : Record) (source : Source) : String :=
  String.ofList (Json.write (.table (r.members source)))

end Record
end Liveness.Log
