import Liveness.Number.Binary64

/-! # Plain data

* `Datum`: a value as a configuration file or a log record holds it, whatever its format.
* `Members`: the named values of a table, in the order in which they are written.
-/

namespace Liveness
set_option autoImplicit false

/-- A value in a configuration file or a log record. -/
inductive Datum where
  | null
  | flag (value : Bool)
  | integer (value : Int)
  | number (value : Binary64)
  | text (value : String)
  | list (items : List Datum)
  | table (members : List (String × Datum))

/-- Named values. -/
abbrev Members := List (String × Datum)

/-- The value of a name. -/
def Members.get? (members : Members) (name : String) : Option Datum := members.lookup name

/-- The values with a given one under its name, in place of an earlier one. -/
def Members.set (members : Members) (name : String) (d : Datum) : Members :=
  members.filter (·.1 ≠ name) ++ [(name, d)]

end Liveness
