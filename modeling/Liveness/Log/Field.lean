import Liveness.Datum

/-! # Fields of events and spans

* `Value`: what a field holds.
* `Fields`: named values; no name comes twice.
* `Fields.overlay`: fields laid over others.
-/

namespace Liveness.Log
set_option autoImplicit false

/-- What a field holds. -/
inductive Value where
  | text (value : String)
  | integer (value : Int)
  | flag (value : Bool)
  deriving DecidableEq, Repr

/-- The value as plain data. -/
def Value.toDatum : Value → Datum
  | text s => .text s
  | integer n => .integer n
  | flag b => .flag b

/-- Named values. -/
abbrev Fields := List (String × Value)

namespace Fields

/-- The value of a name. -/
def get? (fields : Fields) (name : String) : Option Value := fields.lookup name

/-- Fields laid over others: where both have a name, the upper value is kept. -/
def overlay (upper lower : Fields) : Fields :=
  lower.filter (fun (k, _) => (upper.lookup k).isNone) ++ upper

/-- The names of fields. -/
def names (fields : Fields) : List String := fields.map (·.1)

end Fields
end Liveness.Log
