import Liveness.Number.Decimal

/-! # Levels

* `Level`: how important an event or a span is.
* `Limit`: the least important level that is let through, or none at all.
* `Limit.read?`: a limit by its name or its number.
-/

namespace Liveness.Log
set_option autoImplicit false

/-- How important something is, the most important first. -/
inductive Level where
  | error
  | warn
  | info
  | debug
  | trace
  deriving DecidableEq, Repr

namespace Level

/-- The place of a level, from one. -/
def rank : Level → Nat
  | error => 1
  | warn => 2
  | info => 3
  | debug => 4
  | trace => 5

/-- The number of a level in a record. -/
def code : Level → Nat
  | error => 50
  | warn => 40
  | info => 30
  | debug => 20
  | trace => 10

end Level

/-- The levels that are let through: none, or all down to a given one. -/
inductive Limit where
  | off
  | downTo (level : Level)
  deriving DecidableEq, Repr

namespace Limit

/-- The number of levels let through. -/
def rank : Limit → Nat
  | off => 0
  | downTo level => level.rank

/-- Whether a level is let through. -/
def admits (limit : Limit) (level : Level) : Bool := level.rank ≤ limit.rank

/-- The more generous of two limits. -/
def max (a b : Limit) : Limit := if a.rank < b.rank then b else a

/-- The limit with a given number. -/
def ofNat? : Nat → Option Limit
  | 0 => some off
  | 1 => some (downTo .error)
  | 2 => some (downTo .warn)
  | 3 => some (downTo .info)
  | 4 => some (downTo .debug)
  | 5 => some (downTo .trace)
  | _ => none

/-- The limit with a given name in lower case. -/
def ofName? (name : String) : Option Limit :=
  if name = "off" then some off
  else if name = "error" then some (downTo .error)
  else if name = "warn" then some (downTo .warn)
  else if name = "info" then some (downTo .info)
  else if name = "debug" then some (downTo .debug)
  else if name = "trace" then some (downTo .trace)
  else none

/-- The limit written by a text: a number, or a name in letters of any case. -/
def read? (text : List Char) : Option Limit :=
  ((Decimal.readUnsigned? text).bind ofNat?).or (ofName? (String.ofList (text.map Char.toLower)))

end Limit
end Liveness.Log
