import Liveness.Settings.Application
import Liveness.Settings.Error

/-! # Application settings from a tree

* `Decode.port`: the port that a value gives.
* `Decode.host`: the host that a value gives.
* `Decode.application`: both, from a table or a list.
-/

namespace Liveness.Settings.Decode
set_option autoImplicit false

/-! ## Conversions -/

/-- A value that cannot be converted. -/
def refuse {α : Type} (t : Tree) (expected : Expected) : Except Mismatch α :=
  .error ⟨.ofTree t, expected, t.origin⟩

/-- The words that stand for one and zero. -/
def switch? (lower : String) : Option Nat :=
  if lower ∈ ["true", "on", "yes"] then some 1
  else if lower ∈ ["false", "off", "no"] then some 0
  else none

/-- The number that a text gives: a switch in any case, or digits behind an optional plus sign. -/
def unsignedText? (s : String) : Option Nat :=
  (switch? (String.ofList (Text.lowercase s.toList))).or (Decimal.readUnsigned? s.toList)

/-- The unsigned number of 64 bits that a value gives. -/
def unsigned (t : Tree) : Except Mismatch Nat :=
  match t with
  | .leaf _ (.integer n) => if 0 ≤ n then .ok n.toNat else refuse t .unsigned
  | .leaf _ (.text s) =>
    match unsignedText? s with
    | some n => .ok n
    | none => refuse t .integer
  | .leaf _ (.flag b) => .ok (if b then 1 else 0)
  | .leaf _ (.number x) => .ok x.nearestUnsigned
  | .leaf _ .null | .list .. | .table .. => refuse t .integer

/-- The port that a value gives: the lowest 16 bits of its number. -/
def port (t : Tree) : Except Mismatch UInt16 := (unsigned t).map UInt16.ofNat

/-- The host that a value gives: any value without parts, as text. -/
def host (t : Tree) : Except Mismatch String :=
  match t with
  | .leaf _ (.text s) => .ok s
  | .leaf _ (.flag b) => .ok (if b then "true" else "false")
  | .leaf _ (.integer n) => .ok (String.ofList (Decimal.ofInt n))
  | .leaf _ (.number x) => .ok (String.ofList x.text)
  | .leaf _ .null | .list .. | .table .. => refuse t .text

/-! ## The application settings -/

/-- A conversion of the setting with a given name. -/
def keyed {α : Type} (key : String) (r : Except Mismatch α) : Except LoadError α :=
  r.mapError (.mismatch key)

/-- A setting in a table. -/
def field {α : Type} (convert : Tree → Except Mismatch α) (name : String) (t : Tree) :
    Except LoadError α :=
  match t.get? name with
  | some v => keyed ("application." ++ name) (convert v)
  | none => .error (.missing name)

/-- The application settings: a table with a port and a host, or a list of the two. -/
def settings (t : Tree) : Except LoadError Application :=
  match t with
  | .leaf _ v => .error (.notSettings v)
  | .list _ [] => .error (.tooFew 0)
  | .list _ [p] => do
    let _ ← keyed "application[0]" (port p)
    .error (.tooFew 1)
  | .list _ (p :: h :: _) => do
    let port ← keyed "application[0]" (port p)
    let host ← keyed "application[1]" (host h)
    .ok ⟨host, port⟩
  | .table .. => do
    let port ← field port "port" t
    let host ← field host "host" t
    .ok ⟨host, port⟩

/-- The application settings under their name in the tree of all settings. -/
def application (root : Tree) : Except LoadError Application :=
  match root.get? "application" with
  | some t => settings t
  | none => .error (.missing "application")

end Liveness.Settings.Decode
