import Liveness.Number.Decimal

/-! # Application settings

* `Application`: the host and the port to listen on.
* `Application.address`: both as one text.
-/

namespace Liveness.Settings
set_option autoImplicit false

/-- Where the server listens. -/
structure Application where
  host : String
  port : UInt16
  deriving DecidableEq, Repr

namespace Application

/-- All interfaces. -/
def defaultHost : String := "0.0.0.0"

/-- The port that is used when nothing else is set. -/
def defaultPort : Nat := 8080

/-- The host and the port with a colon between them. -/
def address (a : Application) : String :=
  String.ofList (a.host.toList ++ ':' :: Decimal.ofNat a.port.toNat)

end Application
end Liveness.Settings
