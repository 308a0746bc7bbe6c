import Liveness.Net.Ip
import Liveness.Text.Quoted

/-! # Listening on an address

* `OsError`, `BindError`: why something cannot be done, in words.
* `Target`: what an address asks for, an endpoint or a port of a host that has a name.
* `listenOn`: listens on the first endpoint of an address that is free.
-/

namespace Liveness.Net
set_option autoImplicit false

/-! ## Errors -/

/-- Named parts between braces. -/
def braced (parts : List String) : String := "\x7b " ++ ", ".intercalate parts ++ " \x7d"

/-- Why the system refuses something. -/
structure OsError where
  code : Nat
  kind : String
  reason : String
  deriving DecidableEq, Repr

/-- The error in its parts. -/
def OsError.parts (e : OsError) : String :=
  "Os " ++ braced ["code: " ++ String.ofList (Decimal.ofNat e.code), "kind: " ++ e.kind,
    "message: " ++ Text.quoted e.reason]

/-- The error in words. -/
def OsError.message (e : OsError) : String :=
  e.reason ++ " (os error " ++ String.ofList (Decimal.ofNat e.code) ++ ")"

/-- Why an address cannot be listened on. -/
inductive BindError where
  /-- The address asks for nothing. -/
  | invalid (reason : String)
  /-- A name has no address. -/
  | unresolved (reason : String)
  /-- The system refuses. -/
  | refused (error : OsError)
  deriving DecidableEq, Repr

/-- The error in its parts. -/
def BindError.parts : BindError → String
  | invalid reason => "Error " ++ braced ["kind: InvalidInput", "message: " ++ Text.quoted reason]
  | unresolved reason =>
    let text := "failed to lookup address information: " ++ reason
    "Custom " ++ braced ["kind: Uncategorized", "error: " ++ Text.quoted text]
  | refused error => error.parts

/-! ## Addresses -/

/-- What an address asks for. -/
inductive Target where
  | endpoint (e : Endpoint)
  | host (name : String) (port : UInt16)
  deriving DecidableEq, Repr

namespace Target

/-- A port in decimal, with an optional plus sign. -/
def port? (text : List Char) : Option UInt16 :=
  ((Decimal.readUnsigned? text).filter (· < UInt16.size)).map .ofNat

/-- What an address asks for. If it writes no endpoint, the name of a host stands in front of its last
colon and a port behind it. -/
def read (text : List Char) : Except BindError Target :=
  match Endpoint.read? text with
  | some e => .ok (.endpoint e)
  | none =>
    match Text.splitLast? ':' text with
    | none => .error (.invalid "invalid socket address")
    | some (name, digits) =>
      match port? digits with
      | none => .error (.invalid "invalid port value")
      | some port =>
        if '\x00' ∈ name then .error (.invalid "file name contained an unexpected NUL byte")
        else .ok (.host (String.ofList name) port)

end Target

/-! ## Listening -/

section
variable {m : Type → Type} [Monad m] {Listener : Type}
  (listen : Endpoint → m (Except OsError Listener))

/-- Listens on the first of some endpoints that is free. The error is that of the last one. -/
def listenFirst (error : BindError) : List Endpoint → m (Except BindError Listener)
  | [] => pure (.error error)
  | e :: es => do
    match ← listen e with
    | .ok listener => pure (.ok listener)
    | .error e => listenFirst (.refused e) es

/-- Listens on the first endpoint of an address that is free. -/
def listenOn (lookup : String → m (Except BindError (List Ip))) (address : String) :
    m (Except BindError Listener) := do
  let nowhere : BindError := .invalid "could not resolve to any addresses"
  match Target.read address.toList with
  | .error e => pure (.error e)
  | .ok (.endpoint e) => listenFirst listen nowhere [e]
  | .ok (.host name port) =>
    match ← lookup name with
    | .error e => pure (.error e)
    | .ok ips => listenFirst listen nowhere (ips.map (⟨·, port⟩))

end
end Liveness.Net
