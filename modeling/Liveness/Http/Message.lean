import Liveness.Http.Header
import Liveness.Http.Method
import Liveness.Http.Uri
import Liveness.Number.Decimal

/-! # Requests and responses

* `Version`: the two versions of the protocol.
* `Status`: a status code of three digits.
* `Request`, `Response`: a message without its framing.
-/

namespace Liveness.Http
set_option autoImplicit false

/-- The version of the protocol. -/
inductive Version where
  | http10
  | http11
  deriving DecidableEq, Repr

/-- The version as written in a status line. -/
def Version.text : Version → String
  | http10 => "HTTP/1.0"
  | http11 => "HTTP/1.1"

/-- A status code. -/
structure Status where
  code : Nat
  three_digits : 100 ≤ code ∧ code ≤ 999
  deriving DecidableEq

namespace Status

/-- The status with a given code. -/
def ofNat? (code : Nat) : Option Status :=
  if h : 100 ≤ code ∧ code ≤ 999 then some ⟨code, h⟩ else none

/-- The request was answered. -/
def ok : Status := ⟨200, by decide⟩

/-- No such resource. -/
def notFound : Status := ⟨404, by decide⟩

/-- Whether a status says that the server has failed. -/
def isServerError (s : Status) : Bool := 500 ≤ s.code && s.code < 600

/-- A status that says so, in words. -/
def describe (s : Status) : String :=
  let phrase := match s.code with
    | 500 => "Internal Server Error"
    | 501 => "Not Implemented"
    | 502 => "Bad Gateway"
    | 503 => "Service Unavailable"
    | 504 => "Gateway Timeout"
    | 505 => "HTTP Version Not Supported"
    | 506 => "Variant Also Negotiates"
    | 507 => "Insufficient Storage"
    | 508 => "Loop Detected"
    | 510 => "Not Extended"
    | 511 => "Network Authentication Required"
    | _ => "<unknown status code>"
  String.ofList (Decimal.ofNat s.code) ++ " " ++ phrase

end Status

/-- A request without its body, which nothing here reads. -/
structure Request where
  method : Method
  uri : Uri
  version : Version := .http11
  headers : Headers := []

/-- A response; its body is text. -/
structure Response where
  status : Status
  headers : Headers
  body : String

end Liveness.Http
