import Liveness.Http.Message

/-! # The route to the health check

* `Reply`: a fixed status and body.
* `route`: the reply to a request target, which must be the path of the health check to the letter.
* `dispatch`: the reply to a method and a URI.
-/

namespace Liveness
set_option autoImplicit false

/-- The only path that is answered. -/
def healthPath : String := "/healthz"

/-- The body of that answer. -/
def healthBody : String := "ok"

/-- A fixed answer. -/
structure Reply where
  status : Http.Status
  body : String
  deriving DecidableEq

namespace Reply

/-- The answer of a live server. -/
def healthy : Reply := ⟨.ok, healthBody⟩

/-- The answer to every other target. -/
def notFound : Reply := ⟨.notFound, ""⟩

/-- The response that carries a reply. -/
def toResponse (r : Reply) : Http.Response := ⟨r.status, [], r.body⟩

end Reply

/-- The reply to a request target as sent, query included. The method has no influence, and the
target is neither folded, decoded nor shortened. -/
def route (_method : Http.Method) (target : String) : Reply :=
  if target = healthPath then .healthy else .notFound

/-- The reply to a method and a URI. -/
def dispatch (method : Http.Method) (uri : Http.Uri) : Reply :=
  route method (String.ofList uri.requestTarget)

end Liveness
