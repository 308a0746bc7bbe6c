import Liveness.Http.Wire.Framing

/-! # Responses on a connection

* `Answer`: a response as it is sent.
* `Answer.ofResponse?`: the answer that carries a response.
* `Answer.ofRefusal`: the answer to a head that is refused.
* `Answer.bytes`: the bytes of an answer.
-/

namespace Liveness.Http.Wire
set_option autoImplicit false

/-- A response as it is sent. -/
structure Answer where
  version : Version
  status : Status
  headers : Headers
  body : String

/-- The phrase behind a status code. -/
def reason (s : Status) : String :=
  match s.code with
  | 200 => "OK"
  | 400 => "Bad Request"
  | 404 => "Not Found"
  | 414 => "URI Too Long"
  | 431 => "Request Header Fields Too Large"
  | _ => "<unknown>"

namespace Answer

/-- The field that says when an answer was made. -/
def date : HeaderName := ⟨"date", by decide⟩

/-- The field that says whether the connection stays open. -/
def connection : HeaderName := ⟨"connection", by decide⟩

/-- The value of that field where the connection stays open. -/
def keepAlive : HeaderValue := .ofVisible "keep-alive".toList (by decide)

/-- The length of an empty body. -/
def zero : HeaderValue := .ofVisible ['0'] (by decide)

/-- What is said of the connection: only a client of the older version needs to hear that it stays
open. -/
def connectionField (version : Version) (stays : Bool) : Headers :=
  match version, stays with
  | .http10, true => [(connection, keepAlive)]
  | _, _ => []

/-- Whether a response would open a tunnel, which may not have a length. -/
def opensTunnel (method : Method) (status : Status) : Bool :=
  method = .connect && 200 ≤ status.code && status.code < 300

/-- The answer that carries a response, unless it would open a tunnel. The body is left out where
the method asks for the head alone. -/
def ofResponse? (now : HeaderValue) (request : Request) (plan : Plan) (response : Response) :
    Option Answer :=
  if opensTunnel request.method response.status then none
  else some
    { version := request.version
      status := response.status
      headers := response.headers ++ connectionField request.version plan.keepAlive ++ [(date, now)]
      body := if request.method = .head then "" else response.body }

/-- The answer to a head that is refused, in the version of the last request. -/
def ofRefusal (now : HeaderValue) (version : Version) (refusal : Refusal) : Answer :=
  { version
    status := refusal.status
    headers := [(Headers.contentLength, zero), (date, now)]
    body := "" }

/-- The status line. -/
def statusLine (a : Answer) : String :=
  a.version.text ++ " " ++ String.ofList (Decimal.ofNat a.status.code) ++ " " ++ reason a.status

/-- The end of a line. -/
def newline : List UInt8 := [cr, lf]

/-- A header field with the end of its line. -/
def fieldBytes (field : HeaderName × HeaderValue) : List UInt8 :=
  field.1.text.toList.map byte ++ [byte ':', byte ' '] ++ field.2.bytes ++ newline

/-- The bytes of an answer. -/
def bytes (a : Answer) : List UInt8 :=
  a.statusLine.toList.map byte ++ newline ++ a.headers.flatMap fieldBytes ++ newline ++
    a.body.toUTF8.toList

end Answer
end Liveness.Http.Wire
