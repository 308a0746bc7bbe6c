import Liveness.Log.Recorder
import Liveness.Route
import Liveness.Uuid

/-! # The service

A request passes through three layers: it gets an identifier, what happens is recorded in a span,
and the identifier is copied to the response.

* `identify`: a request with an identifier.
* `respond`: the response to a request that has one.
* `Service.handle`: the response to a request, with what is recorded.
* `Service.handleAll`: the same for a list of requests.
-/

namespace Liveness
set_option autoImplicit false

open Http (Headers HeaderValue Request Response)

/-- The supply of identifiers: the one that is drawn after a number of others. -/
abbrev Supply := Nat → Uuid

/-! ## Identifiers -/

/-- A request with an identifier, and the number of identifiers drawn. One that the client sent is
kept, and then none is drawn. -/
def identify (supply : Supply) (drawn : Nat) (request : Request) : Request × Nat :=
  match request.headers.first? Headers.requestId with
  | some _ => (request, drawn)
  | none =>
    let field := (Headers.requestId, (supply drawn).headerValue)
    ({ request with headers := request.headers ++ [field] }, drawn + 1)

/-! ## Responses -/

theorem isVisible_of_isDigit {c : Char} (h : c.isDigit = true) :
    HeaderValue.isVisible c = true := by
  simp only [Char.isDigit, Bool.and_eq_true, decide_eq_true_eq] at h
  have low : '0'.toNat ≤ c.toNat := h.1
  have high : c.toNat ≤ '9'.toNat := h.2
  have zero : '0'.toNat = 48 := rfl
  have nine : '9'.toNat = 57 := rfl
  simp only [HeaderValue.isVisible, Bool.and_eq_true, decide_eq_true_eq]
  omega

/-- The length of a body as the value of a header field. -/
def lengthValue (length : Nat) : HeaderValue :=
  .ofVisible (Decimal.ofNat length) <|
    List.all_eq_true.2 fun _ h => isVisible_of_isDigit (Decimal.isDigit_of_mem_ofNat h)

/-- The response to a request. It says how long the body is, also where the body will be left out,
and has the identifier of the request. -/
def respond (request : Request) : Response :=
  let response := (dispatch request.method request.uri).toResponse
  let length := (Headers.contentLength, lengthValue response.body.utf8ByteSize)
  let id := (request.headers.first? Headers.requestId).map (Headers.requestId, ·)
  { response with headers := response.headers ++ length :: id.toList }

/-! ## Recording -/

/-- The fields of the span in which a request is answered. -/
def spanFields (request : Request) : Log.Fields :=
  [("method", .text request.method.name),
    ("uri", .text (String.ofList request.uri.text)),
    ("version", .text request.version.text),
    ("headers", .text (String.ofList request.headers.text))]

/-- The field that says how long an answer took. -/
def latencyField (milliseconds : Nat) : String × Log.Value :=
  ("latency", .text (String.ofList (Decimal.ofNat milliseconds) ++ " ms"))

/-- The fields of the event at the end of an answer. -/
def responseFields (milliseconds : Nat) (response : Response) : Log.Fields :=
  [latencyField milliseconds,
    ("status", .integer response.status.code),
    ("response_headers", .text (String.ofList response.headers.text))]

/-- The fields of the event behind an answer that says that the server has failed. -/
def failureFields (milliseconds : Nat) (response : Response) : Log.Fields :=
  [("classification", .text ("Status code: " ++ response.status.describe)),
    latencyField milliseconds]

/-- The answer to a request that has an identifier, recorded in a span. An answer that says that the
server has failed is recorded once more, at the most important level. -/
def trace (recorder : Log.Recorder) (request : Request) :
    Log.Recorder × Response × List Log.Record :=
  let (inside, opened) := recorder.enter .debug "tower_http::trace::make_span" "request"
    (spanFields request)
  let started := inside.event .debug "tower_http::trace::on_request"
    (some "started processing request") []
  let response := respond request
  let latency := inside.now - recorder.now
  let finished := inside.event .debug "tower_http::trace::on_response"
    (some "finished processing request") (responseFields latency response)
  let failed :=
    if response.status.isServerError then
      inside.event .error "tower_http::trace::on_failure" (some "response failed")
        (failureFields latency response)
    else []
  let (outside, closed) := inside.exit
  (outside, response, opened ++ started ++ finished ++ failed ++ closed)

/-! ## The service -/

/-- A recorder, and the number of identifiers drawn. -/
structure Service where
  recorder : Log.Recorder
  drawn : Nat := 0

namespace Service

/-- The response to a request, with what is recorded. -/
def handle (supply : Supply) (s : Service) (request : Request) :
    Service × Response × List Log.Record :=
  let (request, drawn) := identify supply s.drawn request
  let (recorder, response, records) := trace s.recorder request
  ({ recorder, drawn }, response, records)

/-- The responses to requests one after the other, with what is recorded for each. -/
def handleAll (supply : Supply) (s : Service) : List Request → List (Response × List Log.Record)
  | [] => []
  | request :: requests =>
    let (s, answer) := handle supply s request
    answer :: handleAll supply s requests

end Service
end Liveness
