import Liveness.Http.Wire.Answer
import Liveness.Service

/-! # Connections

The service never reads a body, so the connection does: as far as it has arrived with the head, and
then one piece more. A body that has not ended by then ends the connection, so that none of its
bytes can be taken for a request.

* `Connection`: where a connection stands.
* `Connection.receive`: what bytes that arrive change, and what is answered.
* `Connection.receiveAll`: the same for a sequence of arrivals.
* `Arrival`, `Connection.meet`: the same for an arrival at a time and in surroundings of its own.
-/

namespace Liveness
set_option autoImplicit false

open Http (HeaderValue Request Version)
open Http.Wire

/-- What a connection waits for. -/
inductive Phase where
  /-- The rest of a head. -/
  | head (reader : Reader)
  /-- The rest of the body of a request that has been answered. -/
  | body (framing : Framing) (keepAlive : Bool)
  | closed

/-- A connection to a client. -/
structure Connection where
  service : Service
  phase : Phase := .head {}
  /-- The version of the last request. -/
  version : Version := .http11

/-- What a connection draws on: identifiers, and the time as it is written in an answer. -/
structure Surroundings where
  supply : Supply
  now : HeaderValue

/-- What an arrival changes, what is answered, and what is recorded. -/
structure Outcome where
  connection : Connection
  answers : List Answer := []
  records : List Log.Record := []

/-- The bytes that are sent. -/
def Outcome.bytes (o : Outcome) : List UInt8 := o.answers.flatMap Answer.bytes

namespace Connection

/-! ## Bodies -/

/-- What follows a request. -/
inductive Sequel where
  /-- The next request, which the rest begins. -/
  | request (rest : List UInt8)
  /-- More of the body. -/
  | body (framing : Framing)
  | close

/-- What follows a piece behind which no more is read. -/
def lastPiece : Piece → Sequel
  | .finished rest => .request rest
  | _ => .close

/-- What follows the first piece: if it is not the whole body, one more piece is read from what has
arrived. Where no piece is there yet, the next arrival is taken to come before the connection looks
for one; a connection that looked earlier would be closed at once. -/
def firstPiece : Piece → Sequel
  | .finished rest => .request rest
  | .waiting framing => .body framing
  | .part framing rest => lastPiece (framing.piece rest)
  | .broken => .close

/-- What follows a request whose head ends in front of the rest. -/
def sequel (plan : Plan) (rest : List UInt8) : Sequel :=
  match plan.body with
  | none => .request rest
  | some framing =>
    if plan.expects then lastPiece (framing.piece rest) else firstPiece (framing.piece rest)

theorem length_of_lastPiece {f : Framing} {bytes rest : List UInt8}
    (h : lastPiece (f.piece bytes) = .request rest) : rest.length ≤ bytes.length := by
  cases hp : f.piece bytes with
  | finished r =>
    rw [hp] at h
    simp only [lastPiece, Sequel.request.injEq] at h
    exact h ▸ Framing.length_of_finished hp
  | waiting | part | broken => rw [hp] at h; simp [lastPiece] at h

theorem length_of_firstPiece {f : Framing} {bytes rest : List UInt8}
    (h : firstPiece (f.piece bytes) = .request rest) : rest.length ≤ bytes.length := by
  cases hp : f.piece bytes with
  | finished r =>
    rw [hp] at h
    simp only [firstPiece, Sequel.request.injEq] at h
    exact h ▸ Framing.length_of_finished hp
  | part g r =>
    rw [hp] at h
    exact Nat.le_trans (length_of_lastPiece h) (Framing.length_of_part hp)
  | waiting | broken => rw [hp] at h; simp [firstPiece] at h

theorem length_of_sequel {plan : Plan} {bytes rest : List UInt8}
    (h : sequel plan bytes = .request rest) : rest.length ≤ bytes.length := by
  unfold sequel at h
  split at h
  · simp only [Sequel.request.injEq] at h
    simp [h]
  · split at h
    · exact length_of_lastPiece h
    · exact length_of_firstPiece h

/-! ## Requests -/

/-- The request that a head makes, with its plan. -/
def understand (head : Head) : Except Refusal (Request × Plan) := do
  let request ← head.request?
  let plan ← Plan.ofRequest? request
  .ok (request, plan)

/-- A connection that has been closed. -/
def close (c : Connection) : Connection := { c with phase := .closed }

/-- What bytes make of a connection that reads a head. Requests are answered one after the other,
and the first that is refused or closes the connection is the last. -/
def serve (env : Surroundings) (service : Service) (version : Version) (reader : Reader)
    (bytes : List UInt8) : Outcome :=
  match _h : reader.feed bytes with
  | .more reader => ⟨⟨service, .head reader, version⟩, [], []⟩
  | .refused refusal => ⟨⟨service, .closed, version⟩, [.ofRefusal env.now version refusal], []⟩
  | .done head rest =>
    match understand head with
    | .error refusal => ⟨⟨service, .closed, version⟩, [.ofRefusal env.now version refusal], []⟩
    | .ok (request, plan) =>
      let (service, response, records) := service.handle env.supply request
      match Answer.ofResponse? env.now request plan response with
      | none => ⟨⟨service, .closed, request.version⟩, [], records⟩
      | some answer =>
        match _h' : sequel plan rest with
        | .close => ⟨⟨service, .closed, request.version⟩, [answer], records⟩
        | .body framing =>
          ⟨⟨service, .body framing plan.keepAlive, request.version⟩, [answer], records⟩
        | .request rest =>
          if plan.keepAlive then
            let after := serve env service request.version {} rest
            ⟨after.connection, answer :: after.answers, records ++ after.records⟩
          else ⟨⟨service, .closed, request.version⟩, [answer], records⟩
termination_by bytes.length
decreasing_by
  exact Nat.lt_of_le_of_lt (length_of_sequel _h') (Reader.length_of_feed_done _h)

/-- What bytes that arrive make of a connection. -/
def receive (env : Surroundings) (c : Connection) (bytes : List UInt8) : Outcome :=
  match c.phase with
  | .closed => ⟨c, [], []⟩
  | .head reader => serve env c.service c.version reader bytes
  | .body framing keepAlive =>
    if bytes = [] then ⟨c, [], []⟩
    else match lastPiece (framing.piece bytes) with
      | .request rest =>
        if keepAlive then serve env c.service c.version {} rest else ⟨c.close, [], []⟩
      | _ => ⟨c.close, [], []⟩

/-- What a sequence of arrivals makes of a connection. -/
def receiveAll (env : Surroundings) (c : Connection) : List (List UInt8) → Outcome
  | [] => ⟨c, [], []⟩
  | bytes :: arrivals =>
    let first := c.receive env bytes
    let rest := receiveAll env first.connection arrivals
    ⟨rest.connection, first.answers ++ rest.answers, first.records ++ rest.records⟩

/-- Whether a connection has been closed. -/
def isClosed (c : Connection) : Bool :=
  match c.phase with
  | .closed => true
  | _ => false

/-- A connection whose clock shows the time. -/
def atTime (c : Connection) (now : Nat) : Connection :=
  { c with service := { c.service with recorder := { c.service.recorder with now } } }

end Connection

/-! ## Arrivals -/

/-- Bytes that arrive at a time and in surroundings. -/
structure Arrival where
  now : Nat
  surroundings : Surroundings
  bytes : List UInt8

/-- What an arrival makes of a connection. -/
def Connection.meet (c : Connection) (a : Arrival) : Outcome :=
  (c.atTime a.now).receive a.surroundings a.bytes

end Liveness
