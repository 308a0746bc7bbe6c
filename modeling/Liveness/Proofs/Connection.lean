import Liveness.Program
import Liveness.Proofs.Http.Plans
import Liveness.Proofs.Http.Reading
import Liveness.Proofs.Service

/-! # A connection and the requests sent over it

The requests stand one behind the other in a stream of bytes, of which a part has arrived.

* `Sent.reply`: what the router gives for a request; `Sent.answer` is the answer that carries it.
* `Follows`: what follows a head whose body stands in front of the next request.
* `Answered`: which requests have been answered, and where the connection stands.
* `answered_receiveAll`: however the bytes arrive, the connection keeps to this.
-/

namespace Liveness
set_option autoImplicit false

open Http (Headers HeaderValue Request Response Status Version)
open Http.Wire

/-! ## Streams and replies -/

namespace Http.Wire

/-- The bytes of requests, one behind the other. -/
def stream (requests : List Sent) : List UInt8 := requests.flatMap Sent.bytes

/-- What the router gives for a request. -/
def Sent.reply (q : Sent) : Reply := dispatch q.method q.uri

/-- The answer that carries the reply to a request, with an identifier and the time. The body is left
out where the request asks for the head alone. -/
def Sent.answer (q : Sent) (now id : HeaderValue) : Answer where
  version := .http11
  status := q.reply.status
  headers := [(Headers.contentLength, lengthValue q.reply.body.utf8ByteSize), (Headers.requestId, id),
    (Answer.date, now)]
  body := if q.asksForHead then "" else q.reply.body

theorem stream_cons (q : Sent) (requests : List Sent) :
    stream (q :: requests) = q.headBytes ++ (q.body ++ stream requests) := by
  rw [stream, List.flatMap_cons, ← stream, Sent.bytes, List.append_assoc]

/-- The part of a stream that has arrived ends inside the first head, or has it as a whole. -/
theorem arrived_cases {q : Sent} (taken : q.IsTaken) {tail arrived unsent : List UInt8}
    (eq : arrived ++ unsent = q.headBytes ++ tail) :
    (∃ r, ({} : Reader).feed arrived = .more r) ∨
      ∃ rest, ({} : Reader).feed arrived = .done q.head rest ∧ rest ++ unsent = tail := by
  by_cases short : arrived.length < q.headBytes.length
  · have whole : arrived ++ q.headBytes.drop arrived.length = q.headBytes := by
      have := congrArg (List.take arrived.length) eq
      rw [List.take_left, List.take_append_of_le_length (Nat.le_of_lt short)] at this
      conv => lhs; arg 1; rw [this]
      exact List.take_append_drop _ _
    refine .inl (Reader.feed_of_prefix taken whole ?_)
    intro empty
    have := List.drop_eq_nil_iff.1 empty
    omega
  · have long := Nat.not_lt.1 short
    have split : arrived = q.headBytes ++ arrived.drop q.headBytes.length := by
      have := congrArg (List.take q.headBytes.length) eq
      rw [List.take_left, List.take_append_of_le_length long] at this
      conv => rhs; arg 1; rw [← this]
      exact (List.take_append_drop _ _).symm
    refine .inr ⟨arrived.drop q.headBytes.length, ?_, drop_append_of_append_eq eq long⟩
    conv => lhs; rw [split]
    exact Reader.feed_headBytes taken _

end Http.Wire

namespace Connection

/-! ## Answers -/

theorem not_opensTunnel {m : Http.Method} (h : m ≠ .connect) (s : Status) :
    ¬Answer.opensTunnel m s = true := by
  rw [Answer.opensTunnel, decide_eq_false h]
  exact Bool.false_ne_true

theorem method_eq_iff {q : Sent} (taken : q.IsTaken) (m : Http.Method) :
    q.method = m ↔ text q.word = m.name := by
  have name : q.method.name = text q.word := Http.Method.ofString?_eq_some (Sent.ofString?_word taken)
  rw [← name]
  exact ⟨congrArg _, Http.Method.ext⟩

/-- A request is answered with what the router gives for it. -/
theorem exists_answer (env : Surroundings) (s : Service) {q : Sent} (taken : q.IsTaken)
    (noTunnel : q.asksForTunnel = false) (plan : Plan) :
    ∃ id, Answer.ofResponse? env.now q.request plan (s.handle env.supply q.request).2.1 =
      some (q.answer env.now id) := by
  have other : q.request.method ≠ .connect := by
    intro tunnel
    exact of_decide_eq_false noTunnel ((method_eq_iff taken .connect).1 tunnel)
  have alone : (q.request.method = .head) = (q.asksForHead = true) := by
    rw [Sent.asksForHead, decide_eq_true_eq]
    exact propext (method_eq_iff taken .head)
  rw [handle_response, Answer.ofResponse?, if_neg (not_opensTunnel other _)]
  simp only [alone]
  exact ⟨_, rfl⟩

theorem understand_eq_ok_iff {head : Head} {request : Request} {plan : Plan} :
    understand head = .ok (request, plan) ↔
      head.request? = .ok request ∧ Plan.ofRequest? request = .ok plan := by
  simp only [understand, bind, Except.bind]
  cases head.request? with
  | error refusal => simp
  | ok made =>
    simp only [Except.ok.injEq]
    constructor
    · intro h
      cases planned : Plan.ofRequest? made with
      | error refusal =>
        rw [planned] at h
        cases h
      | ok plan' =>
        rw [planned] at h
        cases h
        exact ⟨rfl, planned⟩
    · rintro ⟨rfl, planned⟩
      rw [planned]

theorem understand_head {q : Sent} (taken : q.IsTaken) {plan : Plan}
    (h : Plan.ofRequest? q.request = .ok plan) : understand q.head = .ok (q.request, plan) :=
  understand_eq_ok_iff.2 ⟨Sent.request?_head taken, h⟩

/-! ## Behind a head -/

/-- What follows a head whose body stands in front of a tail, where some bytes have not arrived: the
tail, the rest of the body, or the end. -/
inductive Follows (body tail unsent : List UInt8) : Sequel → Prop
  | request {rest : List UInt8} (eq : rest ++ unsent = tail) : Follows body tail unsent (.request rest)
  | body {f : Framing} {left : List UInt8} (ne : body ≠ []) (spans : f.Spans left)
      (eq : unsent = left ++ tail) : Follows body tail unsent (.body f)
  | close (ne : body ≠ []) : Follows body tail unsent .close

variable {body tail unsent : List UInt8}

theorem follows_lastPiece (ne : body ≠ []) {p : Piece} (h : p.Leaves tail unsent) :
    Follows body tail unsent (lastPiece p) := by
  cases h with
  | waiting => exact .close ne
  | part => exact .close ne
  | finished eq => exact .request eq

theorem follows_firstPiece (ne : body ≠ []) {p : Piece} (h : p.Leaves tail unsent) :
    Follows body tail unsent (firstPiece p) := by
  cases h with
  | waiting spans eq => exact .body ne spans eq
  | part spans eq => exact follows_lastPiece ne (Framing.leaves_piece spans eq)
  | finished eq => exact .request eq

theorem follows_sequel {plan : Plan} {rest : List UInt8} (fits : plan.Fits body)
    (expects : plan.expects = false) (eq : rest ++ unsent = body ++ tail) :
    Follows body tail unsent (sequel plan rest) := by
  rw [Plan.Fits] at fits
  rw [sequel]
  cases hb : plan.body with
  | none =>
    rw [hb] at fits
    have empty : body = [] := fits
    rw [empty] at eq
    exact .request eq
  | some f =>
    rw [hb] at fits
    have spans : f.Spans body := fits
    dsimp only
    rw [expects, if_neg Bool.false_ne_true]
    exact follows_firstPiece spans.ne_nil (Framing.leaves_piece spans eq)

/-! ## Serving -/

section
variable {env : Surroundings} {s : Service} {v : Version} {reader : Reader} {bytes : List UInt8}

/-- What bytes make of a connection that reads a head, case by case. -/
theorem serve_eq : serve env s v reader bytes =
    match reader.feed bytes with
    | .more r => ⟨⟨s, .head r, v⟩, [], []⟩
    | .refused refusal => ⟨⟨s, .closed, v⟩, [.ofRefusal env.now v refusal], []⟩
    | .done head rest =>
      match understand head with
      | .error refusal => ⟨⟨s, .closed, v⟩, [.ofRefusal env.now v refusal], []⟩
      | .ok (request, plan) =>
        let (s', response, records) := s.handle env.supply request
        match Answer.ofResponse? env.now request plan response with
        | none => ⟨⟨s', .closed, request.version⟩, [], records⟩
        | some a =>
          match sequel plan rest with
          | .close => ⟨⟨s', .closed, request.version⟩, [a], records⟩
          | .body f => ⟨⟨s', .body f plan.keepAlive, request.version⟩, [a], records⟩
          | .request rest =>
            if plan.keepAlive then
              let after := serve env s' request.version {} rest
              ⟨after.connection, a :: after.answers, records ++ after.records⟩
            else ⟨⟨s', .closed, request.version⟩, [a], records⟩ := by
  conv => lhs; rw [serve]
  cases reader.feed bytes with
  | more r => rfl
  | refused refusal => rfl
  | done head rest =>
    dsimp only
    cases understand head with
    | error refusal => rfl
    | ok made =>
      dsimp only
      cases Answer.ofResponse? env.now made.1 made.2 (s.handle env.supply made.1).2.1 with
      | none => rfl
      | some a =>
        dsimp only
        cases sequel made.2 rest with
        | close => rfl
        | body f => rfl
        | request rest' => rfl

theorem serve_of_more {r : Reader} (h : reader.feed bytes = .more r) :
    serve env s v reader bytes = ⟨⟨s, .head r, v⟩, [], []⟩ := by
  rw [serve_eq, h]

/-- What a head makes of a connection once it has been understood and answered. -/
theorem serve_of_done {head : Head} {rest : List UInt8} {request : Request} {plan : Plan}
    {a : Answer} (fed : reader.feed bytes = .done head rest)
    (understood : understand head = .ok (request, plan))
    (answered : Answer.ofResponse? env.now request plan
      (s.handle env.supply request).2.1 = some a) :
    serve env s v reader bytes =
      let (s', _, records) := s.handle env.supply request
      match sequel plan rest with
      | .close => ⟨⟨s', .closed, request.version⟩, [a], records⟩
      | .body f => ⟨⟨s', .body f plan.keepAlive, request.version⟩, [a], records⟩
      | .request rest =>
        if plan.keepAlive then
          let after := serve env s' request.version {} rest
          ⟨after.connection, a :: after.answers, records ++ after.records⟩
        else ⟨⟨s', .closed, request.version⟩, [a], records⟩ := by
  rw [serve_eq, fed]
  dsimp only
  rw [understood]
  dsimp only
  rw [answered]

end

/-! ## Which requests have been answered -/

/-- Which requests have been answered, each with some identifier, and where the connection stands,
while the last bytes of the stream are still unsent. -/
inductive Answered (now : HeaderValue) : List Sent → List UInt8 → List Answer → Phase → Prop
  | waiting {requests : List Sent} {unsent read : List UInt8} {reader : Reader}
      (fed : ({} : Reader).feed read = .more reader) (eq : read ++ unsent = stream requests) :
      Answered now requests unsent [] (.head reader)
  | draining {q : Sent} {requests : List Sent} {unsent left : List UInt8} {f : Framing}
      (id : HeaderValue) (ne : q.body ≠ []) (spans : f.Spans left)
      (eq : unsent = left ++ stream requests) (behind : unsent <:+ q.body ++ stream requests) :
      Answered now (q :: requests) unsent [q.answer now id] (.body f !q.closes)
  | closed {q : Sent} {requests : List Sent} {unsent : List UInt8}
      (id : HeaderValue) (ends : q.closes = true ∨ q.body ≠ [])
      (behind : unsent <:+ q.body ++ stream requests) :
      Answered now (q :: requests) unsent [q.answer now id] .closed
  | next {q : Sent} {requests : List Sent} {unsent : List UInt8} {answers : List Answer}
      {phase : Phase} (id : HeaderValue) (stays : q.closes = false)
      (rest : Answered now requests unsent answers phase) :
      Answered now (q :: requests) unsent (q.answer now id :: answers) phase

/-- A connection that reads a head keeps to the requests. Induction on those that are still to come:
each is one more turn of `serve`. -/
theorem answered_serve (env : Surroundings) (s : Service) (v : Version) {reader : Reader}
    {requests : List Sent} (proper : ∀ q ∈ requests, q.IsProper) {read bytes unsent : List UInt8}
    (fed : ({} : Reader).feed read = .more reader)
    (eq : read ++ bytes ++ unsent = stream requests) :
    Answered env.now requests unsent (serve env s v reader bytes).answers
      (serve env s v reader bytes).connection.phase := by
  have resume : reader.feed bytes = ({} : Reader).feed (read ++ bytes) := by
    rw [Reader.feed_append, fed]
  induction requests generalizing s v reader read bytes with
  | nil =>
    have empty : read ++ bytes = [] := (List.append_eq_nil_iff.1 eq).1
    rw [empty] at resume eq
    have same : reader.feed bytes = .more {} := resume
    rw [serve_of_more same]
    exact .waiting (Reader.feed_nil {}) eq
  | cons q requests ih =>
    rw [stream_cons] at eq
    -- Either the first head is still incomplete, or what follows it decides.
    obtain ⟨taken, framed⟩ := proper q List.mem_cons_self
    obtain ⟨r, more⟩ | ⟨rest, done, behind⟩ := arrived_cases taken eq
    · rw [more] at resume
      rw [serve_of_more resume]
      refine .waiting more ?_
      rw [stream_cons]
      exact eq
    · rw [done] at resume
      obtain ⟨plan, planned, fits, keeps, expects⟩ := Sent.plan_of_isFramed framed
      obtain ⟨id, answered⟩ := exists_answer env s taken framed.noTunnel plan
      have follows := follows_sequel fits expects behind
      have suffix : unsent <:+ q.body ++ stream requests := ⟨rest, behind⟩
      rw [serve_of_done resume (understand_head taken planned) answered]
      dsimp only
      rw [keeps]
      cases hs : sequel plan rest with
      | close =>
        rw [hs] at follows
        cases follows with
        | close ne => exact .closed id (.inr ne) suffix
      | body f =>
        rw [hs] at follows
        cases follows with
        | body ne spans eq => exact .draining id ne spans eq suffix
      | request rest' =>
        rw [hs] at follows
        cases follows with
        | request eq =>
          dsimp only
          cases closes : q.closes with
          | true => exact .closed id (.inl closes) suffix
          | false =>
            refine .next id closes ?_
            exact ih _ _ (fun q hq => proper q (List.mem_cons_of_mem _ hq)) (Reader.feed_nil {}) eq rfl

/-- One arrival keeps to the requests. -/
theorem answered_receive (env : Surroundings) {c : Connection} {requests : List Sent}
    (proper : ∀ q ∈ requests, q.IsProper) {answers : List Answer} {bytes unsent : List UInt8}
    (h : Answered env.now requests (bytes ++ unsent) answers c.phase) :
    Answered env.now requests unsent (answers ++ (c.receive env bytes).answers)
      (c.receive env bytes).connection.phase := by
  generalize hp : c.phase = phase at h
  generalize ha : bytes ++ unsent = arriving at h
  induction h with
  | @waiting requests _ read reader fed eq =>
    subst ha
    rw [← List.append_assoc] at eq
    rw [receive, hp]
    exact answered_serve env c.service c.version proper fed eq
  | @draining q requests _ left f id ne spans eq behind =>
    subst ha
    have suffix : unsent <:+ q.body ++ stream requests := (List.suffix_append _ _).trans behind
    rw [receive, hp]
    dsimp only
    by_cases empty : bytes = []
    · subst empty
      rw [if_pos rfl]
      dsimp only
      rw [hp]
      exact .draining id ne spans eq suffix
    · rw [if_neg empty]
      -- One more piece of the body is read, and what is not its end closes the connection.
      have follows := follows_lastPiece ne (Framing.leaves_piece spans eq)
      cases hs : lastPiece (f.piece bytes) with
      | close => exact .closed id (.inr ne) suffix
      | body f' => exact .closed id (.inr ne) suffix
      | request rest =>
        rw [hs] at follows
        cases follows with
        | request eq =>
          dsimp only
          cases closes : q.closes with
          | true => exact .closed id (.inl closes) suffix
          | false =>
            refine .next id closes ?_
            exact answered_serve env c.service c.version
              (fun q hq => proper q (List.mem_cons_of_mem _ hq)) (Reader.feed_nil {}) eq
  | closed id ends behind =>
    subst ha
    rw [receive, hp]
    dsimp only
    rw [hp]
    exact .closed id ends ((List.suffix_append _ _).trans behind)
  | next id stays _ ih =>
    exact .next id stays (ih (fun q hq => proper q (List.mem_cons_of_mem _ hq)) hp ha)

/-- A sequence of arrivals keeps to the requests. -/
theorem answered_receiveAll (env : Surroundings) {c : Connection} {requests : List Sent}
    (proper : ∀ q ∈ requests, q.IsProper) {answers : List Answer} (arrivals : List (List UInt8))
    {unsent : List UInt8} (h : Answered env.now requests (arrivals.flatten ++ unsent) answers c.phase) :
    Answered env.now requests unsent (answers ++ (c.receiveAll env arrivals).answers)
      (c.receiveAll env arrivals).connection.phase := by
  induction arrivals generalizing c answers with
  | nil =>
    show Answered env.now requests unsent (answers ++ []) c.phase
    rw [List.append_nil]
    exact h
  | cons bytes arrivals ih =>
    rw [List.flatten_cons, List.append_assoc] at h
    have first := answered_receive env proper h
    have rest := ih first
    rw [List.append_assoc] at rest
    exact rest

/-! ## New connections -/

theorem isClosed_iff (c : Connection) : c.isClosed = true ↔ c.phase = .closed := by
  rw [isClosed]
  cases c.phase with
  | closed => exact ⟨fun _ => rfl, fun _ => rfl⟩
  | head reader => exact ⟨(by cases ·), (by cases ·)⟩
  | body f keepAlive => exact ⟨(by cases ·), (by cases ·)⟩

/-- A new connection keeps to the requests, however their bytes arrive. -/
theorem answered_connect (server : Server) (env : Surroundings) {requests : List Sent}
    (proper : ∀ q ∈ requests, q.IsProper) {arrivals : List (List UInt8)} {unsent : List UInt8}
    (eq : arrivals.flatten ++ unsent = stream requests) :
    Answered env.now requests unsent (server.connect.receiveAll env arrivals).answers
      (server.connect.receiveAll env arrivals).connection.phase := by
  have start : Answered env.now requests (arrivals.flatten ++ unsent) [] server.connect.phase :=
    .waiting (Reader.feed_nil {}) eq
  exact answered_receiveAll env proper arrivals start

/-- The server of a program that is started without variables. -/
def loopback : Server := ⟨Program.recorder []⟩

/-- Identifiers in order, at no time in particular. -/
def still : Surroundings := ⟨Uuid.ofBits, .ofVisible ['-'] (by decide)⟩

/-- A request for the health check. -/
def healthRequest (word : List UInt8) (full : word ≠ []) (token : word.all isTokenByte = true)
    (lines : List Line) : Sent where
  word
  target := ascii "/healthz"
  uri := .origin ⟨"/healthz".toList, none⟩
  lines
  body := []
  word_ne_nil := full
  isTokenByte_word := token
  isTargetByte_target := by decide
  parse?_target := by decide

/-- One by the usual method. -/
def getRequest (lines : List Line) : Sent :=
  healthRequest (ascii "GET") (by decide) (by decide) lines

end Connection
end Liveness
