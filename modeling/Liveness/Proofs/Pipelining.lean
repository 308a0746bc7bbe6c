import Liveness.Proofs.Methods
import Liveness.Proofs.Replies

/-! # Requests without bodies on one connection

* `Sent.IsBare`: the requests without a body, that ask of the connection at most for its end.
* `served`: the requests up to the first that asks for the end.
* `receiveAll_bare`: these are answered, each once and in order, however the bytes are cut.
-/

namespace Liveness
set_option autoImplicit false

open Http (HeaderValue Method Uri)
open Http.Wire

/-! ## Bare requests -/

/-- A request without a body and without a field that frames one, waits for leave to send it or asks
for another protocol. It does not ask for a tunnel, and of the connection at most for the end. -/
structure Http.Wire.Sent.IsBare (q : Sent) : Prop where
  noTunnel : q.asksForTunnel = false
  plain : ∀ l ∈ q.lines,
    l.lowerName ∉ ["content-length", "transfer-encoding", "expect", "upgrade"]
  connection : ∀ l ∈ q.lines, l.lowerName = "connection" → l.word = "close".toList
  body_eq_nil : q.body = []

theorem Http.Wire.Sent.IsBare.isFramed {q : Sent} (h : q.IsBare) : q.IsFramed where
  noTunnel := h.noTunnel
  plain l hl := by
    have := h.plain l hl
    simp only [List.mem_cons, List.not_mem_nil, or_false, not_or] at this
    exact ⟨this.2.2.1, this.2.2.2⟩
  connection := h.connection
  framed := by
    have none : q.lines.filter Line.isFraming = [] := by
      rw [List.filter_eq_nil_iff]
      intro l hl
      have := h.plain l hl
      simp only [List.mem_cons, List.not_mem_nil, or_false, not_or] at this
      rw [Line.isFraming, decide_eq_false this.1, decide_eq_false this.2.1]
      exact Bool.false_ne_true
    rw [none, h.body_eq_nil]
    exact .none

/-! ## Served requests -/

namespace Connection

/-- The requests up to the first that asks for the end of the connection, and this one. -/
def served : List Sent → List Sent
  | [] => []
  | q :: requests => if q.closes then [q] else q :: served requests

theorem served_of_not_closes {requests : List Sent} (h : ∀ q ∈ requests, q.closes = false) :
    served requests = requests := by
  induction requests with
  | nil => rfl
  | cons q requests ih =>
    rw [served, h q List.mem_cons_self, ih fun q hq => h q (List.mem_cons_of_mem _ hq)]
    rfl

/-- Once all bytes have arrived, what has been sent are the responses to the requests that are served,
each an answer of its own. -/
theorem replies_of_bare {now : HeaderValue} {requests : List Sent} {unsent : List UInt8}
    {answers : List Answer} {phase : Phase} (h : Answered now requests unsent answers phase)
    (all : unsent = []) (bare : ∀ q ∈ requests, q.IsBare) (taken : ∀ q ∈ requests, q.IsTaken) :
    (served requests).length = answers.length ∧
      Replies now (served requests) (answers.flatMap Answer.bytes) ∧
      (phase = .closed ↔ ∃ q ∈ requests, q.closes = true) := by
  induction h with
  | @waiting requests _ read reader fed eq =>
    subst all
    rw [List.append_nil] at eq
    cases requests with
    | nil =>
      refine ⟨rfl, .nil, ?_⟩
      constructor
      · intro h
        cases h
      · rintro ⟨q, hq, -⟩
        cases hq
    | cons q requests =>
      -- The first head has arrived as a whole, so the reader cannot be inside it.
      rw [eq, stream_cons, Reader.feed_headBytes (taken q List.mem_cons_self)] at fed
      cases fed
  | draining _ ne => exact absurd (bare _ List.mem_cons_self).body_eq_nil ne
  | @closed q requests _ id ends _ =>
    have closes : q.closes = true :=
      ends.resolve_right fun ne => ne (bare q List.mem_cons_self).body_eq_nil
    rw [served, if_pos closes]
    refine ⟨rfl, .cons_answer id .nil, ?_⟩
    exact ⟨fun _ => ⟨q, List.mem_cons_self, closes⟩, fun _ => rfl⟩
  | @next q requests _ answers phase id stays _ ih =>
    obtain ⟨length, replies, closed⟩ := ih all (fun q hq => bare q (List.mem_cons_of_mem _ hq))
      fun q hq => taken q (List.mem_cons_of_mem _ hq)
    have goes : ¬q.closes = true := by rw [stays]; exact Bool.false_ne_true
    rw [served, if_neg goes, List.length_cons, List.length_cons, length, closed]
    refine ⟨rfl, .cons_answer id replies, ?_⟩
    constructor
    · rintro ⟨q', hq', closes⟩
      exact ⟨q', List.mem_cons_of_mem _ hq', closes⟩
    · rintro ⟨q', hq', closes⟩
      obtain rfl | hq' := List.mem_cons.1 hq'
      · exact absurd closes goes
      · exact ⟨q', hq', closes⟩

/-- However the bytes of bare requests are cut, what is sent back is one response to each request, in
order, up to the first that asks for the end of the connection, and to all if none does. Each has the
status and the body that the router gives for this request alone, and the connection is closed only
behind a request that asks for it. -/
theorem receiveAll_bare (server : Server) (env : Surroundings) {requests : List Sent}
    (bare : ∀ q ∈ requests, q.IsBare) (taken : ∀ q ∈ requests, q.IsTaken)
    {arrivals : List (List UInt8)} (eq : arrivals.flatten = requests.flatMap Sent.bytes) :
    let outcome := server.connect.receiveAll env arrivals
    Replies env.now (served requests) outcome.bytes ∧
      ((∀ q ∈ requests, q.closes = false) → Replies env.now requests outcome.bytes) ∧
      (outcome.connection.isClosed = true ↔ ∃ q ∈ requests, q.closes = true) := by
  have proper : ∀ q ∈ requests, q.IsProper := fun q hq => ⟨taken q hq, (bare q hq).isFramed⟩
  have all : arrivals.flatten ++ [] = stream requests := by
    rw [List.append_nil]
    exact eq
  have answered := answered_connect server env proper all
  obtain ⟨-, replies, closed⟩ := replies_of_bare answered rfl bare taken
  intro outcome
  rw [isClosed_iff]
  refine ⟨replies, ?_, closed⟩
  intro none
  rw [served_of_not_closes none] at replies
  exact replies

/-- A line that asks for the end of the connection. -/
def closeLine : Line where
  name := ascii "CONNECTION"
  before := []
  value := ascii "Close"
  after := ascii "\t"
  isLine_parts := by decide

/-- A request that asks for nothing else. -/
def plainRequest : Sent := getRequest [hostLine]

/-- One that asks for the head of the response alone and for the end of the connection. -/
def headRequest : Sent :=
  healthRequest (ascii "HEAD") (by decide) (by decide) [closeLine, hostLine]

example : plainRequest.replyBytes still.now (.ofVisible ['7'] (by decide)) =
    ascii "HTTP/1.1 200 OK\r\ncontent-length: 2\r\nx-request-id: 7\r\ndate: -\r\n\r\nok" := by
  decide +kernel

example : headRequest.replyBytes still.now (.ofVisible ['7'] (by decide)) =
    ascii "HTTP/1.1 200 OK\r\ncontent-length: 2\r\nx-request-id: 7\r\ndate: -\r\n\r\n" := by
  decide +kernel

/-- Three requests, of which the second asks for the end of the connection. -/
def pipelined : List Sent := [plainRequest, headRequest, plainRequest]

/-- The same, cut in a method, inside the end of a line and in a target. -/
def pipelinedArrivals : List (List UInt8) :=
  ["GE", "T /healthz HTTP/1.1\r\nHost: localhost\r", "\n\r\nHEAD /healthz HTTP/1.1\r\nCONNECTION:",
    "", "Close\t\r\nHost: localhost\r\n\r\nGET /heal", "thz HTTP/1.1\r\nHost: localhost\r\n\r\n"].map ascii

theorem receiveAll_bare_pipelined :
    let outcome := loopback.connect.receiveAll still pipelinedArrivals
    (∃ first second, outcome.bytes =
      plainRequest.replyBytes still.now first ++ headRequest.replyBytes still.now second) ∧
      outcome.connection.isClosed = true := by
  have bare (q : Sent) (hq : q ∈ pipelined) : q.IsBare :=
    ⟨by revert q; decide +kernel, by revert q; decide +kernel, by revert q; decide +kernel,
      by revert q; decide +kernel⟩
  have taken (q : Sent) (hq : q ∈ pipelined) : q.IsTaken :=
    ⟨by revert q; decide +kernel, by revert q; decide +kernel, by revert q; decide +kernel⟩
  have cut : pipelinedArrivals.flatten = pipelined.flatMap Sent.bytes := by decide +kernel
  obtain ⟨replies, -, closed⟩ := receiveAll_bare loopback still bare taken cut
  have closes : ∃ q ∈ pipelined, q.closes = true := by decide +kernel
  refine ⟨?_, closed.2 closes⟩
  obtain ⟨first, _, sent, rest⟩ := replies_cons_iff.1 replies
  obtain ⟨second, _, more, last⟩ := replies_cons_iff.1 rest
  rw [more, replies_nil_iff.1 last, List.append_nil] at sent
  exact ⟨first, second, sent⟩

/-- A request whose first word is a token and yet the name of no method. -/
def oddRequest : Sent := healthRequest (ascii "A&B") (by decide) (by decide) [hostLine]

/-- Such a request is refused, and one that stands behind it is not answered. -/
theorem unanswered_of_unnamed :
    let requests := [oddRequest, plainRequest]
    let outcome := loopback.connect.receiveAll still [requests.flatMap Sent.bytes]
    (∀ q ∈ requests, q.IsBare ∧ q.lines.length ≤ Reader.maxFields ∧
        q.headBytes.length ≤ Reader.maxSize) ∧
      outcome.bytes = ascii "HTTP/1.1 400 Bad Request\r\ncontent-length: 0\r\ndate: -\r\n\r\n" ∧
      outcome.connection.isClosed = true ∧ ¬Replies still.now (served requests) outcome.bytes := by
  have bare (q : Sent) (hq : q ∈ [oddRequest, plainRequest]) : q.IsBare :=
    ⟨by revert q; decide +kernel, by revert q; decide +kernel, by revert q; decide +kernel,
      by revert q; decide +kernel⟩
  have within : ∀ q ∈ [oddRequest, plainRequest], q.lines.length ≤ Reader.maxFields ∧
      q.headBytes.length ≤ Reader.maxSize := by decide +kernel
  have written : [[oddRequest, plainRequest].flatMap Sent.bytes].flatten =
      writeLines (ascii "A&B") (ascii "/healthz") [hostLine] ++ plainRequest.bytes := by decide +kernel
  have fed := feed_health (by decide) (by decide) ⟨by decide, by decide⟩ written
  obtain ⟨refused, closed⟩ :
      let outcome := loopback.connect.receiveAll still [[oddRequest, plainRequest].flatMap Sent.bytes]
      outcome.answers = [.ofRefusal still.now .http11 .malformed] ∧
        outcome.connection.isClosed = true := answers_of_unnamed fed (by decide +kernel)
  have bytes : (loopback.connect.receiveAll still [[oddRequest, plainRequest].flatMap Sent.bytes]).bytes =
      ascii "HTTP/1.1 400 Bad Request\r\ncontent-length: 0\r\ndate: -\r\n\r\n" := by
    rw [Outcome.bytes, refused]
    decide +kernel
  refine ⟨fun q hq => ⟨bare q hq, within q hq⟩, bytes, closed, ?_⟩
  intro replies
  rw [bytes] at replies
  have ok := replies.replyLine_isPrefix
  revert ok
  decide +kernel

end Connection
end Liveness
