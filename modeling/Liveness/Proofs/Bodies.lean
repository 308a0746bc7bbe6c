import Liveness.Proofs.Arrivals
import Liveness.Proofs.Replies

/-! # Bodies are not taken for requests

A body is sent in the same stream as the requests and may spell requests itself. The service leaves
it unread; the connection reads to its end or closes.

* `Answered.exists_replies`: what has been sent are the responses to the first requests, and the head
  of the last of them has arrived as a whole.
* `receiveAll_framed`: this holds however the bytes are cut and whatever the bodies spell, and once all
  bytes have arrived, the connection is closed or every request has been answered.
-/

namespace Liveness.Connection
set_option autoImplicit false

open Http (HeaderValue)
open Http.Wire

variable {now : HeaderValue} {requests : List Sent} {unsent : List UInt8} {answers : List Answer}
  {phase : Phase}

/-! ## What has been answered -/

/-- What is unsent stands at the end of the stream. -/
theorem Answered.suffix_stream (h : Answered now requests unsent answers phase) :
    unsent <:+ stream requests := by
  have skip (q : Sent) (requests : List Sent) :
      q.body ++ stream requests <:+ stream (q :: requests) := by
    rw [stream_cons]
    exact List.suffix_append _ _
  induction h with
  | @waiting _ _ read _ _ eq => exact ⟨read, eq⟩
  | draining _ _ _ _ behind => exact behind.trans (skip _ _)
  | closed _ _ behind => exact behind.trans (skip _ _)
  | next _ _ _ ih => exact (ih.trans (List.suffix_append _ _)).trans (skip _ _)

/-- What has been sent are the responses to the first requests. Behind the head of the last of these
there is nothing but its body and the further requests, and what is unsent is the end of that. -/
theorem Answered.exists_replies (h : Answered now requests unsent answers phase) :
    ∃ answered later, requests = answered ++ later ∧ answered.length = answers.length ∧
      Replies now answered (answers.flatMap Answer.bytes) ∧
      ∀ q, answered.getLast? = some q → unsent <:+ q.body ++ stream later := by
  induction h with
  | @waiting requests => exact ⟨[], requests, rfl, rfl, .nil, fun q hq => by cases hq⟩
  | @draining q requests _ _ _ id _ _ _ behind =>
    refine ⟨[q], requests, rfl, rfl, .cons_answer id .nil, ?_⟩
    intro q' hq'
    obtain rfl := Option.some.inj hq'
    exact behind
  | @closed q requests _ id _ behind =>
    refine ⟨[q], requests, rfl, rfl, .cons_answer id .nil, ?_⟩
    intro q' hq'
    obtain rfl := Option.some.inj hq'
    exact behind
  | @next q requests unsent answers phase id _ rest ih =>
    obtain ⟨answered, later, split, length, replies, last⟩ := ih
    refine ⟨q :: answered, later, by rw [split, List.cons_append], ?_, .cons_answer id replies, ?_⟩
    · rw [List.length_cons, List.length_cons, length]
    · intro q' hq'
      cases answered with
      | nil =>
        obtain rfl := Option.some.inj hq'
        have all : requests = later := split
        rw [← all]
        exact rest.suffix_stream.trans (List.suffix_append _ _)
      | cons r answered =>
        rw [List.getLast?_cons_cons] at hq'
        exact last q' hq'

/-- Once all bytes have arrived, some request has been answered, and either the connection is closed
or all have been answered. -/
theorem Answered.complete (h : Answered now requests unsent answers phase)
    (taken : ∀ q ∈ requests, q.IsTaken) (all : unsent = []) (some : requests ≠ []) :
    answers ≠ [] ∧ (phase = .closed ∨
      answers.length = requests.length ∧ ∃ reader, phase = .head reader) := by
  induction h with
  | @waiting requests _ read reader fed eq =>
    subst all
    rw [List.append_nil] at eq
    cases requests with
    | nil => exact absurd rfl some
    | cons q requests =>
      -- The first head has arrived as a whole, so the reader cannot be inside it.
      rw [eq, stream_cons, Reader.feed_headBytes (taken q List.mem_cons_self)] at fed
      cases fed
  | draining _ _ spans eq =>
    rw [all] at eq
    exact absurd (List.append_eq_nil_iff.1 eq.symm).1 spans.ne_nil
  | closed => exact ⟨List.cons_ne_nil _ _, .inl rfl⟩
  | @next q requests _ answers phase _ _ rest ih =>
    refine ⟨List.cons_ne_nil _ _, ?_⟩
    cases requests with
    | cons q' requests =>
      have taken : ∀ q ∈ q' :: requests, q.IsTaken := fun q hq => taken q (List.mem_cons_of_mem _ hq)
      obtain ⟨-, closed | ⟨same, reader⟩⟩ := ih taken all (List.cons_ne_nil _ _)
      · exact .inl closed
      · refine .inr ⟨?_, reader⟩
        rw [List.length_cons, List.length_cons, same]
    | nil =>
      cases rest with
      | @waiting _ _ _ reader => exact .inr ⟨rfl, reader, rfl⟩

/-! ## Connections -/

/-- However the bytes of requests with bodies are cut, and wherever they break off, what is sent back
are the responses that the router gives for the first requests, in order, and each of them is given to
a head that has arrived as a whole. Once all bytes have arrived, at least one request has been
answered, and the connection is closed or has answered all and waits for another head. -/
theorem receiveAll_framed (server : Server) (env : Surroundings) {requests : List Sent}
    (framed : ∀ q ∈ requests, q.IsFramed) (taken : ∀ q ∈ requests, q.IsTaken)
    {arrivals : List (List UInt8)} {unsent : List UInt8}
    (eq : arrivals.flatten ++ unsent = requests.flatMap Sent.bytes) :
    let outcome := server.connect.receiveAll env arrivals
    ∃ answered later, requests = answered ++ later ∧ Replies env.now answered outcome.bytes ∧
      (∀ q, answered.getLast? = some q → unsent <:+ q.body ++ later.flatMap Sent.bytes) ∧
      (unsent = [] → requests ≠ [] → answered ≠ [] ∧
        (outcome.connection.isClosed = true ∨
          later = [] ∧ ∃ reader, outcome.connection.phase = .head reader)) := by
  have proper : ∀ q ∈ requests, q.IsProper := fun q hq => ⟨taken q hq, framed q hq⟩
  have kept := answered_connect server env proper eq
  obtain ⟨answered, later, split, length, replies, last⟩ := kept.exists_replies
  refine ⟨answered, later, split, replies, last, ?_⟩
  intro all some
  obtain ⟨ne, stands⟩ := kept.complete taken all some
  rw [isClosed_iff]
  refine ⟨?_, ?_⟩
  · rintro rfl
    exact ne (List.length_eq_zero_iff.1 length.symm)
  · obtain closed | ⟨whole, reader⟩ := stands
    · exact .inl closed
    · refine .inr ⟨?_, reader⟩
      have total := congrArg List.length split
      rw [List.length_append] at total
      exact List.length_eq_zero_iff.1 (by omega)

/-- A line that announces a body in chunks. -/
def chunkedLine : Line where
  name := ascii "transfer-encoding"
  before := ascii " "
  value := ascii "Chunked"
  after := []
  isLine_parts := by decide

/-- A body of one chunk that spells a request for the health check. -/
def spelled : Chunked where
  chunks :=
    [({ digits := ascii "19"
        blanks := []
        extension := ascii ";a=b"
        isSizeLine_parts := by decide }, ascii "GET /healthz HTTP/1.1\r\n\r\n")]
  last :=
    { digits := ascii "0"
      blanks := []
      extension := []
      isSizeLine_parts := by decide }
  trailers := []
  data_ne_nil := by decide
  size_chunk := by decide
  size_last := by decide
  trailer_ne_nil := by decide
  clean_trailer := by decide

/-- A request with this body. -/
def spelling : Sent where
  word := ascii "POST"
  target := ascii "/"
  uri := .origin ⟨['/'], none⟩
  lines := [hostLine, chunkedLine]
  body := spelled.bytes
  word_ne_nil := by decide
  isTokenByte_word := by decide
  isTargetByte_target := by decide
  parse?_target := by decide

/-- Its bytes, cut in front of the request that the body spells and inside of it. -/
def spellingArrivals : List (List UInt8) :=
  ["POST / HTTP/1.1\r\nHost: localhost\r\ntransfer-encoding: Chunked\r\n\r\n19;a=b\r\n",
    "GET /healthz HTTP", "/1.1\r\n\r\n\r\n0\r\n\r\n"].map ascii

theorem receiveAll_framed_spelling :
    ∃ id, (loopback.connect.receiveAll still spellingArrivals).bytes =
      spelling.replyBytes still.now id := by
  have framed : spelling.IsFramed := by
    have host : ¬hostLine.isFraming = true := by decide +kernel
    have chunks : chunkedLine.isFraming = true := by decide +kernel
    have framing : spelling.lines.filter Line.isFraming = [chunkedLine] := by
      rw [spelling, List.filter_cons_of_neg host, List.filter_cons_of_pos chunks, List.filter_nil]
    refine ⟨by decide +kernel, by decide +kernel, by decide +kernel, ?_⟩
    rw [framing]
    exact .chunked spelled (by decide +kernel) (by decide +kernel)
  have taken : spelling.IsTaken := ⟨by decide +kernel, by decide +kernel, by decide +kernel⟩
  have cut : spellingArrivals.flatten ++ [] = [spelling].flatMap Sent.bytes := by decide +kernel
  obtain ⟨answered, later, split, replies, -, complete⟩ := receiveAll_framed loopback still
    (List.forall_mem_singleton.2 framed) (List.forall_mem_singleton.2 taken) cut
  obtain ⟨ne, -⟩ := complete rfl (List.cons_ne_nil _ _)
  cases answered with
  | nil => exact absurd rfl ne
  | cons q answered =>
    injection split with first rest
    rw [← first, (List.append_eq_nil_iff.1 rest.symm).1] at replies
    obtain ⟨id, more, eq, last⟩ := replies_cons_iff.1 replies
    rw [replies_nil_iff.1 last, List.append_nil] at eq
    exact ⟨id, eq⟩

/-- A request with more lines than the server reads. -/
def crowdedRequest : Sent := getRequest (List.replicate 101 hostLine)

/-- Such a request is refused. -/
theorem refused_of_crowded :
    let outcome := loopback.connect.receiveAll still [crowdedRequest.bytes]
    crowdedRequest.IsFramed ∧ Http.isMethodName (text crowdedRequest.word) = true ∧
      outcome.bytes = ascii ("HTTP/1.1 431 Request Header Fields Too Large\r\n" ++
        "content-length: 0\r\ndate: -\r\n\r\n") ∧
      ¬Replies still.now [crowdedRequest] outcome.bytes := by
  have framed : crowdedRequest.IsFramed := by
    have framing : crowdedRequest.lines.filter Line.isFraming = [] :=
      List.filter_eq_nil_iff.2 (by decide +kernel)
    refine ⟨by decide +kernel, by decide +kernel, by decide +kernel, ?_⟩
    rw [framing]
    exact .none
  have crowded : crowdedRequest.lines.length ≤ Reader.maxFields →
      Reader.maxSize < crowdedRequest.headBytes.length := by decide +kernel
  have fed : ({} : Reader).feed [crowdedRequest.bytes].flatten = .refused .tooLarge := by
    rw [List.flatten_singleton]
    exact Reader.feed_writeLines_of_large crowdedRequest.word_ne_nil
      crowdedRequest.isTokenByte_word crowdedRequest.isTargetByte_target crowded []
  have refused : (loopback.connect.receiveAll still [crowdedRequest.bytes]).answers =
      [.ofRefusal still.now .http11 .tooLarge] := (receiveAll_of_refused rfl fed).1
  have bytes : (loopback.connect.receiveAll still [crowdedRequest.bytes]).bytes =
      ascii ("HTTP/1.1 431 Request Header Fields Too Large\r\n" ++
        "content-length: 0\r\ndate: -\r\n\r\n") := by
    rw [Outcome.bytes, refused]
    decide +kernel
  refine ⟨framed, by decide +kernel, bytes, ?_⟩
  intro replies
  rw [bytes] at replies
  have ok := replies.replyLine_isPrefix
  revert ok
  decide +kernel

end Liveness.Connection
