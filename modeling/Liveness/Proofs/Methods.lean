import Liveness.Proofs.Arrivals
import Liveness.Proofs.Route

/-! # Every method reaches the health check, but one

The router does not look at the method. On a connection one method is nevertheless left without an
answer: a tunnel may not have a length, and every reply has one.

* `understand_plain`: a head that says nothing of a body is a request without one.
* `bytes_healthy`: the bytes of the answer to a request for the health check.
* `receiveAll_health`: what such a request is answered, for every first word and all header lines.
-/

namespace Liveness
set_option autoImplicit false

open Http (Headers HeaderValue Method Request Uri)
open Http.Wire

namespace Connection

/-! ## Plain heads -/

/-- The fields that say something of a body or of the connection. -/
def framingNames : List String :=
  ["content-length", "transfer-encoding", "expect", "upgrade", "connection"]

/-- A head that says nothing of a body or of the connection makes a request without a body. -/
theorem understand_plain {word target : List UInt8} {lines : List Line} {method : Method}
    {uri : Uri} (plain : ∀ l ∈ lines, l.lowerName ∉ framingNames)
    (named : Method.ofString? (text word) = some method)
    (parsed : Uri.parse? (chars target) = some uri) :
    understand ⟨word, target, .http11, lines.map fun l => (l.name, l.value)⟩ =
      .ok ({ method, uri, headers := lines.map Line.field },
        ⟨none, !lines.any Line.closes, false⟩) := by
  have plain (l : Line) (hl : l ∈ lines) : l.isFraming = false ∧ l.lowerName ≠ "expect" ∧
      l.lowerName ≠ "connection" := by
    have := plain l hl
    simp only [framingNames, List.mem_cons, List.not_mem_nil, or_false, not_or] at this
    obtain ⟨length, encoding, expect, -, connection⟩ := this
    rw [Line.isFraming, decide_eq_false length, decide_eq_false encoding]
    exact ⟨rfl, expect, connection⟩
  have framed := Framed.foldlM_add_of_not_isFraming (s := { keepAlive := true })
    (fun l hl => (plain l hl).1) (fun l hl => (plain l hl).2.1)
    fun l hl same => absurd same (plain l hl).2.2
  rw [Bool.true_and] at framed
  have planned :=
    @Plan.ofRequest?_of_foldlM { method, uri, headers := lines.map Line.field } _ framed
  exact understand_eq_ok_iff.2 ⟨Head.request?_lines named parsed, planned⟩

theorem understand_of_unnamed {word target : List UInt8} {lines : List Line}
    (unnamed : Method.ofString? (text word) = none) (short : target.length ≤ Uri.maxLength) :
    understand ⟨word, target, .http11, lines.map fun l => (l.name, l.value)⟩ =
      .error .malformed := by
  have refused : Head.request? ⟨word, target, .http11, lines.map fun l => (l.name, l.value)⟩ =
      .error .malformed := by
    rw [Head.request?]
    dsimp only
    rw [if_neg (Nat.not_lt.2 short), unnamed]
  rw [understand, refused]
  rfl

/-! ## The health check -/

/-- The URI of the health check. -/
def healthUri : Uri := .origin ⟨"/healthz".toList, none⟩

theorem parse?_healthPath : Uri.parse? (chars (ascii "/healthz")) = some healthUri := by decide

theorem dispatch_healthUri (m : Method) : dispatch m healthUri = .healthy :=
  (dispatch_eq_healthy_iff m healthUri).2 (by decide)

/-- The bytes of a whole answer to a request for the health check. -/
def healthBytes (now id : HeaderValue) (body : String) : List UInt8 :=
  ascii "HTTP/1.1 200 OK\r\ncontent-length: 2\r\nx-request-id: " ++ id.bytes ++
    ascii "\r\ndate: " ++ now.bytes ++ ascii "\r\n\r\n" ++ body.toUTF8.toList

theorem bytes_healthy (now id : HeaderValue) (body : String) :
    Answer.bytes ⟨.http11, .ok, [(Headers.contentLength, lengthValue 2), (Headers.requestId, id),
      (Answer.date, now)], body⟩ = healthBytes now id body := by
  have first : ascii "HTTP/1.1 200 OK\r\ncontent-length: 2\r\nx-request-id: " =
      (Answer.statusLine ⟨.http11, .ok, [], ""⟩).toList.map byte ++ Answer.newline ++
        Answer.fieldBytes (Headers.contentLength, lengthValue 2) ++
          (Headers.requestId.text.toList.map byte ++ [byte ':', byte ' ']) := by decide +kernel
  have second : ascii "\r\ndate: " =
      Answer.newline ++ (Answer.date.text.toList.map byte ++ [byte ':', byte ' ']) := by decide
  have last : ascii "\r\n\r\n" = Answer.newline ++ Answer.newline := by decide
  have line : (Answer.statusLine ⟨.http11, .ok, [(Headers.contentLength, lengthValue 2),
      (Headers.requestId, id), (Answer.date, now)], body⟩) =
        Answer.statusLine ⟨.http11, .ok, [], ""⟩ := rfl
  rw [healthBytes, first, second, last, Answer.bytes, line]
  simp only [List.flatMap_cons, List.flatMap_nil, Answer.fieldBytes, List.append_assoc,
    List.nil_append]

section
variable {c : Connection} {env : Surroundings} {word : List UInt8} {lines : List Line}
  {method : Method}

/-- A plain request for the health check is answered whole, unless it asks for a tunnel. -/
theorem firstAnswer?_health (plain : ∀ l ∈ lines, l.lowerName ∉ framingNames)
    (named : Method.ofString? (text word) = some method) :
    firstAnswer? env c ⟨word, ascii "/healthz", .http11, lines.map fun l => (l.name, l.value)⟩ =
      if method = .connect then none else some
        { version := .http11
          status := .ok
          headers := [(Headers.contentLength, lengthValue 2),
            (Headers.requestId, idOf env.supply c.service.drawn
              { method, uri := healthUri, headers := lines.map Line.field }),
            (Answer.date, env.now)]
          body := if method = .head then "" else "ok" } := by
  rw [firstAnswer?, understand_plain plain named parse?_healthPath]
  dsimp only
  rw [handle_response, stamped]
  dsimp only
  rw [dispatch_healthUri, Answer.ofResponse?]
  by_cases tunnel : method = .connect
  · have opens : Answer.opensTunnel method Reply.healthy.status = true := by
      rw [tunnel]
      decide
    rw [if_pos tunnel, if_pos opens]
  · rw [if_neg tunnel, if_neg (not_opensTunnel tunnel _)]
    rfl

end

/-! ## Connections -/

/-- Whether a request for the health check is within the limits of the reader. -/
def IsWithin (word : List UInt8) (lines : List Line) : Prop :=
  lines.length ≤ Reader.maxFields ∧
    (writeLines word (ascii "/healthz") lines).length ≤ Reader.maxSize

section
variable {server : Server} {env : Surroundings} {word behind : List UInt8} {lines : List Line}
  {arrivals : List (List UInt8)}

theorem feed_health (full : word ≠ []) (token : word.all isTokenByte = true)
    (within : IsWithin word lines)
    (eq : arrivals.flatten = writeLines word (ascii "/healthz") lines ++ behind) :
    ({} : Reader).feed arrivals.flatten =
      .done ⟨word, ascii "/healthz", .http11, lines.map fun l => (l.name, l.value)⟩ behind := by
  obtain ⟨few, small⟩ := within
  rw [eq]
  exact Reader.feed_writeLines full token (by decide) few small behind

variable (fed : ({} : Reader).feed arrivals.flatten =
    .done ⟨word, ascii "/healthz", .http11, lines.map fun l => (l.name, l.value)⟩ behind)
include fed

theorem bytes_of_named (plain : ∀ l ∈ lines, l.lowerName ∉ framingNames) {m : Method}
    (named : Method.ofString? (text word) = some m) (other : m ≠ .connect) :
    ∃ id, (server.connect.receiveAll env arrivals).answers.head?.map Answer.bytes =
      some (healthBytes env.now id (if m = .head then "" else "ok")) := by
  have start : server.connect.phase = .head {} := rfl
  rw [head?_answers env start, fed]
  dsimp only
  rw [firstAnswer?_health plain named, if_neg other, Option.map_some, bytes_healthy]
  exact ⟨_, rfl⟩

theorem answers_of_tunnel (plain : ∀ l ∈ lines, l.lowerName ∉ framingNames)
    (tunnel : Method.ofString? (text word) = some .connect) :
    (server.connect.receiveAll env arrivals).answers = [] ∧
      (server.connect.receiveAll env arrivals).connection.isClosed = true := by
  have start : server.connect.phase = .head {} := rfl
  refine receiveAll_of_last start fed ?_
  intro bytes rest fed
  apply serve_of_unanswered fed
  rw [firstAnswer?_health plain tunnel, if_pos rfl]

theorem answers_of_unnamed (unnamed : Method.ofString? (text word) = none) :
    (server.connect.receiveAll env arrivals).answers = [.ofRefusal env.now .http11 .malformed] ∧
      (server.connect.receiveAll env arrivals).connection.isClosed = true := by
  have start : server.connect.phase = .head {} := rfl
  refine receiveAll_of_last start fed ?_
  intro bytes rest fed
  rw [serve_of_misunderstood fed (understand_of_unnamed unnamed (by decide))]
  exact ⟨rfl, rfl⟩

end

/-- A plain request for the health check that comes first on a connection gets a whole answer `ok`,
whatever its method and its header lines and whatever stands behind it. The exceptions: one that
asks for a tunnel gets no answer at all, and the connection is closed; a first word that is not the
name of a method is refused; and so is a head beyond the limits of the reader, which counts lines and
bytes one by one. -/
theorem receiveAll_health (server : Server) (env : Surroundings) {word behind : List UInt8}
    {lines : List Line} (full : word ≠ []) (token : word.all isTokenByte = true)
    (plain : ∀ l ∈ lines, l.lowerName ∉ framingNames) {arrivals : List (List UInt8)}
    (eq : arrivals.flatten = writeLines word (ascii "/healthz") lines ++ behind) :
    let outcome := server.connect.receiveAll env arrivals
    (IsWithin word lines →
      (∀ m, Method.ofString? (text word) = some m → m ≠ .connect → ∃ id,
        outcome.answers.head?.map Answer.bytes =
          some (healthBytes env.now id (if m = .head then "" else "ok"))) ∧
      (text word = "CONNECT" → outcome.answers = [] ∧ outcome.connection.isClosed = true) ∧
      (Method.ofString? (text word) = none →
        outcome.answers = [.ofRefusal env.now .http11 .malformed] ∧
          outcome.connection.isClosed = true)) ∧
    (¬IsWithin word lines →
      outcome.answers = [.ofRefusal env.now .http11 .tooLarge] ∧
        outcome.connection.isClosed = true) := by
  refine ⟨?_, ?_⟩
  · intro within
    have fed := feed_health full token within eq
    refine ⟨fun m => bytes_of_named fed plain, ?_, answers_of_unnamed fed⟩
    intro tunnel
    apply answers_of_tunnel fed plain
    rw [tunnel]
    decide
  · intro beyond
    have large : lines.length ≤ Reader.maxFields →
        Reader.maxSize < (writeLines word (ascii "/healthz") lines).length := by
      intro few
      exact Nat.not_le.1 fun small => beyond ⟨few, small⟩
    have refused := Reader.feed_writeLines_of_large full token (by decide) large behind
    rw [← eq] at refused
    exact receiveAll_of_refused rfl refused

/-- A request with a method of its own, cut in the method and in the target, and a part of another
behind it. -/
def purgeArrivals : List (List UInt8) :=
  ["PUR", "GE /health", "z HTTP/1.1\r\nHost: localhost\r\n\r\nGET /"].map ascii

theorem receiveAll_health_purge : ∃ id,
    (loopback.connect.receiveAll still purgeArrivals).answers.head?.map Answer.bytes =
      some (healthBytes still.now id "ok") := by
  have plain : ∀ l ∈ [hostLine], l.lowerName ∉ framingNames := by decide +kernel
  have cut : purgeArrivals.flatten =
      writeLines (ascii "PURGE") (ascii "/healthz") [hostLine] ++ ascii "GET /" := by decide +kernel
  have within : IsWithin (ascii "PURGE") [hostLine] := ⟨by decide, by decide⟩
  obtain ⟨answered, -⟩ := receiveAll_health loopback still (by decide) (by decide) plain cut
  obtain ⟨health, -⟩ := answered within
  have named : Method.ofString? (text (ascii "PURGE")) = some ⟨"PURGE", by decide⟩ := by decide
  obtain ⟨id, bytes⟩ := health _ named (by decide)
  exact ⟨id, bytes⟩

/-- A request for the health check that asks for a tunnel gets no answer. -/
theorem connect_unanswered :
    let outcome := loopback.connect.receiveAll still
      [ascii "CONNECT /healthz HTTP/1.1\r\nHost: localhost\r\n\r\n"]
    outcome.answers = [] ∧ outcome.connection.isClosed = true := by
  have plain : ∀ l ∈ [hostLine], l.lowerName ∉ framingNames := by decide +kernel
  have written : [ascii "CONNECT /healthz HTTP/1.1\r\nHost: localhost\r\n\r\n"].flatten =
      writeLines (ascii "CONNECT") (ascii "/healthz") [hostLine] ++ [] := by decide +kernel
  have fed := feed_health (by decide) (by decide) ⟨by decide, by decide⟩ written
  exact answers_of_tunnel fed plain (by decide)

end Connection
end Liveness
