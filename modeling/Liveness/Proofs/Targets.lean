import Liveness.Proofs.Arrivals
import Liveness.Proofs.Http.Target
import Liveness.Proofs.Pipelining
import Liveness.Proofs.Route

/-! # Which targets are answered with success

Of a target only the part in front of a fragment reaches the router, so the health check is found
under its path and under every target that adds a fragment to it.

* `exists_request_of_ok`: success is the answer to a request that the router finds.
* `receiveAll_target`: on a connection only the targets of the health check are answered with
  success, wherever the request stands and whatever stands behind it.
-/

namespace Liveness
set_option autoImplicit false

open Http (Method Request Response Uri)
open Http.Wire

/-! ## Success -/

theorem dispatch_status_eq_ok_iff (m : Method) (uri : Uri) :
    (dispatch m uri).status = .ok ↔ dispatch m uri = .healthy := by
  constructor
  · intro ok
    refine (dispatch_eq_healthy_or m uri).resolve_right ?_
    intro notFound
    rw [notFound] at ok
    exact absurd ok (by decide)
  · intro healthy
    rw [healthy]
    rfl

theorem dispatch_of_parse?_chars {target : List UInt8} {uri : Uri} (m : Method)
    (h : Uri.parse? (chars target) = some uri) :
    dispatch m uri = .healthy ↔ IsHealthTarget (text target) := by
  apply dispatch_of_parse?
  rw [text, String.toList_ofList, h]

theorem Http.Wire.Refusal.status_ne_ok (refusal : Refusal) : refusal.status ≠ .ok := by
  cases refusal <;> decide

theorem Http.Wire.Answer.status_of_ofResponse? {now : Http.HeaderValue} {request : Request}
    {plan : Plan} {response : Response} {a : Answer}
    (h : Answer.ofResponse? now request plan response = some a) : a.status = response.status := by
  rw [Answer.ofResponse?] at h
  split at h
  · cases h
  · rw [← Option.some.inj h]

namespace Connection

variable {env : Surroundings} {bytes : List UInt8} {a : Answer} {more : List Answer}

/-- Success is the answer to a request that the router finds. -/
theorem exists_request_of_ok (h : AnswersTo env bytes (a :: more)) (ok : a.status = .ok) :
    ∃ head rest request, ({} : Reader).feed bytes = .done head rest ∧ head.request? = .ok request ∧
      dispatch request.method request.uri = .healthy := by
  obtain ⟨c, arrivals, phase, eq, same⟩ := h
  have first := @head?_answers c arrivals env phase
  rw [same, eq] at first
  cases fed : ({} : Reader).feed bytes with
  | more r =>
    rw [fed] at first
    cases first
  | refused refusal =>
    rw [fed] at first
    rw [Option.some.inj first] at ok
    exact absurd ok refusal.status_ne_ok
  | done head rest =>
    rw [fed] at first
    dsimp only [firstAnswer?] at first
    cases understood : understand head with
    | error refusal =>
      rw [understood] at first
      rw [Option.some.inj first] at ok
      exact absurd ok refusal.status_ne_ok
    | ok made =>
      obtain ⟨request, plan⟩ := made
      rw [understood] at first
      have status := Answer.status_of_ofResponse? first.symm
      rw [handle_response, ok] at status
      exact ⟨head, rest, request, rfl, (understand_eq_ok_iff.1 understood).1,
        (dispatch_status_eq_ok_iff _ _).1 status.symm⟩

/-! ## Targets on a connection -/

/-- The targets of a request and of the bytes that begin with it are the same. -/
theorem target_of_isPrefix {q : Sent} (taken : q.IsTaken) {word target behind : List UInt8}
    (full : word ≠ []) (token : word.all isTokenByte = true) (clean : target.all isTargetByte = true)
    (begins : q.bytes <+: word ++ 32 :: (target ++ 32 :: behind)) : q.target = target := by
  obtain ⟨rest, split⟩ := begins
  have fed := Reader.feed_headBytes taken (q.body ++ rest)
  rw [← List.append_assoc, ← Sent.bytes, split] at fed
  exact Reader.target_of_feed full token clean fed

/-- Behind any number of requests, a request line whose target is none of the health check is not
answered with success, whatever its method and whatever stands behind it, while a request with such
a target is. -/
theorem receiveAll_target (server : Server) (env : Surroundings) {before : List Sent}
    (proper : ∀ q ∈ before, q.IsProper) {word target behind : List UInt8} (full : word ≠ [])
    (token : word.all isTokenByte = true) (clean : target.all isTargetByte = true)
    {arrivals : List (List UInt8)}
    (eq : arrivals.flatten = before.flatMap Sent.bytes ++ (word ++ 32 :: (target ++ 32 :: behind)))
    {a : Answer}
    (answer : (server.connect.receiveAll env arrivals).answers[before.length]? = some a) :
    (a.status = .ok → IsHealthTarget (text target)) ∧
      ∀ q : Sent, q.IsProper → q.bytes <+: word ++ 32 :: (target ++ 32 :: behind) →
        (a.status = .ok ↔ IsHealthTarget (text target)) := by
  have start : server.connect.phase = .head {} := rfl
  obtain ⟨more, answers⟩ := AnswersTo.of_getElem? proper start eq answer
  have only : a.status = .ok → IsHealthTarget (text target) := by
    intro ok
    obtain ⟨head, rest, request, fed, made, healthy⟩ := exists_request_of_ok answers ok
    obtain ⟨-, parsed, -⟩ := Head.request?_eq_ok made
    rw [Reader.target_of_feed full token clean fed] at parsed
    exact (dispatch_of_parse?_chars request.method parsed).1 healthy
  refine ⟨only, ?_⟩
  intro q proper begins
  refine ⟨only, ?_⟩
  intro health
  have same := target_of_isPrefix proper.taken full token clean begins
  obtain ⟨rest, split⟩ := begins
  rw [← split] at answers
  obtain ⟨id, more', first, -⟩ := answers.sent proper
  obtain ⟨rfl, -⟩ := List.cons.inj first
  have parsed := q.parse?_target
  rw [same] at parsed
  have healthy := (dispatch_of_parse?_chars q.method parsed).2 health
  exact (dispatch_status_eq_ok_iff _ _).2 healthy

/-- A request for the health check with a fragment behind its path. -/
def fragmentRequest : Sent where
  word := ascii "PUT"
  target := ascii "/healthz#f"
  uri := .origin ⟨"/healthz".toList, none⟩
  lines := [hostLine]
  body := []
  word_ne_nil := by decide
  isTokenByte_word := by decide
  isTargetByte_target := by decide
  parse?_target := by decide

theorem fragmentRequest_isBare : fragmentRequest.IsBare :=
  ⟨by decide +kernel, by decide +kernel, by decide +kernel, rfl⟩

theorem fragmentRequest_isProper : fragmentRequest.IsProper :=
  ⟨⟨by decide +kernel, by decide +kernel, by decide +kernel⟩, fragmentRequest_isBare.isFramed⟩

/-- Two such requests, cut in the target of the second. -/
def fragmentArrivals : List (List UInt8) :=
  ["PUT /healthz#f HTTP/1.1\r\nHost: localhost\r\n\r\nPUT /heal",
    "thz#f HTTP/1.1\r\nHost: localhost\r\n\r\n"].map ascii

theorem receiveAll_target_fragment : ∃ a,
    (loopback.connect.receiveAll still fragmentArrivals).answers[1]? = some a ∧ a.status = .ok := by
  have cut : fragmentArrivals.flatten ++ [] = stream [fragmentRequest, fragmentRequest] := by
    decide +kernel
  have proper (q : Sent) (hq : q ∈ [fragmentRequest, fragmentRequest]) : q.IsProper := by
    obtain rfl : q = fragmentRequest := by simpa using hq
    exact fragmentRequest_isProper
  have bare (q : Sent) (hq : q ∈ [fragmentRequest, fragmentRequest]) : q.IsBare := by
    obtain rfl : q = fragmentRequest := by simpa using hq
    exact fragmentRequest_isBare
  have answered := answered_connect loopback still proper cut
  obtain ⟨length, -⟩ := replies_of_bare answered rfl bare fun q hq => (proper q hq).taken
  have two : (served [fragmentRequest, fragmentRequest]).length = 2 := by decide +kernel
  obtain ⟨a, answer⟩ : ∃ a,
      (loopback.connect.receiveAll still fragmentArrivals).answers[1]? = some a := by
    rw [List.getElem?_eq_getElem (by omega)]
    exact ⟨_, rfl⟩
  have begins : fragmentArrivals.flatten = [fragmentRequest].flatMap Sent.bytes ++
      (ascii "PUT" ++ 32 :: (ascii "/healthz#f" ++ 32 ::
        ascii "HTTP/1.1\r\nHost: localhost\r\n\r\n")) := by decide +kernel
  obtain ⟨-, found⟩ := receiveAll_target loopback still
    (List.forall_mem_singleton.2 fragmentRequest_isProper) (by decide) (by decide) (by decide)
    begins answer
  have whole : fragmentRequest.bytes <+: ascii "PUT" ++ 32 :: (ascii "/healthz#f" ++ 32 ::
      ascii "HTTP/1.1\r\nHost: localhost\r\n\r\n") := ⟨[], by decide +kernel⟩
  have health : IsHealthTarget (text (ascii "/healthz#f")) :=
    ⟨by decide +kernel, .inr ⟨['f'], by decide +kernel⟩⟩
  exact ⟨a, answer, (found fragmentRequest fragmentRequest_isProper whole).2 health⟩

/-- A target that is not the path of the health check to the letter is answered with success. -/
theorem ok_of_fragment :
    (loopback.connect.receiveAll still
        [ascii "GET /healthz#f HTTP/1.1\r\nHost: localhost\r\n\r\n"]).answers.head?.map
          Answer.status = some .ok ∧ ascii "/healthz#f" ≠ ascii "/healthz" := by
  have start : loopback.connect.phase = .head {} := rfl
  rw [head?_answers still start]
  exact ⟨by decide +kernel, by decide⟩

end Connection
end Liveness
