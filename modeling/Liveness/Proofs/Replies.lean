import Liveness.Proofs.Connection

/-! # The bytes of responses

* `Sent.replyBytes`: the bytes of the response to a request.
* `Replies`: one such response to each request, in order.
-/

namespace Liveness
set_option autoImplicit false

open Http (HeaderValue Headers)
open Http.Wire

namespace Http.Wire

/-! ## One response -/

theorem ascii_append (a b : String) : ascii (a ++ b) = ascii a ++ ascii b := by
  rw [ascii, String.toList_append, List.map_append]
  rfl

theorem ascii_line (text : String) :
    text.toList.map byte ++ Answer.newline = ascii (text ++ "\r\n") := by
  rw [ascii_append]
  rfl

theorem fieldBytes_eq (name : String) (isName : Http.isFieldName name = true) (v : HeaderValue) :
    Answer.fieldBytes (⟨name, isName⟩, v) = ascii (name ++ ": ") ++ v.bytes ++ ascii "\r\n" := by
  rw [ascii_append]
  rfl

theorem bytes_lengthValue (n : Nat) :
    (lengthValue n).bytes = ascii (String.ofList (Decimal.ofNat n)) := by
  rw [ascii, String.toList_ofList]
  rfl

/-- The status line of the response to a request, with the status that the router gives. -/
def Sent.replyLine (q : Sent) : List UInt8 :=
  let code := String.ofList (Decimal.ofNat q.reply.status.code)
  ascii ("HTTP/1.1 " ++ code ++ " " ++ reason q.reply.status ++ "\r\n")

/-- The bytes of the response to a request: the status line, the length of the body that the router
gives, an identifier and the time, and the body, unless the request asks for the head alone. -/
def Sent.replyBytes (q : Sent) (now id : HeaderValue) : List UInt8 :=
  let length := String.ofList (Decimal.ofNat q.reply.body.utf8ByteSize)
  q.replyLine ++ ascii ("content-length: " ++ length ++ "\r\n") ++
    (ascii "x-request-id: " ++ id.bytes ++ ascii "\r\n") ++
    (ascii "date: " ++ now.bytes ++ ascii "\r\n") ++ ascii "\r\n" ++
    if q.asksForHead then [] else q.reply.body.toUTF8.toList

theorem Sent.bytes_answer (q : Sent) (now id : HeaderValue) :
    (q.answer now id).bytes = q.replyBytes now id := by
  have status : (q.answer now id).statusLine = "HTTP/1.1 " ++
      String.ofList (Decimal.ofNat q.reply.status.code) ++ " " ++ reason q.reply.status := rfl
  have length : Answer.fieldBytes (Headers.contentLength, lengthValue q.reply.body.utf8ByteSize) =
      ascii ("content-length: " ++ String.ofList (Decimal.ofNat q.reply.body.utf8ByteSize) ++
        "\r\n") := by
    rw [Headers.contentLength, fieldBytes_eq, bytes_lengthValue, ascii_append, ascii_append,
      ascii_append]
    rfl
  have fields : (q.answer now id).headers.flatMap Answer.fieldBytes =
      ascii ("content-length: " ++ String.ofList (Decimal.ofNat q.reply.body.utf8ByteSize) ++ "\r\n") ++
        (ascii "x-request-id: " ++ id.bytes ++ ascii "\r\n") ++
        (ascii "date: " ++ now.bytes ++ ascii "\r\n") := by
    rw [answer, List.flatMap_cons, List.flatMap_cons, List.flatMap_cons, List.flatMap_nil,
      List.append_nil, ← List.append_assoc, length, Headers.requestId, fieldBytes_eq, Answer.date,
      fieldBytes_eq]
    rfl
  have body : (q.answer now id).body.toUTF8.toList =
      if q.asksForHead then [] else q.reply.body.toUTF8.toList := by
    have empty : "".toUTF8.toList = [] := by decide +kernel
    rw [answer]
    cases q.asksForHead with
    | true => exact empty
    | false => rfl
  rw [Answer.bytes, ascii_line, status, fields, body, replyBytes, replyLine]
  simp only [List.append_assoc]
  rfl

/-! ## One response to each request -/

/-- Bytes that are one response to each request, in order, each with some identifier. -/
inductive Replies (now : HeaderValue) : List Sent → List UInt8 → Prop
  | nil : Replies now [] []
  | cons {q : Sent} {requests : List Sent} {bytes : List UInt8} (id : HeaderValue)
      (rest : Replies now requests bytes) :
      Replies now (q :: requests) (q.replyBytes now id ++ bytes)

theorem replies_nil_iff {now : HeaderValue} {bytes : List UInt8} :
    Replies now [] bytes ↔ bytes = [] := by
  constructor
  · intro h
    cases h
    rfl
  · rintro rfl
    exact .nil

theorem replies_cons_iff {now : HeaderValue} {q : Sent} {requests : List Sent} {bytes : List UInt8} :
    Replies now (q :: requests) bytes ↔
      ∃ id more, bytes = q.replyBytes now id ++ more ∧ Replies now requests more := by
  constructor
  · intro h
    cases h with
    | @cons _ _ more id rest => exact ⟨id, more, rfl, rest⟩
  · rintro ⟨id, more, eq, rest⟩
    rw [eq]
    exact .cons id rest

theorem Replies.replyLine_isPrefix {now : HeaderValue} {q : Sent} {requests : List Sent}
    {bytes : List UInt8} (h : Replies now (q :: requests) bytes) : q.replyLine <+: bytes := by
  obtain ⟨id, more, eq, -⟩ := replies_cons_iff.1 h
  rw [eq, Sent.replyBytes]
  simp only [List.append_assoc]
  exact List.prefix_append _ _

theorem Replies.cons_answer {now : HeaderValue} {q : Sent} {requests : List Sent}
    {answers : List Answer} (id : HeaderValue)
    (rest : Replies now requests (answers.flatMap Answer.bytes)) :
    Replies now (q :: requests) ((q.answer now id :: answers).flatMap Answer.bytes) := by
  rw [List.flatMap_cons, Sent.bytes_answer]
  exact .cons id rest

end Http.Wire
end Liveness
