import Liveness.Proofs.Http.Chunked
import Liveness.Proofs.Http.Sent
import Liveness.Proofs.Text.Basic

/-! # What header lines say of a body

* `Line.Frames`: how lines frame a body: not at all, by its length or in chunks.
* `Sent.IsFramed`: the requests whose lines frame their body, and that ask for nothing of the
  connection but its end; `Sent.IsProper` are those that the server takes.
* `Sent.closes`: whether a request asks for the end of the connection.
* `Sent.plan_of_isFramed`: the plan of such a request spans its body.
-/

namespace Liveness.Http.Wire
set_option autoImplicit false

/-! ## Lines -/

namespace Line

/-- The value in lower case. -/
def word (l : Line) : List Char := (chars l.value).map Char.toLower

/-- Whether a line says how the body is framed. -/
def isFraming (l : Line) : Bool :=
  l.lowerName = "content-length" || l.lowerName = "transfer-encoding"

/-- Whether a line asks for the end of the connection. -/
def closes (l : Line) : Bool := l.lowerName = "connection" && l.word = "close".toList

/-- How the lines that frame a body frame it: not at all, by its length, or in chunks. -/
inductive Frames : List Line → List UInt8 → Prop
  | none : Frames [] []
  | length {l : Line} {body : List UInt8} (name : l.lowerName = "content-length")
      (value : Decimal.read? (chars l.value) = some body.length)
      (small : body.length ≤ Framed.maxLength) : Frames [l] body
  | chunked {l : Line} (body : Chunked) (name : l.lowerName = "transfer-encoding")
      (value : l.word = "chunked".toList) : Frames [l] body.bytes

end Line

namespace Sent

/-- Whether a request asks for the end of the connection. -/
def closes (q : Sent) : Bool := q.lines.any Line.closes

/-- A request whose lines frame its body. It neither asks for a tunnel nor for another protocol nor
waits for leave to send the body, and asks of the connection only for its end. -/
structure IsFramed (q : Sent) : Prop where
  noTunnel : q.asksForTunnel = false
  plain : ∀ l ∈ q.lines, l.lowerName ≠ "expect" ∧ l.lowerName ≠ "upgrade"
  connection : ∀ l ∈ q.lines, l.lowerName = "connection" → l.word = "close".toList
  framed : Line.Frames (q.lines.filter Line.isFraming) q.body

/-- Such a request that the server takes. -/
structure IsProper (q : Sent) : Prop where
  taken : q.IsTaken
  isFramed : q.IsFramed

end Sent

/-! ## Words of a value -/

theorem plain_of_isLower {b : UInt8} (h : (Char.ofNat b.toNat).toLower.isLower = true) :
    b < 128 ∧ Char.ofNat b.toNat ≠ ',' ∧ Char.ofNat b.toNat ≠ ' ' ∧ Char.ofNat b.toNat ≠ '\t' := by
  revert h
  revert b
  refine @of_all_bytes _ ?_
  decide +kernel

/-- A value that is one word of letters. -/
theorem words_of_word {v : HeaderValue} {word : List Char} (letters : word.all Char.isLower = true)
    (h : (chars v.bytes).map Char.toLower = word) : Framed.words v = [word] := by
  have lower : ∀ b ∈ v.bytes, (Char.ofNat b.toNat).toLower.isLower = true := by
    intro b hb
    refine List.all_eq_true.1 letters _ ?_
    rw [← h, chars, List.map_map]
    exact List.mem_map_of_mem (f := Char.toLower ∘ fun b => Char.ofNat b.toNat) hb
  have plain : ∀ c ∈ chars v.bytes, c ≠ ',' ∧ c ≠ ' ' ∧ c ≠ '\t' := by
    intro c hc
    obtain ⟨b, hb, rfl⟩ := List.mem_map.1 hc
    exact (plain_of_isLower (lower b hb)).2
  have ascii : v.bytes.all (· < 128) = true :=
    List.all_eq_true.2 fun b hb => decide_eq_true (plain_of_isLower (lower b hb)).1
  have whole : (chars v.bytes).splitOnP (· = ',') = [chars v.bytes] :=
    List.splitOnP_eq_singleton fun c hc => decide_eq_false (plain c hc).1
  have dark : ∀ c ∈ chars v.bytes, (decide (c = ' ') || decide (c = '\t')) = false := by
    intro c hc
    rw [decide_eq_false (plain c hc).2.1, decide_eq_false (plain c hc).2.2]
    rfl
  rw [Framed.words, if_pos ascii, whole, List.map_singleton]
  dsimp only
  rw [Text.dropWhile_eq_self dark, Text.dropWhile_eq_self fun c hc => dark c (List.mem_reverse.1 hc),
    List.reverse_reverse, h]

/-! ## One line -/

namespace Framed

theorem add_close {s : Framed} {l : Line} (name : l.lowerName = "connection")
    (value : l.word = "close".toList) :
    s.add .http11 l.field = .ok { s with keepAlive := false } := by
  have words := words_of_word (v := l.field.2) (by decide) value
  have text : l.field.1.text = "connection" := name
  rw [add, text, if_neg (by decide), if_neg (by decide), if_pos rfl, words]
  cases s.keepAlive with
  | true => exact if_pos rfl
  | false => exact if_neg Bool.false_ne_true

theorem add_length {s : Framed} {l : Line} {n : Nat} (name : l.lowerName = "content-length")
    (value : Decimal.read? (chars l.value) = some n) (small : n ≤ maxLength)
    (plain : s.encoded = none) (first : s.length = none) :
    s.add .http11 l.field = .ok { s with length := some n } := by
  have text : l.field.1.text = "content-length" := name
  have read : Decimal.read? (chars l.field.2.bytes) = some n := value
  have word : ¬Decimal.unsignedLimit ≤ n := by
    rw [maxLength, Decimal.unsignedLimit] at small
    rw [Decimal.unsignedLimit]
    omega
  rw [add, text, if_neg (by decide), if_pos rfl, plain, read]
  dsimp only
  rw [if_neg word, first, if_neg (Nat.not_lt.2 small)]
  rfl

theorem add_chunked {s : Framed} {l : Line} (name : l.lowerName = "transfer-encoding")
    (value : l.word = "chunked".toList) :
    s.add .http11 l.field = .ok { s with encoded := some true } := by
  have words := words_of_word (v := l.field.2) (by decide) value
  have text : l.field.1.text = "transfer-encoding" := name
  rw [add, text, if_pos rfl, if_neg (by decide), words]
  rfl

theorem add_other {s : Framed} {l : Line} (framing : l.isFraming = false)
    (connection : l.lowerName ≠ "connection") (expect : l.lowerName ≠ "expect") :
    s.add .http11 l.field = .ok s := by
  have text : l.field.1.text = l.lowerName := rfl
  rw [Line.isFraming, Bool.or_eq_false_iff, decide_eq_false_iff_not, decide_eq_false_iff_not]
    at framing
  rw [add, text, if_neg framing.2, if_neg framing.1, if_neg connection, if_neg expect]

/-! ## All lines -/

/-- Lines that do not frame a body only say whether the connection stays open. -/
theorem foldlM_add_of_not_isFraming {s : Framed} {lines : List Line}
    (framing : ∀ l ∈ lines, l.isFraming = false) (expect : ∀ l ∈ lines, l.lowerName ≠ "expect")
    (connection : ∀ l ∈ lines, l.lowerName = "connection" → l.word = "close".toList) :
    (lines.map Line.field).foldlM (add .http11) s =
      .ok { s with keepAlive := s.keepAlive && !lines.any Line.closes } := by
  induction lines generalizing s with
  | nil =>
    rw [List.any_nil, Bool.not_false, Bool.and_true]
    rfl
  | cons l lines ih =>
    have rest (s : Framed) := @ih s (fun l hl => framing l (List.mem_cons_of_mem _ hl))
      (fun l hl => expect l (List.mem_cons_of_mem _ hl))
      fun l hl => connection l (List.mem_cons_of_mem _ hl)
    rw [List.map_cons, List.foldlM_cons, List.any_cons]
    by_cases name : l.lowerName = "connection"
    · have value := connection l List.mem_cons_self name
      have closes : l.closes = true := by
        rw [Line.closes, name, value]
        rfl
      rw [add_close name value, closes, Bool.true_or, Bool.not_true, Bool.and_false]
      exact rest _
    · have open_ : l.closes = false := by
        rw [Line.closes, decide_eq_false name]
        rfl
      rw [add_other (framing l List.mem_cons_self) name (expect l List.mem_cons_self), open_,
        Bool.false_or]
      exact rest _

end Framed

/-! ## Plans -/

/-- What a plan says of a body: none if it is empty, else a framing that spans it. -/
def Plan.Fits (plan : Plan) (body : List UInt8) : Prop :=
  match plan.body with
  | none => body = []
  | some f => f.Spans body

/-- A plan is what the state behind all header fields says. -/
theorem Plan.ofRequest?_of_foldlM {request : Request} {s : Framed}
    (h : request.headers.foldlM (Framed.add request.version)
      { keepAlive := request.version = .http11 } = .ok s) : Plan.ofRequest? request = s.plan := by
  rw [ofRequest?]
  show Except.bind (request.headers.foldlM (Framed.add request.version)
    { keepAlive := request.version = .http11 }) _ = _
  rw [h]
  rfl

namespace Sent

variable {q : Sent}

theorem foldlM_of_isFramed (h : q.IsFramed) {lines : List Line} (sub : ∀ l ∈ lines, l ∈ q.lines)
    (framing : ∀ l ∈ lines, l.isFraming = false) (s : Framed) :
    (lines.map Line.field).foldlM (Framed.add .http11) s =
      .ok { s with keepAlive := s.keepAlive && !lines.any Line.closes } :=
  Framed.foldlM_add_of_not_isFraming framing (fun l hl => (h.plain l (sub l hl)).1)
    fun l hl => h.connection l (sub l hl)

theorem not_closes_of_isFraming {l : Line} (h : l.isFraming = true) : l.closes = false := by
  have name : l.lowerName ≠ "connection" := by
    intro name
    rw [Line.isFraming, name] at h
    exact absurd h (by decide)
  rw [Line.closes, decide_eq_false name]
  rfl

/-- The state behind all lines, if one of them frames the body: `add` is what that line says. -/
theorem foldlM_of_framing (h : q.IsFramed) {l : Line} (single : q.lines.filter Line.isFraming = [l])
    {s : Framed} {f : Framed → Framed} (add : ∀ k, Framed.add .http11 { s with keepAlive := k }
      l.field = .ok { f s with keepAlive := k }) :
    (q.lines.map Line.field).foldlM (Framed.add .http11) s =
      .ok { f s with keepAlive := s.keepAlive && !q.closes } := by
  -- The lines around the one that frames the body only say whether the connection stays open.
  obtain ⟨before, after, split, none', framing, last⟩ := List.filter_eq_cons_iff.1 single
  have none'' := List.filter_eq_nil_iff.1 last
  have subBefore : ∀ l ∈ before, l ∈ q.lines := by
    rw [split]
    exact fun l hl => List.mem_append_left _ hl
  have subAfter : ∀ l ∈ after, l ∈ q.lines := by
    rw [split]
    exact fun l hl => List.mem_append_right _ (List.mem_cons_of_mem _ hl)
  have first := foldlM_of_isFramed h subBefore (fun l hl => Bool.eq_false_iff.2 (none' l hl)) s
  have closes : q.closes = (before.any Line.closes || after.any Line.closes) := by
    rw [Sent.closes, split, List.any_append, List.any_cons, not_closes_of_isFraming framing,
      Bool.false_or]
  rw [closes, split, List.map_append, List.map_cons, List.foldlM_append, first]
  show Except.bind (Framed.add .http11 { s with keepAlive := _ } l.field) _ = _
  rw [add]
  refine (foldlM_of_isFramed h subAfter (fun l hl => Bool.eq_false_iff.2 (none'' l hl)) _).trans ?_
  dsimp only
  rw [Bool.and_assoc, ← Bool.not_or]

theorem ofRequest?_eq {s : Framed} (h : (q.lines.map Line.field).foldlM (Framed.add .http11)
    { keepAlive := true } = .ok s) : Plan.ofRequest? q.request = s.plan :=
  Plan.ofRequest?_of_foldlM h

/-- The plan of a framed request spans its body, and keeps the connection open unless the request
asks for its end. -/
theorem plan_of_isFramed (h : q.IsFramed) : ∃ plan, Plan.ofRequest? q.request = .ok plan ∧
    plan.Fits q.body ∧ plan.keepAlive = !q.closes ∧ plan.expects = false := by
  have framed := h.framed
  generalize hl : q.lines.filter Line.isFraming = lines at framed
  generalize hb : q.body = body at framed
  cases framed with
  | none =>
    have framing : ∀ l ∈ q.lines, l.isFraming = false :=
      fun l hm => Bool.eq_false_iff.2 (List.filter_eq_nil_iff.1 hl l hm)
    have whole := foldlM_of_isFramed h (fun _ hm => hm) framing { keepAlive := true }
    rw [Bool.true_and] at whole
    exact ⟨_, ofRequest?_eq whole, rfl, rfl, rfl⟩
  | @length l body name value small =>
    have whole := foldlM_of_framing h hl (s := { keepAlive := true })
      (f := fun s => { s with length := some body.length })
      fun k => Framed.add_length name value small rfl rfl
    have eq := ofRequest?_eq whole
    cases body with
    | nil => exact ⟨_, eq, rfl, rfl, rfl⟩
    | cons b body => exact ⟨_, eq, .length (List.cons_ne_nil b body), rfl, rfl⟩
  | @chunked l body name value =>
    have whole := foldlM_of_framing h hl (s := { keepAlive := true })
      (f := fun s => { s with encoded := some true }) fun k => Framed.add_chunked name value
    exact ⟨_, ofRequest?_eq whole, .chunked body.ends_bytes, rfl, rfl⟩

end Sent
end Liveness.Http.Wire
