import Liveness.Proofs.Connection

/-! # Where a request begins

How the bytes of a head are cut has no influence on what the connection does with it. Behind a
request that has been answered, the connection is one that waits for the next, and what has arrived
with the end of the one is the first arrival for the other.

* `receiveAll_gather`: the arrivals that hold a head are as one arrival.
* `head?_answers`: the first answer on a connection that waits for a request.
* `AnswersTo`: the answers of such a connection to some bytes.
* `AnswersTo.sent`, `AnswersTo.of_getElem?`: behind the answer to a request, or to several, stand
  the answers to what stands behind them.
-/

namespace Liveness.Connection
set_option autoImplicit false

open Http (Version)
open Http.Wire

variable {env : Surroundings} {c : Connection} {arrivals : List (List UInt8)} {tail : List UInt8}

/-! ## Arrivals -/

theorem receiveAll_cons (env : Surroundings) (c : Connection) (bytes : List UInt8)
    (later : List (List UInt8)) :
    c.receiveAll env (bytes :: later) =
      let first := c.receive env bytes
      let rest := first.connection.receiveAll env later
      ⟨rest.connection, first.answers ++ rest.answers, first.records ++ rest.records⟩ := rfl

theorem receive_of_head {r : Reader} (phase : c.phase = .head r) (bytes : List UInt8) :
    c.receive env bytes = serve env c.service c.version r bytes := by
  rw [receive, phase]

theorem receiveAll_of_closed (closed : c.phase = .closed) (arrivals : List (List UInt8)) :
    c.receiveAll env arrivals = ⟨c, [], []⟩ := by
  induction arrivals with
  | nil => rfl
  | cons bytes arrivals ih =>
    have nothing : c.receive env bytes = ⟨c, [], []⟩ := by rw [receive, closed]
    rw [receiveAll_cons, nothing]
    dsimp only
    rw [ih]
    rfl

theorem answers_of_closed (env : Surroundings) (closed : c.phase = .closed)
    (arrivals : List (List UInt8)) :
    (c.receiveAll env arrivals).answers = [] := by
  rw [receiveAll_of_closed closed]

theorem serve_congr {s : Service} {v : Version} {r r' : Reader} {a b : List UInt8}
    (h : r.feed a = r'.feed b) : serve env s v r a = serve env s v r' b := by
  rw [serve_eq, serve_eq, h]

/-- The arrivals that hold a head are as one arrival. -/
theorem receiveAll_gather (env : Surroundings) {r : Reader} (phase : c.phase = .head r) :
    (∃ r', r.feed arrivals.flatten = .more r' ∧ (c.receiveAll env arrivals).answers = []) ∨
      ∃ bytes later, bytes ++ later.flatten = arrivals.flatten ∧
        (∀ r', r.feed bytes ≠ .more r') ∧
        c.receiveAll env arrivals = c.receiveAll env (bytes :: later) := by
  induction arrivals generalizing c r with
  | nil => exact .inl ⟨r, rfl, rfl⟩
  | cons first arrivals ih =>
    cases fed : r.feed first with
    | done head rest =>
      refine .inr ⟨first, arrivals, rfl, ?_, rfl⟩
      intro r' more
      rw [fed] at more
      cases more
    | refused refusal =>
      refine .inr ⟨first, arrivals, rfl, ?_, rfl⟩
      intro r' more
      rw [fed] at more
      cases more
    | more r₁ =>
      -- The head goes on: the reader stands where it would stand had all arrived at once.
      have goes (bytes : List UInt8) : r.feed (first ++ bytes) = r₁.feed bytes := by
        rw [Reader.feed_append, fed]
      have on : c.receiveAll env (first :: arrivals) =
          receiveAll env ⟨c.service, .head r₁, c.version⟩ arrivals := by
        rw [receiveAll_cons, receive_of_head phase, serve_of_more fed]
        rfl
      rw [on, List.flatten_cons, goes]
      obtain ⟨r', more, none⟩ | ⟨bytes, later, split, ends, same⟩ :=
        @ih ⟨c.service, .head r₁, c.version⟩ r₁ rfl
      · exact .inl ⟨r', more, none⟩
      · refine .inr ⟨first ++ bytes, later, ?_, ?_, ?_⟩
        · rw [List.append_assoc, split]
        · intro r'
          rw [goes]
          exact ends r'
        · have served : serve env c.service c.version r₁ bytes =
              serve env c.service c.version r (first ++ bytes) := serve_congr (goes bytes).symm
          rw [same, receiveAll_cons, receiveAll_cons, receive_of_head rfl, receive_of_head phase]
          rw [served]

theorem gather_of_done (env : Surroundings) (phase : c.phase = .head {}) {head : Head}
    (fed : ({} : Reader).feed arrivals.flatten = .done head tail) :
    ∃ bytes rest later, ({} : Reader).feed bytes = .done head rest ∧ rest ++ later.flatten = tail ∧
      c.receiveAll env arrivals = c.receiveAll env (bytes :: later) := by
  obtain ⟨r', more, -⟩ | ⟨bytes, later, split, ends, same⟩ := receiveAll_gather env phase
  · rw [fed] at more
    cases more
  · rw [← split, Reader.feed_append] at fed
    cases here : ({} : Reader).feed bytes with
    | more r' => exact absurd here (ends r')
    | refused refusal =>
      rw [here] at fed
      cases fed
    | done head' rest =>
      rw [here] at fed
      injection fed with sameHead sameTail
      subst sameHead
      exact ⟨bytes, rest, later, here, sameTail, same⟩

/-! ## The first answer -/

/-- The first answer to a head, if it is answered. -/
def firstAnswer? (env : Surroundings) (c : Connection) (head : Head) : Option Answer :=
  match understand head with
  | .error refusal => some (.ofRefusal env.now c.version refusal)
  | .ok (request, plan) =>
    Answer.ofResponse? env.now request plan (c.service.handle env.supply request).2.1

section
variable {bytes rest : List UInt8} {head : Head}

theorem serve_of_misunderstood {refusal : Refusal}
    (fed : ({} : Reader).feed bytes = .done head rest)
    (misunderstood : understand head = .error refusal) :
    serve env c.service c.version {} bytes =
      ⟨⟨c.service, .closed, c.version⟩, [.ofRefusal env.now c.version refusal], []⟩ := by
  rw [serve_eq, fed]
  dsimp only
  rw [misunderstood]

theorem serve_of_unanswered (fed : ({} : Reader).feed bytes = .done head rest)
    (unanswered : firstAnswer? env c head = none) :
    (serve env c.service c.version {} bytes).answers = [] ∧
      (serve env c.service c.version {} bytes).connection.phase = .closed := by
  unfold firstAnswer? at unanswered
  rw [serve_eq, fed]
  dsimp only
  cases understood : understand head with
  | error refusal =>
    rw [understood] at unanswered
    cases unanswered
  | ok made =>
    rw [understood] at unanswered
    dsimp only at unanswered ⊢
    rw [unanswered]
    exact ⟨rfl, rfl⟩

theorem serve_of_answered {a : Answer} (fed : ({} : Reader).feed bytes = .done head rest)
    (answered : firstAnswer? env c head = some a) :
    ∃ more, (serve env c.service c.version {} bytes).answers = a :: more := by
  unfold firstAnswer? at answered
  cases understood : understand head with
  | error refusal =>
    rw [understood] at answered
    rw [serve_of_misunderstood fed understood, ← Option.some.inj answered]
    exact ⟨[], rfl⟩
  | ok made =>
    rw [understood] at answered
    rw [serve_of_done fed understood answered]
    dsimp only
    cases sequel made.2 rest with
    | close => exact ⟨[], rfl⟩
    | body f => exact ⟨[], rfl⟩
    | request rest' => cases made.2.keepAlive <;> exact ⟨_, rfl⟩

end

/-- The first answer on a connection that waits for a request is the answer to the first head. -/
theorem head?_answers (env : Surroundings) (phase : c.phase = .head {}) :
    (c.receiveAll env arrivals).answers.head? =
      match ({} : Reader).feed arrivals.flatten with
      | .more _ => none
      | .refused refusal => some (.ofRefusal env.now c.version refusal)
      | .done head _ => firstAnswer? env c head := by
  obtain ⟨r, more, none⟩ | ⟨bytes, later, split, ends, same⟩ := receiveAll_gather env phase
  · rw [none, more]
    rfl
  · rw [same, receiveAll_cons, receive_of_head phase, ← split, Reader.feed_append]
    dsimp only
    cases fed : ({} : Reader).feed bytes with
    | more r => exact absurd fed (ends r)
    | refused refusal =>
      rw [serve_eq, fed]
      rfl
    | done head rest =>
      dsimp only
      cases first : firstAnswer? env c head with
      | none =>
        obtain ⟨none, closed⟩ := serve_of_unanswered fed first
        rw [none, receiveAll_of_closed closed]
        rfl
      | some a =>
        obtain ⟨more, answers⟩ := serve_of_answered fed first
        rw [answers]
        rfl

theorem receiveAll_of_refused (phase : c.phase = .head {}) {refusal : Refusal}
    (fed : ({} : Reader).feed arrivals.flatten = .refused refusal) :
    (c.receiveAll env arrivals).answers = [.ofRefusal env.now c.version refusal] ∧
      (c.receiveAll env arrivals).connection.isClosed = true := by
  obtain ⟨r, more, -⟩ | ⟨bytes, later, split, ends, same⟩ := receiveAll_gather env phase
  · rw [fed] at more
    cases more
  · rw [← split, Reader.feed_append] at fed
    cases here : ({} : Reader).feed bytes with
    | more r => exact absurd here (ends r)
    | done head rest =>
      rw [here] at fed
      cases fed
    | refused refusal' =>
      rw [here] at fed
      cases fed
      rw [same, receiveAll_cons, receive_of_head phase, serve_eq, here]
      dsimp only
      rw [receiveAll_of_closed rfl]
      exact ⟨rfl, rfl⟩

/-- Where a head ends the connection, nothing behind it is answered. -/
theorem receiveAll_of_last (phase : c.phase = .head {}) {head : Head} {answers : List Answer}
    (fed : ({} : Reader).feed arrivals.flatten = .done head tail)
    (last : ∀ bytes rest, ({} : Reader).feed bytes = .done head rest →
      (serve env c.service c.version {} bytes).answers = answers ∧
        (serve env c.service c.version {} bytes).connection.phase = .closed) :
    (c.receiveAll env arrivals).answers = answers ∧
      (c.receiveAll env arrivals).connection.isClosed = true := by
  obtain ⟨bytes, rest, later, fed, -, same⟩ := gather_of_done env phase fed
  obtain ⟨first, closed⟩ := last bytes rest fed
  rw [same, receiveAll_cons, receive_of_head phase]
  dsimp only
  rw [receiveAll_of_closed closed, isClosed_iff, first, List.append_nil]
  exact ⟨rfl, closed⟩

/-! ## Behind a request -/

/-- The answers of a connection that waits for a request, to bytes that arrive somehow. -/
def AnswersTo (env : Surroundings) (bytes : List UInt8) (answers : List Answer) : Prop :=
  ∃ (c : Connection) (arrivals : List (List UInt8)), c.phase = .head {} ∧ arrivals.flatten = bytes ∧
    (c.receiveAll env arrivals).answers = answers

/-- What is left of a body is read to its end in front of the next request, or not at all. -/
theorem receiveAll_of_body {f : Framing} {keepAlive : Bool} {left : List UInt8}
    (phase : c.phase = .body f keepAlive) (spans : f.Spans left)
    (eq : arrivals.flatten = left ++ tail) :
    (c.receiveAll env arrivals).answers = [] ∨
      AnswersTo env tail (c.receiveAll env arrivals).answers := by
  induction arrivals with
  | nil => exact .inl rfl
  | cons bytes arrivals ih =>
    rw [List.flatten_cons] at eq
    rw [receiveAll_cons, receive, phase]
    dsimp only
    -- Arrivals without bytes change nothing, and the first with bytes decides.
    by_cases empty : bytes = []
    · rw [if_pos empty]
      rw [empty] at eq
      exact ih eq
    · rw [if_neg empty]
      have follows := follows_lastPiece spans.ne_nil (Framing.leaves_piece spans eq)
      have silent := answers_of_closed env (c := c.close) rfl arrivals
      cases hs : lastPiece (f.piece bytes) with
      | close => exact .inl silent
      | body f' => exact .inl silent
      | request rest =>
        rw [hs] at follows
        cases follows with
        | request eq =>
          cases keepAlive with
          | false => exact .inl silent
          | true =>
            exact .inr ⟨⟨c.service, .head {}, c.version⟩, rest :: arrivals, rfl, eq, rfl⟩

/-- A request is answered with what the router gives for it, and if there are further answers, they
are to what stands behind it. -/
theorem AnswersTo.sent {q : Sent} (proper : q.IsProper) {answers : List Answer}
    (h : AnswersTo env (q.bytes ++ tail) answers) :
    ∃ id more, answers = q.answer env.now id :: more ∧ (more = [] ∨ AnswersTo env tail more) := by
  obtain ⟨c, arrivals, phase, eq, rfl⟩ := h
  obtain ⟨taken, framed⟩ := proper
  have fed : ({} : Reader).feed arrivals.flatten = .done q.head (q.body ++ tail) := by
    rw [eq, Sent.bytes, List.append_assoc]
    exact Reader.feed_headBytes taken _
  obtain ⟨bytes, rest, later, fed, behind, same⟩ := gather_of_done env phase fed
  obtain ⟨plan, planned, fits, -, expects⟩ := Sent.plan_of_isFramed framed
  obtain ⟨id, answered⟩ := exists_answer env c.service taken framed.noTunnel plan
  have follows := follows_sequel fits expects behind
  rw [same, receiveAll_cons, receive_of_head phase,
    serve_of_done fed (understand_head taken planned) answered]
  dsimp only
  cases hs : sequel plan rest with
  | close => exact ⟨id, _, rfl, .inl (answers_of_closed env rfl later)⟩
  | body f =>
    rw [hs] at follows
    cases follows with
    | body _ spans eq => exact ⟨id, _, rfl, receiveAll_of_body rfl spans eq⟩
  | request rest' =>
    rw [hs] at follows
    cases follows with
    | request eq =>
      cases plan.keepAlive with
      | false => exact ⟨id, _, rfl, .inl (answers_of_closed env rfl later)⟩
      | true =>
        refine ⟨id, _, rfl, .inr ?_⟩
        exact ⟨⟨(c.service.handle env.supply q.request).1, .head {}, q.request.version⟩,
          rest' :: later, rfl, eq, rfl⟩

/-- Behind the answers to some requests stand those to the bytes behind them, if any. -/
theorem AnswersTo.drop {before : List Sent} (proper : ∀ q ∈ before, q.IsProper)
    {answers : List Answer} (h : AnswersTo env (before.flatMap Sent.bytes ++ tail) answers) :
    answers.drop before.length = [] ∨ AnswersTo env tail (answers.drop before.length) := by
  induction before generalizing answers with
  | nil => exact .inr h
  | cons q before ih =>
    rw [List.flatMap_cons, List.append_assoc] at h
    obtain ⟨id, more, rfl, rfl | behind⟩ := h.sent (proper q List.mem_cons_self)
    · exact .inl List.drop_nil
    · exact ih (fun q hq => proper q (List.mem_cons_of_mem _ hq)) behind

/-- An answer to what stands behind some requests is a first answer too. -/
theorem AnswersTo.of_getElem? {before : List Sent} (proper : ∀ q ∈ before, q.IsProper)
    (phase : c.phase = .head {}) (eq : arrivals.flatten = before.flatMap Sent.bytes ++ tail)
    {a : Answer} (answer : (c.receiveAll env arrivals).answers[before.length]? = some a) :
    ∃ more, AnswersTo env tail (a :: more) := by
  have all : AnswersTo env (before.flatMap Sent.bytes ++ tail)
      (c.receiveAll env arrivals).answers := ⟨c, arrivals, phase, eq, rfl⟩
  rw [← List.head?_drop] at answer
  obtain none | behind := all.drop proper
  · rw [none] at answer
    cases answer
  · obtain ⟨more, split⟩ := List.head?_eq_some_iff.1 answer
    rw [split] at behind
    exact ⟨more, behind⟩

end Liveness.Connection
