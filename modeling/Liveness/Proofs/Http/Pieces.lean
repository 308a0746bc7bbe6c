import Liveness.Http.Wire.Framing

/-! # Pieces of a body

A body is taken out of what has arrived piece by piece. However the bytes arrive, no piece reaches
beyond the end of the body.

* `Chunk.Ends`: the bytes with which a body of chunks ends, from a place in it on.
* `Framing.Spans`: the bytes that are still to come of a body.
* `Piece.Leaves`: what a piece leaves of a body that stands in front of other bytes.
* `Framing.leaves_piece`: every piece leaves the rest of the body, or all that stands behind it.
-/

namespace Liveness.Http.Wire
set_option autoImplicit false

/-! ## The rest of a body -/

/-- The bytes with which a body of chunks ends, from a place in it on. -/
inductive Chunk.Ends : Chunk → List UInt8 → Prop
  | last {c : Chunk} {b : UInt8} (step : c.step b = some .ended) : Ends c [b]
  | step {c c' : Chunk} {b : UInt8} {bytes : List UInt8} (step : c.step b = some c')
      (rest : Ends c' bytes) : Ends c (b :: bytes)
  | data {data bytes : List UInt8} (ne : data ≠ []) (rest : Ends .dataReturn bytes) :
      Ends (.data data.length) (data ++ bytes)

/-- The bytes that are still to come of a body. -/
inductive Framing.Spans : Framing → List UInt8 → Prop
  | length {body : List UInt8} (ne : body ≠ []) : Spans (.length body.length) body
  | chunked {place : Chunk} {body : List UInt8} (ends : place.Ends body) :
      Spans (.chunked place) body

theorem Chunk.Ends.ne_ended {c : Chunk} {bytes : List UInt8} (h : c.Ends bytes) : c ≠ .ended := by
  rintro rfl
  cases h with
  | last step => cases step
  | step step rest => cases step

theorem Chunk.Ends.ne_nil {c : Chunk} {bytes : List UInt8} (h : c.Ends bytes) : bytes ≠ [] := by
  cases h with
  | last => exact List.cons_ne_nil _ _
  | step => exact List.cons_ne_nil _ _
  | data ne => exact List.append_ne_nil_of_left_ne_nil ne _

theorem Framing.Spans.ne_nil {f : Framing} {body : List UInt8} (h : f.Spans body) : body ≠ [] := by
  cases h with
  | length ne => exact ne
  | chunked ends => exact ends.ne_nil

/-! ## What a piece leaves -/

/-- What a piece leaves of a body that stands in front of a tail, where some bytes have not
arrived. -/
inductive Piece.Leaves (tail unsent : List UInt8) : Piece → Prop
  | waiting {f : Framing} {left : List UInt8} (spans : f.Spans left) (eq : unsent = left ++ tail) :
      Leaves tail unsent (.waiting f)
  | part {f : Framing} {left rest : List UInt8} (spans : f.Spans left)
      (eq : rest ++ unsent = left ++ tail) : Leaves tail unsent (.part f rest)
  | finished {rest : List UInt8} (eq : rest ++ unsent = tail) : Leaves tail unsent (.finished rest)

theorem drop_append_of_append_eq {a b c d : List UInt8} (h : a ++ b = c ++ d)
    (le : c.length ≤ a.length) : a.drop c.length ++ b = d := by
  have := congrArg (List.drop c.length) h
  rwa [List.drop_append_of_le_length le, List.drop_left] at this

theorem eq_drop_append_of_append_eq {a b c d : List UInt8} (h : a ++ b = c ++ d)
    (le : a.length ≤ c.length) : b = c.drop a.length ++ d := by
  have := congrArg (List.drop a.length) h
  rwa [List.drop_left, List.drop_append_of_le_length le] at this

namespace Chunk

theorem piece_of_step {c c' : Chunk} {b : UInt8} (h : c.step b = some c') (ne : c' ≠ .ended)
    (bytes : List UInt8) : c.piece (b :: bytes) = c'.piece bytes := by
  conv => lhs; unfold piece
  split
  · next hx => cases hx
  · cases h
  · next hx =>
    injection hx with hb hbs
    subst hb
    subst hbs
    rw [h]
    cases c' with
    | ended => exact absurd rfl ne
    | _ => rfl

theorem piece_of_ended {c : Chunk} {b : UInt8} (h : c.step b = some .ended) (bytes : List UInt8) :
    c.piece (b :: bytes) = .finished bytes := by
  unfold piece
  split
  · next hx => cases hx
  · cases h
  · next hx =>
    injection hx with hb hbs
    subst hb
    subst hbs
    rw [h]

theorem piece_nil (c : Chunk) : c.piece [] = .waiting (.chunked c) := by
  cases c <;> rfl

/-- Induction on what is still to come of the body; a chunk of data is taken in one part. -/
theorem leaves_piece {c : Chunk} {body arrived unsent tail : List UInt8} (h : c.Ends body)
    (eq : arrived ++ unsent = body ++ tail) : (c.piece arrived).Leaves tail unsent := by
  induction h generalizing arrived with
  | @last c b step =>
    cases arrived with
    | nil =>
      rw [piece_nil]
      exact .waiting (.chunked (.last step)) eq
    | cons b' arrived =>
      injection eq with hb rest
      subst hb
      rw [piece_of_ended step]
      exact .finished rest
  | @step c c' b bytes step more ih =>
    cases arrived with
    | nil =>
      rw [piece_nil]
      exact .waiting (.chunked (.step step more)) eq
    | cons b' arrived =>
      injection eq with hb rest
      subst hb
      rw [piece_of_step step more.ne_ended]
      exact ih rest
  | @data data bytes ne more ih =>
    cases arrived with
    | nil =>
      rw [piece_nil]
      exact .waiting (.chunked (.data ne more)) eq
    | cons b arrived =>
      rw [List.append_assoc] at eq
      unfold piece
      dsimp only
      split
      · next le =>
        exact .part (.chunked more) (drop_append_of_append_eq eq le)
      · next gt =>
        have lt : (b :: arrived).length < data.length := Nat.not_le.1 gt
        have left := eq_drop_append_of_append_eq eq (Nat.le_of_lt lt)
        have more' : data.drop (b :: arrived).length ≠ [] := by
          intro empty
          have := List.drop_eq_nil_iff.1 empty
          omega
        have ends := Ends.data more' more
        rw [List.length_drop] at ends
        refine .part (.chunked ends) ?_
        rw [List.nil_append, left, List.append_assoc]

end Chunk

/-- Every piece leaves the rest of the body, or all that stands behind the body. -/
theorem Framing.leaves_piece {f : Framing} {body arrived unsent tail : List UInt8}
    (h : f.Spans body) (eq : arrived ++ unsent = body ++ tail) :
    (f.piece arrived).Leaves tail unsent := by
  cases h with
  | chunked ends => exact Chunk.leaves_piece ends eq
  | length ne =>
    rw [piece]
    by_cases empty : arrived = []
    · rw [if_pos empty]
      subst empty
      exact .waiting (.length ne) eq
    · rw [if_neg empty]
      by_cases le : body.length ≤ arrived.length
      · rw [if_pos le]
        exact .finished (drop_append_of_append_eq eq le)
      · rw [if_neg le]
        have lt : arrived.length < body.length := Nat.not_le.1 le
        have left := eq_drop_append_of_append_eq eq (Nat.le_of_lt lt)
        have more : body.drop arrived.length ≠ [] := by
          intro empty
          have := List.drop_eq_nil_iff.1 empty
          omega
        have spans := Spans.length more
        rw [List.length_drop] at spans
        exact .part spans left

end Liveness.Http.Wire
