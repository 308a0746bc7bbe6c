import Liveness.Proofs.Http.Reading

/-! # The target of a head

* `Progress.Keeps`: what one more byte leaves of a target that has been read.
* `Reader.target_of_feed`: the target of a head is what stands in the request line, whatever stands
  behind it.
* `Head.request?_eq_ok`: what is known of a head that makes a request.
-/

namespace Liveness.Http.Wire
set_option autoImplicit false

/-- The places of a head behind its target. -/
def Place.isPastTarget : Place → Bool
  | gap | gapEnd | method | target => false
  | _ => true

/-- Whether a target that has been read stays what it is. -/
def Progress.Keeps (target : List UInt8) : Progress → Prop
  | more r => r.place.isPastTarget = true ∧ r.target = target
  | done head => head.target = target
  | refused _ => True

namespace Reader

theorem keeps_step (r : Reader) (b : UInt8) (past : r.place.isPastTarget = true) :
    (r.step b).Keeps r.target := by
  obtain ⟨place, word, method, target, version, name, fields, count⟩ := r
  cases place with
  | gap | gapEnd | method | target => cases past
  | protocol left =>
    cases left with
    | nil =>
      dsimp only [step]
      repeat' split
      all_goals simp [Progress.Keeps, Place.isPastTarget]
    | cons c left =>
      dsimp only [step]
      split
      all_goals simp [Progress.Keeps, Place.isPastTarget, goTo]
  | _ =>
    dsimp only [step, fieldStartStep, valueStep]
    repeat' split
    all_goals simp [Progress.Keeps, Place.isPastTarget, goTo, push, endField, head]

theorem keeps_next (r : Reader) (b : UInt8) (past : r.place.isPastTarget = true) :
    (r.next b).Keeps r.target := by
  have kept := keeps_step r b past
  unfold next
  cases h : r.step b with
  | more r' =>
    rw [h] at kept
    dsimp only
    split
    · exact kept
    · trivial
  | done head =>
    rw [h] at kept
    exact kept
  | refused refusal => trivial

theorem target_of_feed_done {r : Reader} {bytes rest : List UInt8} {head : Head}
    (past : r.place.isPastTarget = true) (h : r.feed bytes = .done head rest) :
    head.target = r.target := by
  induction bytes generalizing r with
  | nil => cases h
  | cons b bytes ih =>
    have kept := keeps_next r b past
    rw [feed] at h
    cases hn : r.next b with
    | more r' =>
      rw [hn] at h kept
      obtain ⟨past', same⟩ := kept
      rw [ih past' h, same]
    | done head' =>
      rw [hn] at h kept
      injection h with sameHead
      rw [← sameHead]
      exact kept
    | refused refusal =>
      rw [hn] at h
      cases h

/-- A head that begins with two words of a request line has the second as its target, whatever
stands behind them. -/
theorem target_of_feed {word target behind rest : List UInt8} {head : Head} (full : word ≠ [])
    (token : word.all isTokenByte = true) (clean : target.all isTargetByte = true)
    (h : ({} : Reader).feed (word ++ 32 :: (target ++ 32 :: behind)) = .done head rest) :
    head.target = target := by
  have words := reads_firstWords full token clean
  have whole : word ++ 32 :: (target ++ 32 :: behind) =
      word ++ [32] ++ (target ++ [32]) ++ behind := by simp
  have fed := feed_of_reads_start words behind
  rw [← whole, h] at fed
  split at fed
  · exact target_of_feed_done rfl fed.symm
  · cases fed

end Reader

theorem Head.request?_eq_ok {h : Head} {request : Request} (ok : h.request? = .ok request) :
    Method.ofString? (text h.method) = some request.method ∧
      Uri.parse? (chars h.target) = some request.uri ∧ h.fields.mapM field? = some request.headers ∧
      request.version = h.version := by
  unfold request? at ok
  split at ok
  · cases ok
  · split at ok
    · next method uri headers hm hu hf =>
      injection ok with same
      subst same
      exact ⟨hm, hu, hf, rfl⟩
    · cases ok

end Liveness.Http.Wire
