/-! # Runs of letters

* `Span`: an arithmetic run of letters whose other case lies at one offset.
* `Span.contains`: whether a code point is in a run.
-/

namespace Liveness.Text
set_option autoImplicit false

/-- The code points `first`, `first + step`, … up to `last`; the other case of each lies `offset`
further on. -/
structure Span where
  first : Nat
  last : Nat
  step : Nat
  offset : Int
  deriving Repr

/-- Whether the run holds the code point. -/
def Span.contains (s : Span) (n : Nat) : Bool :=
  s.first ≤ n && n ≤ s.last && (n - s.first) % s.step == 0

end Liveness.Text
