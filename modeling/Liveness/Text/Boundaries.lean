/-! # Character classes as boundaries

A class of characters is kept as the increasing list of code points at which membership changes.

* `within bs n`: whether the code point `n` lies inside the class with the boundaries `bs`.
-/

namespace Liveness.Text
set_option autoImplicit false

/-- Membership changes at each boundary that `n` has reached. -/
def within : List Nat → Nat → Bool
  | [], _ => false
  | b :: bs, n => if n < b then false else !within bs n

end Liveness.Text
