import Liveness.Text.Boundaries
import Liveness.Text.Alphanumeric.Alphabetic
import Liveness.Text.Alphanumeric.Numeral

/-! # Letters and numerals

* `isAlphabetic`: whether a character is a letter of any script.
* `isAlphanumeric`: whether a character is a letter or a numeral of any script.
-/

namespace Liveness.Text
set_option autoImplicit false

/-- Letters of every script. -/
def isAlphabetic (c : Char) : Bool := within Alphanumeric.alphabetic c.toNat

/-- Letters and numerals of every script. -/
def isAlphanumeric (c : Char) : Bool := isAlphabetic c || within Alphanumeric.numeral c.toNat

example : isAlphabetic 'a' = true ∧ isAlphabetic 'é' = true ∧ isAlphabetic '7' = false := by
  decide +kernel

example : isAlphanumeric 'a' = true ∧ isAlphanumeric '7' = true ∧ isAlphanumeric 'é' = true := by
  decide +kernel

example : isAlphanumeric '_' = false ∧ isAlphanumeric ' ' = false ∧ isAlphanumeric '[' = false := by
  decide +kernel

end Liveness.Text
