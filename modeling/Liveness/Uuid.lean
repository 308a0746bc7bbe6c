import Liveness.Http.Header
import Liveness.Text.Hexadecimal

/-! # Random identifiers

* `Uuid`: an identifier of 128 bits, all but six of them random.
* `Uuid.ofBits`: the identifier that 122 random bits make.
* `Uuid.text`: its 32 digits in five groups.
* `Uuid.headerValue`: the same as the value of a header field.
-/

namespace Liveness
set_option autoImplicit false

/-- The free bits of a random identifier. -/
structure Uuid where
  high : BitVec 48
  middle : BitVec 12
  low : BitVec 62
  deriving DecidableEq, Repr

namespace Uuid

/-- The identifier that the last 122 bits of a number make. -/
def ofBits (n : Nat) : Uuid := ⟨.ofNat 48 (n >>> 74), .ofNat 12 (n >>> 62), .ofNat 62 n⟩

/-- The digit that tells a random identifier from other kinds. -/
def version : Char := '4'

/-- The two bits in front of the low ones. -/
def variant : Nat := 2

/-- The digits in groups of 8, 4, 4, 4 and 12. -/
def text (u : Uuid) : List Char :=
  Text.hexadecimal 8 (u.high.toNat >>> 16) ++ '-' :: Text.hexadecimal 4 u.high.toNat ++
    '-' :: version :: Text.hexadecimal 3 u.middle.toNat ++
    '-' :: Text.hexadecimal 4 (variant <<< 14 + u.low.toNat >>> 48) ++
    '-' :: Text.hexadecimal 12 u.low.toNat

theorem isVisible_of_mem_hexadecimal {width n : Nat} {c : Char} (h : c ∈ Text.hexadecimal width n) :
    Http.HeaderValue.isVisible c = true := by
  obtain ⟨d, hd, rfl⟩ := Text.exists_of_mem_hexadecimal h
  have all : ∀ d < 16, Http.HeaderValue.isVisible (Nat.digitChar d) = true := by decide
  exact all d hd

theorem all_isVisible_text (u : Uuid) : u.text.all Http.HeaderValue.isVisible = true := by
  have digits (width n : Nat) :
      (Text.hexadecimal width n).all Http.HeaderValue.isVisible = true :=
    List.all_eq_true.2 fun _ => isVisible_of_mem_hexadecimal
  have hyphen : Http.HeaderValue.isVisible '-' = true := by decide
  have four : Http.HeaderValue.isVisible version = true := by decide
  simp only [text, List.all_append, List.all_cons, digits, hyphen, four, Bool.and_true]

/-- The identifier as the value of a header field. -/
def headerValue (u : Uuid) : Http.HeaderValue := .ofVisible u.text u.all_isVisible_text

end Uuid
end Liveness
