import Liveness.Text.Uppercase.Table

/-! # Upper case

* `Uppercase.ofChar`: the upper case of one character, which may be up to three characters.
* `uppercase`: the upper case of a text, character by character.
-/

namespace Liveness.Text
set_option autoImplicit false

/-- The upper case of one character. -/
def Uppercase.ofChar (c : Char) : List Char :=
  match spans.find? (·.contains c.toNat) with
  | some s => [Char.ofNat (c.toNat + s.offset).toNat]
  | none =>
    match expansions.lookup c.toNat with
    | some codes => codes.map Char.ofNat
    | none => [c]

/-- The upper case of a text. -/
def uppercase (text : List Char) : List Char := text.flatMap Uppercase.ofChar

example : uppercase "request".toList = "REQUEST".toList := by decide +kernel
example : uppercase "straße".toList = "STRASSE".toList := by decide +kernel

end Liveness.Text
