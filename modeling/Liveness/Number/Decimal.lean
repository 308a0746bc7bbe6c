/-! # Integers in decimal

* `Decimal.ofNat`, `Decimal.ofInt`: the digits of a number, without leading zeros.
* `Decimal.read?`: a non-empty run of digits read as a number.
* `Decimal.unsignedLimit`, `Decimal.signedLimit`: what a word of 64 bits holds.
* `Decimal.readUnsigned?`, `Decimal.readSigned?`: digits with an optional sign, if a word holds
  them.
-/

namespace Liveness.Decimal
set_option autoImplicit false

/-- The decimal digits of a natural number. -/
def ofNat (n : Nat) : List Char := Nat.toDigits 10 n

/-- The decimal text of an integer. -/
def ofInt : Int → List Char
  | .ofNat n => ofNat n
  | .negSucc n => '-' :: ofNat (n + 1)

/-- A non-empty run of decimal digits. -/
def read? (text : List Char) : Option Nat :=
  if text ≠ [] ∧ text.all Char.isDigit then some (Nat.ofDigitChars 10 text 0) else none

/-- The number of words of 64 bits. -/
def unsignedLimit : Nat := 0x10000000000000000

/-- Half the number of words: a word with a sign is below it. -/
def signedLimit : Nat := 0x8000000000000000

/-- Whether a word with a sign holds an integer. -/
def isSigned (n : Int) : Bool := -signedLimit ≤ n && n < signedLimit

/-- Digits after an optional plus sign, below 2^64. -/
def readUnsigned? (text : List Char) : Option Nat :=
  let digits := match text with
    | '+' :: rest => rest
    | _ => text
  (read? digits).filter (· < unsignedLimit)

/-- Digits after an optional minus sign, from -2^63 to 2^63 - 1. -/
def readSigned? : List Char → Option Int
  | '-' :: rest => ((read? rest).filter (· ≤ signedLimit)).map (fun n => -(n : Int))
  | text => ((read? text).filter (· < signedLimit)).map (fun n => (n : Int))

theorem ofNat_ne_nil (n : Nat) : ofNat n ≠ [] := Nat.toDigits_ne_nil

theorem isDigit_of_mem_ofNat {n : Nat} {c : Char} (h : c ∈ ofNat n) : c.isDigit = true :=
  Nat.isDigit_of_mem_toDigits (by decide) (by decide) h

/-- Reading gives back the number that was written. -/
theorem read?_ofNat (n : Nat) : read? (ofNat n) = some n := by
  have h : (ofNat n).all Char.isDigit = true :=
    List.all_eq_true.2 fun _ hc => isDigit_of_mem_ofNat hc
  rw [read?, if_pos ⟨ofNat_ne_nil n, h⟩, ofNat, Nat.ofDigitChars_ten_toDigits]

/-- So does reading with an optional sign, as digits begin with none. -/
theorem readUnsigned?_ofNat {n : Nat} (h : n < unsignedLimit) :
    readUnsigned? (ofNat n) = some n := by
  unfold readUnsigned?
  dsimp only
  split
  · next rest signed =>
    cases isDigit_of_mem_ofNat (signed ▸ List.mem_cons_self : '+' ∈ ofNat n)
  · rw [read?_ofNat, Option.filter_some, if_pos (decide_eq_true h)]

end Liveness.Decimal
