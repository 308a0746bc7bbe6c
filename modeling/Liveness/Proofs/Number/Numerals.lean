import Liveness.Number.Decimal

/-! # Decimal numerals

* `code_of_isDigit`: the codes of the digits.
* `read?_eq_some_iff`: which texts are read as a number.
* `eq_nil_of_ofNat`: a decimal text has no leading zeros.
* `IsNumeral`: digits that are read as a number and have no leading zero. `isNumeral_iff` says that
  the decimal text of a number is its only numeral.
-/

namespace Liveness.Decimal
set_option autoImplicit false

/-! ## Digits -/

theorem code_of_isDigit {c : Char} (h : c.isDigit = true) : 48 ≤ c.toNat ∧ c.toNat ≤ 57 := by
  simp only [Char.isDigit, Bool.and_eq_true, decide_eq_true_eq] at h
  exact h

theorem digit_lt_ten {c : Char} (h : c.isDigit = true) : c.toNat - '0'.toNat < 10 := by
  have bounds := code_of_isDigit h
  show c.toNat - 48 < 10
  omega

theorem eq_zero_of_digit {c : Char} (h : c.isDigit = true) (zero : c.toNat - '0'.toNat = 0) :
    c = '0' := by
  have bounds := code_of_isDigit h
  change c.toNat - 48 = 0 at zero
  apply Char.toNat_inj.1
  show c.toNat = 48
  omega

theorem ofNat_of_isDigit {c : Char} (h : c.isDigit = true) : ofNat (c.toNat - '0'.toNat) = [c] := by
  have bounds := code_of_isDigit h
  have small := digit_lt_ten h
  rw [ofNat, Nat.toDigits_of_lt_base small]
  congr 1
  apply Char.toNat_inj.1
  rw [Nat.toNat_digitChar_of_lt_ten small]
  have zero : '0'.toNat = 48 := rfl
  omega

theorem read?_eq_some_iff {text : List Char} {n : Nat} :
    read? text = some n ↔
      text ≠ [] ∧ (∀ c ∈ text, c.isDigit = true) ∧ Nat.ofDigitChars 10 text 0 = n := by
  rw [read?, ← List.all_eq_true, ← and_assoc]
  split
  · next h => rw [and_iff_right h, Option.some.injEq]
  · next h => exact iff_of_false (Option.some_ne_none n).symm fun both => h both.1

/-! ## Leading zeros -/

/-- Digits behind a number other than zero make the number that is read from both. -/
theorem ofNat_append {n : Nat} (pos : 0 < n) {text : List Char}
    (digit : ∀ c ∈ text, c.isDigit = true) :
    ofNat n ++ text = ofNat (Nat.ofDigitChars 10 text n) := by
  induction text generalizing n with
  | nil => rw [List.append_nil, Nat.ofDigitChars_nil]
  | cons c text ih =>
    have first := digit c List.mem_cons_self
    have longer : ofNat n ++ ofNat (c.toNat - '0'.toNat) = ofNat (10 * n + (c.toNat - '0'.toNat)) :=
      Nat.toDigits_append_toDigits (by decide) pos (digit_lt_ten first)
    rw [ofNat_of_isDigit first] at longer
    calc ofNat n ++ c :: text
        = (ofNat n ++ [c]) ++ text := by simp
      _ = ofNat (10 * n + (c.toNat - '0'.toNat)) ++ text := by rw [longer]
      _ = ofNat (Nat.ofDigitChars 10 text (10 * n + (c.toNat - '0'.toNat))) :=
          ih (by omega) fun d hd => digit d (List.mem_cons_of_mem _ hd)
      _ = ofNat (Nat.ofDigitChars 10 (c :: text) n) := by rw [Nat.ofDigitChars_cons]

/-- No other number begins with a zero. -/
theorem eq_nil_of_ofNat {n : Nat} {rest : List Char} (h : ofNat n = '0' :: rest) : rest = [] := by
  induction n using Nat.strongRecOn generalizing rest with
  | ind n ih =>
    rw [ofNat, Nat.toDigits_eq_if (by decide)] at h
    split at h
    · exact (List.cons.inj h).2.symm
    · next large =>
      have smaller : n / 10 < n := Nat.div_lt_self (by omega) (by decide)
      cases upper : Nat.toDigits 10 (n / 10) with
      | nil => exact absurd upper Nat.toDigits_ne_nil
      | cons c digits =>
        rw [upper, List.cons_append] at h
        obtain ⟨rfl, -⟩ := List.cons.inj h
        obtain rfl := ih (n / 10) smaller upper
        -- A single zero in front would be the number zero, but ten goes into this one.
        have zero := Nat.ofDigitChars_ten_toDigits (n := n / 10)
        rw [upper] at zero
        have : n / 10 = 0 := zero.symm
        omega

/-- The digits of a number, without a zero in front of others. -/
structure IsNumeral (n : Nat) (text : List Char) : Prop where
  read : read? text = some n
  shortest : text.head? = some '0' → text = ['0']

theorem isNumeral_ofNat (n : Nat) : IsNumeral n (ofNat n) where
  read := read?_ofNat n
  shortest first := by
    obtain ⟨rest, text⟩ := List.head?_eq_some_iff.1 first
    rw [text, eq_nil_of_ofNat text]

theorem IsNumeral.eq_ofNat {n : Nat} {text : List Char} (h : IsNumeral n text) :
    text = ofNat n := by
  obtain ⟨ne, digit, rfl⟩ := read?_eq_some_iff.1 h.read
  cases text with
  | nil => exact absurd rfl ne
  | cons c rest =>
    by_cases leading : c = '0'
    · subst leading
      obtain rfl : rest = [] := (List.cons.inj (h.shortest rfl)).2
      rfl
    · have first := digit c List.mem_cons_self
      have pos : 0 < c.toNat - '0'.toNat :=
        Nat.pos_of_ne_zero fun zero => leading (eq_zero_of_digit first zero)
      calc c :: rest
          = ofNat (c.toNat - '0'.toNat) ++ rest := by rw [ofNat_of_isDigit first]; rfl
        _ = ofNat (Nat.ofDigitChars 10 rest (c.toNat - '0'.toNat)) :=
            ofNat_append pos fun d hd => digit d (List.mem_cons_of_mem _ hd)
        _ = ofNat (Nat.ofDigitChars 10 (c :: rest) 0) := by
            rw [Nat.ofDigitChars_cons, Nat.mul_zero, Nat.zero_add]

theorem isNumeral_iff {n : Nat} {text : List Char} : IsNumeral n text ↔ text = ofNat n := by
  constructor
  · exact IsNumeral.eq_ofNat
  · rintro rfl
    exact isNumeral_ofNat n

end Liveness.Decimal
