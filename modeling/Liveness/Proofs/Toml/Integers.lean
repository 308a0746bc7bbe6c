import Liveness.Proofs.Number.Numerals
import Liveness.Proofs.Text.Basic
import Liveness.Toml.Scalar

/-! # Integers that are written

* `Scalar.decimal?_ofInt`: the decimal text of an integer is read back, if a word of 64 bits holds
  it.
* `Scalar.ofWord?_ofInt`: this text as a value of a document.
-/

namespace Liveness.Toml.Scalar
set_option autoImplicit false

/-! ## Digits -/

/-- The number that a decimal digit stands for. -/
def digitValue (c : Char) : Nat := c.toNat - '0'.toNat

theorem digit?_of_isDigit {c : Char} (h : c.isDigit = true) : digit? 10 c = some (digitValue c) := by
  have small : digitValue c < 10 := Decimal.digit_lt_ten h
  rw [digit?, Text.hexDigit?, if_pos (by exact Decimal.code_of_isDigit h)]
  show (some (digitValue c)).filter _ = _
  rw [Option.filter_some, decide_eq_true small]
  rfl

theorem moreDigits?_of_isDigit {text : List Char} (h : ∀ c ∈ text, c.isDigit = true) :
    moreDigits? 10 false false text = some (text.map digitValue, []) := by
  induction text with
  | nil => rfl
  | cons c text ih =>
    rw [moreDigits?, digit?_of_isDigit (h c List.mem_cons_self)]
    dsimp only
    rw [ih fun d hd => h d (List.mem_cons_of_mem _ hd)]
    rfl

theorem digits?_ofNat (n : Nat) :
    digits? 10 false (Decimal.ofNat n) = some ((Decimal.ofNat n).map digitValue, []) := by
  have digits : ∀ c ∈ Decimal.ofNat n, c.isDigit = true := fun _ => Decimal.isDigit_of_mem_ofNat
  cases text : Decimal.ofNat n with
  | nil => exact absurd text (Decimal.ofNat_ne_nil n)
  | cons c rest =>
    rw [text] at digits
    have first := digits c List.mem_cons_self
    rw [digits?, digit?_of_isDigit first]
    dsimp only
    by_cases zero : digitValue c = 0
    · obtain rfl := Decimal.eq_zero_of_digit first zero
      obtain rfl := Decimal.eq_nil_of_ofNat text
      rfl
    · have apart : (decide (digitValue c = 0) && !false) = false := by simp [zero]
      rw [apart, moreDigits?_of_isDigit fun d hd => digits d (List.mem_cons_of_mem _ hd)]
      rfl

theorem value_ofNat (n : Nat) : value 10 ((Decimal.ofNat n).map digitValue) = n := by
  rw [value, List.foldl_map]
  exact Nat.ofDigitChars_ten_toDigits

/-! ## Integers -/

/-- The characters of a decimal text. -/
theorem isDigit_of_mem_ofInt {n : Int} {c : Char} (h : c ∈ Decimal.ofInt n) :
    c = '-' ∨ c.isDigit = true := by
  cases n with
  | ofNat n => exact .inr (Decimal.isDigit_of_mem_ofNat h)
  | negSucc n =>
    obtain rfl | h := List.mem_cons.1 h
    · exact .inl rfl
    · exact .inr (Decimal.isDigit_of_mem_ofNat h)

theorem not_mem_ofInt {n : Int} {c : Char} (sign : c ≠ '-') (digit : c.isDigit = false) :
    c ∉ Decimal.ofInt n := by
  intro h
  obtain rfl | h := isDigit_of_mem_ofInt h
  · exact sign rfl
  · rw [digit] at h
    cases h

/-- The decimal text of an integer is read back if a word of 64 bits holds it, and is refused
otherwise. -/
theorem decimal?_ofInt (n : Int) : decimal? (Decimal.ofInt n) = bounded? n := by
  cases n with
  | ofNat n =>
    have unsigned : signed? false (Decimal.ofNat n) =
        some (false, (Decimal.ofNat n).map digitValue, []) := by
      unfold signed?
      split
      · next rest eq =>
        have : '-' ∈ Decimal.ofNat n := eq ▸ List.mem_cons_self
        cases Decimal.isDigit_of_mem_ofNat this
      · rw [digits?_ofNat]
        rfl
    rw [Decimal.ofInt, decimal?, unsigned]
    dsimp only
    rw [value_ofNat]
    rfl
  | negSucc n =>
    have signed : signed? false ('-' :: Decimal.ofNat (n + 1)) =
        some (true, (Decimal.ofNat (n + 1)).map digitValue, []) := by
      rw [signed?, digits?_ofNat]
      rfl
    rw [Decimal.ofInt, decimal?, signed]
    dsimp only
    rw [value_ofNat]
    rfl

/-! ## As the value of a word -/

/-- A token that may stand behind an integer: one that would make it a number with a point or a time
does not. -/
def endsInteger : List Token → Bool
  | .period :: _ | .colon :: _ => false
  | _ => true

theorem plain?_ofInt (n : Int) : plain? (Decimal.ofInt n) = bounded? n := by
  have letter : 'n' ∉ Decimal.ofInt n := not_mem_ofInt (by decide) (by decide)
  have apart {word : List Char} (mem : 'n' ∈ word) : Decimal.ofInt n ≠ word :=
    Text.ne_of_not_mem letter mem
  rw [plain?, if_neg (apart (by decide)), if_neg (apart (by decide)), if_neg, decimal?_ofInt]
  rintro (same | same)
  · exact apart (by decide) same
  · exact apart (by decide) same

theorem number?_ofInt (n : Int) {rest : List Token} (h : endsInteger rest = true) :
    number? (Decimal.ofInt n) rest = (bounded? n).map (·, rest) := by
  have no {c : Char} (sign : c ≠ '-') (digit : c.isDigit = false) : c ∉ Decimal.ofInt n :=
    not_mem_ofInt sign digit
  unfold number?
  -- What is written in another base or with an exponent has a letter in it.
  split
  · next eq => exact absurd (eq ▸ by simp) (no (c := 'x') (by decide) (by decide))
  · next eq => exact absurd (eq ▸ by simp) (no (c := 'o') (by decide) (by decide))
  · next eq => exact absurd (eq ▸ by simp) (no (c := 'b') (by decide) (by decide))
  · have exponent : ((Decimal.ofInt n).contains 'e' || (Decimal.ofInt n).contains 'E') = false := by
      simp [no (c := 'e') (by decide) (by decide), no (c := 'E') (by decide) (by decide)]
    rw [exponent, if_neg Bool.false_ne_true]
    split
    · cases h
    · cases h
    · rw [plain?_ofInt]

theorem isNumeric_ofInt (n : Int) : isNumeric (Decimal.ofInt n) = true := by
  cases text : Decimal.ofInt n with
  | nil =>
    cases n with
    | ofNat n => exact absurd text (Decimal.ofNat_ne_nil n)
    | negSucc n => cases text
  | cons c rest =>
    have first : c = '-' ∨ c.isDigit = true :=
      isDigit_of_mem_ofInt (text ▸ List.mem_cons_self)
    simp only [isNumeric, Bool.or_eq_true, decide_eq_true_eq]
    exact .inr first

theorem beginsMoment_ofInt (n : Int) : beginsMoment (Decimal.ofInt n) = false := by
  have inside : '-' ∉ (Decimal.ofInt n).tail := by
    have digits {m : Nat} {text : List Char} (sub : ∀ c ∈ text, c ∈ Decimal.ofNat m) :
        '-' ∉ text := fun h => nomatch Decimal.isDigit_of_mem_ofNat (sub _ h)
    cases n with
    | ofNat n => exact digits (m := n) fun _ => List.mem_of_mem_tail
    | negSucc n => exact digits (m := n + 1) fun _ => id
  have upper : 'T' ∉ Decimal.ofInt n := not_mem_ofInt (by decide) (by decide)
  have lower : 't' ∉ Decimal.ofInt n := not_mem_ofInt (by decide) (by decide)
  simp [beginsMoment, inside, upper, lower]

/-- An integer of 64 bits is the value of its decimal text, and any other text of this form is
refused. -/
theorem ofWord?_ofInt (n : Int) {rest : List Token} (h : endsInteger rest = true) :
    ofWord? (Decimal.ofInt n) rest = (bounded? n).map (.value ·, rest) := by
  have letter : 'e' ∉ Decimal.ofInt n := not_mem_ofInt (by decide) (by decide)
  have apart {word : List Char} (mem : 'e' ∈ word) : Decimal.ofInt n ≠ word :=
    Text.ne_of_not_mem letter mem
  unfold ofWord?
  rw [if_neg (apart (by decide)), if_neg (apart (by decide)), isNumeric_ofInt,
    Bool.not_true, if_neg Bool.false_ne_true, beginsMoment_ofInt, if_neg Bool.false_ne_true]
  split
  · cases h
  · rw [numeral?, number?_ofInt n h]
    cases bounded? n <;> rfl

end Liveness.Toml.Scalar
