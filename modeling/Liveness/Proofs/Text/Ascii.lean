import Liveness.Text.Lowercase

/-! # Lower case of ASCII text

* `of_all_ascii`: what holds of the 128 characters of ASCII, one by one.
* `Lowercase.ofChar_of_ascii`: the lower case of an ASCII character is that of the library.
* `lowercase_of_ascii`: the same for a text of such characters.
* `isAscii_of_isAlphanum`: the letters and digits of the library are in ASCII.
-/

namespace Liveness.Text
set_option autoImplicit false

/-- The characters of ASCII. -/
def isAscii (c : Char) : Bool := c.toNat < 128

theorem of_all_ascii {p : Char → Prop} (all : ∀ n < 128, p (Char.ofNat n)) {c : Char}
    (h : isAscii c = true) : p c := by
  have known := all c.toNat (of_decide_eq_true h)
  rwa [Char.ofNat_toNat] at known

theorem isAscii_of_isAlphanum {c : Char} (h : c.isAlphanum = true) : isAscii c = true := by
  have range : ((decide (c.val ≥ 'A'.val ∧ c.val ≤ 'Z'.val) ||
      (decide (c.val ≥ 'a'.val) && decide (c.val ≤ 'z'.val))) ||
      (decide (c.val ≥ '0'.val) && decide (c.val ≤ '9'.val))) = true := h
  simp only [Bool.or_eq_true, Bool.and_eq_true, decide_eq_true_eq] at range
  refine decide_eq_true ?_
  obtain (⟨-, h⟩ | ⟨-, h⟩) | ⟨-, h⟩ := range
  all_goals exact Nat.lt_of_le_of_lt h (by decide)

theorem Lowercase.ofChar_of_ascii {c : Char} (h : isAscii c = true) :
    Lowercase.ofChar c = [c.toLower] :=
  of_all_ascii (p := fun c => Lowercase.ofChar c = [c.toLower]) (by decide +kernel) h

theorem Lowercase.ofText_of_ascii {text : List Char} (h : ∀ c ∈ text, isAscii c = true)
    (word : Bool) : Lowercase.ofText word text = text.map Char.toLower := by
  induction text generalizing word with
  | nil => rfl
  | cons c text ih =>
    have hc := h c List.mem_cons_self
    have sigma : c ≠ Lowercase.capitalSigma := by
      rintro rfl
      exact absurd hc (by decide)
    rw [Lowercase.ofText, if_neg sigma, Lowercase.ofChar_of_ascii hc, List.map_cons,
      ih fun c' hc' => h c' (List.mem_cons_of_mem _ hc')]
    rfl

/-- The lower case of an ASCII text is character by character. -/
theorem lowercase_of_ascii {text : List Char} (h : ∀ c ∈ text, isAscii c = true) :
    lowercase text = text.map Char.toLower := Lowercase.ofText_of_ascii h false

/-- A character whose lower case is in ASCII is in ASCII itself, as only letters of ASCII change. -/
theorem isAscii_of_toLower {c : Char} (h : isAscii c.toLower = true) : isAscii c = true := by
  unfold Char.toLower at h
  split at h
  · next upper =>
    have : c.toNat ≤ 'Z'.toNat := upper.2
    have z : 'Z'.toNat = 90 := rfl
    exact decide_eq_true (by omega)
  · exact h

theorem ascii_of_map_toLower {text lower : List Char} (h : text.map Char.toLower = lower)
    (hl : ∀ c ∈ lower, isAscii c = true) : ∀ c ∈ text, isAscii c = true := by
  intro c hc
  exact isAscii_of_toLower (hl _ (h ▸ List.mem_map_of_mem hc))

end Liveness.Text
