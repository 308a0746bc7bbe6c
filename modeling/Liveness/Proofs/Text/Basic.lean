import Liveness.Text.Blank

/-! # Texts and their parts

* `takeWhile_append_stop`: where a run of characters ends.
* `dropWhile_eq_self`, `trim_eq_self`: a text without the characters to be dropped stays whole.
* `ne_of_not_mem`: two texts are told apart by a character that one of them lacks.
* `fromUTF8?_toUTF8`: a text is read back from its bytes.
-/

namespace Liveness.Text
set_option autoImplicit false

/-- A run of characters ends where another one stands. -/
theorem takeWhile_append_stop {p : Char → Bool} {run rest : List Char}
    (h : ∀ c ∈ run, p c = true) (stop : rest.head?.all (!p ·) = true) :
    (run ++ rest).takeWhile p = run ∧ (run ++ rest).dropWhile p = rest := by
  rw [List.takeWhile_append_of_pos h, List.dropWhile_append_of_pos h]
  cases rest with
  | nil => exact ⟨List.append_nil run, rfl⟩
  | cons c rest =>
    have hc : ¬p c = true := by simpa using stop
    rw [List.takeWhile_cons_of_neg hc, List.dropWhile_cons_of_neg hc, List.append_nil]
    exact ⟨rfl, rfl⟩

theorem dropWhile_eq_self {p : Char → Bool} {text : List Char} (h : ∀ c ∈ text, p c = false) :
    text.dropWhile p = text := by
  cases text with
  | nil => rfl
  | cons c text => exact List.dropWhile_cons_of_neg (by rw [h c List.mem_cons_self]; decide)

theorem trim_eq_self {text : List Char} (h : ∀ c ∈ text, isBlank c = false) : trim text = text := by
  rw [trim, dropWhile_eq_self h, dropWhile_eq_self fun c hc => h c (List.mem_reverse.1 hc),
    List.reverse_reverse]

theorem ne_of_not_mem {text word : List Char} {c : Char} (h : c ∉ text) (mem : c ∈ word) :
    text ≠ word := by
  rintro rfl
  exact h mem

theorem fromUTF8?_toUTF8 (s : String) : String.fromUTF8? s.toUTF8 = some s := dif_pos s.isValidUTF8

end Liveness.Text
