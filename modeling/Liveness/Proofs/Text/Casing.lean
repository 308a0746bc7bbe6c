import Mathlib
import Liveness.Proofs.Text.Ascii

/-! # Texts whose lower case is in ASCII

* `Lowercase.StaysOutside`: a run of letters whose lower case is not in ASCII.
* `Lowercase.exists_mem_ofChar`: the lower case of a character outside of ASCII is outside of it in
  part, or it is the k that the sign of the kelvin becomes.
* `lowercase_eq_iff`: a word of ASCII without a k is the lower case of ASCII texts alone.
-/

namespace Liveness.Text
set_option autoImplicit false

namespace Lowercase

/-! ## The table -/

/-- A run of letters whose lower case are characters outside of ASCII. -/
structure StaysOutside (s : Span) : Prop where
  first : 128 ≤ s.first + s.offset
  valid : s.last + s.offset < 0xD800 ∨ 0xDFFF < s.first + s.offset ∧ s.last + s.offset < 0x110000

instance (s : Span) : Decidable (StaysOutside s) :=
  decidable_of_iff
    (128 ≤ s.first + s.offset ∧
      (s.last + s.offset < 0xD800 ∨ 0xDFFF < s.first + s.offset ∧ s.last + s.offset < 0x110000))
    ⟨fun h => ⟨h.1, h.2⟩, fun h => ⟨h.first, h.valid⟩⟩

/-- Only the letters of ASCII and the sign of the kelvin have their lower case in ASCII. -/
theorem span_cases : ∀ s ∈ spans,
    s.last < 128 ∨ (s.first = 0x212A ∧ s.last = 0x212A ∧ s.offset = -8383) ∨ StaysOutside s := by
  decide +kernel

theorem isAscii_ofNat_of_staysOutside {s : Span} (hs : StaysOutside s) {n : Nat}
    (hn : s.contains n = true) : isAscii (Char.ofNat (n + s.offset).toNat) = false := by
  simp only [Span.contains, Bool.and_eq_true, decide_eq_true_eq] at hn
  have first := hs.first
  have valid : (n + s.offset).toNat.isValidChar := by
    obtain low | high := hs.valid
    · exact .inl (by omega)
    · exact .inr (by omega)
  rw [isAscii, Char.toNat_ofNat, if_pos valid]
  exact decide_eq_false (by omega)

theorem exists_mem_ofChar {c : Char} (h : isAscii c = false) :
    ∃ d ∈ ofChar c, isAscii d = false ∨ d = 'k' := by
  have outside : 128 ≤ c.toNat := Nat.not_lt.1 (of_decide_eq_false h)
  unfold ofChar
  split
  · exact ⟨Char.ofNat 0x307, by simp, .inl (by decide)⟩
  · cases found : spans.find? (·.contains c.toNat) with
    | none => exact ⟨c, List.mem_singleton_self c, .inl h⟩
    | some s =>
      refine ⟨_, List.mem_singleton_self _, ?_⟩
      have hc := List.find?_some found
      obtain ascii | ⟨first, last, offset⟩ | stays := span_cases s (List.mem_of_find?_eq_some found)
      · simp only [Span.contains, Bool.and_eq_true, decide_eq_true_eq] at hc
        omega
      · simp only [Span.contains, Bool.and_eq_true, decide_eq_true_eq] at hc
        have kelvin : c.toNat = 0x212A := by omega
        rw [kelvin, offset]
        exact .inr rfl
      · exact .inl (isAscii_ofNat_of_staysOutside stays hc)

/-! ## Texts -/

theorem exists_mem_ofText_cons {c : Char} (h : isAscii c = false) (word : Bool)
    (rest : List Char) : ∃ d ∈ ofText word (c :: rest), isAscii d = false ∨ d = 'k' := by
  rw [ofText]
  split
  · split
    · exact ⟨_, List.mem_cons_self, .inl (by decide)⟩
    · exact ⟨_, List.mem_cons_self, .inl (by decide)⟩
  · obtain ⟨d, hd, apart⟩ := exists_mem_ofChar h
    exact ⟨d, List.mem_append_left _ hd, apart⟩

/-- If the lower case of a text has only characters of ASCII, and no k, so has the text. -/
theorem ascii_of_ofText {text : List Char} {word : Bool}
    (h : ∀ d ∈ ofText word text, isAscii d = true ∧ d ≠ 'k') : ∀ c ∈ text, isAscii c = true := by
  induction text generalizing word with
  | nil => exact fun c hc => nomatch hc
  | cons c text ih =>
    refine List.forall_mem_cons.2 ⟨?_, ih fun d hd => h d (List.mem_append_right _ hd)⟩
    cases hc : isAscii c with
    | true => rfl
    | false =>
      obtain ⟨d, hd, apart⟩ := exists_mem_ofText_cons hc word text
      obtain ⟨ascii, other⟩ := h d hd
      obtain foreign | k := apart
      · rw [ascii] at foreign
        cases foreign
      · exact absurd k other

end Lowercase

theorem lowercase_eq_iff {text lower : List Char}
    (h : ∀ d ∈ lower, isAscii d = true ∧ d ≠ 'k') :
    lowercase text = lower ↔ text.map Char.toLower = lower := by
  constructor
  · intro same
    have outcome : ∀ d ∈ Lowercase.ofText false text, isAscii d = true ∧ d ≠ 'k' :=
      fun d hd => h d (same ▸ hd)
    have ascii := Lowercase.ascii_of_ofText outcome
    rw [← lowercase_of_ascii ascii, same]
  · intro same
    rw [lowercase_of_ascii (ascii_of_map_toLower same fun d hd => (h d hd).1), same]

end Liveness.Text
