import Mathlib
import Liveness.Toml.Token

/-! # Strings that are written

A text can be written between double quotes in many ways: a character stands for itself, behind a
backslash, or as its code point in four or eight digits of either case.

* `Quotation.SpellsChar`, `Quotation.Spells`: the ways to write a character and a text.
* `Quotation.read_of_spells`: each of them is read as the text.
* `Quotation.spells_write`: the writer chooses one of them.
-/

namespace Liveness.Text
set_option autoImplicit false

theorem hexDigit?_digitChar {d : Nat} (h : d < 16) : hexDigit? (Nat.digitChar d) = some d := by
  have all : ∀ d < 16, hexDigit? (Nat.digitChar d) = some d := by decide
  exact all d h

theorem character?_toNat (c : Char) : character? c.toNat = some c := by
  have valid : c.toNat < 0xD800 ∨ 0xDFFF < c.toNat ∧ c.toNat < 0x110000 := c.valid
  rw [character?, if_pos valid, Char.ofNat_toNat]

end Liveness.Text

namespace Liveness.Toml.Quotation
set_option autoImplicit false

/-! ## Spellings -/

/-- The number that hexadecimal digits add to one in front of them. -/
def codePoint? (value : Nat) (digits : List Char) : Option Nat :=
  digits.foldlM (fun n d => (Text.hexDigit? d).map (16 * n + ·)) value

/-- The ways to write a character between double quotes on one line. -/
inductive SpellsChar (c : Char) : List Char → Prop
  | plain (plain : isPlain c = true) (mark : c ≠ '\x22') (slash : c ≠ '\x5c') : SpellsChar c [c]
  | letter {letter : Char} (stands : escaped? letter = some c) : SpellsChar c ['\x5c', letter]
  | short {digits : List Char} (length : digits.length = 4)
    (code : codePoint? 0 digits = some c.toNat) : SpellsChar c ('\x5c' :: 'u' :: digits)
  | long {digits : List Char} (length : digits.length = 8)
    (code : codePoint? 0 digits = some c.toNat) : SpellsChar c ('\x5c' :: 'U' :: digits)

/-- The ways to write a text between double quotes on one line. -/
inductive Spells : List Char → List Char → Prop
  | nil : Spells [] []
  | cons {c : Char} {content part spelled : List Char} (first : SpellsChar c part)
    (more : Spells content spelled) : Spells (c :: content) (part ++ spelled)

/-! ## Reading -/

/-- Content that is read in front of the rest. -/
def withContent (content : List Char) (r : Option (List Char × List Char)) :
    Option (List Char × List Char) := r.map fun (t, rest) => (content ++ t, rest)

theorem withContent_nil (r : Option (List Char × List Char)) : withContent [] r = r := by
  cases r <;> rfl

section
variable {place next : Place} {c : Char} {content : List Char} (rest : List Char)

theorem readFrom_go (h : step (.basic false) place c = .go content next) :
    readFrom (.basic false) place (c :: rest) =
      withContent content (readFrom (.basic false) next rest) := by
  rw [readFrom, h]
  rfl

end

/-- Digits give the character whose code point they add up to. -/
theorem readFrom_digits {more value : Nat} {digits : List Char} {c : Char}
    (length : digits.length = more + 1) (code : codePoint? value digits = some c.toNat)
    (rest : List Char) :
    readFrom (.basic false) (.digits more value) (digits ++ rest) =
      withContent [c] (readFrom (.basic false) .inside rest) := by
  induction digits generalizing more value with
  | nil => cases length
  | cons d digits ih =>
    rw [codePoint?, List.foldlM_cons] at code
    obtain ⟨n, hn, code⟩ := Option.bind_eq_some_iff.1 code
    obtain ⟨v, hv, rfl⟩ := Option.map_eq_some_iff.1 hn
    rw [List.cons_append]
    cases more with
    | zero =>
      obtain rfl : digits = [] := List.length_eq_zero_iff.1 (Nat.succ.inj length)
      have full : 16 * value + v = c.toNat := Option.some.inj code
      have last : step (.basic false) (.digits 0 value) d = .go [c] .inside := by
        rw [step, digitStep, hv]
        dsimp only
        rw [full, Text.character?_toNat]
      rw [readFrom_go _ last]
      rfl
    | succ more =>
      have go : step (.basic false) (.digits (more + 1) value) d =
          .go [] (.digits more (16 * value + v)) := by
        rw [step, digitStep, hv]
      rw [readFrom_go _ go, withContent_nil, ih (Nat.succ.inj length) code]

theorem ne_of_escaped? {letter c : Char} (h : escaped? letter = some c) :
    letter ≠ 'u' ∧ letter ≠ 'U' := by
  constructor
  · rintro rfl
    cases h
  · rintro rfl
    cases h

theorem readFrom_spellsChar {c : Char} {part : List Char} (h : SpellsChar c part)
    (rest : List Char) :
    readFrom (.basic false) .inside (part ++ rest) =
      withContent [c] (readFrom (.basic false) .inside rest) := by
  have slash : step (.basic false) .inside '\x5c' = .go [] .escape := rfl
  cases h with
  | plain plain mark slash =>
    have line : c ≠ '\n' := by
      rintro rfl
      cases plain
    have go : step (.basic false) .inside c = .go [c] .inside := by
      rw [step, insideStep, if_neg (by exact mark), if_neg fun h => slash h.1, if_neg line,
        if_pos plain]
    exact readFrom_go rest go
  | @letter letter stands =>
    have go : step (.basic false) .escape letter = .go [c] .inside := by
      obtain ⟨u, U⟩ := ne_of_escaped? stands
      rw [step, escapeStep, if_neg u, if_neg U, if_neg fun h => Bool.false_ne_true h.1,
        if_neg fun h => Bool.false_ne_true h.1, stands]
    rw [List.cons_append, readFrom_go _ slash, withContent_nil]
    exact readFrom_go rest go
  | @short digits length code =>
    have go : step (.basic false) .escape 'u' = .go [] (.digits 3 0) := rfl
    rw [List.cons_append, readFrom_go _ slash, withContent_nil, List.cons_append, readFrom_go _ go,
      withContent_nil, readFrom_digits length code]
  | @long digits length code =>
    have go : step (.basic false) .escape 'U' = .go [] (.digits 7 0) := rfl
    rw [List.cons_append, readFrom_go _ slash, withContent_nil, List.cons_append, readFrom_go _ go,
      withContent_nil, readFrom_digits length code]

/-- A text is read back from each of its spellings, up to the closing mark. -/
theorem read_of_spells {content spelled : List Char} (h : Spells content spelled)
    (rest : List Char) :
    read (.basic false) (spelled ++ '\x22' :: rest) = some (content, rest) := by
  show readFrom (.basic false) .inside _ = _
  induction h with
  | nil =>
    rw [List.nil_append, readFrom]
    rfl
  | cons first more ih =>
    rw [List.append_assoc, readFrom_spellsChar first, ih]
    rfl

/-! ## Writing -/

theorem codePoint?_append (value : Nat) (a b : List Char) :
    codePoint? value (a ++ b) = (codePoint? value a).bind fun n => codePoint? n b :=
  List.foldlM_append

theorem codePoint?_hexadecimal {width n : Nat} (h : n < 16 ^ width) :
    codePoint? 0 (Text.hexadecimal width n) = some n := by
  induction width generalizing n with
  | zero =>
    obtain rfl : n = 0 := by simpa using h
    rfl
  | succ width ih =>
    have upper : n / 16 < 16 ^ width := by
      rw [Nat.pow_succ, Nat.mul_comm] at h
      exact Nat.div_lt_of_lt_mul h
    have digit := Text.hexDigit?_digitChar (Nat.mod_lt n (by decide))
    rw [Text.hexadecimal, codePoint?_append, ih upper, Option.bind_some, codePoint?,
      List.foldlM_cons, digit, Option.map_some]
    show some (16 * (n / 16) + n % 16) = some n
    rw [Nat.div_add_mod]

theorem spellsChar_writeChar (c : Char) : SpellsChar c (writeChar c) := by
  unfold writeChar
  split
  · next special =>
    refine .letter ?_
    obtain rfl | rfl := special <;> rfl
  · next ordinary =>
    rw [not_or] at ordinary
    split
    · next plain => exact .plain plain ordinary.1 ordinary.2
    · next hidden =>
      have small : c.toNat < 16 ^ 4 := by
        refine Nat.lt_of_not_le fun large => hidden ?_
        simp only [isPlain, Bool.or_eq_true, Bool.and_eq_true, decide_eq_true_eq]
        exact .inr ⟨by omega, by omega⟩
      exact .short (Text.length_hexadecimal 4 _) (codePoint?_hexadecimal small)

/-- What is written between the marks is a spelling of the text. -/
theorem spells_write (content : List Char) : Spells content (content.flatMap writeChar) := by
  induction content with
  | nil => exact .nil
  | cons c content ih => exact .cons (spellsChar_writeChar c) ih

/-! ## As a token -/

theorem SpellsChar.head_ne {c a : Char} {part : List Char} (h : SpellsChar c (a :: part)) :
    a ≠ '\x22' := by
  cases h with
  | plain _ mark _ => exact mark
  | letter | short | long => decide

theorem Spells.content_eq_nil {content : List Char} (h : Spells content []) : content = [] := by
  generalize eq : ([] : List Char) = text at h
  cases h with
  | nil => rfl
  | cons first _ =>
    rw [(List.append_eq_nil_iff.1 eq.symm).1] at first
    cases first

theorem Spells.head_ne {content spelled : List Char} {a : Char}
    (h : Spells content (a :: spelled)) : a ≠ '\x22' := by
  generalize eq : a :: spelled = text at h
  cases h with
  | nil => cases eq
  | @cons c _ part rest first _ =>
    cases part with
    | nil => cases first
    | cons b part =>
      obtain rfl := (List.cons.inj eq).1
      exact first.head_ne

/-- A text in quotes is a token, unless a third mark stands behind two. -/
theorem quotation_of_spells {content spelled rest : List Char} (h : Spells content spelled)
    (stop : rest.head? ≠ some '\x22') :
    Token.quotation '\x22' (spelled ++ '\x22' :: rest) = some (.quoted content false, rest) := by
  have whole := read_of_spells h rest
  unfold Token.quotation
  -- Two marks at once are the empty text, and three would begin a text of many lines.
  split
  · next a b r eq =>
    cases spelled with
    | nil =>
      obtain ⟨rfl, rfl⟩ := List.cons.inj eq
      obtain rfl := h.content_eq_nil
      have apart : b ≠ '\x22' := fun same => stop (by rw [same]; rfl)
      rw [if_neg fun both => apart both.2, if_pos rfl]
    | cons c spelled =>
      obtain rfl := (List.cons.inj eq).1
      have apart := h.head_ne
      rw [if_neg fun both => apart both.1, if_neg apart]
      exact congrArg (Option.map _) whole
  · exact congrArg (Option.map _) whole

theorem return_not_mem_of_codePoint? {value n : Nat} {digits : List Char}
    (h : codePoint? value digits = some n) : '\r' ∉ digits := by
  induction digits generalizing value with
  | nil => exact List.not_mem_nil
  | cons d digits ih =>
    rw [codePoint?, List.foldlM_cons] at h
    obtain ⟨m, hm, h⟩ := Option.bind_eq_some_iff.1 h
    rw [List.mem_cons, not_or]
    refine ⟨?_, ih h⟩
    rintro rfl
    cases hm

theorem SpellsChar.return_not_mem {c : Char} {part : List Char} (h : SpellsChar c part) :
    '\r' ∉ part := by
  cases h with
  | plain plain _ _ =>
    rw [List.mem_singleton]
    rintro rfl
    cases plain
  | letter stands =>
    simp only [List.mem_cons, List.not_mem_nil, or_false, not_or]
    refine ⟨by decide, ?_⟩
    rintro rfl
    cases stands
  | short _ code | long _ code =>
    simp only [List.mem_cons, not_or]
    exact ⟨by decide, by decide, return_not_mem_of_codePoint? code⟩

theorem Spells.return_not_mem {content spelled : List Char} (h : Spells content spelled) :
    '\r' ∉ spelled := by
  induction h with
  | nil => exact List.not_mem_nil
  | cons first _ ih =>
    rw [List.mem_append, not_or]
    exact ⟨first.return_not_mem, ih⟩

end Liveness.Toml.Quotation
