import Mathlib.Data.List.Infix
import Liveness.Http.Header
import Liveness.Proofs.Http.Sent

/-! # Header fields as written in the log

* `Headers.fieldText_infix`: every field has an entry in the text.
* `Headers.exists_field_of_infix`: a word without the marks between the fields comes from one field.
* `HeaderValue.text_ofVisible`: how a value of visible characters is written.
* `occurrences`: how often a word stands in a text.
* `HeaderValue.occurrences_label`: a value cannot pass for the beginning of an entry, since its
  quotation marks are escaped.
-/

namespace Liveness.Http
set_option autoImplicit false

/-! ## Words in texts -/

theorem infix_or_infix_of_infix_append_cons {word a b : List Char} {c : Char} (hc : c ∉ word)
    (h : word <:+: a ++ c :: b) : word <:+: a ∨ word <:+: b := by
  -- A beginning of `c :: b` inside of the word can only be empty.
  have front {l : List Char} (hl : l <+: c :: b) (free : c ∉ l) : l = [] := by
    cases l with
    | nil => rfl
    | cons d l =>
      obtain ⟨rfl, -⟩ := List.cons_prefix_cons.1 hl
      exact absurd List.mem_cons_self free
  obtain left | right | ⟨l, l', rfl, hl, hl'⟩ := List.infix_append_iff.1 h
  · exact .inl left
  · obtain here | later := List.infix_cons_iff.1 right
    · exact .inl (front here hc ▸ List.nil_infix)
    · exact .inr later
  · have free : c ∉ l' := fun hm => hc (List.mem_append_right _ hm)
    rw [front hl' free, List.append_nil]
    exact .inl hl.isInfix

/-- The marks that stand between the names and values of fields. -/
def marks : List Char := ['\x7b', '\x7d', '\x22', ',', ' ', ':']

theorem infix_intercalate_of_mem (between : List Char) {part : List Char}
    {parts : List (List Char)} (h : part ∈ parts) : part <:+: between.intercalate parts := by
  induction parts with
  | nil => cases h
  | cons first parts ih =>
    cases parts with
    | nil =>
      obtain rfl := List.mem_singleton.1 h
      rw [List.intercalate_singleton]
    | cons second parts =>
      rw [List.intercalate_cons_cons, List.append_assoc]
      obtain rfl | later := List.mem_cons.1 h
      · exact (List.prefix_append part _).isInfix
      · exact (ih later).trans ⟨first ++ between, [], by simp⟩

theorem exists_mem_of_infix_intercalate {word : List Char} (ne : word ≠ [])
    (unmarked : ∀ c ∈ marks, c ∉ word) {parts : List (List Char)}
    (h : word <:+: [',', ' '].intercalate parts) : ∃ part ∈ parts, word <:+: part := by
  induction parts with
  | nil =>
    rw [List.intercalate_nil] at h
    exact absurd (List.infix_nil.1 h) ne
  | cons part parts ih =>
    cases parts with
    | nil =>
      rw [List.intercalate_singleton] at h
      exact ⟨part, List.mem_cons_self, h⟩
    | cons part' parts =>
      rw [List.intercalate_cons_cons, List.append_assoc] at h
      have comma : ',' ∉ word := unmarked ',' (by decide)
      have space : ' ' ∉ word := unmarked ' ' (by decide)
      obtain here | behind := infix_or_infix_of_infix_append_cons comma h
      · exact ⟨part, List.mem_cons_self, here⟩
      · obtain none | later := infix_or_infix_of_infix_append_cons space (a := []) behind
        · exact absurd (List.infix_nil.1 none) ne
        · obtain ⟨part'', mem, found⟩ := ih later
          exact ⟨part'', List.mem_cons_of_mem _ mem, found⟩

/-! ## Fields in the text -/

namespace Headers

theorem mem_grouped {f : HeaderName × HeaderValue} {headers : Headers} :
    f ∈ headers.grouped ↔ f ∈ headers := by
  obtain ⟨name, v⟩ := f
  have values (n : HeaderName) (w : HeaderValue) : w ∈ headers.values n ↔ (n, w) ∈ headers := by
    simp [Headers.values]
  simp only [grouped, List.mem_flatMap, List.mem_eraseDups, List.mem_map, Prod.mk.injEq]
  constructor
  · rintro ⟨n, _, w, hw, rfl, rfl⟩
    exact (values n w).1 hw
  · intro h
    exact ⟨name, ⟨_, h, rfl⟩, v, (values name v).2 h, rfl, rfl⟩

/-- Every field has an entry in the text. -/
theorem fieldText_infix {f : HeaderName × HeaderValue} {headers : Headers} (h : f ∈ headers) :
    fieldText f <:+: headers.text := by
  have part : fieldText f ∈ headers.grouped.map fieldText :=
    List.mem_map_of_mem (mem_grouped.2 h)
  have inner := infix_intercalate_of_mem [',', ' '] part
  exact inner.trans ⟨['\x7b'], ['\x7d'], rfl⟩

/-- A word without marks in the text of fields stands in the name or in the value of a field. -/
theorem exists_field_of_infix {word : List Char} (ne : word ≠ [])
    (unmarked : ∀ c ∈ marks, c ∉ word) {headers : Headers} (h : word <:+: headers.text) :
    ∃ f ∈ headers, word <:+: (Text.quoted f.1.text).toList ∨ word <:+: f.2.text := by
  have opening : '\x7b' ∉ word := unmarked _ (by decide)
  have closing : '\x7d' ∉ word := unmarked _ (by decide)
  have colon : ':' ∉ word := unmarked _ (by decide)
  have space : ' ' ∉ word := unmarked _ (by decide)
  have nonempty {p : Prop} (h : word <:+: [] ∨ p) : p :=
    h.resolve_left fun none => ne (List.infix_nil.1 none)
  have fields := nonempty (infix_or_infix_of_infix_append_cons opening (a := []) h)
  have fields := nonempty (infix_or_infix_of_infix_append_cons closing fields).symm
  obtain ⟨part, mem, found⟩ := exists_mem_of_infix_intercalate ne unmarked fields
  obtain ⟨f, hf, rfl⟩ := List.mem_map.1 mem
  refine ⟨f, mem_grouped.1 hf, ?_⟩
  obtain name | value := infix_or_infix_of_infix_append_cons colon found
  · exact .inl name
  · exact .inr (nonempty (infix_or_infix_of_infix_append_cons space (a := []) value))

/-- How the entry of a field begins. -/
def label (name : HeaderName) : List Char := (Text.quoted name.text).toList ++ [':', ' ']

theorem fieldText_eq (f : HeaderName × HeaderValue) : fieldText f = label f.1 ++ f.2.text := by
  simp [fieldText, label]

theorem label_requestId : label requestId = "\x22x-request-id\x22: ".toList := by
  decide +kernel

theorem label_contentLength : label contentLength = "\x22content-length\x22: ".toList := by
  decide +kernel

end Headers

/-! ## Values in the text -/

namespace HeaderValue

theorem text_ofVisible {text : List Char} (h : text.all isVisible = true) (unquoted : '\x22' ∉ text) :
    (ofVisible text h).text = '\x22' :: (text ++ ['\x22']) := by
  have shown : ∀ n < 0x7F, 0x21 ≤ n → n ≠ 34 → showByte (UInt8.ofNat n) = [Char.ofNat n] := by
    decide
  have same : (text.map fun c => UInt8.ofNat c.toNat).flatMap showByte = text := by
    rw [List.flatMap_map]
    refine (List.flatMap_congr fun c hc => ?_).trans (List.flatMap_singleton' text)
    have visible := List.all_eq_true.1 h c hc
    simp only [isVisible, Bool.and_eq_true, decide_eq_true_eq] at visible
    have other : c.toNat ≠ 34 := by
      intro code
      have quote : c = '\x22' := by
        rw [← Char.ofNat_toNat c, code]
      exact unquoted (quote ▸ hc)
    rw [shown c.toNat (Nat.lt_succ_of_le visible.2) visible.1 other, Char.ofNat_toNat]
  show '\x22' :: ((text.map _).flatMap showByte ++ _) = _
  rw [same]

theorem showByte_cases (b : UInt8) :
    (∃ c, showByte b = [c] ∧ c ≠ '\x22') ∨ showByte b = ['\x5c', '\x22'] ∨
      ∃ cs, showByte b = '\x5c' :: cs ∧ '\x22' ∉ cs := by
  have digits : '\x22' ∉ 'x' :: Nat.toDigits 16 b.toNat := by
    revert b
    refine @Wire.of_all_bytes _ ?_
    decide +kernel
  have plain : b ≠ 34 → Char.ofNat b.toNat ≠ '\x22' := by
    revert b
    refine @Wire.of_all_bytes _ ?_
    decide +kernel
  by_cases quote : b = 34
  · subst quote
    exact .inr (.inl rfl)
  · unfold showByte
    rw [if_neg quote]
    split
    · exact .inl ⟨_, rfl, plain quote⟩
    · exact .inr (.inr ⟨_, rfl, digits⟩)

end HeaderValue

/-! ## How often a word stands in a text -/

def occurrences (word text : List Char) : Nat := text.tails.countP (word.isPrefixOf ·)

theorem occurrences_cons (word : List Char) (c : Char) (text : List Char) :
    occurrences word (c :: text) =
      occurrences word text + if word.isPrefixOf (c :: text) then 1 else 0 := by
  rw [occurrences, List.tails_cons, List.countP_cons]
  rfl

section
variable {a c : Char} {word front text : List Char}

theorem occurrences_cons_of_ne (h : c ≠ a) :
    occurrences (a :: word) (c :: text) = occurrences (a :: word) text := by
  have apart : (a :: word).isPrefixOf (c :: text) = false := by
    rw [List.isPrefixOf, beq_eq_false_iff_ne.2 h.symm, Bool.false_and]
  rw [occurrences_cons, apart]
  rfl

theorem occurrences_append_of_not_mem (h : a ∉ front) :
    occurrences (a :: word) (front ++ text) = occurrences (a :: word) text := by
  induction front with
  | nil => rfl
  | cons c front ih =>
    rw [List.mem_cons, not_or] at h
    rw [List.cons_append, occurrences_cons_of_ne (Ne.symm h.1), ih h.2]

end

/-! ## The entry of an identifier -/

/-- A word without escapes ends before the mark behind a value does. -/
theorem not_prefix_of_value {word : List Char} (quote : '\x22' ∉ word) (slash : '\x5c' ∉ word)
    (bytes : List UInt8) (rest : List Char) :
    ¬word ++ '\x22' :: ':' :: rest <+: bytes.flatMap HeaderValue.showByte ++ ['\x22', '\x7d'] := by
  induction word generalizing bytes with
  | nil =>
    intro h
    cases bytes with
    | nil => simp at h
    | cons b bytes =>
      rw [List.flatMap_cons] at h
      obtain ⟨c, hc, ne⟩ | hc | ⟨cs, hc, -⟩ := HeaderValue.showByte_cases b
      · rw [hc] at h
        exact ne (List.cons_prefix_cons.1 h).1.symm
      · rw [hc] at h
        simp at h
      · rw [hc] at h
        simp at h
  | cons a word ih =>
    intro h
    rw [List.mem_cons, not_or] at quote slash
    cases bytes with
    | nil => exact quote.1 (List.cons_prefix_cons.1 h).1.symm
    | cons b bytes =>
      rw [List.flatMap_cons] at h
      obtain ⟨c, hc, -⟩ | hc | ⟨cs, hc, -⟩ := HeaderValue.showByte_cases b
      · rw [hc] at h
        exact ih quote.2 slash.2 bytes (List.cons_prefix_cons.1 h).2
      · rw [hc] at h
        exact slash.1 (List.cons_prefix_cons.1 h).1.symm
      · rw [hc] at h
        exact slash.1 (List.cons_prefix_cons.1 h).1.symm

theorem occurrences_bytes {word : List Char} (quote : '\x22' ∉ word) (slash : '\x5c' ∉ word)
    (rest : List Char) (bytes : List UInt8) :
    occurrences ('\x22' :: (word ++ '\x22' :: ':' :: rest))
      (bytes.flatMap HeaderValue.showByte ++ ['\x22', '\x7d']) = 0 := by
  induction bytes with
  | nil =>
    have long : ¬word ++ '\x22' :: ':' :: rest <+: ['\x7d'] := by
      intro h
      have := h.length_le
      simp only [List.length_append, List.length_cons, List.length_nil] at this
      omega
    rw [List.flatMap_nil, List.nil_append, occurrences_cons, occurrences_cons_of_ne (by decide)]
    simpa [occurrences] using long
  | cons b bytes ih =>
    rw [List.flatMap_cons, List.append_assoc]
    obtain ⟨c, hc, other⟩ | hc | ⟨cs, hc, free⟩ := HeaderValue.showByte_cases b
    · rw [hc, List.singleton_append, occurrences_cons_of_ne other, ih]
    · have apart := not_prefix_of_value quote slash bytes rest
      rw [hc, List.cons_append, occurrences_cons_of_ne (by decide), List.singleton_append,
        occurrences_cons, ih]
      simpa using apart
    · rw [hc, List.cons_append, occurrences_cons_of_ne (by decide),
        occurrences_append_of_not_mem free, ih]

/-- A value cannot pass for the beginning of an entry, since its quotation marks are escaped. -/
theorem occurrences_value {word : List Char} (quote : '\x22' ∉ word) (slash : '\x5c' ∉ word)
    (rest : List Char) (bytes : List UInt8) :
    occurrences ('\x22' :: (word ++ '\x22' :: ':' :: rest))
      ('\x22' :: (bytes.flatMap HeaderValue.showByte ++ ['\x22', '\x7d'])) = 0 := by
  have apart := not_prefix_of_value quote slash bytes rest
  rw [occurrences_cons, occurrences_bytes quote slash]
  simpa using apart

theorem text_answer {digits : List Char} {length : HeaderValue}
    (h : length.text = '\x22' :: (digits ++ ['\x22'])) (id : HeaderValue) :
    Headers.text [(Headers.contentLength, length), (Headers.requestId, id)] =
      "\x7b\x22content-length\x22: \x22".toList ++ (digits ++ ("\x22, ".toList ++
        (Headers.label Headers.requestId ++
          '\x22' :: (id.bytes.flatMap HeaderValue.showByte ++ ['\x22', '\x7d'])))) := by
  have grouped : Headers.grouped [(Headers.contentLength, length), (Headers.requestId, id)] =
      [(Headers.contentLength, length), (Headers.requestId, id)] := rfl
  rw [Headers.text, grouped, List.map_cons, List.map_singleton, List.intercalate_cons_cons,
    List.intercalate_singleton, Headers.fieldText_eq, Headers.fieldText_eq, h,
    Headers.label_contentLength, HeaderValue.text]
  simp

theorem occurrences_before_length {c : Char} (h : c ≠ 'x') (text : List Char) :
    occurrences (Headers.label Headers.requestId)
        ("\x7b\x22content-length\x22: \x22".toList ++ c :: text) =
      occurrences (Headers.label Headers.requestId) (c :: text) := by
  simp [Headers.label_requestId, occurrences_cons, h.symm]

theorem occurrences_before_entry (text : List Char) :
    occurrences (Headers.label Headers.requestId)
        ("\x22, ".toList ++ (Headers.label Headers.requestId ++ text)) =
      occurrences (Headers.label Headers.requestId) text + 1 := by
  simp [Headers.label_requestId, occurrences_cons]

/-- The header of an answer has one entry for an identifier, whatever the identifier is. -/
theorem occurrences_label_answer {digits : List Char} {length : HeaderValue}
    (h : length.text = '\x22' :: (digits ++ ['\x22'])) (ne : digits ≠ [])
    (hd : ∀ c ∈ digits, c.isDigit = true) (id : HeaderValue) :
    occurrences (Headers.label Headers.requestId)
      (Headers.text [(Headers.contentLength, length), (Headers.requestId, id)]) = 1 := by
  have unquoted : '\x22' ∉ digits := fun hm => absurd (hd _ hm) (by decide)
  obtain ⟨d, digits, rfl⟩ := List.exists_cons_of_ne_nil ne
  have first : d ≠ 'x' := by
    rintro rfl
    exact absurd (hd _ List.mem_cons_self) (by decide)
  have behind (rest : List Char) : occurrences (Headers.label Headers.requestId)
      (d :: digits ++ rest) = occurrences (Headers.label Headers.requestId) rest := by
    rw [Headers.label_requestId]
    exact occurrences_append_of_not_mem unquoted
  rw [text_answer h id, List.cons_append, occurrences_before_length first, ← List.cons_append,
    behind, occurrences_before_entry, Headers.label_requestId]
  have quote : '\x22' ∉ "x-request-id".toList := by decide
  have slash : '\x5c' ∉ "x-request-id".toList := by decide
  exact congrArg (· + 1) (occurrences_value quote slash [' '] id.bytes)

end Liveness.Http
