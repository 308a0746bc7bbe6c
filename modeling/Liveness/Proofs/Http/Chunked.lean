import Liveness.Http.Wire.Answer
import Liveness.Proofs.Http.Pieces

/-! # Bodies in chunks as a client sends them

* `SizeLine`: a line with the size of a chunk, in hexadecimal digits of either case.
* `Chunked`: chunks with their data, a chunk of size zero, and lines behind it.
* `Chunked.ends_bytes`: the reader ends such a body with its last byte.
-/

namespace Liveness.Http.Wire
set_option autoImplicit false

open Answer (newline)

/-! ## Sizes -/

/-- The value of a digit. -/
def hexDigit? (b : UInt8) : Option Nat := Text.hexDigit? (Char.ofNat b.toNat)

/-- A number with further hexadecimal digits behind its own. -/
def hexValue (n : Nat) (digits : List UInt8) : Nat :=
  digits.foldl (fun n b => 16 * n + (hexDigit? b).getD 0) n

theorem le_hexValue (n : Nat) (digits : List UInt8) : n ≤ hexValue n digits := by
  induction digits generalizing n with
  | nil => exact Nat.le_refl n
  | cons b digits ih =>
    have := ih (16 * n + (hexDigit? b).getD 0)
    rw [hexValue, List.foldl_cons, ← hexValue]
    omega

/-- Whether digits, blanks and an extension make a line with the size of a chunk. The digits are
hexadecimal and mean a number of 64 bits. -/
def isSizeLine (digits blanks extension : List UInt8) : Bool :=
  !digits.isEmpty && digits.all (fun b => (hexDigit? b).isSome) &&
    hexValue 0 digits < Decimal.unsignedLimit && blanks.all isBlank &&
    extension.head?.all (· = byte ';') && !extension.contains cr && !extension.contains lf

/-- A line with the size of a chunk. Blanks and an extension may stand behind the digits. -/
structure SizeLine where
  digits : List UInt8
  blanks : List UInt8
  extension : List UInt8
  isSizeLine_parts : isSizeLine digits blanks extension = true

namespace SizeLine

theorem parts (l : SizeLine) :
    (l.digits ≠ [] ∧ l.digits.all (fun b => (hexDigit? b).isSome) = true ∧
        hexValue 0 l.digits < Decimal.unsignedLimit) ∧
      l.blanks.all isBlank = true ∧
      l.extension.head?.all (· = byte ';') = true ∧ cr ∉ l.extension ∧ lf ∉ l.extension := by
  have h := l.isSizeLine_parts
  simp only [isSizeLine, Bool.and_eq_true, Bool.not_eq_true', List.isEmpty_eq_false_iff,
    decide_eq_true_eq] at h
  obtain ⟨⟨⟨⟨⟨⟨full, hex⟩, small⟩, blanks⟩, mark⟩, noReturn⟩, noFeed⟩ := h
  have clean {b : UInt8} (hb : l.extension.contains b = false) : b ∉ l.extension := by
    intro h
    rw [List.contains_iff_mem.2 h] at hb
    cases hb
  exact ⟨⟨full, hex, small⟩, blanks, mark, clean noReturn, clean noFeed⟩

/-- The size of the chunk. -/
def size (l : SizeLine) : Nat := hexValue 0 l.digits

/-- The bytes of the line. -/
def bytes (l : SizeLine) : List UInt8 := l.digits ++ (l.blanks ++ (l.extension ++ newline))

end SizeLine

/-! ## Bodies -/

/-- A body in chunks. -/
structure Chunked where
  chunks : List (SizeLine × List UInt8)
  last : SizeLine
  trailers : List (List UInt8)
  data_ne_nil : ∀ c ∈ chunks, c.2 ≠ []
  size_chunk : ∀ c ∈ chunks, c.1.size = c.2.length
  size_last : last.size = 0
  trailer_ne_nil : ∀ t ∈ trailers, t ≠ []
  clean_trailer : ∀ t ∈ trailers, cr ∉ t

namespace Chunked

/-- The bytes of a chunk. -/
def chunkBytes (c : SizeLine × List UInt8) : List UInt8 := c.1.bytes ++ (c.2 ++ newline)

/-- The bytes of the body. -/
def bytes (body : Chunked) : List UInt8 :=
  body.chunks.flatMap chunkBytes ++
    (body.last.bytes ++ (body.trailers.flatMap (· ++ newline) ++ newline))

end Chunked

/-! ## The end of a body -/

namespace Chunk

theorem ends_trailer {w rest : List UInt8} (clean : cr ∉ w) (h : Ends .endReturn rest) :
    Ends .trailer (w ++ newline ++ rest) := by
  induction w with
  | nil => exact .step rfl (.step rfl h)
  | cons b w ih =>
    have hb : b ≠ cr := fun eq => clean (eq ▸ List.mem_cons_self)
    refine .step ?_ (ih fun hw => clean (List.mem_cons_of_mem _ hw))
    rw [step, if_neg hb]

theorem ends_trailers {trailers : List (List UInt8)} (full : ∀ t ∈ trailers, t ≠ [])
    (clean : ∀ t ∈ trailers, cr ∉ t) :
    Ends .endReturn (trailers.flatMap (· ++ newline) ++ newline) := by
  induction trailers with
  | nil => exact .step rfl (.last rfl)
  | cons t trailers ih =>
    have rest := ih (fun t ht => full t (List.mem_cons_of_mem _ ht))
      fun t ht => clean t (List.mem_cons_of_mem _ ht)
    rw [List.flatMap_cons, List.append_assoc]
    cases ht : t with
    | nil => exact absurd ht (full t List.mem_cons_self)
    | cons b w =>
      have hb : b ≠ cr := by
        rintro rfl
        exact clean t List.mem_cons_self (ht ▸ List.mem_cons_self)
      have hw : cr ∉ w := fun h => clean t List.mem_cons_self (ht ▸ List.mem_cons_of_mem _ h)
      have first : Chunk.step .endReturn b = some .trailer := by rw [step, if_neg hb]
      exact .step first (ends_trailer hw rest)

/-! ## The line of a size -/

/-- Where a chunk goes on behind the line of its size. -/
def afterLine (n : Nat) : Chunk := if n = 0 then .endReturn else .data n

theorem ends_sizeFeed {n : Nat} {rest : List UInt8} (h : (afterLine n).Ends rest) :
    Ends (.sizeFeed n) (lf :: rest) := .step rfl h

theorem ends_extension {n : Nat} {w rest : List UInt8} (clean : cr ∉ w ∧ lf ∉ w)
    (h : (afterLine n).Ends rest) : Ends (.extension n) (w ++ newline ++ rest) := by
  induction w with
  | nil => exact .step rfl (ends_sizeFeed h)
  | cons b w ih =>
    rw [List.mem_cons, List.mem_cons, not_or, not_or] at clean
    obtain ⟨⟨hr, cleanR⟩, hl, cleanL⟩ := clean
    refine .step ?_ (ih ⟨cleanR, cleanL⟩)
    rw [step, if_neg (Ne.symm hr), if_neg (Ne.symm hl)]

theorem afterSize_of_isBlank {n : Nat} {b : UInt8} (h : isBlank b = true) :
    afterSize n b = some (.sizeBlank n) := by
  rw [afterSize, if_pos h]

/-- Behind the digits of a size: `c` is a place there, before or between the blanks. -/
theorem ends_afterDigits {c : Chunk} {n : Nat} {blanks extension rest : List UInt8}
    (place : ∀ b, hexDigit? b = none → c.step b = afterSize n b)
    (dark : blanks.all isBlank = true) (mark : extension.head?.all (· = byte ';') = true)
    (clean : cr ∉ extension ∧ lf ∉ extension) (h : (afterLine n).Ends rest) :
    c.Ends (blanks ++ (extension ++ newline) ++ rest) := by
  induction blanks generalizing c with
  | nil =>
    cases extension with
    | nil => exact .step (place cr (by decide)) (ends_sizeFeed h)
    | cons b w =>
      obtain rfl : b = byte ';' := of_decide_eq_true mark
      have first : c.step (byte ';') = some (.extension n) := place (byte ';') (by decide)
      rw [List.mem_cons, List.mem_cons, not_or, not_or] at clean
      have more := ends_extension ⟨clean.1.2, clean.2.2⟩ h
      exact .step first more
  | cons b blanks ih =>
    rw [List.all_cons, Bool.and_eq_true] at dark
    obtain ⟨hb, dark⟩ := dark
    have digit : hexDigit? b = none := by
      simp only [isBlank, Bool.or_eq_true, decide_eq_true_eq] at hb
      obtain rfl | rfl := hb <;> decide
    have first : c.step b = some (.sizeBlank n) := by
      rw [place b digit, afterSize_of_isBlank hb]
    exact .step first (ih (fun _ _ => rfl) dark)

theorem digit_eq {n d : Nat} {b : UInt8} (h : hexDigit? b = some d)
    (small : 16 * n + d < Decimal.unsignedLimit) : digit n b = some (.size (16 * n + d)) := by
  rw [digit, ← hexDigit?, h, Option.bind_some, if_pos small]

theorem step_size_of_not_digit {n : Nat} {b : UInt8} (h : hexDigit? b = none) :
    (Chunk.size n).step b = afterSize n b := by
  have none' : Text.hexDigit? (Char.ofNat b.toNat) = none := h
  rw [step, digit, none']
  rfl

/-- The digits of a size, from a place on that takes digits like the start of a size. -/
theorem ends_digits {c : Chunk} {n : Nat} {digits rest : List UInt8}
    (place : ∀ b d, hexDigit? b = some d → 16 * n + d < Decimal.unsignedLimit →
      c.step b = some (.size (16 * n + d)))
    (full : digits ≠ []) (hex : ∀ b ∈ digits, (hexDigit? b).isSome = true)
    (small : hexValue n digits < Decimal.unsignedLimit)
    (h : Ends (.size (hexValue n digits)) rest) : c.Ends (digits ++ rest) := by
  induction digits generalizing c n with
  | nil => exact absurd rfl full
  | cons b digits ih =>
    obtain ⟨d, hd⟩ := Option.isSome_iff_exists.1 (hex b List.mem_cons_self)
    have value : hexValue n (b :: digits) = hexValue (16 * n + d) digits := by
      rw [hexValue, List.foldl_cons, hd]
      rfl
    rw [value] at small h
    have first := place b d hd (Nat.lt_of_le_of_lt (le_hexValue _ _) small)
    refine .step first ?_
    by_cases more : digits = []
    · subst more
      exact h
    · refine ih ?_ more (fun b hb => hex b (List.mem_cons_of_mem _ hb)) small h
      intro b d hd small
      rw [step, digit_eq hd small]
      rfl

theorem ends_sizeLine (l : SizeLine) {rest : List UInt8} (h : (afterLine l.size).Ends rest) :
    Ends .start (l.bytes ++ rest) := by
  obtain ⟨⟨full, hex, small⟩, blanks, mark, clean⟩ := l.parts
  have behind : Ends (.size l.size) (l.blanks ++ (l.extension ++ newline) ++ rest) :=
    ends_afterDigits (fun _ => step_size_of_not_digit) blanks mark clean h
  rw [SizeLine.bytes, List.append_assoc]
  refine ends_digits (n := 0) ?_ full (List.all_eq_true.1 hex) small behind
  intro b d hd small
  exact digit_eq hd small

end Chunk

/-! ## Whole bodies -/

/-- The reader ends a body in chunks with its last byte, and not before. -/
theorem Chunked.ends_bytes (body : Chunked) : Chunk.Ends .start body.bytes := by
  obtain ⟨chunks, last, trailers, data, size, zero, full, clean⟩ := body
  have tail : Chunk.Ends .start (last.bytes ++ (trailers.flatMap (· ++ newline) ++ newline)) := by
    refine Chunk.ends_sizeLine last ?_
    rw [zero]
    exact Chunk.ends_trailers full clean
  rw [Chunked.bytes]
  dsimp only
  induction chunks with
  | nil => exact tail
  | cons c chunks ih =>
    have rest := ih (fun c hc => data c (List.mem_cons_of_mem _ hc))
      fun c hc => size c (List.mem_cons_of_mem _ hc)
    have ne := data c List.mem_cons_self
    have line : (Chunk.afterLine c.1.size).Ends (c.2 ++ (cr :: lf :: (chunks.flatMap chunkBytes ++
        (last.bytes ++ (trailers.flatMap (· ++ newline) ++ newline))))) := by
      rw [size c List.mem_cons_self, Chunk.afterLine,
        if_neg fun h => ne (List.length_eq_zero_iff.1 h)]
      exact .data ne (.step rfl (.step rfl rest))
    have whole := Chunk.ends_sizeLine c.1 line
    rw [List.flatMap_cons, chunkBytes]
    simpa [newline] using whole

end Liveness.Http.Wire
