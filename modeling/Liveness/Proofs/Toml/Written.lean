import Liveness.Proofs.Lists
import Liveness.Proofs.Toml.Integers
import Liveness.Proofs.Toml.Strings
import Liveness.Toml.Document

/-! # Documents that are written

* `Literal`: a text in one of its spellings, or an integer.
* `Assignment`, `writeSection`: a line that gives a bare key a literal, and a header with such lines.
* `Token.ofText?_writeSection`: the tokens of the text.
* `Document.ofTokens?_sectionTokens`: the table that the tokens write.
* `parse?_writeSection`: a section is read as the literals that it writes, if a word of 64 bits holds
  each integer, and is refused otherwise.
-/

namespace Liveness.Toml
set_option autoImplicit false

/-! ## What is written -/

/-- A value on one line: a text between double quotes, in one of its spellings, or an integer. -/
inductive Literal where
  | text (content spelled : List Char) (spells : Quotation.Spells content spelled)
  | integer (value : Int)

namespace Literal

/-- A literal as it is written. -/
def write : Literal → List Char
  | text _ spelled _ => '\x22' :: (spelled ++ ['\x22'])
  | integer n => Decimal.ofInt n

/-- The token of a literal. -/
def token : Literal → Token
  | text content _ _ => .quoted content false
  | integer n => .word (Decimal.ofInt n)

/-- The value of a literal. -/
def datum? : Literal → Option Datum
  | text content _ _ => some (.text (String.ofList content))
  | integer n => Scalar.bounded? n

end Literal

/-- A key that is written without quotes. -/
structure BareKey where
  text : List Char
  ne_nil : text ≠ []
  isWordChar : ∀ c ∈ text, Token.isWordChar c = true

/-- The name that a key stands for. -/
def BareKey.name (key : BareKey) : String := String.ofList key.text

/-- A line that gives a key a value. -/
structure Assignment where
  key : BareKey
  value : Literal

namespace Assignment

/-- The line as it is written. -/
def write (a : Assignment) : List Char :=
  a.key.text ++ ' ' :: '=' :: ' ' :: (a.value.write ++ ['\n'])

/-- The tokens of the line. -/
def tokens (a : Assignment) : List Token :=
  [.word a.key.text, .blank [' '], .equals, .blank [' '], a.value.token, .newline]

/-- The member of a table that the line writes. -/
def member? (a : Assignment) : Option (String × Datum) := a.value.datum?.map (a.key.name, ·)

end Assignment

/-- A header in brackets with the lines below it. -/
def writeSection (header : BareKey) (assignments : List Assignment) : List Char :=
  '[' :: (header.text ++ ']' :: '\n' :: assignments.flatMap Assignment.write)

/-- The tokens of a header with the lines below it. -/
def sectionTokens (header : BareKey) (assignments : List Assignment) : List Token :=
  .leftBracket :: .word header.text :: .rightBracket :: .newline ::
    assignments.flatMap Assignment.tokens

/-! ## Tokens -/

namespace Token

theorem ofText?_cons {c : Char} {text rest : List Char} {t : Token}
    (h : first c text = some (t, rest)) : ofText? (c :: text) = (ofText? rest).map (t :: ·) := by
  rw [ofText?]
  split
  · next none =>
    rw [h] at none
    cases none
  · next t' rest' found =>
    rw [h] at found
    obtain ⟨rfl, rfl⟩ := Prod.mk.inj (Option.some.inj found)
    rfl

theorem ne_of_isWordChar {c d : Char} (hc : isWordChar c = true) (hd : isWordChar d = false) :
    c ≠ d := by
  rintro rfl
  rw [hd] at hc
  cases hc

theorem isBlankChar_of_isWordChar {c : Char} (h : isWordChar c = true) : isBlankChar c = false := by
  have space : c ≠ ' ' := ne_of_isWordChar h (by decide)
  have tab : c ≠ '\t' := ne_of_isWordChar h (by decide)
  simp [isBlankChar, space, tab]

theorem ofText?_word {word rest : List Char} (ne : word ≠ [])
    (h : ∀ c ∈ word, isWordChar c = true) (stop : rest.head?.all (!isWordChar ·) = true) :
    ofText? (word ++ rest) = (ofText? rest).map (.word word :: ·) := by
  cases word with
  | nil => exact absurd rfl ne
  | cons c word =>
    have hc := h c List.mem_cons_self
    have other {d : Char} (hd : isWordChar d = false) : c ≠ d := ne_of_isWordChar hc hd
    obtain ⟨taken, left⟩ :=
      Text.takeWhile_append_stop (fun d hd => h d (List.mem_cons_of_mem c hd)) stop
    rw [List.cons_append]
    refine ofText?_cons ?_
    rw [first, isBlankChar_of_isWordChar hc, if_neg Bool.false_ne_true, if_neg (other (by decide)),
      if_neg, if_pos hc, taken, left]
    rintro (same | same)
    · exact other (by decide) same
    · exact other (by decide) same

theorem ofText?_blank {rest : List Char} (stop : rest.head?.all (!isBlankChar ·) = true) :
    ofText? (' ' :: rest) = (ofText? rest).map (.blank [' '] :: ·) := by
  obtain ⟨taken, left⟩ : rest.takeWhile isBlankChar = [] ∧ rest.dropWhile isBlankChar = rest :=
    Text.takeWhile_append_stop (List.forall_mem_nil (isBlankChar · = true)) stop
  refine ofText?_cons ?_
  rw [first, if_pos (by decide), taken, left]

theorem ofText?_mark {c : Char} {t : Token} (h : ∀ text, first c text = some (t, text))
    (rest : List Char) : ofText? (c :: rest) = (ofText? rest).map (t :: ·) :=
  ofText?_cons (h rest)

theorem isWordChar_of_mem_ofInt {n : Int} {c : Char} (h : c ∈ Decimal.ofInt n) :
    isWordChar c = true := by
  obtain rfl | digit := Scalar.isDigit_of_mem_ofInt h
  · decide
  · simp [isWordChar, Char.isAlphanum, digit]

theorem ofInt_ne_nil (n : Int) : Decimal.ofInt n ≠ [] := by
  intro none
  have numeric := Scalar.isNumeric_ofInt n
  rw [none] at numeric
  cases numeric

theorem ofText?_literal (v : Literal) (rest : List Char) :
    ofText? (v.write ++ '\n' :: rest) = (ofText? ('\n' :: rest)).map (v.token :: ·) := by
  cases v with
  | text content spelled spells =>
    rw [Literal.write, List.cons_append, List.append_assoc]
    refine ofText?_cons ?_
    exact Quotation.quotation_of_spells spells (by simp)
  | integer n =>
    exact ofText?_word (ofInt_ne_nil n) (fun c => isWordChar_of_mem_ofInt) rfl

theorem head?_literal (v : Literal) (rest : List Char) :
    (v.write ++ rest).head?.all (!isBlankChar ·) = true := by
  cases v with
  | text content spelled spells => rfl
  | integer n =>
    rw [Literal.write]
    cases written : Decimal.ofInt n with
    | nil => exact absurd written (ofInt_ne_nil n)
    | cons c more =>
      have word : isWordChar c = true := isWordChar_of_mem_ofInt (written ▸ List.mem_cons_self)
      have blank : isBlankChar c = false := isBlankChar_of_isWordChar word
      simp [blank]

/-- The tokens of a line stand in front of those of the next. -/
theorem ofText?_assignment (a : Assignment) (rest : List Char) :
    ofText? (a.write ++ rest) = (ofText? rest).map (a.tokens ++ ·) := by
  rw [Assignment.write, List.append_assoc, List.cons_append, List.cons_append, List.cons_append,
    List.append_assoc, ofText?_word a.key.ne_nil a.key.isWordChar rfl, ofText?_blank rfl,
    ofText?_mark (fun _ => rfl), ofText?_blank (head?_literal _ _), List.singleton_append,
    ofText?_literal, ofText?_mark (fun _ => rfl)]
  cases ofText? rest <;> rfl

theorem ofText?_assignments (assignments : List Assignment) :
    ofText? (assignments.flatMap Assignment.write) =
      some (assignments.flatMap Assignment.tokens) := by
  induction assignments with
  | nil => rw [List.flatMap_nil, ofText?, List.flatMap_nil]
  | cons a assignments ih =>
    rw [List.flatMap_cons, ofText?_assignment, ih]
    rfl

theorem ofText?_writeSection (header : BareKey) (assignments : List Assignment) :
    ofText? (writeSection header assignments) = some (sectionTokens header assignments) := by
  rw [writeSection, ofText?_mark (fun _ => rfl), ofText?_word header.ne_nil header.isWordChar rfl,
    ofText?_mark (fun _ => rfl), ofText?_mark (fun _ => rfl), ofText?_assignments]
  rfl

end Token

/-! ## Lines -/

namespace Document

theorem moreParts?_of_skipBlank {tokens rest : List Token} (h : skipBlank tokens = rest)
    (stop : rest.head? ≠ some .period) : moreParts? tokens = some ([], rest) := by
  rw [moreParts?]
  split
  · next behind eq =>
    rw [h] at eq
    exact absurd (by rw [eq]; rfl) stop
  · rw [h]

theorem key?_word {word : List Char} {tokens rest : List Token} (h : skipBlank tokens = rest)
    (stop : rest.head? ≠ some .period) :
    key? (.word word :: tokens) = some (String.ofList word, [], rest) := by
  rw [key?, part?, moreParts?_of_skipBlank h stop]
  rfl

theorem header?_word (header : BareKey) (rest : List Token) :
    header? (.word header.text :: .rightBracket :: .newline :: rest) =
      some (⟨[header.name], false, []⟩, rest) := by
  have key : key? (skipBlank (.word header.text :: .rightBracket :: .newline :: rest)) =
      some (header.name, [], .rightBracket :: .newline :: rest) := key?_word rfl (by simp)
  unfold header?
  dsimp only
  rw [key]
  rfl

theorem value_literal (n : Nat) (v : Literal) (rest : List Token) :
    value (n + 1) (v.token :: .newline :: rest) =
      v.datum?.map fun d => (.value d, .newline :: rest) := by
  cases v with
  | text content spelled spells => rfl
  | integer n => exact Scalar.ofWord?_ofInt n rfl

theorem target?_assignment (a : Assignment) (rest : List Token) :
    target? (a.tokens ++ rest) = some (a.key.name, [], a.value.token :: .newline :: rest) := by
  have key : key? (a.tokens ++ rest) =
      some (a.key.name, [], .equals :: .blank [' '] :: a.value.token :: .newline :: rest) :=
    key?_word rfl (by simp)
  rw [target?, key]
  rfl

/-- A line adds its member to the section, or is refused with its value. -/
theorem assignment?_tokens (n : Nat) (s : Section) (a : Assignment) (rest : List Token) :
    assignment? (n + 1) s (a.tokens ++ rest) =
      a.member?.map fun m => ({ s with body := s.body ++ [(m.1, .value m.2)] }, rest) := by
  rw [assignment?, target?_assignment]
  show (value (n + 1) (a.value.token :: .newline :: rest) >>= _) = _
  rw [value_literal, Assignment.member?]
  cases a.value.datum? <;> rfl

/-- The entries of finished members. -/
def finished (members : Members) : Entry.Entries := members.map fun m => (m.1, .value m.2)

/-- By induction on the lines: those that are left add their members to the section that is read. -/
theorem sections?_assignments {bound n : Nat} (assignments : List Assignment)
    (enough : assignments.length < n) (s : Section) (done : List Section) :
    sections? (bound + 1) n s done (assignments.flatMap Assignment.tokens) =
      (assignments.mapM Assignment.member?).map fun ms =>
        { s with body := s.body ++ finished ms } :: done := by
  induction assignments generalizing n s with
  | nil =>
    cases n with
    | zero => cases enough
    | succ n =>
      rw [List.mapM_nil]
      show some (s :: done) = some ({ s with body := s.body ++ [] } :: done)
      rw [List.append_nil]
  | cons a assignments ih =>
    cases n with
    | zero => cases enough
    | succ n =>
      rw [List.flatMap_cons, List.mapM_cons]
      show (assignment? (bound + 1) s (a.tokens ++ assignments.flatMap Assignment.tokens) >>= _) = _
      rw [assignment?_tokens]
      cases a.member? with
      | none => rfl
      | some m =>
        rw [Option.map_some]
        show sections? (bound + 1) n _ done (assignments.flatMap Assignment.tokens) = _
        rw [ih (Nat.lt_of_succ_lt_succ enough)]
        cases assignments.mapM Assignment.member? with
        | none => rfl
        | some ms =>
          show some ({ s with body := (s.body ++ [(m.1, .value m.2)]) ++ finished ms } :: done) =
            some ({ s with body := s.body ++ (m.1, .value m.2) :: finished ms } :: done)
          rw [List.append_assoc, List.singleton_append]

/-! ## The end of the document -/

theorem eraseDups_of_nodup {names : List String} (h : names.Nodup) : names.eraseDups = names := by
  induction names with
  | nil => rfl
  | cons name names ih =>
    obtain ⟨fresh, h⟩ := List.nodup_cons.1 h
    have kept : names.filter (fun n => !n == name) = names := by
      refine List.filter_eq_self.2 fun n hn => ?_
      have apart : n ≠ name := fun same => fresh (same ▸ hn)
      simp [apart]
    rw [List.eraseDups_cons, kept, ih h]

theorem members?_finished (members : Members) : Entry.members? (finished members) = some members := by
  induction members with
  | nil => rfl
  | cons m members ih =>
    show Entry.members? ((m.1, .value m.2) :: finished members) = _
    rw [Entry.members?, ih]
    rfl

theorem map_fst_finished (members : Members) : (finished members).map (·.1) = members.map (·.1) := by
  rw [finished, List.map_map]
  rfl

/-- Entries under distinct names that do not begin with that of a date are a table. -/
theorem close?_of_nodup {entries : Entry.Entries} {members : Members}
    (read : Entry.members? entries = some members) (nodup : (entries.map (·.1)).Nodup)
    (table : ∀ e ∈ entries, e.1 ≠ Entry.momentName) :
    Entry.close? entries (Entry.members? entries) = some (.table members) := by
  cases entries with
  | nil =>
    obtain rfl : [] = members := Option.some.inj read
    rfl
  | cons e entries =>
    unfold Entry.close?
    dsimp only
    rw [if_neg (table e List.mem_cons_self), if_pos (eraseDups_of_nodup nodup).symm, read]
    rfl

end Document

theorem BareKey.name_ne_momentName (key : BareKey) : key.name ≠ Entry.momentName := by
  intro same
  have mark : '$' ∈ key.text := by
    rw [← String.toList_ofList (l := key.text), ← BareKey.name, same]
    decide
  cases key.isWordChar '$' mark

theorem Assignment.name_of_member? {a : Assignment} {m : String × Datum} (h : a.member? = some m) :
    m.1 = a.key.name := by
  obtain ⟨d, -, rfl⟩ := Option.map_eq_some_iff.1 h
  rfl

theorem Assignment.map_fst_of_mapM {assignments : List Assignment} {members : Members}
    (h : assignments.mapM Assignment.member? = some members) :
    members.map (·.1) = assignments.map (·.key.name) := by
  induction assignments generalizing members with
  | nil =>
    obtain rfl : [] = members := Option.some.inj h
    rfl
  | cons a assignments ih =>
    rw [List.mapM_cons] at h
    obtain ⟨m, hm, h⟩ := Option.bind_eq_some_iff.1 h
    obtain ⟨ms, hms, h⟩ := Option.bind_eq_some_iff.1 h
    obtain rfl : m :: ms = members := Option.some.inj h
    rw [List.map_cons, List.map_cons, ih hms, Assignment.name_of_member? hm]

theorem Literal.isSome_datum? {v : Literal}
    (bounded : ∀ n, v = .integer n → Decimal.isSigned n = true) : v.datum?.isSome = true := by
  cases v with
  | text content spelled spells => rfl
  | integer n =>
    rw [datum?, Scalar.bounded?, bounded n rfl]
    rfl

theorem Assignment.exists_of_mapM {assignments : List Assignment}
    (h : ∀ a ∈ assignments, (a.member?).isSome = true) :
    ∃ members, assignments.mapM Assignment.member? = some members ∧
      ∀ a ∈ assignments, ∀ m, a.member? = some m → m ∈ members :=
  ⟨_, mapM_eq_filterMap h, fun a ha _ hm => List.mem_filterMap.2 ⟨a, ha, hm⟩⟩

theorem length_le_length_tokens (assignments : List Assignment) :
    assignments.length ≤ (assignments.flatMap Assignment.tokens).length := by
  induction assignments with
  | nil => exact Nat.le_refl 0
  | cons a assignments ih =>
    rw [List.flatMap_cons, List.length_append]
    show assignments.length + 1 ≤ 6 + _
    omega

namespace Document

theorem sections?_sectionTokens (header : BareKey) (assignments : List Assignment) :
    sections? ((sectionTokens header assignments).length + 1)
        ((sectionTokens header assignments).length + 1) ⟨[], false, []⟩ []
        (sectionTokens header assignments) =
      (assignments.mapM Assignment.member?).map fun ms =>
        [⟨[header.name], false, finished ms⟩, ⟨[], false, []⟩] := by
  have long : assignments.length < (sectionTokens header assignments).length := by
    have := length_le_length_tokens assignments
    show assignments.length < (assignments.flatMap Assignment.tokens).length + 4
    omega
  show (header? (.word header.text :: .rightBracket :: .newline ::
    assignments.flatMap Assignment.tokens) >>= _) = _
  rw [header?_word]
  show sections? _ (sectionTokens header assignments).length _ _ _ = _
  rw [sections?_assignments assignments long]
  rfl

/-- A section whose members have distinct names is closed as a table under the name in its header. -/
theorem close?_section (header : BareKey) {members : Members} (nodup : (members.map (·.1)).Nodup)
    (bare : ∀ m ∈ members, m.1 ≠ Entry.momentName) :
    Entry.close? [(header.name, .table true (finished members))]
        (Entry.members? [(header.name, .table true (finished members))]) =
      some (.table [(header.name, .table members)]) := by
  have inner : Entry.close? (finished members) (Entry.members? (finished members)) =
      some (.table members) := by
    refine close?_of_nodup (members?_finished members) ?_ ?_
    · rwa [map_fst_finished]
    · intro e he
      obtain ⟨m, hm, rfl⟩ := List.mem_map.1 he
      exact bare m hm
  refine close?_of_nodup ?_ (List.nodup_cons.2 ⟨List.not_mem_nil, List.nodup_nil⟩) ?_
  · rw [Entry.members?, Entry.member?, Entry.datum?, inner]
    rfl
  · intro e he
    obtain rfl := List.mem_singleton.1 he
    exact header.name_ne_momentName

/-- The table that a section writes stands under the name in its header. -/
theorem ofTokens?_sectionTokens (header : BareKey) {assignments : List Assignment}
    (distinct : (assignments.map (·.key.name)).Nodup) :
    ofTokens? (sectionTokens header assignments) =
      (assignments.mapM Assignment.member?).map fun members => [(header.name, .table members)] := by
  rw [ofTokens?, sections?_sectionTokens]
  cases read : assignments.mapM Assignment.member? with
  | none => rfl
  | some members =>
    have names := Assignment.map_fst_of_mapM read
    have bare : ∀ m ∈ members, m.1 ≠ Entry.momentName := by
      intro m hm
      have : m.1 ∈ assignments.map (·.key.name) := names ▸ List.mem_map_of_mem hm
      obtain ⟨a, -, same⟩ := List.mem_map.1 this
      rw [← same]
      exact a.key.name_ne_momentName
    have closed := close?_section header (names ▸ distinct) bare
    show (Entry.close? [(header.name, .table true (finished members))]
      (Entry.members? [(header.name, .table true (finished members))]) >>= _) = _
    rw [closed]
    rfl

end Document

/-! ## The whole text -/

theorem foldLineEnds_of_not_mem {text : List Char} (h : '\r' ∉ text) : foldLineEnds text = text := by
  induction text with
  | nil => rfl
  | cons c text ih =>
    obtain ⟨apart, rest⟩ := not_or.1 (mt List.mem_cons.2 h)
    rw [foldLineEnds, ih rest]
    exact fun _ same _ => apart same.symm

theorem BareKey.return_not_mem (key : BareKey) : '\r' ∉ key.text := by
  intro h
  cases key.isWordChar '\r' h

theorem Literal.return_not_mem_write (v : Literal) : '\r' ∉ v.write := by
  cases v with
  | text content spelled spells =>
    have inner := spells.return_not_mem
    simp [Literal.write, inner]
  | integer n => exact Scalar.not_mem_ofInt (by decide) (by decide)

theorem return_not_mem_writeSection (header : BareKey) (assignments : List Assignment) :
    '\r' ∉ writeSection header assignments := by
  have lines : '\r' ∉ assignments.flatMap Assignment.write := by
    rw [List.mem_flatMap]
    rintro ⟨a, -, h⟩
    have key := a.key.return_not_mem
    have value := a.value.return_not_mem_write
    simp [Assignment.write, key, value] at h
  have name := header.return_not_mem
  simp [writeSection, name, lines]

/-- A section is read as the literals that it writes if a word of 64 bits holds each integer, and is
refused otherwise. -/
theorem parse?_writeSection (header : BareKey) {assignments : List Assignment}
    (distinct : (assignments.map (·.key.name)).Nodup) :
    parse? (writeSection header assignments) =
      (assignments.mapM Assignment.member?).map fun members => [(header.name, .table members)] := by
  have mark : dropMark (writeSection header assignments) = writeSection header assignments := by
    rw [writeSection, dropMark, if_neg (by decide)]
  rw [parse?, foldLineEnds_of_not_mem (return_not_mem_writeSection header assignments), mark,
    Token.ofText?_writeSection, Option.bind_some, Document.ofTokens?_sectionTokens header distinct]

end Liveness.Toml
