import Liveness.Toml.Quotation

/-! # Tokens

* `Token`: a word, a quoted string, a mark, white space, a line break or a comment.
* `Token.first`: the token that a text begins with, and the rest of the text.
* `Token.ofText?`: all tokens of a text.
-/

namespace Liveness.Toml
set_option autoImplicit false

/-- A token of a document. -/
inductive Token where
  | blank (text : List Char)
  | newline
  | comment
  | equals
  | period
  | comma
  | colon
  | plus
  | leftBrace
  | rightBrace
  | leftBracket
  | rightBracket
  /-- A run of letters, digits, hyphens and underscores: a bare key, a number or a truth value. -/
  | word (text : List Char)
  | quoted (content : List Char) (multiline : Bool)
  deriving DecidableEq, Repr

namespace Token

/-- Space and tab. -/
def isBlankChar (c : Char) : Bool := c = ' ' || c = '\t'

/-- The characters of a word. -/
def isWordChar (c : Char) : Bool := c.isAlphanum || c = '-' || c = '_'

/-- The characters of a comment. -/
def isCommentChar (c : Char) : Bool := c = '\t' || 0x20 ≤ c.toNat

/-- The token of a mark. -/
def ofMark? : Char → Option Token
  | '\n' => some newline
  | '=' => some equals
  | '.' => some period
  | ',' => some comma
  | ':' => some colon
  | '+' => some plus
  | '\x7b' => some leftBrace
  | '\x7d' => some rightBrace
  | '[' => some leftBracket
  | ']' => some rightBracket
  | _ => none

/-- A quoted string whose first mark has been read. Three marks open a string of several lines, and
two are an empty string. -/
def quotation (mark : Char) (text : List Char) : Option (Token × List Char) :=
  match text with
  | a :: b :: rest =>
    if a = mark ∧ b = mark then
      (Quotation.read ⟨mark, true⟩ rest).map fun (t, r) => (quoted t true, r)
    else if a = mark then some (quoted [] false, b :: rest)
    else (Quotation.read ⟨mark, false⟩ text).map fun (t, r) => (quoted t false, r)
  | _ => (Quotation.read ⟨mark, false⟩ text).map fun (t, r) => (quoted t false, r)

/-- The token that begins with a given character, and the text behind it. -/
def first (c : Char) (text : List Char) : Option (Token × List Char) :=
  if isBlankChar c then
    some (blank (c :: text.takeWhile isBlankChar), text.dropWhile isBlankChar)
  else if c = '#' then some (comment, text.dropWhile isCommentChar)
  else if c = '\x22' ∨ c = '\x27' then quotation c text
  else if isWordChar c then
    some (word (c :: text.takeWhile isWordChar), text.dropWhile isWordChar)
  else (ofMark? c).map (·, text)

theorem length_quotation {mark : Char} {text rest : List Char} {t : Token}
    (h : quotation mark text = some (t, rest)) : rest.length ≤ text.length := by
  have read {style : Quotation.Style} {s : List Char} {b : Bool}
      (h : (Quotation.read style s).map (fun (t, r) => (quoted t b, r)) = some (t, rest)) :
      rest.length ≤ s.length := by
    obtain ⟨⟨u, r⟩, hr, he⟩ := Option.map_eq_some_iff.1 h
    simp only [Prod.mk.injEq] at he
    exact he.2 ▸ Quotation.length_read hr
  unfold quotation at h
  split at h
  · split at h
    · have := read h
      simp only [List.length_cons]; omega
    · split at h
      · simp only [Option.some.injEq, Prod.mk.injEq] at h
        simp [← h.2]
      · exact read h
  · exact read h

theorem length_first {c : Char} {text rest : List Char} {t : Token}
    (h : first c text = some (t, rest)) : rest.length ≤ text.length := by
  have drop (p : Char → Bool) : (text.dropWhile p).length ≤ text.length :=
    (List.dropWhile_sublist p).length_le
  unfold first at h
  split at h
  · simp only [Option.some.injEq, Prod.mk.injEq] at h
    exact h.2 ▸ drop _
  · split at h
    · simp only [Option.some.injEq, Prod.mk.injEq] at h
      exact h.2 ▸ drop _
    · split at h
      · exact length_quotation h
      · split at h
        · simp only [Option.some.injEq, Prod.mk.injEq] at h
          exact h.2 ▸ drop _
        · obtain ⟨u, _, he⟩ := Option.map_eq_some_iff.1 h
          simp only [Prod.mk.injEq] at he
          simp [he.2]

/-- All tokens of a text. -/
def ofText? (text : List Char) : Option (List Token) :=
  match text with
  | [] => some []
  | c :: cs =>
    match _h : first c cs with
    | none => none
    | some (t, rest) => (ofText? rest).map (t :: ·)
termination_by text.length
decreasing_by
  have := length_first ‹_›
  simp only [List.length_cons]; omega

end Token
end Liveness.Toml
