import Liveness.Text.Hexadecimal

/-! # Quoted strings

* `Quotation.Style`: the four ways of quoting, by the mark and the number of lines.
* `Quotation.read`: the content of a string whose opening mark has been read, and the text behind
  it.
* `Quotation.write`: a string on one line between double quotes.
-/

namespace Liveness.Toml.Quotation
set_option autoImplicit false

/-- How a string is quoted. Escapes are read between double quotes only. -/
structure Style where
  mark : Char
  multiline : Bool
  deriving DecidableEq, Repr

namespace Style

/-- Double quotes. -/
def basic (multiline : Bool) : Style := ⟨'\x22', multiline⟩

/-- Single quotes. -/
def literal (multiline : Bool) : Style := ⟨'\x27', multiline⟩

/-- Whether a backslash begins an escape. -/
def escapes (s : Style) : Bool := s.mark = '\x22'

end Style

/-- Where in a string the reader is. -/
inductive Place where
  /-- At the first character, where a line break of a string of several lines is dropped. -/
  | start
  | inside
  /-- Behind a backslash. -/
  | escape
  /-- In an escape by code point, with the number of digits to come after the next one. -/
  | digits (more value : Nat)
  /-- Behind a backslash and a blank, which must be followed by the end of the line. -/
  | lineEnd
  /-- In the white space that a backslash at the end of a line swallows. -/
  | fold
  /-- Behind some marks in a row. -/
  | marks (count : Nat)
  deriving DecidableEq, Repr

/-- What a reader does with a character. -/
inductive Action where
  /-- It adds to the content and goes on. -/
  | go (content : List Char) (place : Place)
  /-- The character ends the string. -/
  | close (content : List Char)
  /-- The string has ended in front of the character. -/
  | closed (content : List Char)
  | refuse

/-- A character that may stand for itself. -/
def isPlain (c : Char) : Bool := c = '\t' || (0x20 ≤ c.toNat && c.toNat ≠ 0x7F)

/-- The character that a letter behind a backslash stands for. -/
def escaped? : Char → Option Char
  | '\x22' => some '\x22'
  | '\x5c' => some '\x5c'
  | 'b' => some '\x08'
  | 'f' => some '\x0c'
  | 'n' => some '\n'
  | 'r' => some '\r'
  | 't' => some '\t'
  | _ => none

/-- Inside a string. -/
def insideStep (style : Style) (c : Char) : Action :=
  if c = style.mark then if style.multiline then .go [] (.marks 1) else .close []
  else if c = '\x5c' ∧ style.escapes = true then .go [] .escape
  else if c = '\n' then if style.multiline then .go [c] .inside else .refuse
  else if isPlain c then .go [c] .inside
  else .refuse

/-- Behind a backslash. -/
def escapeStep (style : Style) (c : Char) : Action :=
  if c = 'u' then .go [] (.digits 3 0)
  else if c = 'U' then .go [] (.digits 7 0)
  else if style.multiline ∧ (c = ' ' ∨ c = '\t') then .go [] .lineEnd
  else if style.multiline ∧ c = '\n' then .go [] .fold
  else match escaped? c with
    | some e => .go [e] .inside
    | none => .refuse

/-- In an escape by code point. -/
def digitStep (more value : Nat) (c : Char) : Action :=
  match Text.hexDigit? c with
  | none => .refuse
  | some d =>
    match more with
    | more + 1 => .go [] (.digits more (16 * value + d))
    | 0 => match Text.character? (16 * value + d) with
      | some e => .go [e] .inside
      | none => .refuse

/-- Behind marks in a row: three close the string, and two more in front of these belong to it. -/
def marksStep (style : Style) (count : Nat) (c : Char) : Action :=
  if c = style.mark then
    if count < 4 then .go [] (.marks (count + 1)) else .close [style.mark, style.mark]
  else if 3 ≤ count then .closed (List.replicate (count - 3) style.mark)
  else match insideStep style c with
    | .go content place => .go (List.replicate count style.mark ++ content) place
    | _ => .refuse

/-- What the reader does with the next character. -/
def step (style : Style) (place : Place) (c : Char) : Action :=
  match place with
  | .start => if c = '\n' then .go [] .inside else insideStep style c
  | .inside => insideStep style c
  | .escape => escapeStep style c
  | .digits more value => digitStep more value c
  | .lineEnd =>
    if c = ' ' ∨ c = '\t' then .go [] .lineEnd else if c = '\n' then .go [] .fold else .refuse
  | .fold => if c = ' ' ∨ c = '\t' ∨ c = '\n' then .go [] .fold else insideStep style c
  | .marks count => marksStep style count c

/-- The content of a string from some place on, and the text behind the string. -/
def readFrom (style : Style) : Place → List Char → Option (List Char × List Char)
  | .marks count, [] =>
    if 3 ≤ count then some (List.replicate (count - 3) style.mark, []) else none
  | _, [] => none
  | place, c :: rest =>
    match step style place c with
    | .go content place => (readFrom style place rest).map fun (t, r) => (content ++ t, r)
    | .close content => some (content, rest)
    | .closed content => some (content, c :: rest)
    | .refuse => none

/-- The content of a string whose opening marks have been read, and the text behind it. -/
def read (style : Style) (text : List Char) : Option (List Char × List Char) :=
  readFrom style (if style.multiline then .start else .inside) text

theorem length_readFrom {style : Style} {place : Place} {text content rest : List Char}
    (h : readFrom style place text = some (content, rest)) : rest.length ≤ text.length := by
  induction text generalizing place content rest with
  | nil =>
    unfold readFrom at h
    split at h
    · split at h <;> simp_all
    · simp at h
    · simp_all
  | cons c cs ih =>
    rw [readFrom] at h
    · split at h
      · obtain ⟨⟨t, r⟩, hr, he⟩ := Option.map_eq_some_iff.1 h
        simp only [Prod.mk.injEq] at he
        exact Nat.le_succ_of_le (he.2 ▸ ih hr)
      · simp only [Option.some.injEq, Prod.mk.injEq] at h
        simp [← h.2]
      · simp only [Option.some.injEq, Prod.mk.injEq] at h
        simp [← h.2]
      · simp at h

theorem length_read {style : Style} {text content rest : List Char}
    (h : read style text = some (content, rest)) : rest.length ≤ text.length :=
  length_readFrom h

/-! ## Writing -/

/-- How one character is written between double quotes. -/
def writeChar (c : Char) : List Char :=
  if c = '\x22' ∨ c = '\x5c' then ['\x5c', c]
  else if isPlain c then [c]
  else '\x5c' :: 'u' :: Text.hexadecimal 4 c.toNat

/-- A string on one line between double quotes. -/
def write (content : List Char) : List Char :=
  '\x22' :: (content.flatMap writeChar ++ ['\x22'])

end Liveness.Toml.Quotation
