import Liveness.Toml.Entry
import Liveness.Toml.Scalar

/-! # Documents

* `Document.key?`: a dotted key.
* `Document.value`: a value, which may run over several lines inside brackets.
* `Document.Section`: a header with the assignments below it.
* `Document.ofTokens?`: the table that a document writes.
* `parse?`: the same from its text.
-/

namespace Liveness.Toml
set_option autoImplicit false

namespace Document
open Entry (Entries)

/-! ## White space -/

/-- The tokens behind an optional run of blanks. -/
def skipBlank : List Token → List Token
  | .blank _ :: rest => rest
  | tokens => tokens

/-- The tokens behind blanks, line breaks and comments. -/
def skipLines : List Token → List Token
  | .blank _ :: rest | .newline :: rest | .comment :: rest => skipLines rest
  | tokens => tokens

/-- The tokens behind the end of a line, which may have a comment. -/
def lineEnd? (tokens : List Token) : Option (List Token) :=
  match skipBlank tokens with
  | [] => some []
  | .newline :: rest => some rest
  | .comment :: .newline :: rest => some rest
  | [.comment] => some []
  | _ => none

theorem length_skipBlank (tokens : List Token) : (skipBlank tokens).length ≤ tokens.length := by
  unfold skipBlank
  split <;> simp

/-! ## Keys -/

/-- One part of a key: a word or a quoted string on one line. -/
def part? : Token → Option String
  | .word w => some (String.ofList w)
  | .quoted t false => some (String.ofList t)
  | _ => none

/-- The parts of a key behind its first, and the tokens behind the key. -/
def moreParts? (tokens : List Token) : Option (List String × List Token) :=
  match _h : skipBlank tokens with
  | .period :: behind =>
    match _h' : skipBlank behind with
    | t :: rest => do
      let name ← part? t
      let (names, rest) ← moreParts? rest
      some (name :: names, rest)
    | [] => none
  | rest => some ([], rest)
termination_by tokens.length
decreasing_by
  have h1 := length_skipBlank tokens
  have h2 := length_skipBlank behind
  rw [_h] at h1; rw [_h'] at h2
  simp only [List.length_cons] at h1 h2
  omega

/-- A dotted key, and the tokens behind it. -/
def key? : List Token → Option (String × List String × List Token)
  | t :: rest => do
    let name ← part? t
    let (names, rest) ← moreParts? rest
    some (name, names, rest)
  | [] => none

/-- The key and the equals sign of an assignment, and the tokens of the value. -/
def target? (tokens : List Token) : Option (String × List String × List Token) := do
  let (name, names, rest) ← key? tokens
  match rest with
  | .equals :: rest => some (name, names, skipBlank rest)
  | _ => none

/-! ## Values -/

mutual
/-- A value, and the tokens behind it. -/
def value : Nat → List Token → Option (Entry × List Token)
  | 0, _ => none
  | n + 1, tokens =>
    match tokens with
    | .quoted t _ :: rest => some (.value (.text (String.ofList t)), rest)
    | .word w :: rest => Scalar.ofWord? w rest
    | .plus :: .word w :: rest => Scalar.numeral? w rest
    | .leftBracket :: rest => (items n rest).map fun (es, rest) => (.list es, rest)
    | .leftBrace :: rest =>
      match skipBlank rest with
      | .rightBrace :: rest => some (.inline [], rest)
      | rest => (pairs n [] rest).map fun (es, rest) => (.inline es, rest)
    | _ => none

/-- The items of a list up to its closing bracket; a comma may follow the last. -/
def items : Nat → List Token → Option (List Entry × List Token)
  | 0, _ => none
  | n + 1, tokens =>
    match skipLines tokens with
    | .rightBracket :: rest => some ([], rest)
    | tokens => do
      let (e, rest) ← value n tokens
      match skipLines rest with
      | .comma :: rest => (items n rest).map fun (es, rest) => (e :: es, rest)
      | .rightBracket :: rest => some ([e], rest)
      | _ => none

/-- The assignments of a table on one line up to its closing brace. -/
def pairs : Nat → Entries → List Token → Option (Entries × List Token)
  | 0, _, _ => none
  | n + 1, entries, tokens => do
    let (name, names, rest) ← target? tokens
    let (e, rest) ← value n rest
    let entries ← Entry.assign? e name names entries
    match skipBlank rest with
    | .rightBrace :: rest => some (entries, rest)
    | .comma :: rest => pairs n entries (skipBlank rest)
    | _ => none
end

/-! ## Sections -/

/-- A header and the assignments below it. The first section of a document has no header. -/
structure Section where
  path : List String
  many : Bool
  body : Entries

/-- The header behind its opening bracket, and the tokens of the next line. -/
def header? (tokens : List Token) : Option (Section × List Token) :=
  let (many, tokens) := match tokens with
    | .leftBracket :: rest => (true, rest)
    | _ => (false, tokens)
  match key? (skipBlank tokens) with
  | some (name, names, .rightBracket :: rest) =>
    match many, rest with
    | false, _ => (lineEnd? rest).map (⟨name :: names, false, []⟩, ·)
    | true, .rightBracket :: rest => (lineEnd? rest).map (⟨name :: names, true, []⟩, ·)
    | true, _ => none
  | _ => none

/-- One assignment below a header, and the tokens of the next line. -/
def assignment? (bound : Nat) (s : Section) (tokens : List Token) :
    Option (Section × List Token) := do
  let (name, names, rest) ← target? tokens
  let (e, rest) ← value bound rest
  let body ← Entry.assign? e name names s.body
  some ({ s with body }, ← lineEnd? rest)

/-- The sections behind some others, which are the newest first. -/
def sections? (bound : Nat) : Nat → Section → List Section → List Token → Option (List Section)
  | 0, _, _, _ => none
  | n + 1, current, done, tokens =>
    match skipLines tokens with
    | [] => some (current :: done)
    | .leftBracket :: rest => do
      let (next, rest) ← header? rest
      sections? bound n next (current :: done) rest
    | tokens => do
      let (current, rest) ← assignment? bound current tokens
      sections? bound n current done rest

/-- A section added to the tables before it. -/
def addTo? (entries : Entries) (s : Section) : Option Entries :=
  match s.path with
  | [] => some (entries ++ s.body)
  | name :: names => Entry.insert? s.many s.body name names entries

/-- The tables that sections make. Where the first section is a date or a time of day, the others do
not count. -/
def entries? : List Section → Option Entries
  | [] => some []
  | first :: more =>
    if Entry.isMoment first.body then some first.body else more.foldlM addTo? first.body

/-- The table that the tokens of a document write; a date or a time of day instead of it has no
members. A value is no deeper, and there are no more lines, than there are tokens. -/
def ofTokens? (tokens : List Token) : Option Members := do
  let bound := tokens.length + 1
  let sections ← sections? bound bound ⟨[], false, []⟩ [] tokens
  let entries ← entries? sections.reverse
  match ← Entry.close? entries (Entry.members? entries) with
  | .table members => some members
  | _ => some []

end Document

/-- A text with a single character at the end of each line. -/
def foldLineEnds : List Char → List Char
  | '\r' :: '\n' :: rest => '\n' :: foldLineEnds rest
  | c :: rest => c :: foldLineEnds rest
  | [] => []

/-- The mark of byte order, which may stand in front of a document. -/
def byteOrderMark : Char := Char.ofNat 0xFEFF

/-- A text without the mark of byte order in front. -/
def dropMark : List Char → List Char
  | c :: rest => if c = byteOrderMark then rest else c :: rest
  | [] => []

/-- The table that a document writes. -/
def parse? (text : List Char) : Option Members :=
  (Token.ofText? (dropMark (foldLineEnds text))).bind Document.ofTokens?

end Liveness.Toml
