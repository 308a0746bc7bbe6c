import Liveness.Yaml.Content
import Liveness.Yaml.Mark

/-! # Tokens

* `Token`: a mark, a text, or the beginning or end of an indented list or map.
* `Lexer`: the tokens of a part of a document, and what the rest of it depends on.
* `Lexer.step?`: the next token.
* `Token.ofText?`: all tokens of a document.

Whether a text is the key of a map shows at the colon behind it. Its place is kept as a candidate
till then, and the tokens that make it a key are put there afterwards.
-/

namespace Liveness.Yaml
set_option autoImplicit false

/-- A token of a document. -/
inductive Token where
  | directive
  | documentStart
  | documentEnd
  /-- An indented list begins. -/
  | listStart
  /-- An indented map begins. -/
  | mapStart
  /-- An indented list or map ends. -/
  | blockEnd
  | leftBracket
  | rightBracket
  | leftBrace
  | rightBrace
  /-- The hyphen in front of an item. -/
  | item
  | comma
  | key
  | value
  | alias (name : List Char)
  | anchor (name : List Char)
  /-- A tag, by its name if it is one of the core tags. -/
  | tag (core : Option (List Char))
  | text (plain : Bool) (content : List Char)
  deriving DecidableEq, Repr

/-- A place in which a key may begin. -/
structure Candidate where
  /-- The number of tokens before it. -/
  number : Nat
  index : Nat
  line : Nat
  column : Nat
  /-- Whether nothing but a key may begin there. -/
  required : Bool
  deriving Repr

/-- The tokens of a part of a document, and what the rest of it depends on. -/
structure Lexer where
  cursor : Cursor
  tokens : List Token := []
  /-- Whether a key may begin here. -/
  keyAllowed : Bool := true
  /-- The last candidate for a key in each of the brackets around, the innermost first, and
  outside. -/
  candidates : List (Option Candidate) := [none]
  /-- The indentation of the innermost list or map, and of those around it. -/
  indent : Int := -1
  outer : List Int := []
  /-- The number of brackets around. -/
  flow : Nat := 0
  /-- The index behind the last text between quotes, where a colon need not be followed by space. -/
  quoteEnd : Option Nat := none
  deriving Repr

namespace Lexer

/-- One more token. -/
def push (s : Lexer) (t : Token) : Lexer := { s with tokens := s.tokens ++ [t] }

/-- A token put behind a given number of others. -/
def insert (s : Lexer) (number : Nat) (t : Token) : Lexer :=
  { s with tokens := s.tokens.take number ++ t :: s.tokens.drop number }

/-- What follows some characters. -/
def skip (s : Lexer) (n : Nat) : Lexer := { s with cursor := s.cursor.skip n }

/-! ## Candidates for keys -/

/-- The last candidate of the innermost brackets. -/
def candidate? (s : Lexer) : Option Candidate := s.candidates.head?.join

/-- Another last candidate of the innermost brackets. -/
def setCandidate (s : Lexer) (c : Option Candidate) : Lexer :=
  { s with candidates := c :: s.candidates.drop 1 }

/-- Without the last candidate, which must not be required. -/
def dropCandidate? (s : Lexer) : Option Lexer :=
  if s.candidate?.any (·.required) then none else some (s.setCandidate none)

/-- A candidate here in place of the last one, if a key is allowed. -/
def markCandidate? (s : Lexer) : Option Lexer :=
  if s.keyAllowed then
    s.dropCandidate?.map fun s =>
      let c := s.cursor
      let required := 0 < s.flow && s.indent = c.column
      s.setCandidate (some ⟨s.tokens.length, c.index, c.line, c.column, required⟩)
  else some s

/-- The greatest distance of a colon from the beginning of its key. -/
def longestKey : Nat := 1024

/-- Whether a candidate is too far behind to be a key: on another line, or further than a key is
long. -/
def isStale (s : Lexer) (c : Candidate) : Bool :=
  c.line < s.cursor.line || c.index + longestKey < s.cursor.index

/-- Without the candidates that are too far behind, of which none must be required. -/
def dropStale? (s : Lexer) : Option Lexer :=
  if s.candidates.any fun c => c.any fun c => s.isStale c && c.required then none
  else some { s with candidates := s.candidates.map fun c => c.filter fun c => !s.isStale c }

/-! ## Indentation -/

/-- The lists and maps that end at an indentation: how many, and what is left. -/
def leave (column : Int) : Int → List Int → Nat × Int × List Int
  | indent, [] => (0, indent, [])
  | indent, i :: outer =>
    if indent > column then
      let (n, indent, outer) := leave column i outer
      (n + 1, indent, outer)
    else (0, indent, i :: outer)

/-- Ends the lists and maps that are indented further than a column. Inside of brackets indentation
has no meaning. -/
def unroll (s : Lexer) (column : Int) : Lexer :=
  if 0 < s.flow then s
  else
    let (n, indent, outer) := leave column s.indent s.outer
    { s with tokens := s.tokens ++ List.replicate n .blockEnd, indent, outer }

/-- Begins a list or a map behind a number of tokens if a column is indented further. -/
def roll (s : Lexer) (column number : Nat) (t : Token) : Lexer :=
  if s.flow = 0 && s.indent < column then
    { s.insert number t with indent := column, outer := s.indent :: s.outer }
  else s

/-! ## Between tokens -/

/-- Behind white space and comments. A tab counts as white space only where no key may begin. -/
def toToken : Nat → Lexer → Lexer
  | 0, s => s
  | n + 1, s =>
    match s.cursor.text with
    | ' ' :: _ => toToken n (s.skip 1)
    | '\t' :: _ => if 0 < s.flow || !s.keyAllowed then toToken n (s.skip 1) else s
    | '#' :: _ => toToken n { s with cursor := s.cursor.skipComment }
    | c :: _ =>
      if isBreak c then
        let s := { s with cursor := s.cursor.skipBreak }
        toToken n (if s.flow = 0 then { s with keyAllowed := true } else s)
      else s
    | [] => s

/-! ## Single tokens -/

/-- A mark that begins a list or a map in brackets. -/
def open? (s : Lexer) (t : Token) : Option Lexer := do
  let s ← s.markCandidate?
  if 255 ≤ s.flow then none
  else
    let s := { s with candidates := none :: s.candidates, flow := s.flow + 1, keyAllowed := true }
    some ((s.skip 1).push t)

/-- A mark that ends a list or a map in brackets. -/
def close? (s : Lexer) (t : Token) : Option Lexer := do
  let s ← s.dropCandidate?
  let s := if 0 < s.flow then
    { s with candidates := s.candidates.drop 1, flow := s.flow - 1 } else s
  some (({ s with keyAllowed := false }.skip 1).push t)

/-- A comma. -/
def comma? (s : Lexer) : Option Lexer :=
  s.dropCandidate?.map fun s => ({ s with keyAllowed := true }.skip 1).push .comma

/-- The hyphen in front of an item, which must not stand in brackets. -/
def item? (s : Lexer) : Option Lexer :=
  if 0 < s.flow || !s.keyAllowed then none
  else (s.roll s.cursor.column s.tokens.length .listStart).dropCandidate?.map fun s =>
    ({ s with keyAllowed := true }.skip 1).push .item

/-- The question mark in front of a key. -/
def key? (s : Lexer) : Option Lexer :=
  if s.flow = 0 && !s.keyAllowed then none
  else (s.roll s.cursor.column s.tokens.length .mapStart).dropCandidate?.map fun s =>
    ({ s with keyAllowed := s.flow = 0 }.skip 1).push .key

/-- The colon in front of a value. -/
def value? (s : Lexer) : Option Lexer :=
  match s.candidate? with
  | some c =>
    let s := (s.insert c.number .key).roll c.column c.number .mapStart
    some (({ s.setCandidate none with keyAllowed := false }.skip 1).push .value)
  | none =>
    if s.flow = 0 && !s.keyAllowed then none
    else
      let s := s.roll s.cursor.column s.tokens.length .mapStart
      some (({ s with keyAllowed := s.flow = 0 }.skip 1).push .value)

/-- The three marks between documents. -/
def separator? (s : Lexer) (t : Token) : Option Lexer :=
  (s.unroll (-1)).dropCandidate?.map fun s => ({ s with keyAllowed := false }.skip 3).push t

/-- A directive. -/
def directive? (s : Lexer) : Option Lexer := do
  let s ← (s.unroll (-1)).dropCandidate?
  let cursor ← Mark.directive? s.cursor
  some ({ s with keyAllowed := false, cursor }.push .directive)

/-- What may begin a key but has no other effect, read by a function on the text behind it. -/
def plainMark? {α : Type} (s : Lexer) (read : List Char → Option (α × List Char)) (skipped : Nat)
    (token : α → Token) : Option Lexer := do
  let s ← s.markCandidate?
  let (a, rest) ← read (s.cursor.text.drop skipped)
  some ({ s with keyAllowed := false, cursor := s.cursor.goTo rest }.push (token a))

/-- A tag, behind which there must be white space. -/
def tag? (s : Lexer) : Option Lexer := do
  let s ← s.plainMark? Mark.tag? 0 .tag
  if s.cursor.spaceAt 0 then some s else none

/-- A text of indented lines. -/
def block? (s : Lexer) (literal : Bool) : Option Lexer := do
  let s ← s.markCandidate?
  let (t, cursor) ← Content.block? literal s.indent s.cursor
  some ({ s with keyAllowed := true, cursor }.push (.text false t))

/-- A text between quotes. -/
def quoted? (s : Lexer) (single : Bool) : Option Lexer := do
  let s ← s.markCandidate?
  let (t, cursor) ← Content.quoted? single s.cursor
  some ({ s with keyAllowed := false, cursor, quoteEnd := some cursor.index }.push (.text false t))

/-- A text without quotes. -/
def plain? (s : Lexer) : Option Lexer := do
  let s ← s.markCandidate?
  let (t, broken, cursor) ← Content.plain? (0 < s.flow) (s.indent + 1) s.cursor
  some ({ s with keyAllowed := broken, cursor }.push (.text true t))

/-! ## All tokens -/

/-- Whether the colon that is here stands in front of a value. -/
def beginsValue (s : Lexer) : Bool :=
  s.cursor.spaceAt 1 ||
    (0 < s.flow && (s.cursor.text[1]?.any isFlowMark || s.quoteEnd = some s.cursor.index))

/-- The token that begins with a given character. -/
def first? (s : Lexer) (c : Char) : Option Lexer :=
  let spaced := s.cursor.spaceAt 1
  match c with
  | '[' => s.open? .leftBracket
  | '\x7b' => s.open? .leftBrace
  | ']' => s.close? .rightBracket
  | '\x7d' => s.close? .rightBrace
  | ',' => s.comma?
  | '-' => if spaced then s.item? else s.plain?
  | '?' => if spaced then s.key? else s.plain?
  | ':' => if s.beginsValue then s.value? else s.plain?
  | '*' => s.plainMark? Mark.name? 1 .alias
  | '&' => s.plainMark? Mark.name? 1 .anchor
  | '!' => s.tag?
  | '|' => if s.flow = 0 then s.block? true else s.plain?
  | '>' => if s.flow = 0 then s.block? false else s.plain?
  | '\x27' => s.quoted? true
  | '\x22' => s.quoted? false
  | '%' | '@' | '\x60' => none
  | _ => s.plain?

/-- The tokens at the end of a document. -/
def finish? (s : Lexer) : Option (List Token) :=
  (s.unroll (-1)).dropCandidate?.map (·.tokens)

/-- The tokens with the next one, or all of them at the end. -/
def step? (s : Lexer) : Option (Lexer ⊕ List Token) := do
  let s ← (toToken (s.cursor.text.length + 1) s).dropStale?
  let s := s.unroll s.cursor.column
  match s.cursor.text with
  | [] => s.finish?.map .inr
  | c :: _ =>
    if s.cursor.column = 0 && c = '%' then s.directive?.map .inl
    else if s.cursor.hasMark '-' then (s.separator? .documentStart).map .inl
    else if s.cursor.hasMark '.' then (s.separator? .documentEnd).map .inl
    else (s.first? c).map .inl

/-- All tokens. Each takes a character. -/
def run? : Nat → Lexer → Option (List Token)
  | 0, _ => none
  | n + 1, s =>
    match s.step? with
    | some (.inl s) => run? n s
    | some (.inr tokens) => some tokens
    | none => none

end Lexer

/-- All tokens of a document, which ends at the character with the code point zero. -/
def Token.ofText? (text : List Char) : Option (List Token) :=
  let text := text.takeWhile (· ≠ '\x00')
  Lexer.run? (text.length + 2) { cursor := { text } }

end Liveness.Yaml
