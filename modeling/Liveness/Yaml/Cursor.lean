import Liveness.Text.Hexadecimal

/-! # Places in a document

* `Cursor`: the rest of a text, and where in the text it begins.
* `Gap`: what stands between two runs of characters, and the text that it stands for.

Where a line begins and how far it is indented has a meaning, so each reader keeps count of it.
-/

namespace Liveness.Yaml
set_option autoImplicit false

/-- The characters that end a line. -/
def isBreak (c : Char) : Bool := c = '\n' || c = '\r'

/-- Space and tab. -/
def isBlank (c : Char) : Bool := c = ' ' || c = '\t'

/-- Blanks and the ends of lines. -/
def isSpace (c : Char) : Bool := isBlank c || isBreak c

/-- Letters, digits, hyphens and underscores. -/
def isNameChar (c : Char) : Bool := c.isAlphanum || c = '-' || c = '_'

/-- The marks of lists and maps in brackets. -/
def isFlowMark (c : Char) : Bool := c = ',' || c = '[' || c = ']' || c = '\x7b' || c = '\x7d'

/-- The number of characters that end the line with which a text begins. -/
def breakLength : List Char → Nat
  | '\r' :: '\n' :: _ => 2
  | c :: _ => if isBreak c then 1 else 0
  | [] => 0

/-- The rest of a text, and the number of characters, of lines and of characters in the line before
it. A carriage return alone does not begin a new line. -/
structure Cursor where
  text : List Char
  index : Nat := 0
  line : Nat := 0
  column : Nat := 0
  deriving Repr

namespace Cursor

/-- The place behind the next character. -/
def next (c : Cursor) : Cursor :=
  match c.text with
  | [] => c
  | '\n' :: rest => ⟨rest, c.index + 1, c.line + 1, 0⟩
  | _ :: rest => ⟨rest, c.index + 1, c.line, c.column + 1⟩

/-- The place behind some characters. -/
def skip (c : Cursor) : Nat → Cursor
  | 0 => c
  | n + 1 => c.next.skip n

/-- The place from which a given text is left. -/
def goTo (c : Cursor) (rest : List Char) : Cursor := c.skip (c.text.length - rest.length)

/-- The place behind characters of a kind. -/
def skipWhile (c : Cursor) (p : Char → Bool) : Cursor := c.skip (c.text.takeWhile p).length

/-- The place behind the end of a line. -/
def skipBreak (c : Cursor) : Cursor := c.skip (breakLength c.text)

/-- The place at the end of the line if a comment begins here. -/
def skipComment (c : Cursor) : Cursor :=
  if c.text.head? = some '#' then c.skipWhile (!isBreak ·) else c

/-- Whether white space or the end of the text comes behind some characters. -/
def spaceAt (c : Cursor) (n : Nat) : Bool := c.text[n]?.all isSpace

/-- Whether a line begins here with three of a mark that stand alone. -/
def hasMark (c : Cursor) (mark : Char) : Bool :=
  c.column = 0 && c.text.take 3 = [mark, mark, mark] && c.spaceAt 3

/-- Whether a line begins here that separates documents. -/
def separates (c : Cursor) : Bool := c.hasMark '-' || c.hasMark '.'

end Cursor

/-! ## Gaps -/

/-- Blanks or ends of lines between two runs of characters. -/
structure Gap where
  blanks : List Char := []
  /-- Whether a line has ended, so that blanks do not count any more. -/
  broken : Bool := false
  /-- Whether the first end of a line was not escaped. -/
  folds : Bool := false
  /-- The number of further ends of lines. -/
  more : Nat := 0
  deriving Repr

namespace Gap

/-- What a gap stands for: a single end of a line is a space, of several the first does not
count. -/
def text (g : Gap) : List Char :=
  if g.broken then if g.folds && g.more = 0 then [' '] else List.replicate g.more '\n'
  else g.blanks

/-- A gap with what follows here. Where a line is not indented as far as it must be, a tab is
refused. -/
def read? (indent : Int) : Nat → Gap → Cursor → Option (Gap × Cursor)
  | 0, g, c => some (g, c)
  | n + 1, g, c =>
    match c.text with
    | [] => some (g, c)
    | d :: _ =>
      if isBlank d then
        if !g.broken then read? indent n { g with blanks := g.blanks ++ [d] } c.next
        else if d = '\t' && c.column < indent then none
        else read? indent n g c.next
      else if isBreak d then
        let g := if g.broken then { g with more := g.more + 1 } else ⟨[], true, true, 0⟩
        read? indent n g c.skipBreak
      else some (g, c)

end Gap
end Liveness.Yaml
