import Liveness.Datum
import Liveness.Text.Blank
import Liveness.Text.Hexadecimal

/-! # Sections of keys and texts

* `Ini.run?`: a run of characters up to one that ends it, with escapes.
* `Ini.value?`: the value behind the mark of a key.
* `Ini.parse?`: the table that a document writes.

A document has keys and values with `=` or `:` between them, below the headers of their sections. A
key goes on until its mark, even beyond the end of a line; a value ends with its line. Comments
begin with `;` or `#` in the first column. All values are text.
-/

namespace Liveness.Ini
set_option autoImplicit false

/-! ## Characters -/

/-- The character that a letter behind a backslash stands for; all but the letters here stand for
themselves, and a line feed for nothing. -/
def escaped : Char → List Char
  | '0' => ['\x00']
  | 'a' => ['\x07']
  | 'b' => ['\x08']
  | 't' => ['\t']
  | 'r' => ['\r']
  | 'n' => ['\n']
  | '\n' => []
  | c => [c]

/-- The character whose code point four digits write; the first may be a plus sign instead. -/
def byCode? (a b c d : Char) : Option Char := do
  let digits ← (if a = '+' then [b, c, d] else [a, b, c, d]).mapM Text.hexDigit?
  Text.character? (digits.foldl (16 * · + ·) 0)

/-- A run of characters up to one that ends it, which may be the end of the text if `atEnd` says so,
and the text from there. -/
def run? (ends : Char → Bool) (atEnd : Bool) : List Char → Option (List Char × List Char)
  | [] => if atEnd then some ([], []) else none
  | '\x5c' :: 'x' :: a :: b :: c :: d :: rest => do
    let e ← byCode? a b c d
    (run? ends atEnd rest).map fun (t, r) => (e :: t, r)
  | '\x5c' :: c :: rest =>
    if c = 'x' then none else (run? ends atEnd rest).map fun (t, r) => (escaped c ++ t, r)
  | ['\x5c'] => none
  | c :: rest =>
    if ends c then some ([], c :: rest) else (run? ends atEnd rest).map fun (t, r) => (c :: t, r)

/-- The rest of a line. -/
def line? (text : List Char) : Option (List Char × List Char) :=
  run? (fun c => c = '\n' || c = '\r') true text

/-! ## Values and sections -/

/-- A value between quotes with what follows on its line. -/
def quoted? (mark : Char) (text : List Char) : Option (List Char × List Char) := do
  let (content, rest) ← run? (· = mark) false text
  (line? (rest.drop 1)).map fun (t, r) => (content ++ t, r)

/-- The value behind the mark of a key, without blanks at its ends. -/
def value? (text : List Char) : Option (List Char × List Char) :=
  let found := match text.dropWhile fun c => Text.isBlank c && c ≠ '\n' && c ≠ '\r' with
    | '\x22' :: rest => quoted? '\x22' rest
    | '\x27' :: rest => quoted? '\x27' rest
    | rest => line? rest
  found.map fun (t, r) => (Text.trim t, r)

/-- The sections of a document: what stands before any header, and the last section of each name. -/
structure Sections where
  name : Option String := none
  before : Members := []
  named : List (String × Members) := []

/-- A section that begins; one of the same name that has ended does not count any more. -/
def Sections.begin (s : Sections) (name : String) : Sections :=
  { s with name := some name, named := s.named.filter (·.1 ≠ name) ++ [(name, [])] }

/-- One more value in the present section. -/
def Sections.add (s : Sections) (key : String) (value : Datum) : Sections :=
  match s.name with
  | none => { s with before := s.before.set key value }
  | some name =>
    { s with named := s.named.map fun (n, ms) => (n, if n = name then ms.set key value else ms) }

/-- The table of all sections. -/
def Sections.table (s : Sections) : Members :=
  s.named.foldl (fun ms (name, members) => ms.set name (.table members)) s.before

/-! ## Documents -/

/-- Where in a line the text behind some of it begins. -/
def column (start : Nat) : List Char → Nat
  | [] => start
  | c :: text => column (if c = '\n' then 0 else start + 1) text

/-- The column in which the rest of a text begins. -/
def columnOf (whole rest : List Char) : Nat := column 0 (whole.take (whole.length - rest.length))

/-- The sections that a text adds to some others. `key` is the one that has just been read. -/
def sections? (whole : List Char) : Nat → Sections → String → List Char → Option Sections
  | 0, _, _, _ => none
  | n + 1, s, key, text =>
    match text.dropWhile Text.isBlank with
    | [] => some s
    | '[' :: rest => do
      let (name, rest) ← run? (· = ']') false rest
      sections? whole n (s.begin (String.ofList (Text.trim name))) key (rest.drop 1)
    | c :: rest =>
      if c = ';' || c = '#' then
        if columnOf whole (c :: rest) = 0 then
          sections? whole n s key ((rest.dropWhile (· ≠ '\n')).drop 1)
        else none
      else if c = '=' || c = ':' then
        if key = "" then none
        else do
          let (v, rest) ← value? rest
          sections? whole n (s.add key (.text (String.ofList v))) "" rest
      else do
        let (k, rest) ← run? (fun c => c = '=' || c = ':') false (c :: rest)
        sections? whole n s (String.ofList (Text.trim k)) rest

/-- The table that a document writes. Each of its parts takes a character. -/
def parse? (text : List Char) : Option Members :=
  (sections? text (text.length + 1) {} "" text).map Sections.table

end Liveness.Ini
