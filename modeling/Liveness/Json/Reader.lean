import Liveness.Json.Number
import Liveness.Text.Hexadecimal

/-! # Reading JSON

* `Json.string?`: the content of a string whose opening quote has been read.
* `Json.value`: a value, arrays and objects within a given depth.
* `Json.read?`: the value that a text writes.
-/

namespace Liveness.Json
set_option autoImplicit false

/-- White space between tokens. -/
def isSpace (c : Char) : Bool := c = ' ' || c = '\t' || c = '\n' || c = '\r'

/-- The text behind white space. -/
def skipSpace (text : List Char) : List Char := text.dropWhile isSpace

/-! ## Strings -/

/-- The character that a letter behind a backslash stands for. -/
def escaped? : Char → Option Char
  | '\x22' => some '\x22'
  | '\x5c' => some '\x5c'
  | '/' => some '/'
  | 'b' => some '\x08'
  | 'f' => some '\x0c'
  | 'n' => some '\n'
  | 'r' => some '\r'
  | 't' => some '\t'
  | _ => none

/-- The value of four hexadecimal digits. -/
def fourDigits? (a b c d : Char) : Option Nat := do
  let digits ← [a, b, c, d].mapM Text.hexDigit?
  some (digits.foldl (16 * · + ·) 0)

/-- Whether a code unit is the first half of a pair. -/
def isHigh (unit : Nat) : Bool := 0xD800 ≤ unit && unit < 0xDC00

/-- Whether a code unit is the second half of a pair. -/
def isLow (unit : Nat) : Bool := 0xDC00 ≤ unit && unit < 0xE000

/-- The content of a string, and the text behind its closing quote. `high` is the first half of a
pair of code units that waits for the second. -/
def string? (high : Option Nat) : List Char → Option (List Char × List Char)
  | '\x5c' :: 'u' :: a :: b :: c :: d :: rest =>
    match fourDigits? a b c d, high with
    | none, _ => none
    | some unit, some h =>
      if isLow unit then
        let code := 0x10000 + (h - 0xD800) * 0x400 + (unit - 0xDC00)
        (string? none rest).map fun (t, r) => (Char.ofNat code :: t, r)
      else none
    | some unit, none =>
      if isHigh unit then string? (some unit) rest
      else if isLow unit then none
      else (string? none rest).map fun (t, r) => (Char.ofNat unit :: t, r)
  | '\x5c' :: c :: rest =>
    match escaped? c, high with
    | some e, none => (string? none rest).map fun (t, r) => (e :: t, r)
    | _, _ => none
  | c :: rest =>
    if high.isSome then none
    else if c = '\x22' then some ([], rest)
    else if 0x20 ≤ c.toNat then (string? none rest).map fun (t, r) => (c :: t, r)
    else none
  | [] => none

/-! ## Values -/

/-- A word that is a value. -/
def word? : List Char → Option (Datum × List Char)
  | 'n' :: 'u' :: 'l' :: 'l' :: rest => some (.null, rest)
  | 't' :: 'r' :: 'u' :: 'e' :: rest => some (.flag true, rest)
  | 'f' :: 'a' :: 'l' :: 's' :: 'e' :: rest => some (.flag false, rest)
  | _ => none

mutual
/-- A value at the start of a text, and the text behind it. -/
def value : Nat → Nat → List Char → Option (Datum × List Char)
  | 0, _, _ => none
  | n + 1, depth, text =>
    match text with
    | '\x22' :: rest => (string? none rest).map fun (t, r) => (.text (String.ofList t), r)
    | '[' :: rest =>
      match depth, skipSpace rest with
      | 0, _ => none
      | _ + 1, ']' :: rest => some (.list [], rest)
      | depth + 1, rest => (items n depth rest).map fun (ds, r) => (.list ds, r)
    | '\x7b' :: rest =>
      match depth, skipSpace rest with
      | 0, _ => none
      | _ + 1, '\x7d' :: rest => some (.table [], rest)
      | depth + 1, rest => (members n depth [] rest).map fun (ms, r) => (.table ms, r)
    | c :: _ => if c = '-' || c.isDigit then Number.read? text else word? text
    | [] => none

/-- The items of an array up to its closing bracket. -/
def items : Nat → Nat → List Char → Option (List Datum × List Char)
  | 0, _, _ => none
  | n + 1, depth, text => do
    let (d, rest) ← value n depth (skipSpace text)
    match skipSpace rest with
    | ',' :: rest => (items n depth rest).map fun (ds, r) => (d :: ds, r)
    | ']' :: rest => some ([d], rest)
    | _ => none

/-- The members of an object up to its closing brace. -/
def members : Nat → Nat → Members → List Char → Option (Members × List Char)
  | 0, _, _, _ => none
  | n + 1, depth, done, text =>
    match skipSpace text with
    | '\x22' :: rest => do
      let (name, rest) ← string? none rest
      match skipSpace rest with
      | ':' :: rest =>
        let (d, rest) ← value n depth (skipSpace rest)
        let done := done.set (String.ofList name) d
        match skipSpace rest with
        | ',' :: rest => members n depth done rest
        | '\x7d' :: rest => some (done, rest)
        | _ => none
      | _ => none
    | _ => none
end

/-- The greatest depth of arrays and objects. -/
def maxDepth : Nat := 127

/-- The value that a text writes. A text has no more values than characters. -/
def read? (text : List Char) : Option Datum :=
  match value (text.length + 1) maxDepth (skipSpace text) with
  | some (d, rest) => if skipSpace rest = [] then some d else none
  | none => none

end Liveness.Json
