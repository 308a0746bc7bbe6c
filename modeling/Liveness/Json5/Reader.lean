import Liveness.Json.Reader
import Liveness.Number.Floating
import Liveness.Text.Alphanumeric
import Liveness.Text.Blank

/-! # Reading JSON with comments and free keys

* `Json5.skip?`: a text without the white space and comments that it begins with.
* `Json5.string?`: the content of a string.
* `Json5.number?`: the value of a number.
* `Json5.read?`: the value that a text writes.

Beyond JSON there are comments, strings between single quotes, keys without quotes, commas behind
the last part, a sign or a bare point with numbers, numbers in base sixteen, and words for numbers
that are not finite.
-/

namespace Liveness.Json5
set_option autoImplicit false

/-! ## Between tokens -/

/-- The ends of lines. -/
def isLineEnd (c : Char) : Bool :=
  c = '\n' || c = '\r' || c.toNat = 0x2028 || c.toNat = 0x2029

/-- White space between tokens, the mark of byte order among it. -/
def isSpace (c : Char) : Bool := (Text.isBlank c && c.toNat ≠ 0x85) || c.toNat = 0xFEFF

/-- The text behind the end of a comment of several lines. -/
def commentEnd? : List Char → Option (List Char)
  | '*' :: '/' :: rest => some rest
  | _ :: rest => commentEnd? rest
  | [] => none

/-- A text without the white space and comments that it begins with. -/
def skipFrom? : Nat → List Char → Option (List Char)
  | 0, text => some text
  | n + 1, text =>
    match text.dropWhile isSpace with
    | '/' :: '*' :: rest => (commentEnd? rest).bind (skipFrom? n)
    | '/' :: '/' :: rest => skipFrom? n (rest.dropWhile (!isLineEnd ·))
    | rest => some rest

/-- A text without the white space and comments that it begins with. Each takes a character. -/
def skip? (text : List Char) : Option (List Char) := skipFrom? (text.length + 1) text

/-! ## Strings -/

/-- The character that stands for another one behind a backslash. -/
def escaped (c : Char) : Char :=
  match c with
  | 'b' => '\x08'
  | 'f' => '\x0c'
  | 'n' => '\n'
  | 'r' => '\r'
  | 't' => '\t'
  | 'v' => '\x0b'
  | c => c

/-- The characters that a backslash in front of them leaves without meaning. -/
def isReserved (c : Char) : Bool := c.isDigit || c = 'x' || c = 'u'

/-- The content of a string up to its mark, and the text behind it. `high` is the first half of a
pair of code units that waits for the second. -/
def string? (mark : Char) (high : Option Nat) : List Char → Option (List Char × List Char)
  | '\x5c' :: 'u' :: a :: b :: c :: d :: rest =>
    match Json.fourDigits? a b c d, high with
    | none, _ => none
    | some unit, some h =>
      if Json.isLow unit then
        let code := 0x10000 + (h - 0xD800) * 0x400 + (unit - 0xDC00)
        (string? mark none rest).map fun (t, r) => (Char.ofNat code :: t, r)
      else none
    | some unit, none =>
      if Json.isHigh unit then string? mark (some unit) rest
      else (Text.character? unit).bind fun e =>
        (string? mark none rest).map fun (t, r) => (e :: t, r)
  | '\x5c' :: '\r' :: '\n' :: rest => string? mark high rest
  | '\x5c' :: 'x' :: a :: b :: rest =>
    match [a, b].mapM Text.hexDigit?, high with
    | some digits, none =>
      (string? mark none rest).map fun (t, r) => (Char.ofNat (digits.foldl (16 * · + ·) 0) :: t, r)
    | _, _ => none
  | '\x5c' :: c :: rest =>
    if isLineEnd c then string? mark high rest
    else if high.isSome then none
    else if c = '0' then (string? mark none rest).map fun (t, r) => ('\x00' :: t, r)
    else if isReserved c then none
    else (string? mark none rest).map fun (t, r) => (escaped c :: t, r)
  | c :: rest =>
    if high.isSome then none
    else if c = mark then some ([], rest)
    else if c = '\n' || c = '\r' || c = '\x5c' then none
    else (string? mark none rest).map fun (t, r) => (c :: t, r)
  | [] => none

/-! ## Numbers -/

/-- The characters of a decimal number in front of an exponent: digits without a zero before others,
and a point. -/
def mantissa (text : List Char) : List Char × List Char :=
  let whole := text.takeWhile Char.isDigit
  let whole := if whole.head? = some '0' then ['0'] else whole
  match text.drop whole.length with
  | '.' :: rest =>
    let fraction := rest.takeWhile Char.isDigit
    if whole = [] && fraction = [] then ([], text)
    else (whole ++ '.' :: fraction, rest.drop fraction.length)
  | rest => (whole, rest)

/-- The characters of an exponent, if there is one. -/
def exponent (text : List Char) : List Char × List Char :=
  match text with
  | c :: rest =>
    let sign := (Floating.sign rest).2
    let digits := sign.takeWhile Char.isDigit
    if (c = 'e' || c = 'E') && digits ≠ [] then
      (text.take (text.length - sign.length + digits.length), sign.drop digits.length)
    else ([], text)
  | [] => ([], text)

/-- The value of a decimal number from its characters: an integer of 64 bits, or a finite number in
double precision if it has a point or an exponent. -/
def decimal? (sign digits : List Char) : Option Datum :=
  if digits.all Char.isDigit then
    let n : Int := Nat.ofDigitChars 10 digits 0
    let n := if sign = ['-'] then -n else n
    if Decimal.isSigned n then some (.integer n) else none
  else
    match Floating.read? (sign ++ digits) with
    | some x => if x.isFinite then some (.number x) else none
    | none => none

/-- The value of digits in base sixteen, which have no sign and fit 32 bits. -/
def hexadecimal? (sign digits : List Char) : Option Datum := do
  let ds ← digits.mapM Text.hexDigit?
  let n : Nat := ds.foldl (16 * · + ·) 0
  if sign = [] && digits ≠ [] && n < 0x100000000 then some (.integer n) else none

/-- The words for numbers that are not finite, which have no plus sign. -/
def word? (sign : List Char) : List Char → Option (Datum × List Char)
  | 'I' :: 'n' :: 'f' :: 'i' :: 'n' :: 'i' :: 't' :: 'y' :: rest =>
    if sign = ['+'] then none else some (.number (.infinite (sign = ['-'])), rest)
  | 'N' :: 'a' :: 'N' :: rest => if sign = ['+'] then none else some (.number .nan, rest)
  | _ => none

/-- A number, and the text behind it. -/
def number? (text : List Char) : Option (Datum × List Char) :=
  let sign := text.takeWhile fun c => c = '+' || c = '-'
  if 1 < sign.length then none
  else match text.drop sign.length with
    | '0' :: x :: rest =>
      let hex := rest.takeWhile fun c => (Text.hexDigit? c).isSome
      if (x = 'x' || x = 'X') && hex ≠ [] then
        (hexadecimal? sign hex).map (·, rest.drop hex.length)
      else digits? sign ('0' :: x :: rest)
    | rest => (word? sign rest).or (digits? sign rest)
where
  /-- A decimal number behind its sign. -/
  digits? (sign text : List Char) : Option (Datum × List Char) :=
    let (digits, rest) := mantissa text
    if digits = [] then none
    else
      let (power, rest) := exponent rest
      (decimal? sign (digits ++ power)).map (·, rest)

/-! ## Keys -/

/-- Whether a key without quotes may begin with a character. -/
def beginsKey (c : Char) : Bool := c = '$' || c = '_' || Text.isAlphabetic c

/-- Whether a key without quotes may go on with a character. -/
def isKeyChar (c : Char) : Bool :=
  beginsKey c || Text.isAlphanumeric c || c.toNat = 0x200C || c.toNat = 0x200D

/-- A key without quotes, and the text behind it. -/
def bareKey? (first : Bool) : List Char → Option (List Char × List Char)
  | '\x5c' :: 'u' :: a :: b :: c :: d :: rest => do
    let e ← (Json.fourDigits? a b c d).bind Text.character?
    (bareKey? false rest).map fun (t, r) => (e :: t, r)
  | c :: rest =>
    if (if first then beginsKey c else isKeyChar c) then
      (bareKey? false rest).map fun (t, r) => (c :: t, r)
    else if first then none
    else some ([], c :: rest)
  | [] => if first then none else some ([], [])

/-- A key, and the text behind it. -/
def key? : List Char → Option (List Char × List Char)
  | '\x22' :: rest => string? '\x22' none rest
  | '\x27' :: rest => string? '\x27' none rest
  | text => bareKey? true text

/-! ## Values -/

mutual
/-- A value at the start of a text, and the text behind it. -/
def value? : Nat → List Char → Option (Datum × List Char)
  | 0, _ => none
  | n + 1, text =>
    match text with
    | '\x22' :: rest => (string? '\x22' none rest).map fun (t, r) => (.text (String.ofList t), r)
    | '\x27' :: rest => (string? '\x27' none rest).map fun (t, r) => (.text (String.ofList t), r)
    | '[' :: rest => (items? n rest).map fun (ds, r) => (.list ds, r)
    | '\x7b' :: rest => (members? n [] rest).map fun (ms, r) => (.table ms, r)
    | _ => (Json.word? text).or (number? text)

/-- The items of an array up to its closing bracket. -/
def items? : Nat → List Char → Option (List Datum × List Char)
  | 0, _ => none
  | n + 1, text => do
    match ← skip? text with
    | ']' :: rest => some ([], rest)
    | text =>
      let (d, rest) ← value? n text
      match ← skip? rest with
      | ',' :: rest => (items? n rest).map fun (ds, r) => (d :: ds, r)
      | ']' :: rest => some ([d], rest)
      | _ => none

/-- The members of an object up to its closing brace. -/
def members? : Nat → Members → List Char → Option (Members × List Char)
  | 0, _, _ => none
  | n + 1, done, text => do
    match ← skip? text with
    | '\x7d' :: rest => some (done, rest)
    | text =>
      let (name, rest) ← key? text
      match ← skip? rest with
      | ':' :: rest =>
        let (d, rest) ← value? n (← skip? rest)
        let done := done.set (String.ofList name) d
        match ← skip? rest with
        | ',' :: rest => members? n done rest
        | '\x7d' :: rest => some (done, rest)
        | _ => none
      | _ => none
end

/-- The value that a text writes. A text has no more values than characters. -/
def read? (text : List Char) : Option Datum := do
  let (d, rest) ← value? (text.length + 1) (← skip? text)
  if (← skip? rest) = [] then some d else none

end Liveness.Json5
