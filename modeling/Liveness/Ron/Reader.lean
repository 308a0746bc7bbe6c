import Liveness.Datum
import Liveness.Number.Floating
import Liveness.Text.Hexadecimal

/-! # Reading object notation

* `Ron.skip?`: a text without the white space and comments that it begins with.
* `Ron.text?`: a string, and `Ron.character?`: a character.
* `Ron.number?`: a number.
* `Ron.read?`: the value that a text writes.

Lists stand in brackets, maps in braces, and structures or tuples in parentheses, which may have a
name in front. A name alone holds nothing.
-/

namespace Liveness.Ron
set_option autoImplicit false

/-! ## Between tokens -/

/-- White space between tokens. -/
def isSpace (c : Char) : Bool := c = ' ' || c = '\n' || c = '\t' || c = '\r'

/-- The text behind the end of a comment of several lines, which may hold others. -/
def commentEnd? : Nat → List Char → Option (List Char)
  | 0, '*' :: '/' :: rest => some rest
  | depth + 1, '*' :: '/' :: rest => commentEnd? depth rest
  | depth, '/' :: '*' :: rest => commentEnd? (depth + 1) rest
  | depth, _ :: rest => commentEnd? depth rest
  | _, [] => none

/-- A text without the white space and comments that it begins with. -/
def skipFrom? : Nat → List Char → Option (List Char)
  | 0, text => some text
  | n + 1, text =>
    match text.dropWhile isSpace with
    | '/' :: '*' :: rest => (commentEnd? 0 rest).bind (skipFrom? n)
    | '/' :: '/' :: rest => skipFrom? n (rest.dropWhile (· ≠ '\n'))
    | '/' :: _ => none
    | rest => some rest

/-- A text without the white space and comments that it begins with. Each takes a character. -/
def skip? (text : List Char) : Option (List Char) := skipFrom? (text.length + 1) text

/-! ## Names -/

/-- Whether a name may begin with a character. -/
def beginsName (c : Char) : Bool := c.isAlpha || c = '_'

/-- Whether a name may go on with a character. -/
def isNameChar (c : Char) : Bool := c.isAlphanum || c = '_'

/-- Whether a name behind a number sign may have a character. -/
def isRawNameChar (c : Char) : Bool := isNameChar c || c = '.' || c = '+' || c = '-'

/-- A name, and the text behind it. -/
def name? : List Char → Option (List Char × List Char)
  | ['r'] | 'r' :: '\x22' :: _ | ['r', '#'] => none
  | 'r' :: '#' :: c :: rest =>
    if isRawNameChar c then
      some (c :: rest.takeWhile isRawNameChar, rest.dropWhile isRawNameChar)
    else none
  | c :: rest =>
    if beginsName c then some (c :: rest.takeWhile isNameChar, rest.dropWhile isNameChar) else none
  | [] => none

/-- The text behind a word, which must end there. -/
def word? (word text : List Char) : Option (List Char) :=
  let rest := text.drop word.length
  if word.isPrefixOf text && !rest.head?.any isNameChar then some rest else none

/-! ## Strings and characters -/

/-- The value of up to six hexadecimal digits, and the text behind them. -/
def code? (text : List Char) : Option (Nat × List Char) := do
  let written := (text.take 6).takeWhile (· ≠ '\x7d')
  let digits ← written.mapM Text.hexDigit?
  if digits = [] then none else some (digits.foldl (16 * · + ·) 0, text.drop written.length)

/-- The character behind a backslash, and the text behind it. -/
def escape? : List Char → Option (Char × List Char)
  | 'x' :: a :: b :: rest =>
    ([a, b].mapM Text.hexDigit?).map fun ds => (Char.ofNat (ds.foldl (16 * · + ·) 0), rest)
  | 'u' :: '\x7b' :: rest =>
    match code? rest with
    | some (n, '\x7d' :: rest) => (Text.character? n).map (·, rest)
    | _ => none
  | c :: rest =>
    match c with
    | '\x27' | '\x22' | '\x5c' => some (c, rest)
    | 'n' => some ('\n', rest)
    | 'r' => some ('\r', rest)
    | 't' => some ('\t', rest)
    | _ => none
  | [] => none

/-- The content of a string up to its quote, and the text behind it. -/
def text? : Nat → List Char → Option (List Char × List Char)
  | 0, _ => none
  | _ + 1, [] => none
  | n + 1, c :: rest =>
    if c = '\x22' then some ([], rest)
    else if c = '\x5c' then do
      let (e, rest) ← escape? rest
      (text? n rest).map fun (t, r) => (e :: t, r)
    else (text? n rest).map fun (t, r) => (c :: t, r)

/-- The content of a string without escapes up to its quote and as many number signs as began it. -/
def rawText? (hashes : List Char) : List Char → Option (List Char × List Char)
  | [] => none
  | c :: rest =>
    if c = '\x22' && hashes.isPrefixOf rest then some ([], rest.drop hashes.length)
    else (rawText? hashes rest).map fun (t, r) => (c :: t, r)

/-- A string whose first character is read, and the text behind it. -/
def string? : List Char → Option (List Char × List Char)
  | '\x22' :: rest => text? (rest.length + 1) rest
  | 'r' :: rest =>
    let hashes := rest.takeWhile (· = '#')
    match rest.drop hashes.length with
    | '\x22' :: rest => rawText? hashes rest
    | _ => none
  | _ => none

/-- A character whose opening quote is read, and the text behind it. -/
def character? : List Char → Option (Char × List Char)
  | '\x5c' :: rest =>
    match escape? rest with
    | some (c, '\x27' :: rest) => some (c, rest)
    | _ => none
  | c :: '\x27' :: rest => if c = '\x27' then none else some (c, rest)
  | _ => none

/-! ## Numbers -/

/-- The characters of an integer. -/
def isIntegerChar (c : Char) : Bool := (Text.hexDigit? c).isSome || c = '_'

/-- The characters of a number in double precision. -/
def isFloatChar (c : Char) : Bool :=
  c.isDigit || c = 'e' || c = 'E' || c = '.' || c = '+' || c = '-'

/-- A number in double precision, and the text behind it. -/
def float? (text : List Char) : Option (Datum × List Char) :=
  (Floating.read? (text.takeWhile isFloatChar)).map fun x =>
    (.number x, text.dropWhile isFloatChar)

/-- The base of an integer and its digits. -/
def base : List Char → Nat × List Char
  | '0' :: 'x' :: rest => (16, rest)
  | '0' :: 'b' :: rest => (2, rest)
  | '0' :: 'o' :: rest => (8, rest)
  | text => (10, text)

/-- The value of a run of digits with underscores among them, and the text behind it. -/
def digits? (text : List Char) : Option (Nat × List Char) := do
  let (b, text) := base text
  let run := text.takeWhile isIntegerChar
  let ds ← (run.filter (· ≠ '_')).mapM Text.hexDigit?
  if run ≠ [] && ds.all (· < b) then some (ds.foldl (b * · + ·) 0, text.dropWhile isIntegerChar)
  else none

/-- An integer of 64 bits, and the text behind it. One without a sign may be too large for a sign,
and is a number in double precision then. -/
def integer? (text : List Char) : Option (Datum × List Char) :=
  match text with
  | '-' :: rest => (digits? rest).bind fun (n, r) =>
    if n ≤ Decimal.signedLimit then some (.integer (-n), r) else none
  | '+' :: rest => (digits? rest).bind fun (n, r) =>
    if n < Decimal.signedLimit then some (.integer n, r) else none
  | _ => (digits? text).bind fun (n, r) =>
    if n < Decimal.signedLimit then some (.integer n, r)
    else if n < Decimal.unsignedLimit then some (.number (.ofDecimal false n 0), r)
    else none

/-- A number, and the text behind it. What is no integer may yet be a number in double precision. -/
def number? (text : List Char) : Option (Datum × List Char) :=
  let body := (Floating.sign text).2
  if (body.takeWhile isIntegerChar).length < (body.takeWhile isFloatChar).length then float? text
  else (integer? text).or (float? text)

/-! ## Values -/

/-- Whether the text in parentheses names its parts. -/
def isStructure (text : List Char) : Bool :=
  match name? text with
  | some (_, rest) => ((skip? rest).bind List.head?) = some ':'
  | none => false

/-- The words that are values. -/
def constant? (text : List Char) : Option (Datum × List Char) :=
  let named (word : String) (d : Datum) := (word? word.toList text).map (d, ·)
  (named "true" (.flag true)).or <| (named "false" (.flag false)).or <|
    (named "None" .null).or <| (named "inf" (.number (.infinite false))).or <|
    (named "-inf" (.number (.infinite true))).or <| named "NaN" (.number .nan)

/-- The text behind a comma, if there is one, and the white space around it. -/
def comma? (text : List Char) : Option (Bool × List Char) :=
  (skip? text).bind fun text =>
    match text with
    | ',' :: rest => (skip? rest).map (true, ·)
    | rest => some (false, rest)

/-- The texts that stand for a key: all but strings and characters are refused. -/
def keyText? : Datum → Option String
  | .text s => some s
  | _ => none

mutual
/-- A value at the start of a text, and the text behind it. `some` says that values may stand for
themselves where one is optional. -/
def value? : Nat → List Char → Option (Datum × List Char)
  | 0, _ => none
  | n + 1, text =>
    match constant? text, word? "Some".toList text with
    | some found, _ => some found
    | none, some rest => option? n rest
    | none, none =>
      match text with
      | '(' :: ')' :: rest => some (.null, rest)
      | '[' :: rest => (items? n ']' true rest).map fun (ds, r) => (.list ds, r)
      | '\x7b' :: rest => (members? n '\x7d' true [] rest).map fun (ms, r) => (.table ms, r)
      | '\x27' :: rest => (character? rest).map fun (c, r) => (.text (String.singleton c), r)
      | _ =>
        match name? text with
        | some (_, rest) => (skip? rest).bind (group? n)
        | none =>
          match text with
          | '(' :: _ => group? n text
          | '\x22' :: _ | 'r' :: _ => (string? text).map fun (t, r) => (.text (String.ofList t), r)
          | '.' :: _ => float? text
          | c :: _ => if c.isDigit || c = '+' || c = '-' then number? text else none
          | [] => none

/-- The value in the parentheses of an option. -/
def option? : Nat → List Char → Option (Datum × List Char)
  | 0, _ => none
  | n + 1, text => do
    match ← skip? text with
    | '(' :: rest =>
      let (d, rest) ← value? n (← skip? rest)
      match ← skip? rest with
      | ')' :: rest => some (d, rest)
      | _ => none
    | _ => none

/-- What stands in parentheses behind an optional name: the parts of a structure or of a tuple. -/
def group? : Nat → List Char → Option (Datum × List Char)
  | 0, _ => none
  | n + 1, text =>
    match text with
    | '(' :: rest => do
      let rest ← skip? rest
      if isStructure rest then (members? n ')' true [] rest).map fun (ms, r) => (.table ms, r)
      else (items? n ')' true rest).map fun (ds, r) => (.list ds, r)
    | _ => some (.null, text)

/-- The items of a list up to its last mark. `more` says that another one may follow. -/
def items? : Nat → Char → Bool → List Char → Option (List Datum × List Char)
  | 0, _, _, _ => none
  | n + 1, last, more, text => do
    match ← skip? text with
    | [] => none
    | c :: rest =>
      if c = last then some ([], rest)
      else if !more then none
      else
        let (d, rest) ← value? n (c :: rest)
        let (more, rest) ← comma? rest
        (items? n last more rest).map fun (ds, r) => (d :: ds, r)

/-- The members of a map or a structure up to its last mark. -/
def members? : Nat → Char → Bool → Members → List Char → Option (Members × List Char)
  | 0, _, _, _, _ => none
  | n + 1, last, more, done, text => do
    match ← skip? text with
    | [] => none
    | c :: rest =>
      if c = last then some (done, rest)
      else if !more then none
      else
        let (key, rest) ←
          if last = ')' then (name? (c :: rest)).map fun (t, r) => (String.ofList t, r)
          else (value? n (c :: rest)).bind fun (d, r) => (keyText? d).map (·, r)
        match ← skip? rest with
        | ':' :: rest =>
          let (d, rest) ← value? n (← skip? rest)
          let (more, rest) ← comma? rest
          members? n last more (done.set key d) rest
        | _ => none
end

/-! ## Documents -/

/-- The text behind some marks, with white space between them and behind the last. -/
def marks? : List String → List Char → Option (List Char)
  | [], text => some text
  | mark :: more, text =>
    if mark.toList.isPrefixOf text then
      (skip? (text.drop mark.length)).bind (marks? more)
    else none

/-- The names that may be enabled in front of a document. -/
def features : List String := ["unwrap_newtypes", "implicit_some"]

/-- The text behind the names that are enabled, which have commas between them. -/
def features? : Nat → List Char → Option (List Char)
  | 0, _ => none
  | n + 1, text => do
    let (name, rest) ← name? text
    let (more, rest) ← comma? rest
    if !features.contains (String.ofList name) then none
    else if more && rest.head?.any isNameChar then features? n rest
    else some rest

/-- The text behind the lines that enable features. None of them changes how a value is read. -/
def attributes? : Nat → List Char → Option (List Char)
  | 0, text => some text
  | n + 1, text =>
    if text.head? = some '#' then
      (marks? ["#", "!", "[", "enable", "("] text).bind fun rest =>
        (features? rest.length rest).bind fun rest =>
          (marks? [")", "]"] rest).bind (attributes? n)
    else some text

/-- The value that a text writes. A text has no more values than characters. -/
def read? (text : List Char) : Option Datum := do
  let (d, rest) ← value? (3 * text.length + 3) (← attributes? text.length (← skip? text))
  if (← skip? rest) = [] then some d else none

end Liveness.Ron
