import Liveness.Toml.Entry
import Liveness.Toml.Token

/-! # Numbers and dates

A number with a point or a date with a time is several tokens, so these readers take the first word
and the tokens behind it.

* `Scalar.digits?`: a run of digits with underscores between them.
* `Scalar.number?`: an integer or a number in double precision.
* `Scalar.moment?`: the text of a date or a time of day.
* `Scalar.ofWord?`: the value that begins with a word.
-/

namespace Liveness.Toml.Scalar
set_option autoImplicit false

/-! ## Digits -/

/-- The value of a digit in a base of at most sixteen. -/
def digit? (base : Nat) (c : Char) : Option Nat :=
  (Text.hexDigit? c).filter (· < base)

/-- The digits behind some others, and the text behind them. `zero` says that these others are a
zero that no digit may follow, `under` that the last of them is an underscore. -/
def moreDigits? (base : Nat) (zero : Bool) : Bool → List Char → Option (List Nat × List Char)
  | under, [] => if under then none else some ([], [])
  | under, c :: rest =>
    match digit? base c with
    | some d =>
      if zero then none else (moreDigits? base zero false rest).map fun (ds, r) => (d :: ds, r)
    | none =>
      if c = '_' ∧ !under then moreDigits? base zero true rest
      else if under then none
      else some ([], c :: rest)

/-- A run of digits that may have single underscores inside, and the text behind it. A zero in front
of other digits is refused unless `zeros` allows it. -/
def digits? (base : Nat) (zeros : Bool) : List Char → Option (List Nat × List Char)
  | [] => none
  | c :: rest =>
    match digit? base c with
    | some d =>
      (moreDigits? base (d = 0 && !zeros) false rest).map fun (ds, r) => (d :: ds, r)
    | none => none

/-- A run of digits behind an optional minus sign. -/
def signed? (zeros : Bool) : List Char → Option (Bool × List Nat × List Char)
  | '-' :: rest => (digits? 10 zeros rest).map (true, ·)
  | text => (digits? 10 zeros text).map (false, ·)

/-- The value of digits. -/
def value (base : Nat) (digits : List Nat) : Nat := digits.foldl (base * · + ·) 0

/-- A number with its sign. -/
def withSign (negative : Bool) (n : Nat) : Int := if negative then -n else n

/-! ## Integers -/

/-- An integer of 64 bits. -/
def bounded? (n : Int) : Option Datum :=
  if Decimal.isSigned n then some (.integer n) else none

/-- An integer in another base, which has no sign. -/
def inBase? (base : Nat) (text : List Char) : Option Datum :=
  match digits? base true text with
  | some (ds, []) => bounded? (value base ds)
  | _ => none

/-- A decimal integer. -/
def decimal? (text : List Char) : Option Datum :=
  match signed? false text with
  | some (negative, ds, []) => bounded? (withSign negative (value 10 ds))
  | _ => none

/-! ## Numbers with a fraction or an exponent -/

/-- The exponent behind its letter, and the tokens behind it. A plus sign is a token of its own. -/
def exponent? (text : List Char) (rest : List Token) : Option (Int × List Token) :=
  match text, rest with
  | [], .plus :: .word w :: rest | [], .word w :: rest =>
    match digits? 10 true w with
    | some (ds, []) => some (value 10 ds, rest)
    | _ => none
  | [], _ => none
  | _, rest =>
    match signed? true text with
    | some (negative, ds, []) => some (withSign negative (value 10 ds), rest)
    | _ => none

/-- What stands behind the digits of a number: an exponent or nothing. -/
def scale? (text : List Char) (rest : List Token) : Option (Int × List Token) :=
  match text with
  | [] => some (0, rest)
  | c :: text => if c = 'e' ∨ c = 'E' then exponent? text rest else none

/-- A number from the digits before and behind the point; it must be finite. -/
def finite? (negative : Bool) (whole fraction : List Nat) (scale : Int) : Option Datum :=
  let n := Binary64.ofDecimal negative (value 10 (whole ++ fraction)) (scale - fraction.length)
  if n.isFinite then some (.number n) else none

/-- A number with an exponent and without a point. -/
def scientific? (word : List Char) (rest : List Token) : Option (Datum × List Token) := do
  let (negative, whole, suffix) ← signed? false word
  let (scale, rest) ← scale? suffix rest
  some (← finite? negative whole [] scale, rest)

/-- A number with a point. -/
def fractional? (word behind : List Char) (rest : List Token) : Option (Datum × List Token) :=
  match signed? false word with
  | some (negative, whole, []) => do
    let (fraction, suffix) ← digits? 10 true behind
    let (scale, rest) ← scale? suffix rest
    some (← finite? negative whole fraction scale, rest)
  | _ => none

/-- The numbers that are words, and decimal integers. -/
def plain? (word : List Char) : Option Datum :=
  if word = ['i', 'n', 'f'] then some (.number (.infinite false))
  else if word = ['-', 'i', 'n', 'f'] then some (.number (.infinite true))
  else if word = ['n', 'a', 'n'] ∨ word = ['-', 'n', 'a', 'n'] then some (.number .nan)
  else decimal? word

/-- The number that begins with a word. -/
def number? (word : List Char) (rest : List Token) : Option (Datum × List Token) :=
  match word with
  | '0' :: 'x' :: digits => (inBase? 16 digits).map (·, rest)
  | '0' :: 'o' :: digits => (inBase? 8 digits).map (·, rest)
  | '0' :: 'b' :: digits => (inBase? 2 digits).map (·, rest)
  | _ =>
    if word.contains 'e' || word.contains 'E' then scientific? word rest
    else match rest with
      | .period :: .word behind :: rest => fractional? word behind rest
      | .period :: _ => none
      | _ => (plain? word).map (·, rest)

/-! ## Dates and times -/

/-- One mark and the word behind it, if the mark is next. -/
def part? (mark : Token) (c : Char) (rest : List Token) : Option (List Char × List Token) :=
  match rest with
  | t :: more =>
    if t = mark then
      match more with
      | .word w :: rest => some (c :: w, rest)
      | _ => none
    else some ([], rest)
  | [] => some ([], rest)

/-- Minutes, seconds, a fraction and an offset behind the first colon of a time. -/
def timeParts? (rest : List Token) : Option (List Char × List Token) :=
  match rest with
  | .word minute :: .colon :: .word second :: rest => do
    let (fraction, rest) ← part? .period '.' rest
    let (ahead, rest) ← part? .plus '+' rest
    let (minutes, rest) ← part? .colon ':' rest
    some (':' :: minute ++ ':' :: second ++ fraction ++ ahead ++ minutes, rest)
  | _ => none

/-- The hour behind a date, if a single space and a word follow. -/
def hour (rest : List Token) : List Char × List Token :=
  match rest with
  | .blank [' '] :: .word w :: rest => (' ' :: w, rest)
  | _ => ([], rest)

/-- The text of a date or a time of day that begins with a word. `colon` says that the colon behind
that word has been read. -/
def moment? (word : List Char) (colon : Bool) (rest : List Token) :
    Option (List Char × List Token) :=
  let (h, rest) := hour rest
  let (colon, rest) := match rest with
    | .colon :: more => if colon then (true, rest) else (true, more)
    | _ => (colon, rest)
  if colon then (timeParts? rest).map fun (t, r) => (word ++ h ++ t, r)
  else some (word ++ h, rest)

/-- Whether the exponent of a number has a minus sign. -/
def hasNegativeExponent (word : List Char) : Bool :=
  (word.zip word.tail).any fun (a, b) => (a = 'e' || a = 'E') && b = '-'

/-- Whether a word begins a date: it has the letter between date and time, or a hyphen inside that
is not the sign of an exponent. -/
def beginsMoment (word : List Char) : Bool :=
  word.contains 'T' || word.contains 't' ||
    (word.tail.contains '-' && !hasNegativeExponent word)

/-! ## The value of a word -/

/-- Whether a word can begin a number or a date. -/
def isNumeric (word : List Char) : Bool :=
  word = ['i', 'n', 'f'] || word = ['n', 'a', 'n'] ||
    match word with
    | c :: _ => c = '-' || c.isDigit
    | [] => false

/-- A number that is read as an entry. -/
def numeral? (word : List Char) (rest : List Token) : Option (Entry × List Token) :=
  (number? word rest).map fun (d, r) => (.value d, r)

/-- A date or a time of day that is read as an entry. -/
def timestamp? (word : List Char) (colon : Bool) (rest : List Token) :
    Option (Entry × List Token) :=
  (moment? word colon rest).map fun (t, r) => (.moment t, r)

/-- The value that begins with a word, and the tokens behind it. -/
def ofWord? (word : List Char) (rest : List Token) : Option (Entry × List Token) :=
  if word = ['t', 'r', 'u', 'e'] then some (.value (.flag true), rest)
  else if word = ['f', 'a', 'l', 's', 'e'] then some (.value (.flag false), rest)
  else if !isNumeric word then none
  else if beginsMoment word then timestamp? word false rest
  else match rest with
    | .colon :: rest => timestamp? word true rest
    | _ => numeral? word rest

end Liveness.Toml.Scalar
