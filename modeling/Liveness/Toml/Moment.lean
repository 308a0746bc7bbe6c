import Liveness.Number.Decimal

/-! # Dates and times

* `Moment`: a date, a time of day or both, the last with an optional offset.
* `Moment.read?`: the moment written by a text.
* `Moment.text`: its canonical text.
-/

namespace Liveness.Toml
set_option autoImplicit false

/-- A calendar date. -/
structure Date where
  year : Nat
  month : Nat
  day : Nat
  deriving DecidableEq, Repr

/-- A time of day. -/
structure DayTime where
  hour : Nat
  minute : Nat
  second : Nat
  nanosecond : Nat
  deriving DecidableEq, Repr

/-- The distance from universal time. -/
inductive Offset where
  | universal
  | by (hours : Int) (minutes : Nat)
  deriving DecidableEq, Repr

/-- A date, a time of day or both. -/
inductive Moment where
  | date (date : Date)
  | time (time : DayTime)
  | both (date : Date) (time : DayTime) (offset : Option Offset)
  deriving DecidableEq, Repr

namespace Moment

/-! ## Reading -/

/-- A number of exactly so many digits. -/
def number? (count : Nat) (text : List Char) : Option (Nat × List Char) :=
  if (text.take count).length = count then
    (Decimal.read? (text.take count)).map (·, text.drop count)
  else none

/-- The text behind a given character. -/
def skip? (c : Char) : List Char → Option (List Char)
  | d :: rest => if d = c then some rest else none
  | [] => none

/-- A date. -/
def date? (text : List Char) : Option (Date × List Char) := do
  let (year, text) ← number? 4 text
  let (month, text) ← number? 2 (← skip? '-' text)
  let (day, text) ← number? 2 (← skip? '-' text)
  if 1 ≤ month ∧ month ≤ 12 ∧ 1 ≤ day ∧ day ≤ 31 then some (⟨year, month, day⟩, text) else none

/-- The first nine digits of a fraction of a second. -/
def nanoseconds (digits : List Char) : Nat :=
  Nat.ofDigitChars 10 ((digits ++ List.replicate 9 '0').take 9) 0

/-- A fraction of a second behind a point. -/
def fraction? : List Char → Option (Nat × List Char)
  | '.' :: rest =>
    let digits := rest.takeWhile Char.isDigit
    if digits = [] then none else some (nanoseconds digits, rest.dropWhile Char.isDigit)
  | text => some (0, text)

/-- A time of day; the hour may be 24. -/
def time? (text : List Char) : Option (DayTime × List Char) := do
  let (hour, text) ← number? 2 text
  let (minute, text) ← number? 2 (← skip? ':' text)
  let (second, text) ← number? 2 (← skip? ':' text)
  let (nanosecond, text) ← fraction? text
  if hour ≤ 24 ∧ minute ≤ 59 ∧ second ≤ 59 then
    some (⟨hour, minute, second, nanosecond⟩, text)
  else none

/-- Hours and minutes of an offset. -/
def offsetParts? (sign : Int) (text : List Char) : Option (Offset × List Char) := do
  let (hours, text) ← number? 2 text
  let (minutes, text) ← number? 2 (← skip? ':' text)
  some (.by (sign * hours) minutes, text)

/-- An optional offset at the end of a text. -/
def offset? (text : List Char) : Option (Option Offset) :=
  let whole (parts : Option (Offset × List Char)) : Option (Option Offset) :=
    match parts with
    | some (offset, []) => some (some offset)
    | _ => none
  match text with
  | [] => some none
  | 'Z' :: rest | 'z' :: rest => whole (some (.universal, rest))
  | '+' :: rest => whole (offsetParts? 1 rest)
  | '-' :: rest => whole (offsetParts? (-1) rest)
  | _ => none

/-- The moment written by a text. A letter or a space stands between a date and a time. -/
def read? (text : List Char) : Option Moment :=
  if text[2]? = some ':' then
    match time? text with
    | some (t, []) => some (.time t)
    | _ => none
  else
    match date? text with
    | none => none
    | some (d, []) => some (.date d)
    | some (d, c :: rest) =>
      if c = 'T' ∨ c = 't' ∨ c = ' ' then do
        let (t, rest) ← time? rest
        some (.both d t (← offset? rest))
      else none

/-! ## Writing -/

/-- A number in at least so many digits. -/
def padded (width n : Nat) : List Char :=
  let digits := Decimal.ofNat n
  List.replicate (width - digits.length) '0' ++ digits

/-- A fraction of a second with its point, without zeros at the end; nothing if it is zero. -/
def fractionText (nanosecond : Nat) : List Char :=
  if nanosecond = 0 then []
  else '.' :: ((padded 9 nanosecond).reverse.dropWhile (· = '0')).reverse

/-- The text of a date. -/
def dateText (d : Date) : List Char :=
  padded 4 d.year ++ '-' :: padded 2 d.month ++ '-' :: padded 2 d.day

/-- The text of a time of day. -/
def timeText (t : DayTime) : List Char :=
  padded 2 t.hour ++ ':' :: padded 2 t.minute ++ ':' :: padded 2 t.second ++
    fractionText t.nanosecond

/-- The text of an offset. -/
def offsetText : Offset → List Char
  | .universal => ['Z']
  | .by hours minutes =>
    (if hours < 0 then '-' else '+') :: padded 2 hours.natAbs ++ ':' :: padded 2 minutes

/-- The canonical text, with a T between date and time. -/
def text : Moment → List Char
  | date d => dateText d
  | time t => timeText t
  | both d t offset => dateText d ++ 'T' :: timeText t ++ (offset.map offsetText).getD []

end Moment
end Liveness.Toml
