import Liveness.Number.Binary64

/-! # Reading numbers in double precision

* `Floating.read?`: the number that a text writes.

A number has digits with an optional point before, among or behind them, and an optional exponent. A
word stands for what is no number or not finite.
-/

namespace Liveness.Floating
set_option autoImplicit false

/-- The sign of a number, and the text behind it. -/
def sign : List Char → Bool × List Char
  | '-' :: rest => (true, rest)
  | '+' :: rest => (false, rest)
  | text => (false, text)

/-- The words for what is no number or not finite, in any case. -/
def word? (negative : Bool) (text : List Char) : Option Binary64 :=
  match String.ofList (text.map Char.toLower) with
  | "inf" | "infinity" => some (.infinite negative)
  | "nan" => some .nan
  | _ => none

/-- The digits before and behind a point, and the text behind them. -/
def mantissa (text : List Char) : List Char × List Char × List Char :=
  let whole := text.takeWhile Char.isDigit
  match text.dropWhile Char.isDigit with
  | '.' :: rest => (whole, rest.takeWhile Char.isDigit, rest.dropWhile Char.isDigit)
  | rest => (whole, [], rest)

/-- The power of ten that an exponent stands for. -/
def exponent? : List Char → Option Int
  | [] => some 0
  | c :: rest =>
    if c = 'e' ∨ c = 'E' then
      let (negative, digits) := sign rest
      (Decimal.read? digits).map fun n => if negative then -(n : Int) else n
    else none

/-- The number that a text writes. -/
def read? (text : List Char) : Option Binary64 :=
  let (negative, body) := sign text
  match word? negative body with
  | some x => some x
  | none =>
    let (whole, fraction, rest) := mantissa body
    if whole ++ fraction = [] then none
    else (exponent? rest).map fun power =>
      .ofDecimal negative (Nat.ofDigitChars 10 (whole ++ fraction) 0) (power - fraction.length)

end Liveness.Floating
