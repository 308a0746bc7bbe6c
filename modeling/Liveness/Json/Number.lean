import Liveness.Datum

/-! # Numbers in JSON

* `Number.absorb`: a significand with the digits added to it that a word of 64 bits can hold.
* `Number.scaled?`: a significand times a power of ten, in double precision.
* `Number.read?`: the number at the start of a text.

An integer that fits 64 bits with a sign is kept. Any other number is made in double precision from
the digits that fit a word, multiplied or divided by a power of ten. Both factors and the result are
each rounded to the nearest number, so the last digit may differ from that of the nearest one.
-/

namespace Liveness.Json.Number
set_option autoImplicit false

/-! ## Scaling -/

/-- The power of ten in double precision. -/
def powerOfTen (n : Nat) : Binary64.Fraction := (Binary64.ofDecimal false 1 n).magnitude

/-- A number times a power of ten. -/
def raised (x : Binary64) (n : Nat) : Binary64 :=
  .nearest false (x.magnitude.times (powerOfTen n))

/-- A number divided by a power of ten. -/
def lowered (x : Binary64) (n : Nat) : Binary64 :=
  .nearest false (x.magnitude.times (powerOfTen n).inverse)

/-- The greatest power of ten in the format. -/
def greatestPower : Nat := 308

/-- A number divided by a power of ten in steps that stay in the format. -/
def loweredInSteps (x : Binary64) (n : Nat) : Binary64 :=
  if n ≤ greatestPower then lowered x n
  else if x.magnitude.num = 0 then x
  else loweredInSteps (lowered x greatestPower) (n - greatestPower)
termination_by n
decreasing_by unfold greatestPower at *; omega

/-- A significand times a power of ten; it must not exceed the format. -/
def scaled? (significand : Nat) (power : Int) : Option Binary64 :=
  let x := Binary64.ofDecimal false significand 0
  match power with
  | .ofNat p =>
    if significand = 0 then some x
    else if greatestPower < p then none
    else if (raised x p).isFinite then some (raised x p) else none
  | .negSucc p => some (loweredInSteps x (p + 1))

/-! ## Digits -/

/-- The value of a decimal digit. -/
def digitValue (c : Char) : Nat := c.toNat - '0'.toNat

/-- A significand with the digits added to it that a word of 64 bits can hold, and the number of
digits that it cannot. -/
def absorb (significand : Nat) : List Char → Nat × Nat
  | [] => (significand, 0)
  | c :: digits =>
    let longer := significand * 10 + digitValue c
    if longer < Decimal.unsignedLimit then absorb longer digits
    else (significand, digits.length + 1)

/-- A run of digits that may not be empty, and the text behind it. -/
def digits? (text : List Char) : Option (List Char × List Char) :=
  let digits := text.takeWhile Char.isDigit
  if digits = [] then none else some (digits, text.dropWhile Char.isDigit)

/-- The digits before the point, without a zero in front of others. -/
def whole? (text : List Char) : Option (List Char × List Char) :=
  match digits? text with
  | some ('0' :: _ :: _, _) => none
  | found => found

/-- The digits behind a point, if there is one. -/
def fraction? : List Char → Option (Option (List Char) × List Char)
  | '.' :: text => (digits? text).map fun (ds, r) => (some ds, r)
  | text => some (none, text)

/-- The exponent, if there is one. -/
def exponent? : List Char → Option (Option Int × List Char)
  | 'e' :: text | 'E' :: text =>
    let (negative, text) := match text with
      | '-' :: text => (true, text)
      | '+' :: text => (false, text)
      | _ => (false, text)
    (digits? text).map fun (ds, r) =>
      let n : Int := Nat.ofDigitChars 10 ds 0
      (some (if negative then -n else n), r)
  | text => some (none, text)

/-! ## Numbers -/

/-- The number written by its parts. Digits that do not fit the significand are dropped; before the
point each of them counts as a power of ten. -/
def ofParts? (negative : Bool) (whole : List Char) (fraction : Option (List Char))
    (exponent : Option Int) : Option Datum :=
  let (head, dropped) := absorb 0 whole
  match fraction, exponent, dropped with
  | none, none, 0 =>
    let n : Int := if negative then -head else head
    if (negative && head == 0) || !Decimal.isSigned n then
      some (.number ((Binary64.ofDecimal false head 0).signed negative))
    else some (.integer n)
  | _, _, _ =>
    let behind := fraction.getD []
    let (significand, ignored) := absorb head behind
    let power : Int := dropped - (behind.length - ignored : Nat) + exponent.getD 0
    (scaled? significand power).map fun x => .number (x.signed negative)

/-- The number at the start of a text, and the text behind it. -/
def read? (text : List Char) : Option (Datum × List Char) := do
  let (negative, text) := match text with
    | '-' :: rest => (true, rest)
    | _ => (false, text)
  let (whole, text) ← whole? text
  let (fraction, text) ← fraction? text
  let (exponent, text) ← exponent? text
  some (← ofParts? negative whole fraction exponent, text)

end Liveness.Json.Number
