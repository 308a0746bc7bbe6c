import Liveness.Number.Decimal

/-! # Numbers in double precision

* `Binary64`: a number of the 64-bit binary format, as sign, mantissa and exponent.
* `Binary64.nearest`, `Binary64.ofDecimal`: the nearest number to a fraction or a decimal, ties to
  the even mantissa.
* `Binary64.nearestUnsigned`: the nearest 64-bit unsigned integer.
* `Binary64.text`: the fewest decimal digits that read back, always in positional notation.

All arithmetic is exact, on natural numbers.
-/

namespace Liveness
set_option autoImplicit false

/-- A number in double precision. A finite one is the mantissa times two to the exponent. -/
inductive Binary64 where
  | nan
  | infinite (negative : Bool)
  | finite (negative : Bool) (mantissa : Nat) (exponent : Int)
  deriving DecidableEq, Repr

namespace Binary64

/-! ## Fractions -/

/-- A positive fraction. -/
structure Fraction where
  num : Nat
  den : Nat
  deriving Repr

/-- Multiplication of a fraction by a power of a base. -/
def Fraction.scale (x : Fraction) (base : Nat) (power : Int) : Fraction :=
  match power with
  | .ofNat p => ⟨x.num * Nat.pow base p, x.den⟩
  | .negSucc p => ⟨x.num, x.den * Nat.pow base (p + 1)⟩

/-- The product of two fractions. -/
def Fraction.times (x y : Fraction) : Fraction := ⟨x.num * y.num, x.den * y.den⟩

/-- One divided by a fraction that is not zero. -/
def Fraction.inverse (x : Fraction) : Fraction := ⟨x.den, x.num⟩

/-- The nearest natural number; a tie goes to the even one. -/
def Fraction.roundEven (x : Fraction) : Nat :=
  let q := x.num / x.den
  let twice := 2 * (x.num % x.den)
  if twice < x.den then q else if twice > x.den then q + 1 else q + q % 2

/-- The nearest natural number; a tie goes up. -/
def Fraction.roundUp (x : Fraction) : Nat := (2 * x.num + x.den) / (2 * x.den)

/-- The exponent `e` with `base^e ≤ x < base^(e+1)`, for a fraction that is not zero. -/
def Fraction.log (x : Fraction) (base : Nat) : Int :=
  if x.den ≤ x.num then (places (x.num / x.den) : Int) - 1
  else -(places ((x.den - 1) / x.num) : Int)
where
  /-- The number of digits of a natural number. -/
  places (n : Nat) : Nat := (Nat.toDigits base n).length

/-! ## Reading a decimal -/

/-- The least exponent of the format. -/
def leastExponent : Int := -1074

/-- The mantissa of a power of two, 2^52. -/
def powerMantissa : Nat := 0x10000000000000

/-- The greatest exponent that a mantissa of 53 bits may have. -/
def greatestExponent : Int := 971

/-- A fraction rounded to a mantissa of at most 53 bits. -/
def ofFraction (negative : Bool) (x : Fraction) : Binary64 :=
  let e := max (x.log 2 - 52) leastExponent
  let m := (x.scale 2 (-e)).roundEven
  let (m, e) := if m = 2 * powerMantissa then (powerMantissa, e + 1) else (m, e)
  if e > greatestExponent then .infinite negative else .finite negative m e

/-- The number nearest to a fraction. -/
def nearest (negative : Bool) (x : Fraction) : Binary64 :=
  if x.num = 0 then .finite negative 0 leastExponent else ofFraction negative x

/-- The number nearest to `digits` times ten to the `power`. A decimal above every number of the
format is infinite, and one far below the least is zero. -/
def ofDecimal (negative : Bool) (digits : Nat) (power : Int) : Binary64 :=
  let magnitude := ((Decimal.ofNat digits).length : Int) + power
  if digits = 0 ∨ magnitude < -400 then .finite negative 0 leastExponent
  else if magnitude > 400 then .infinite negative
  else ofFraction negative (Fraction.scale ⟨digits, 1⟩ 10 power)

/-- A finite number without its sign. -/
def magnitude : Binary64 → Fraction
  | .finite _ m e => Fraction.scale ⟨m, 1⟩ 2 e
  | _ => ⟨0, 1⟩

/-- A number with a given sign. -/
def signed (negative : Bool) : Binary64 → Binary64
  | .nan => .nan
  | .infinite _ => .infinite negative
  | .finite _ m e => .finite negative m e

/-- A number whose sign is dropped if it is zero, so that equal numbers are one. -/
def unsignedZero : Binary64 → Binary64
  | .finite negative m e => .finite (negative && m ≠ 0) m e
  | x => x

/-- Whether the number is neither infinite nor undefined. -/
def isFinite : Binary64 → Bool
  | .finite .. => true
  | _ => false

/-! ## Rounding to an integer -/

/-- The greatest unsigned integer of 64 bits. -/
def greatestUnsigned : Nat := Decimal.unsignedLimit - 1

/-- The nearest unsigned integer of 64 bits. A half goes up, what is below zero or undefined goes to
zero, and what is too large goes to the greatest. -/
def nearestUnsigned : Binary64 → Nat
  | .nan => 0
  | .infinite negative => if negative then 0 else greatestUnsigned
  | .finite true _ _ => 0
  | .finite false m e => min (Fraction.scale ⟨m, 1⟩ 2 e).roundUp greatestUnsigned

/-! ## Shortest decimal -/

/-- The decimals that read back as `m * 2^e` lie between these two fractions, in quarters of the
unit of the mantissa; the step below a power of two is half as long. -/
def bounds (m : Nat) (e : Int) : Fraction × Fraction :=
  let below := if m = powerMantissa ∧ e > leastExponent then 1 else 2
  (Fraction.scale ⟨4 * m - below, 4⟩ 2 e, Fraction.scale ⟨4 * m + 2, 4⟩ 2 e)

/-- Order of fractions. -/
def Fraction.le (x y : Fraction) : Bool := x.num * y.den ≤ y.num * x.den

/-- Strict order of fractions. -/
def Fraction.lt (x y : Fraction) : Bool := x.num * y.den < y.num * x.den

/-- Whether a fraction reads back as `m * 2^e`: the ends belong to an even mantissa. -/
def readsBack (m : Nat) (e : Int) (x : Fraction) : Bool :=
  let (lo, hi) := bounds m e
  if m % 2 = 0 then lo.le x && x.le hi else lo.lt x && x.lt hi

/-- The multiple of `10^unit` nearest to the value that reads back, if one of the two neighbours
does. A tie goes up. -/
def onGrid (m : Nat) (e unit : Int) : Option Nat :=
  let scaled := (Fraction.scale ⟨m, 1⟩ 2 e).scale 10 (-unit)
  let down := scaled.num / scaled.den
  let near := scaled.roundUp
  let far := if near = down then down + 1 else down
  [near, far].find? fun n => n ≠ 0 && readsBack m e (Fraction.scale ⟨n, 1⟩ 10 unit)

/-- The fewest digits that read back, with the power of ten of the last one. Seventeen digits always
do, so the search ends in a find; it begins at the power of ten above the number, which may itself
read back. -/
def shortest (m : Nat) (e : Int) : Nat × Int :=
  let top := (Fraction.scale ⟨m, 1⟩ 2 e).log 10
  let tries := (List.range 18).map fun (n : Nat) => top + 1 - (n : Int)
  match tries.findSome? fun unit => (onGrid m e unit).map (·, unit) with
  | some found => found
  | none => (m, e)

/-- Digits and a power of ten in positional notation. -/
def positional (digits : Nat) (power : Int) : List Char :=
  let ds := Decimal.ofNat digits
  match power with
  | .ofNat p => ds ++ List.replicate p '0'
  | .negSucc p =>
    let padded := List.replicate (p + 2 - ds.length) '0' ++ ds
    let cut := padded.length - (p + 1)
    padded.take cut ++ '.' :: padded.drop cut

/-- The fewest decimal digits that read back, always in positional notation and without a point if
the number is an integer. -/
def text : Binary64 → List Char
  | .nan => ['N', 'a', 'N']
  | .infinite negative => sign negative ++ ['i', 'n', 'f']
  | .finite negative m e =>
    sign negative ++ if m = 0 then ['0'] else (fun (d, p) => positional d p) (shortest m e)
where
  /-- A minus sign for a negative number. -/
  sign (negative : Bool) : List Char := if negative then ['-'] else []

end Binary64
end Liveness
