namespace SchemaMigration.Decimal

/-!
# Binary floating-point numbers

The values of the IEEE 754 format binary64, held as exact fields: a finite
number is a mantissa times a power of two. Rounding a fraction to the nearest
value uses natural-number arithmetic only.
-/

/-- A power of a natural number. -/
def power (base exponent : Nat) : Nat :=
  Nat.pow base exponent

/-- How many values so many bits have. -/
def valuesOf (bits : Nat) : Nat :=
  power 2 bits

/--
A value of the format.

A finite value is `mantissa · 2 ^ exponent`, where the mantissa is below
`2 ^ 53` and at least `2 ^ 52` unless the exponent is the least one.
-/
inductive Binary64
  | nan
  | infinite (negative : Bool)
  | finite (negative : Bool) (mantissa : Nat) (exponent : Int)
  deriving DecidableEq

/-- A quotient rounded to the nearest natural number, ties to the even one. -/
def roundQuotient (numerator denominator : Nat) : Nat :=
  let quotient := numerator / denominator
  let rest := numerator % denominator
  if denominator < 2 * rest ∨ (2 * rest = denominator ∧ quotient % 2 = 1) then
    quotient + 1
  else
    quotient

/-- A natural number times a power of a base, as numerator and denominator. -/
def scaled (base : Nat) (numerator denominator : Nat) (exponent : Int) : Nat × Nat :=
  match exponent with
  | .ofNat n => (numerator * power base n, denominator)
  | .negSucc n => (numerator, denominator * power base (n + 1))

namespace Binary64

/-- The least exponent of a finite value. -/
def leastExponent : Int :=
  -1074

/-- The greatest exponent of a finite value. -/
def greatestExponent : Int :=
  971

/-- Zero with a sign. -/
def zero (negative : Bool) : Binary64 :=
  .finite negative 0 leastExponent

/-- The mantissa of a fraction at an exponent, rounded. -/
private def mantissaAt (numerator denominator : Nat) (exponent : Int) : Nat :=
  let (top, bottom) := scaled 2 numerator denominator (-exponent)
  roundQuotient top bottom

/--
The value nearest to a fraction, ties to the even mantissa.

The first guess at the exponent makes the mantissa at least `2 ^ 52`; it is
raised by one where the mantissa comes out too long.
-/
def ofFraction (negative : Bool) (numerator denominator : Nat) : Binary64 :=
  if numerator = 0 then
    zero negative
  else
    let guess : Int := Int.ofNat numerator.log2 - Int.ofNat denominator.log2 - 53
    let low := max leastExponent guess
    let exponent :=
      if (scaled 2 numerator denominator (-low)).1 <
          valuesOf 53 * (scaled 2 numerator denominator (-low)).2 then
        low
      else
        low + 1
    let mantissa := mantissaAt numerator denominator exponent
    let (mantissa, exponent) :=
      if mantissa = valuesOf 53 then (valuesOf 52, exponent + 1) else (mantissa, exponent)
    if greatestExponent < exponent then
      .infinite negative
    else
      .finite negative mantissa exponent

/-- The value nearest to an integer. -/
def ofInt (value : Int) : Binary64 :=
  ofFraction (decide (value < 0)) value.natAbs 1

/-- Whether a value is neither infinite nor undefined. -/
def isFinite : Binary64 → Bool
  | .finite .. => true
  | _ => false

end Binary64

end SchemaMigration.Decimal
