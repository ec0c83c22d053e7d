import SchemaMigration.Decimal.Binary64

namespace SchemaMigration.Decimal

/-!
# Shortest decimal text

A finite value is written with the fewest decimal digits that read back as the
same value, and of those the nearest to it; a tie goes up. The digits are
written positionally, without an exponent and without a point when nothing
follows it.
-/

/-- The decimals that read back as a value, as multiples of a common unit. -/
structure Window where
  /-- The exact value, in units. -/
  middle : Nat
  /-- The least decimal, in units. -/
  low : Nat
  /-- The greatest decimal, in units. -/
  high : Nat
  /-- Whether the two ends themselves read back. -/
  closed : Bool
  /-- The exponent of two of the unit. -/
  exponent : Int

namespace Window

/-- The window of a nonzero mantissa: halfway to the values on both sides. -/
def ofMantissa (mantissa : Nat) (exponent : Int) : Window where
  middle := 4 * mantissa
  low :=
    if mantissa = valuesOf 52 ∧ exponent ≠ Binary64.leastExponent then
      4 * mantissa - 1
    else
      4 * mantissa - 2
  high := 4 * mantissa + 2
  closed := decide (mantissa % 2 = 0)
  exponent := exponent - 2

/-- Whether `digits · 10 ^ power` lies in the window. -/
def holds (window : Window) (digits : Nat) (power : Int) : Bool :=
  let (decimalTop, decimalBottom) := scaled 10 digits 1 power
  let (unitTop, unitBottom) := scaled 2 1 1 window.exponent
  let point := decimalTop * unitBottom
  let low := window.low * unitTop * decimalBottom
  let high := window.high * unitTop * decimalBottom
  (decide (low < point) && decide (point < high)) ||
    (window.closed && (decide (point = low) || decide (point = high)))

/-- The window's value as a fraction. -/
def value (window : Window) : Nat × Nat :=
  scaled 2 window.middle 1 window.exponent

/-- The neighbour of the value on the grid of a power of ten that reads back. -/
def nearest? (window : Window) (power : Int) : Option Nat :=
  let (numerator, denominator) := window.value
  let (top, bottom) := scaled 10 numerator denominator (-power)
  let below := top / bottom
  let rest := top % bottom
  let belowHolds := window.holds below power
  let aboveHolds := window.holds (below + 1) power
  if rest = 0 then
    some below
  else if belowHolds && aboveHolds then
    some (if 2 * rest < bottom then below else below + 1)
  else if belowHolds then
    some below
  else if aboveHolds then
    some (below + 1)
  else
    none

end Window

/-- The number of zeros between the point and the first digit of a fraction below one. -/
def leadingZeros (numerator denominator : Nat) : Nat → Nat
  | 0 => 0
  | fuel + 1 =>
      if denominator ≤ numerator * 10 then
        0
      else
        leadingZeros (numerator * 10) denominator fuel + 1

/-- The power of ten just above a fraction. -/
def magnitude (numerator denominator : Nat) : Int :=
  if denominator ≤ numerator then
    Int.ofNat (Nat.toDigits 10 (numerator / denominator)).length
  else
    -Int.ofNat (leadingZeros numerator denominator 400)

/-- The first grid, from one digit on, that has a decimal in the window. -/
def Window.shortestFrom
    (window : Window)
    (top : Int)
    (count : Nat) :
    Nat → Nat × Int
  | 0 => (0, 0)
  | fuel + 1 =>
      let power := top - Int.ofNat count
      match window.nearest? power with
      | some digits => (digits, power)
      | none => window.shortestFrom top (count + 1) fuel

/-- Digits and a power of ten written positionally. -/
def positional (digits : Nat) (power : Int) : String :=
  let text := Nat.toDigits 10 digits
  match power with
  | .ofNat n => String.ofList (text ++ List.replicate n '0')
  | .negSucc n =>
      let padded := List.replicate (n + 2 - text.length) '0' ++ text
      let split := padded.length - (n + 1)
      let part := (padded.drop split).reverse.dropWhile (· == '0')
      if part.isEmpty then
        String.ofList (padded.take split)
      else
        String.ofList (padded.take split ++ '.' :: part.reverse)

namespace Binary64

/-- The shortest text that reads back as the value. -/
def text : Binary64 → String
  | .nan => "NaN"
  | .infinite negative => if negative then "-inf" else "inf"
  | .finite negative mantissa exponent =>
      let magnitudeText :=
        if mantissa = 0 then
          "0"
        else
          let window := Window.ofMantissa mantissa exponent
          let (numerator, denominator) := window.value
          let (digits, power) :=
            window.shortestFrom (magnitude numerator denominator) 1 17
          positional digits power
      if negative then "-" ++ magnitudeText else magnitudeText

end Binary64

end SchemaMigration.Decimal
