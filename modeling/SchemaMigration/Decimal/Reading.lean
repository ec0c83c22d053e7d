import SchemaMigration.Decimal.Binary64
import SchemaMigration.Text.Blank
import SchemaMigration.Text.Letter

namespace SchemaMigration.Decimal

/-!
# Reading decimal numbers

Digits in a radix, and the decimal notation of floating-point numbers: an
optional sign, digits with an optional point, and an optional exponent. The
words for infinity and for an undefined value may be written in any case.
-/

/-- The value of a digit in a radix of at most sixteen. -/
def digit? (radix : Nat) (c : Char) : Option Nat :=
  let value :=
    if Text.isDigit c then c.toNat - '0'.toNat
    else if 'a' ≤ c ∧ c ≤ 'f' then c.toNat - 'a'.toNat + 10
    else if 'A' ≤ c ∧ c ≤ 'F' then c.toNat - 'A'.toNat + 10
    else 16
  if value < radix then some value else none

/-- The number that digits stand for after those already read. -/
def digitsFrom? (radix : Nat) (value : Nat) : List Char → Option Nat
  | [] => some value
  | c :: rest =>
      match digit? radix c with
      | some d => digitsFrom? radix (value * radix + d) rest
      | none => none

/-- The number that a nonempty list of digits stands for. -/
def natural? (radix : Nat) (digits : List Char) : Option Nat :=
  if digits.isEmpty then none else digitsFrom? radix 0 digits

/-- Split a sign off a numeral; the flag tells whether it is a minus sign. -/
def splitSign : List Char → Bool × List Char
  | '-' :: rest => (true, rest)
  | '+' :: rest => (false, rest)
  | text => (false, text)

/-- A decimal integer with an optional sign. -/
def integer? (text : List Char) : Option Int :=
  let (negative, digits) := splitSign text
  (natural? 10 digits).map (fun value => if negative then -Int.ofNat value else Int.ofNat value)

/-- A decimal fraction `digits · 10 ^ power`. -/
structure Fraction where
  digits : Nat
  power : Int

/-- The number of decimal digits of a natural number; zero has one. -/
def digitCount (n : Nat) : Nat :=
  (Nat.toDigits 10 n).length

namespace Binary64

/--
The value nearest to a decimal fraction.

Fractions far outside the format are settled by their magnitude alone.
-/
def ofDecimal (negative : Bool) (fraction : Fraction) : Binary64 :=
  if fraction.digits = 0 then
    zero negative
  else
    let magnitude := Int.ofNat (digitCount fraction.digits) + fraction.power
    if 400 < magnitude then
      .infinite negative
    else if magnitude < -400 then
      zero negative
    else
      let (numerator, denominator) := scaled 10 fraction.digits 1 fraction.power
      ofFraction negative numerator denominator

end Binary64

/-- The digits before and after the point, and what follows them. -/
def splitPoint (text : List Char) : List Char × List Char × List Char :=
  let whole := text.takeWhile Text.isDigit
  match text.dropWhile Text.isDigit with
  | '.' :: rest => (whole, rest.takeWhile Text.isDigit, rest.dropWhile Text.isDigit)
  | rest => (whole, [], rest)

/-- The exponent that ends a numeral; nothing stands for zero. -/
def exponent? : List Char → Option Int
  | [] => some 0
  | c :: rest => if c = 'e' ∨ c = 'E' then integer? rest else none

/-- An unsigned decimal numeral with an optional point and exponent. -/
def fraction? (text : List Char) : Option Fraction :=
  let (whole, part, rest) := splitPoint text
  match natural? 10 (whole ++ part), exponent? rest with
  | some digits, some exponent => some ⟨digits, exponent - Int.ofNat part.length⟩
  | _, _ => none

/-- The value nearest to the number that a text writes. -/
def read? (text : String) : Option Binary64 :=
  let (negative, rest) := splitSign text.toList
  let word := String.ofList (rest.map Text.lowerAscii)
  if word = "inf" ∨ word = "infinity" then
    some (.infinite negative)
  else if word = "nan" then
    some .nan
  else
    (fraction? rest).map (Binary64.ofDecimal negative)

end SchemaMigration.Decimal
