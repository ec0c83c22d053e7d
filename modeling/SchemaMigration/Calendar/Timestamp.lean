import SchemaMigration.Decimal.Reading

namespace SchemaMigration

/-!
# Timestamps

Points in time of the proleptic Gregorian calendar in whole seconds, without a
time zone. A second of sixty is a leap second.
-/

/-- A date and a time of day. -/
structure Timestamp where
  year : Int
  month : Nat
  day : Nat
  hour : Nat
  minute : Nat
  second : Nat
  deriving DecidableEq

namespace Timestamp

/-- Whether a year has a twenty-ninth of February. -/
def isLeapYear (year : Int) : Bool :=
  (decide (year % 4 = 0) && !decide (year % 100 = 0)) || decide (year % 400 = 0)

/-- The number of days of a month. -/
def daysInMonth (year : Int) (month : Nat) : Nat :=
  if month = 2 then
    if isLeapYear year then 29 else 28
  else if month = 4 ∨ month = 6 ∨ month = 9 ∨ month = 11 then
    30
  else
    31

/-- Whether the fields name a day of the calendar. -/
def hasDate (t : Timestamp) : Bool :=
  decide (-262143 ≤ t.year) && decide (t.year ≤ 262142) &&
    decide (1 ≤ t.month) && decide (t.month ≤ 12) &&
    decide (1 ≤ t.day) && decide (t.day ≤ daysInMonth t.year t.month)

/-- Whether the fields name a time of day, with leap seconds or without. -/
def hasTime (t : Timestamp) (leapSeconds : Bool) : Bool :=
  decide (t.hour < 24) && decide (t.minute < 60) &&
    decide (t.second < if leapSeconds then 61 else 60)

/-- Whether the fields name a point in time. -/
def exists? (t : Timestamp) (leapSeconds : Bool) : Bool :=
  t.hasDate && t.hasTime leapSeconds

/-- A number with at least `width` digits, padded with zeros. -/
def padded (width n : Nat) : List Char :=
  let digits := Nat.toDigits 10 n
  List.replicate (width - digits.length) '0' ++ digits

/-- A year with four digits; outside four digits, with a sign. -/
def yearDigits (year : Int) : List Char :=
  if 0 ≤ year ∧ year ≤ 9999 then
    padded 4 year.toNat
  else if 0 ≤ year then
    '+' :: padded 4 year.toNat
  else
    '-' :: padded 4 year.natAbs

/-- All fields in a row, from the year down to the second. -/
def compact (t : Timestamp) : List Char :=
  yearDigits t.year ++ padded 2 t.month ++ padded 2 t.day ++
    padded 2 t.hour ++ padded 2 t.minute ++ padded 2 t.second

/-- The point in time that fourteen digits write, if there is one. -/
def ofCompact? (digits : List Char) : Option Timestamp :=
  match digits with
  | [y₁, y₂, y₃, y₄, m₁, m₂, d₁, d₂, h₁, h₂, n₁, n₂, s₁, s₂] => do
      let year ← Decimal.natural? 10 [y₁, y₂, y₃, y₄]
      let month ← Decimal.natural? 10 [m₁, m₂]
      let day ← Decimal.natural? 10 [d₁, d₂]
      let hour ← Decimal.natural? 10 [h₁, h₂]
      let minute ← Decimal.natural? 10 [n₁, n₂]
      let second ← Decimal.natural? 10 [s₁, s₂]
      let t : Timestamp := ⟨Int.ofNat year, month, day, hour, minute, second⟩
      if t.exists? true then some t else none
  | _ => none

/-- Date and time with the usual marks and a separator between the two. -/
def written (separator : Char) (t : Timestamp) : String :=
  String.ofList <|
    yearDigits t.year ++ '-' :: padded 2 t.month ++ '-' :: padded 2 t.day ++
      separator :: padded 2 t.hour ++ ':' :: padded 2 t.minute ++ ':' :: padded 2 t.second

end Timestamp

end SchemaMigration
