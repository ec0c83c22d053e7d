import Mathlib.Data.List.Induction
import Mathlib.Tactic.IntervalCases
import SchemaMigration.Proofs.Ledger.Codec

namespace SchemaMigration

/-!
# Fourteen digits for a point in time

The fields of a point in time are written with a fixed number of digits each.
What is written is read back, and whatever is read is what would be written.
-/

/-! ## Numbers of a fixed width -/

namespace Decimal

/-- The last digits of a number, as many as a width says. -/
def lastDigits : Nat → Nat → List Char
  | 0, _ => []
  | width + 1, n => lastDigits width (n / 10) ++ [Nat.digitChar (n % 10)]

@[simp] theorem length_lastDigits (width n : Nat) : (lastDigits width n).length = width := by
  induction width generalizing n with
  | zero =>
      rfl
  | succ width inductionHypothesis =>
      simp [lastDigits, inductionHypothesis]

theorem isDigit_digitChar : ∀ d < 10, Text.isDigit (Nat.digitChar d) = true := by
  decide

theorem isDigit_of_mem_lastDigits
    {width n : Nat}
    {c : Char}
    (member : c ∈ lastDigits width n) :
    Text.isDigit c = true := by
  induction width generalizing n with
  | zero =>
      cases member
  | succ width inductionHypothesis =>
      rcases List.mem_append.mp member with earlier | last
      · exact inductionHypothesis earlier
      · rw [List.mem_singleton.mp last]
        exact isDigit_digitChar _ (Nat.mod_lt _ (by decide))

/-! ## Reading them -/

theorem digit?_digitChar : ∀ d < 10, digit? 10 (Nat.digitChar d) = some d := by
  decide

/-- The digits of the decimal system are those of ASCII. -/
theorem digitChar_of_digit?
    {c : Char}
    {d : Nat}
    (read : digit? 10 c = some d) :
    d < 10 ∧ Nat.digitChar d = c := by
  have decimal : Text.isDigit c = true := by
    by_contra other
    simp only [digit?, other, if_false, Option.ite_none_right_eq_some] at read
    obtain ⟨small, _⟩ := read
    split at small
    · omega
    · split at small <;> omega
  simp only [digit?, decimal, if_true, Option.ite_none_right_eq_some, Option.some.injEq] at read
  obtain ⟨small, same⟩ := read
  simp only [Text.isDigit, Bool.and_eq_true, decide_eq_true_eq] at decimal
  have least : '0'.toNat ≤ c.toNat := decimal.1
  refine ⟨same ▸ small, ?_⟩
  rw [← Char.ofNat_toNat c]
  have isPoint : c.toNat = '0'.toNat + d := by
    omega
  rw [isPoint]
  have below : d < 10 := same ▸ small
  interval_cases d <;> rfl

theorem digitsFrom?_append
    (radix start : Nat)
    (first second : List Char) :
    digitsFrom? radix start (first ++ second) =
      (digitsFrom? radix start first).bind (fun value => digitsFrom? radix value second) := by
  induction first generalizing start with
  | nil =>
      rfl
  | cons c rest inductionHypothesis =>
      simp only [List.cons_append, digitsFrom?]
      cases digit? radix c with
      | none =>
          rfl
      | some d =>
          exact inductionHypothesis _

theorem digitsFrom?_lastDigits (start width n : Nat) :
    digitsFrom? 10 start (lastDigits width n) =
      some (start * 10 ^ width + n % 10 ^ width) := by
  induction width generalizing n with
  | zero =>
      simp [lastDigits, digitsFrom?, Nat.mod_one]
  | succ width inductionHypothesis =>
      have last : digit? 10 (Nat.digitChar (n % 10)) = some (n % 10) :=
        digit?_digitChar _ (Nat.mod_lt _ (by decide))
      simp only [lastDigits, digitsFrom?_append, inductionHypothesis, Option.bind_some,
        digitsFrom?, last, Option.some.injEq]
      have scaled : start * (10 * 10 ^ width) = start * 10 ^ width * 10 := by
        rw [Nat.mul_comm 10, Nat.mul_assoc]
      rw [Nat.pow_succ', Nat.mod_mul, scaled]
      omega

/-- A number that fits is read back from its digits. -/
theorem natural?_lastDigits
    {width n : Nat}
    (positive : 0 < width)
    (fits : n < 10 ^ width) :
    natural? 10 (lastDigits width n) = some n := by
  have nonempty : (lastDigits width n).isEmpty = false := by
    rw [List.isEmpty_eq_false_iff, ← List.length_pos_iff, length_lastDigits]
    exact positive
  simp [natural?, nonempty, digitsFrom?_lastDigits, Nat.mod_eq_of_lt fits]

/-- Digits that are read are the last digits of what is read. -/
theorem lastDigits_of_digitsFrom?
    {start value : Nat}
    {digits : List Char}
    (read : digitsFrom? 10 start digits = some value) :
    value < (start + 1) * 10 ^ digits.length ∧ lastDigits digits.length value = digits := by
  induction digits using List.reverseRecOn generalizing value with
  | nil =>
      cases read
      simp [lastDigits]
  | append_singleton earlier c inductionHypothesis =>
      rw [digitsFrom?_append, Option.bind_eq_some_iff] at read
      obtain ⟨before, readBefore, readLast⟩ := read
      obtain ⟨bound, same⟩ := inductionHypothesis readBefore
      cases isDigit : digit? 10 c with
      | none =>
          simp [digitsFrom?, isDigit] at readLast
      | some d =>
          obtain ⟨small, isChar⟩ := digitChar_of_digit? isDigit
          simp only [digitsFrom?, isDigit, Option.some.injEq] at readLast
          have quotient : value / 10 = before := by
            omega
          have remainder : value % 10 = d := by
            omega
          constructor
          · rw [List.length_append, List.length_singleton, Nat.pow_succ, ← Nat.mul_assoc]
            omega
          · rw [List.length_append, List.length_singleton, lastDigits, quotient, remainder, same,
              isChar]

theorem lastDigits_of_natural?
    {value : Nat}
    {digits : List Char}
    (read : natural? 10 digits = some value) :
    value < 10 ^ digits.length ∧ lastDigits digits.length value = digits := by
  rw [natural?, Option.ite_none_left_eq_some] at read
  simpa using lastDigits_of_digitsFrom? read.2

end Decimal

namespace Timestamp

open Decimal

/-- A number that fits is padded to its last digits. -/
theorem padded_eq_lastDigits
    {width n : Nat}
    (fits : n < 10 ^ (width + 1)) :
    padded (width + 1) n = lastDigits (width + 1) n := by
  induction width generalizing n with
  | zero =>
      have small : n < 10 := by
        simpa using fits
      simp [padded, lastDigits, Nat.toDigits_of_lt_base small, Nat.mod_eq_of_lt small]
  | succ width inductionHypothesis =>
      have fewer : n / 10 < 10 ^ (width + 1) := by
        rw [Nat.pow_succ] at fits
        omega
      rw [lastDigits, ← inductionHypothesis fewer]
      by_cases small : n < 10
      · simp [padded, Nat.toDigits_of_lt_base small, Nat.div_eq_of_lt small,
          Nat.mod_eq_of_lt small, List.replicate_succ']
      · rw [padded, Nat.toDigits_of_base_le (by decide) (by omega), padded]
        simp [Nat.add_sub_add_right]

/-! ## Points in time -/

/-- Whether a point in time exists and its year has four digits. -/
structure FitsDigits (t : Timestamp) : Prop where
  real : t.exists? true = true
  yearLeast : 0 ≤ t.year
  yearGreatest : t.year ≤ 9999

theorem exists?_iff {t : Timestamp} :
    t.exists? true = true ↔
      (-262143 ≤ t.year ∧ t.year ≤ 262142) ∧
        (1 ≤ t.month ∧ t.month ≤ 12) ∧
          (1 ≤ t.day ∧ t.day ≤ daysInMonth t.year t.month) ∧
            t.hour < 24 ∧ t.minute < 60 ∧ t.second < 61 := by
  simp only [exists?, hasDate, hasTime, Bool.and_eq_true, decide_eq_true_eq, if_true]
  tauto

theorem daysInMonth_le (year : Int) (month : Nat) : daysInMonth year month ≤ 31 := by
  unfold daysInMonth
  split
  · split <;> decide
  · split <;> decide

namespace FitsDigits

variable {t : Timestamp} (fits : t.FitsDigits)

include fits

theorem year_eq : t.year = Int.ofNat t.year.toNat :=
  (Int.toNat_of_nonneg fits.yearLeast).symm

/-- Every field is below what its digits can write. -/
theorem fields_lt :
    t.year.toNat < 10 ^ 4 ∧ t.month < 10 ^ 2 ∧ t.day < 10 ^ 2 ∧ t.hour < 10 ^ 2 ∧
      t.minute < 10 ^ 2 ∧ t.second < 10 ^ 2 := by
  obtain ⟨_, month, day, hour, minute, second⟩ := exists?_iff.mp fits.real
  have days := daysInMonth_le t.year t.month
  have least := fits.yearLeast
  have greatest := fits.yearGreatest
  omega

/-- Each field takes as many digits as the format gives it. -/
theorem compact_eq :
    t.compact =
      lastDigits 4 t.year.toNat ++ lastDigits 2 t.month ++ lastDigits 2 t.day ++
        lastDigits 2 t.hour ++ lastDigits 2 t.minute ++ lastDigits 2 t.second := by
  obtain ⟨year, month, day, hour, minute, second⟩ := fits.fields_lt
  have fourDigits : 0 ≤ t.year ∧ t.year ≤ 9999 :=
    ⟨fits.yearLeast, fits.yearGreatest⟩
  simp only [compact, yearDigits, fourDigits, and_self, if_true, padded_eq_lastDigits year,
    padded_eq_lastDigits month, padded_eq_lastDigits day, padded_eq_lastDigits hour,
    padded_eq_lastDigits minute, padded_eq_lastDigits second]

theorem length_compact : t.compact.length = 14 := by
  simp [fits.compact_eq]

theorem isDigit_of_mem_compact : ∀ c ∈ t.compact, Text.isDigit c = true := by
  intro c member
  simp only [fits.compact_eq, List.mem_append] at member
  rcases member with ((((year | month) | day) | hour) | minute) | second <;>
    exact isDigit_of_mem_lastDigits ‹_›

end FitsDigits

/-- Reading takes four digits for the year and two for each other field. -/
theorem ofCompact?_lastDigits (year month day hour minute second : Nat) :
    ofCompact?
        (lastDigits 4 year ++ lastDigits 2 month ++ lastDigits 2 day ++
          lastDigits 2 hour ++ lastDigits 2 minute ++ lastDigits 2 second) =
      (do
        let year ← natural? 10 (lastDigits 4 year)
        let month ← natural? 10 (lastDigits 2 month)
        let day ← natural? 10 (lastDigits 2 day)
        let hour ← natural? 10 (lastDigits 2 hour)
        let minute ← natural? 10 (lastDigits 2 minute)
        let second ← natural? 10 (lastDigits 2 second)
        let t : Timestamp := ⟨Int.ofNat year, month, day, hour, minute, second⟩
        if t.exists? true then some t else none) :=
  rfl

/-- A point in time is read back from its digits. -/
theorem ofCompact?_compact
    {t : Timestamp}
    (fits : t.FitsDigits) :
    ofCompact? t.compact = some t := by
  obtain ⟨year, month, day, hour, minute, second⟩ := fits.fields_lt
  have sameTime :
      (⟨Int.ofNat t.year.toNat, t.month, t.day, t.hour, t.minute, t.second⟩ : Timestamp) = t := by
    rw [← fits.year_eq]
  rw [fits.compact_eq, ofCompact?_lastDigits, natural?_lastDigits (by decide) year,
    natural?_lastDigits (by decide) month, natural?_lastDigits (by decide) day,
    natural?_lastDigits (by decide) hour, natural?_lastDigits (by decide) minute,
    natural?_lastDigits (by decide) second]
  simp only [Option.bind_eq_bind, Option.bind_some, sameTime, fits.real, if_true]

/-- Whatever point in time is read, its digits are those that were read. -/
theorem fitsDigits_of_ofCompact?
    {digits : List Char}
    {t : Timestamp}
    (read : ofCompact? digits = some t) :
    t.FitsDigits ∧ t.compact = digits := by
  unfold ofCompact? at read
  split at read
  · simp only [Option.bind_eq_bind, Option.bind_eq_some_iff, Option.ite_none_right_eq_some,
      Option.some.injEq] at read
    obtain ⟨year, yearRead, month, monthRead, day, dayRead, hour, hourRead, minute, minuteRead,
      second, secondRead, real, rfl⟩ := read
    have yearSmall : year < 10 ^ 4 := (lastDigits_of_natural? yearRead).1
    have fits : FitsDigits ⟨Int.ofNat year, month, day, hour, minute, second⟩ := {
      real := real
      yearLeast := Int.natCast_nonneg year
      yearGreatest := by
        simp only [Int.ofNat_eq_natCast]
        omega }
    refine ⟨fits, ?_⟩
    have yearDigits : lastDigits 4 year = _ := (lastDigits_of_natural? yearRead).2
    have monthDigits : lastDigits 2 month = _ := (lastDigits_of_natural? monthRead).2
    have dayDigits : lastDigits 2 day = _ := (lastDigits_of_natural? dayRead).2
    have hourDigits : lastDigits 2 hour = _ := (lastDigits_of_natural? hourRead).2
    have minuteDigits : lastDigits 2 minute = _ := (lastDigits_of_natural? minuteRead).2
    have secondDigits : lastDigits 2 second = _ := (lastDigits_of_natural? secondRead).2
    rw [fits.compact_eq]
    simp only [Int.ofNat_eq_natCast, Int.toNat_natCast, yearDigits, monthDigits, dayDigits,
      hourDigits, minuteDigits, secondDigits, List.cons_append, List.nil_append]
  · cases read

end Timestamp

end SchemaMigration
