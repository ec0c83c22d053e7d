import Mathlib.Data.String.Basic
import Mathlib.Order.Monotone.Basic
import SchemaMigration.Proofs.Calendar.Digits

namespace SchemaMigration

/-!
# The order of generated revisions is the order of time

Points in time are ordered by a clock that counts the days of the calendar, and
generated revisions as texts.  Both orders compare the fields one after the
other, from the year down to the second.
-/

/-! ## Comparing part by part -/

/-- Quantities that are counted in units and a rest are compared by their units first. -/
theorem compare_counted
    (total : Nat → Nat)
    (grows : Monotone total)
    {first second rest otherRest : Nat}
    (fits : total first + rest < total (first + 1))
    (otherFits : total second + otherRest < total (second + 1)) :
    compare (total first + rest) (total second + otherRest) =
      (compare first second).then (compare rest otherRest) := by
  rcases Nat.lt_trichotomy first second with less | rfl | greater
  · -- a unit more outweighs any rest
    have passed : total (first + 1) ≤ total second :=
      grows less
    rw [Nat.compare_eq_lt.mpr less, Nat.compare_eq_lt.mpr (by omega)]
    rfl
  · rw [Nat.compare_eq_eq.mpr rfl, Ordering.eq_then]
    rcases Nat.lt_trichotomy rest otherRest with less | rfl | greater
    · rw [Nat.compare_eq_lt.mpr less, Nat.compare_eq_lt.mpr (by omega)]
    · rw [Nat.compare_eq_eq.mpr rfl, Nat.compare_eq_eq.mpr rfl]
    · rw [Nat.compare_eq_gt.mpr greater, Nat.compare_eq_gt.mpr (by omega)]
  · have passed : total (second + 1) ≤ total first :=
      grows greater
    rw [Nat.compare_eq_gt.mpr greater, Nat.compare_eq_gt.mpr (by omega)]
    rfl

/-- The case of units that all have the same size. -/
theorem compare_scaled
    {size first second rest otherRest : Nat}
    (small : rest < size)
    (otherSmall : otherRest < size) :
    compare (first * size + rest) (second * size + otherRest) =
      (compare first second).then (compare rest otherRest) := by
  have grows : Monotone (fun count => count * size) :=
    fun _ _ => Nat.mul_le_mul_right size
  apply compare_counted (fun count => count * size) grows
  · simpa [Nat.add_mul] using small
  · simpa [Nat.add_mul] using otherSmall

/-- Counting from one or from zero makes no difference. -/
theorem compare_pred
    {first second : Nat}
    (positive : 1 ≤ first)
    (otherPositive : 1 ≤ second) :
    compare (first - 1) (second - 1) = compare first second := by
  obtain ⟨count, rfl⟩ := Nat.exists_eq_add_of_le' positive
  obtain ⟨otherCount, rfl⟩ := Nat.exists_eq_add_of_le' otherPositive
  rcases Nat.lt_trichotomy count otherCount with less | rfl | greater
  · rw [Nat.compare_eq_lt.mpr (by omega), Nat.compare_eq_lt.mpr (by omega)]
  · rw [Nat.compare_eq_eq.mpr rfl, Nat.compare_eq_eq.mpr rfl]
  · rw [Nat.compare_eq_gt.mpr (by omega), Nat.compare_eq_gt.mpr (by omega)]

/-! ## Comparing digits -/

namespace Text

theorem compareLex_eq_compareOfLessAndEq (first second : List Char) :
    List.compareLex compare first second = compareOfLessAndEq first second := by
  induction first generalizing second with
  | nil =>
      cases second <;> simp [List.compareLex, compareOfLessAndEq]
  | cons c rest inductionHypothesis =>
      cases second with
      | nil =>
          simp [List.compareLex, compareOfLessAndEq]
      | cons d later =>
          rw [List.compareLex_cons_cons, inductionHypothesis]
          simp only [compareOfLessAndEq, List.cons_lt_cons_iff, List.cons.injEq]
          rcases lt_trichotomy c d with less | rfl | greater
          · rw [compare_lt_iff_lt.mpr less]
            simp [less]
          · rw [compare_eq_iff_eq.mpr rfl]
            simp
          · rw [compare_gt_iff_gt.mpr greater]
            simp [greater.not_gt, greater.ne']

/-- Texts are compared character by character. -/
theorem compare_eq_compareLex (first second : String) :
    compare first second = List.compareLex compare first.toList second.toList := by
  rw [compareLex_eq_compareOfLessAndEq]
  simp only [compareOfLessAndEq, ← String.lt_iff_toList_lt, String.toList_inj]
  rfl

/-- Of equal lengths, what stands first decides first. -/
theorem compareLex_append
    {first second : List Char}
    (sameLength : first.length = second.length)
    (rest otherRest : List Char) :
    List.compareLex compare (first ++ rest) (second ++ otherRest) =
      (List.compareLex compare first second).then (List.compareLex compare rest otherRest) := by
  induction first generalizing second with
  | nil =>
      rw [List.eq_nil_of_length_eq_zero sameLength.symm]
      rfl
  | cons c later inductionHypothesis =>
      obtain ⟨d, others, rfl⟩ := List.exists_cons_of_length_eq_add_one sameLength.symm
      simp only [List.cons_append, List.compareLex_cons_cons, Ordering.then_assoc,
        inductionHypothesis (Nat.succ.inj sameLength)]

end Text

namespace Decimal

theorem compare_digitChar :
    ∀ d < 10, ∀ e < 10, compare (Nat.digitChar d) (Nat.digitChar e) = compare d e := by
  decide

/-- Numbers that fit are compared as their digits are. -/
theorem compareLex_lastDigits
    {width first second : Nat}
    (fits : first < 10 ^ width)
    (otherFits : second < 10 ^ width) :
    List.compareLex compare (lastDigits width first) (lastDigits width second) =
      compare first second := by
  induction width generalizing first second with
  | zero =>
      rw [Nat.lt_one_iff.mp fits, Nat.lt_one_iff.mp otherFits]
      rfl
  | succ width inductionHypothesis =>
      have small (number : Nat) : number % 10 < 10 :=
        Nat.mod_lt _ (by decide)
      rw [Nat.pow_succ] at fits otherFits
      have byDigits :
          List.compareLex compare (lastDigits (width + 1) first)
              (lastDigits (width + 1) second) =
            (compare (first / 10) (second / 10)).then (compare (first % 10) (second % 10)) := by
        rw [lastDigits, lastDigits, Text.compareLex_append (by simp),
          inductionHypothesis (by omega) (by omega), List.compareLex_cons_cons,
          compare_digitChar _ (small first) _ (small second), List.compareLex_nil_nil,
          Ordering.then_eq]
      rw [byDigits, ← compare_scaled (small first) (small second), Nat.div_add_mod',
        Nat.div_add_mod']

end Decimal

/-! ## Counting time -/

namespace Timestamp

/-- The days of the first months of a year. -/
def daysInMonths (year : Int) : Nat → Nat
  | 0 => 0
  | months + 1 => daysInMonths year months + daysInMonth year (months + 1)

/-- The days of the first years, from the year zero on. -/
def daysInYears : Nat → Nat
  | 0 => 0
  | years + 1 => daysInYears years + daysInMonths years 12

/-- The days that have gone by since the year zero began. -/
def dayNumber (t : Timestamp) : Nat :=
  daysInYears t.year.toNat + (daysInMonths t.year (t.month - 1) + (t.day - 1))

/--
The seconds that a clock has shown since the year zero began, where every minute
has room for a leap second.
-/
def clock (t : Timestamp) : Nat :=
  ((t.dayNumber * 24 + t.hour) * 60 + t.minute) * 61 + t.second

theorem monotone_daysInMonths (year : Int) : Monotone (daysInMonths year) :=
  monotone_nat_of_le_succ fun _ => Nat.le_add_right _ _

theorem monotone_daysInYears : Monotone daysInYears :=
  monotone_nat_of_le_succ fun _ => Nat.le_add_right _ _

/-- Points in time compared field by field, from the year down to the second. -/
def compareFields (t u : Timestamp) : Ordering :=
  (compare t.year.toNat u.year.toNat).then <|
    (compare t.month u.month).then <|
      (compare t.day u.day).then <|
        (compare t.hour u.hour).then <|
          (compare t.minute u.minute).then (compare t.second u.second)

namespace FitsDigits

variable {t u : Timestamp} (fits : t.FitsDigits) (otherFits : u.FitsDigits)

include fits

/-- A month and a day of it stay within the months that are counted with it. -/
theorem day_lt_daysInMonths :
    daysInMonths t.year (t.month - 1) + (t.day - 1) < daysInMonths t.year (t.month - 1 + 1) := by
  obtain ⟨_, ⟨firstMonth, _⟩, ⟨firstDay, lastDay⟩, _⟩ := exists?_iff.mp fits.real
  have sameMonth : t.month - 1 + 1 = t.month :=
    Nat.sub_add_cancel firstMonth
  rw [daysInMonths, sameMonth]
  omega

/-- The days of a year up to a day of it stay within that year. -/
theorem day_lt_daysInYears :
    daysInYears t.year.toNat + (daysInMonths t.year (t.month - 1) + (t.day - 1)) <
      daysInYears (t.year.toNat + 1) := by
  obtain ⟨_, ⟨firstMonth, lastMonth⟩, _⟩ := exists?_iff.mp fits.real
  have within : daysInMonths t.year (t.month - 1 + 1) ≤ daysInMonths t.year 12 :=
    monotone_daysInMonths t.year (by omega)
  have sameYear : ((t.year.toNat : Nat) : Int) = t.year :=
    Int.toNat_of_nonneg fits.yearLeast
  have ofMonth := fits.day_lt_daysInMonths
  rw [daysInYears, sameYear]
  omega

include otherFits

/-- Days follow one another as years, months and days of the month do. -/
theorem compare_dayNumber :
    compare t.dayNumber u.dayNumber =
      (compare t.year.toNat u.year.toNat).then
        ((compare t.month u.month).then (compare t.day u.day)) := by
  obtain ⟨_, ⟨month, _⟩, ⟨day, _⟩, _⟩ := exists?_iff.mp fits.real
  obtain ⟨_, ⟨otherMonth, _⟩, ⟨otherDay, _⟩, _⟩ := exists?_iff.mp otherFits.real
  rw [dayNumber, dayNumber,
    compare_counted daysInYears monotone_daysInYears fits.day_lt_daysInYears
      otherFits.day_lt_daysInYears]
  by_cases sameYear : t.year = u.year
  · -- only within one year do the months of both have the same lengths
    have ofOther := otherFits.day_lt_daysInMonths
    rw [← sameYear] at ofOther ⊢
    rw [compare_counted (daysInMonths t.year) (monotone_daysInMonths t.year)
        fits.day_lt_daysInMonths ofOther,
      compare_pred month otherMonth, compare_pred day otherDay]
  · have apart : compare t.year.toNat u.year.toNat ≠ .eq := by
      have least := fits.yearLeast
      have otherLeast := otherFits.yearLeast
      rw [Ne, Nat.compare_eq_eq]
      omega
    cases order : compare t.year.toNat u.year.toNat with
    | lt =>
        rfl
    | eq =>
        exact absurd order apart
    | gt =>
        rfl

/-- The clock runs through the fields. -/
theorem compare_clock : compare t.clock u.clock = t.compareFields u := by
  obtain ⟨_, _, _, hour, minute, second⟩ := exists?_iff.mp fits.real
  obtain ⟨_, _, _, otherHour, otherMinute, otherSecond⟩ := exists?_iff.mp otherFits.real
  rw [clock, clock, compare_scaled second otherSecond, compare_scaled minute otherMinute,
    compare_scaled hour otherHour, fits.compare_dayNumber otherFits, compareFields]
  simp only [Ordering.then_assoc]

/-- The digits run through the fields. -/
theorem compareLex_compact :
    List.compareLex compare t.compact u.compact = t.compareFields u := by
  obtain ⟨year, month, day, hour, minute, second⟩ := fits.fields_lt
  obtain ⟨otherYear, otherMonth, otherDay, otherHour, otherMinute, otherSecond⟩ :=
    otherFits.fields_lt
  rw [fits.compact_eq, otherFits.compact_eq]
  simp only [List.append_assoc]
  rw [Text.compareLex_append (by simp), Text.compareLex_append (by simp),
    Text.compareLex_append (by simp), Text.compareLex_append (by simp),
    Text.compareLex_append (by simp), Decimal.compareLex_lastDigits year otherYear,
    Decimal.compareLex_lastDigits month otherMonth, Decimal.compareLex_lastDigits day otherDay,
    Decimal.compareLex_lastDigits hour otherHour,
    Decimal.compareLex_lastDigits minute otherMinute,
    Decimal.compareLex_lastDigits second otherSecond, compareFields]

end FitsDigits

end Timestamp

/-! ## Generated revisions -/

namespace Revision

variable {t : Timestamp} (fits : t.FitsDigits)

include fits

theorem genuine_ofTimestamp : (ofTimestamp t).Genuine := by
  have fourteen : t.compact.length = 14 :=
    fits.length_compact
  refine genuine_iff.mpr ⟨?_, ?_⟩
  · intro isEmpty
    have noDigits : t.compact = [] := by
      simpa [ofTimestamp] using isEmpty
    simp [noDigits] at fourteen
  · simpa [ofTimestamp] using fits.isDigit_of_mem_compact

theorem timestamp?_ofTimestamp : (ofTimestamp t).timestamp? = some t := by
  simpa [timestamp?, ofTimestamp] using Timestamp.ofCompact?_compact fits

theorem compare_ofTimestamp
    {u : Timestamp}
    (otherFits : u.FitsDigits) :
    compare (ofTimestamp t) (ofTimestamp u) = compare t.clock u.clock := by
  calc
    compare (ofTimestamp t) (ofTimestamp u)
        = compare (String.ofList t.compact) (String.ofList u.compact) := rfl
    _ = List.compareLex compare t.compact u.compact := by
        rw [Text.compare_eq_compareLex, String.toList_ofList, String.toList_ofList]
    _ = t.compareFields u := fits.compareLex_compact otherFits
    _ = compare t.clock u.clock := (fits.compare_clock otherFits).symm

omit fits

/-- A revision that has a point in time is the one generated there. -/
theorem ofTimestamp_of_timestamp?
    {revision : Revision}
    (read : revision.timestamp? = some t) :
    t.FitsDigits ∧ ofTimestamp t = revision := by
  obtain ⟨fits, same⟩ := Timestamp.fitsDigits_of_ofCompact? read
  refine ⟨fits, ?_⟩
  rw [ofTimestamp, same, String.ofList_toList]

/--
Generated revisions are a code of the points in time that have a year of four
digits: fourteen digits that are accepted as a revision and read back, in the
order of time, and every revision that is read as a point in time is its code.
-/
theorem generated_revisions_code_time :
    (∀ t : Timestamp, t.FitsDigits →
      (ofTimestamp t).text.toList.length = 14 ∧
        (∀ c ∈ (ofTimestamp t).text.toList, Text.isDigit c = true) ∧
          parse (ofTimestamp t).text = .ok (ofTimestamp t) ∧
            (ofTimestamp t).timestamp? = some t) ∧
      (∀ t u : Timestamp, t.FitsDigits → u.FitsDigits →
        compare (ofTimestamp t) (ofTimestamp u) = compare t.clock u.clock) ∧
        ∀ revision : Revision, ∀ t : Timestamp, revision.timestamp? = some t →
          t.FitsDigits ∧ ofTimestamp t = revision := by
  refine ⟨?coded, fun t u fits otherFits => compare_ofTimestamp fits otherFits,
    fun revision t read => ofTimestamp_of_timestamp? read⟩
  case coded =>
    intro t fits
    have genuine := genuine_ofTimestamp fits
    refine ⟨?_, (genuine_iff.mp genuine).2, genuine, timestamp?_ofTimestamp fits⟩
    simpa [ofTimestamp] using fits.length_compact

/-- The last second of 2016 was a leap second; its revision comes before that of the new year. -/
theorem leap_second_before_new_year :
    parse "20161231235960" = .ok (ofTimestamp ⟨2016, 12, 31, 23, 59, 60⟩) ∧
      (ofTimestamp ⟨2016, 12, 31, 23, 59, 60⟩).timestamp? = some ⟨2016, 12, 31, 23, 59, 60⟩ ∧
        compare (ofTimestamp ⟨2016, 12, 31, 23, 59, 60⟩) (ofTimestamp ⟨2017, 1, 1, 0, 0, 0⟩) =
          .lt := by
  have leapFits : Timestamp.FitsDigits ⟨2016, 12, 31, 23, 59, 60⟩ :=
    ⟨by decide, by decide, by decide⟩
  have newFits : Timestamp.FitsDigits ⟨2017, 1, 1, 0, 0, 0⟩ :=
    ⟨by decide, by decide, by decide⟩
  obtain ⟨coded, ordered, read⟩ := generated_revisions_code_time
  obtain ⟨_, _, accepted, readBack⟩ := coded _ leapFits
  have written : ofTimestamp ⟨2016, 12, 31, 23, 59, 60⟩ = ⟨"20161231235960"⟩ :=
    (read ⟨"20161231235960"⟩ _ rfl).2
  refine ⟨?_, readBack, ?_⟩
  · rw [written] at accepted ⊢
    exact accepted
  · rw [ordered _ _ leapFits newFits, leapFits.compare_clock newFits]
    rfl

end Revision

end SchemaMigration
