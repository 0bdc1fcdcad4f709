import Mathlib.Logic.Function.Iterate
import Mathlib.Tactic.IntervalCases

/-!
Contract: the day count the command line turns a date into seconds with.

The source counts in years that begin in March, so that the leap day is the last of its year, and in eras of
four hundred years, with divisions that truncate towards zero.

Owns: `days_from_civil`, the dates of the proleptic Gregorian calendar with their successor and their order,
and that the count numbers them without a gap.
-/

namespace Barista.Cli

/-- Days between 1970-01-01 and a date. -/
def daysFromCivil (year month day : Int) : Int :=
  let y := year - if month ≤ 2 then 1 else 0
  let era := (if 0 ≤ y then y else y - 399).tdiv 400
  let yoe := y - era * 400
  let doy := (153 * (month + if 2 < month then -3 else 9) + 2).tdiv 5 + day - 1
  let doe := yoe * 365 + yoe.tdiv 4 - yoe.tdiv 100 + doy
  era * 146097 + doe - 719468

/-! ### The calendar -/

def isLeap (year : Int) : Bool := year % 4 = 0 ∧ (year % 100 ≠ 0 ∨ year % 400 = 0)

def daysInMonth (year month : Int) : Int :=
  if month = 2 then if isLeap year then 29 else 28
  else if month = 4 ∨ month = 6 ∨ month = 9 ∨ month = 11 then 30 else 31

@[ext] structure CivilDate where
  year : Int
  month : Int
  day : Int
  monthFits : 1 ≤ month ∧ month ≤ 12
  dayFits : 1 ≤ day ∧ day ≤ daysInMonth year month

theorem daysInMonth_ge (year month : Int) : 28 ≤ daysInMonth year month := by
  unfold daysInMonth
  split
  · split <;> decide
  · split <;> decide

namespace CivilDate

def days (date : CivilDate) : Int := daysFromCivil date.year date.month date.day

def next (date : CivilDate) : CivilDate :=
  if inMonth : date.day < daysInMonth date.year date.month then
    ⟨date.year, date.month, date.day + 1, date.monthFits, by have := date.dayFits; omega⟩
  else if inYear : date.month < 12 then
    ⟨date.year, date.month + 1, 1, by have := date.monthFits; omega,
      by have := daysInMonth_ge date.year (date.month + 1); omega⟩
  else ⟨date.year + 1, 1, 1, by decide, by have := daysInMonth_ge (date.year + 1) 1; omega⟩

def Before (first second : CivilDate) : Prop :=
  first.year < second.year ∨ first.year = second.year ∧
    (first.month < second.month ∨ first.month = second.month ∧ first.day < second.day)

end CivilDate

/-! ### The count in closed form -/

/-- Days before the first of March of a year, up to a constant. -/
def yearStart (y : Int) : Int := 365 * y + y / 4 - y / 100 + y / 400

/-- Days from the first of March to the first of a month, counted from March. -/
def monthStart (month : Int) : Int := (153 * month + 2) / 5

def marchYear (year month : Int) : Int := if month ≤ 2 then year - 1 else year

def fromMarch (month : Int) : Int := if month ≤ 2 then month + 9 else month - 3

/-- The first of a month, up to a constant. -/
def firstOf (year month : Int) : Int := yearStart (marchYear year month) + monthStart
    (fromMarch month)

theorem era_eq (y : Int) : (if 0 ≤ y then y else y - 399).tdiv 400 = y / 400 := by
  split
  case isTrue => rw [Int.tdiv_eq_ediv_of_nonneg (by omega)]
  case isFalse negative =>
    rw [← Int.neg_neg (y - 399), Int.neg_tdiv, Int.tdiv_eq_ediv_of_nonneg (by omega)]
    omega

theorem daysFromCivil_eq {year month : Int} (day : Int) (fits : 1 ≤ month ∧ month ≤ 12) :
    daysFromCivil year month day = firstOf year month + day - 719469 := by
  have shifted : (year - if month ≤ 2 then 1 else 0) = marchYear year month := by
    unfold marchYear
    split <;> omega
  have counted : (month + if 2 < month then -3 else 9) = fromMarch month := by
    unfold fromMarch
    split <;> split <;> omega
  have positive : 0 ≤ fromMarch month := by
    unfold fromMarch
    split <;> omega
  simp only [daysFromCivil, shifted, counted, era_eq]
  rw [Int.tdiv_eq_ediv_of_nonneg (by omega), Int.tdiv_eq_ediv_of_nonneg (by omega),
    Int.tdiv_eq_ediv_of_nonneg (by omega), firstOf, yearStart, monthStart]
  omega

theorem yearStart_next (y : Int) : yearStart (y + 1) = yearStart y + if isLeap (y + 1) then 366
    else 365 := by
  simp only [yearStart, isLeap, decide_eq_true_eq]
  split <;> omega

theorem month_end (year : Int) {month : Int} (fits : 1 ≤ month ∧ month ≤ 12) :
    firstOf year month + daysInMonth year month =
      if month < 12 then firstOf year (month + 1) else firstOf (year + 1) 1 := by
  obtain ⟨low, high⟩ := fits
  unfold firstOf
  by_cases february : month = 2
  · -- The only month whose end depends on the year.
    have leaps := yearStart_next (year - 1)
    rw [Int.sub_add_cancel] at leaps
    subst february
    simp only [marchYear, fromMarch, monthStart, daysInMonth]
    split at leaps <;> simp_all <;> omega
  · have plain : daysInMonth year month = daysInMonth 1 month := by simp [daysInMonth, february]
    rw [plain]
    interval_cases month <;>
      simp [marchYear, fromMarch, monthStart, daysInMonth] at february ⊢ <;> omega

theorem firstOf_mono {year month laterYear laterMonth : Int} (fits : 1 ≤ month ∧ month ≤ 12)
    (laterFits : 1 ≤ laterMonth ∧ laterMonth ≤ 12)
    (le : year < laterYear ∨ year = laterYear ∧ month ≤ laterMonth) :
    firstOf year month ≤ firstOf laterYear laterMonth := by
  simp only [firstOf, yearStart, monthStart, marchYear, fromMarch]
  split <;> split <;> omega

namespace CivilDate

theorem days_eq (date : CivilDate) : date.days = firstOf date.year date.month + date.day - 719469 :=
  daysFromCivil_eq date.day date.monthFits

theorem days_next (date : CivilDate) : date.next.days = date.days + 1 := by
  have ends := month_end date.year date.monthFits
  have fits := date.dayFits
  rw [days_eq, days_eq, next]
  split
  case isTrue =>
    dsimp only
    omega
  case isFalse =>
    split at ends
    case isTrue inYear =>
      rw [dif_pos inYear]
      dsimp only
      omega
    case isFalse inYear =>
      rw [dif_neg inYear]
      dsimp only
      omega

theorem days_iterate (date : CivilDate) (count : Nat) :
    (next^[count] date).days = date.days + count := by
  induction count with
  | zero => simp
  | succ count ih =>
    rw [Function.iterate_succ_apply', days_next, ih]
    omega

theorem days_lt_of_before {first second : CivilDate} (before : first.Before second) :
    first.days < second.days := by
  have fits := first.monthFits
  have dayFits := first.dayFits
  have laterFits := second.dayFits
  have ends := month_end first.year fits
  rw [days_eq, days_eq]
  by_cases sameMonth : first.year = second.year ∧ first.month = second.month
  · rw [sameMonth.1, sameMonth.2]
    unfold Before at before
    omega
  · -- The month of the first date ends no later than that of the second begins.
    have starts : firstOf first.year first.month + daysInMonth first.year first.month ≤
        firstOf second.year second.month := by
      unfold Before at before
      rw [ends]
      split
      case isTrue => exact firstOf_mono (by omega) second.monthFits (by omega)
      case isFalse =>
        exact firstOf_mono (by decide) second.monthFits (by have := second.monthFits; omega)
    omega

theorem before_trichotomy (first second : CivilDate) :
    first.Before second ∨ first = second ∨ second.Before first := by
  simp only [Before, CivilDate.ext_iff]
  omega

end CivilDate

/-- **The day count numbers the dates of the calendar**, in their order and without a gap. -/
theorem civil_days_count : daysFromCivil 1970 1 1 = 0 ∧
    (∀ date : CivilDate, date.next.days = date.days + 1) ∧
    (∀ first second : CivilDate, first.Before second ↔ first.days < second.days) ∧
    Function.Bijective CivilDate.days := by
  refine ⟨by decide, CivilDate.days_next, fun first second => ⟨CivilDate.days_lt_of_before, fun less => ?_⟩,
    fun first second same => ?_, fun day => ?_⟩
  · rcases first.before_trichotomy second with before | rfl | after
    · exact before
    · exact absurd less (lt_irrefl _)
    · exact absurd less (CivilDate.days_lt_of_before after).asymm
  · rcases first.before_trichotomy second with before | equal | after
    · exact absurd same (CivilDate.days_lt_of_before before).ne
    · exact equal
    · exact absurd same (CivilDate.days_lt_of_before after).ne'
  · -- Some New Year's Day is early enough, and the days from there on are counted one by one.
    let start : CivilDate :=
      ⟨min day 0, 1, 1, by decide, by have := daysInMonth_ge (min day 0) 1; omega⟩
    have early : start.days ≤ day := by
      rw [start.days_eq]
      simp only [start, firstOf, marchYear, fromMarch, yearStart, monthStart]
      omega
    refine ⟨CivilDate.next^[(day - start.days).toNat] start, ?_⟩
    rw [CivilDate.days_iterate]
    omega

end Barista.Cli
