import Mathlib.Data.Int.ConditionallyCompleteOrder
import Mathlib.Order.Monotone.Basic
import Mathlib.Algebra.Order.SuccPred
import Mathlib.Algebra.Order.Group.Int
import Mathlib.Tactic.IntervalCases

/-!
# The months of the Gregorian calendar

Months are numbered without gaps, month `m` of year `y` being `y * 12 + m`,
and so are days, day 1 being the first of January of year 1. The first day of
each month follows from the lengths of the months before it. Every day lies in
exactly one month.
-/

set_option autoImplicit false

namespace GregorianMonths

def isLeap (year : ℤ) : Prop := year%4 = 0 ∧ (year%100 ≠ 0 ∨ year%400 = 0)

instance : DecidablePred isLeap := fun year =>
  inferInstanceAs (Decidable (year%4 = 0 ∧ (year%100 ≠ 0 ∨ year%400 = 0)))

def yearOf (i : ℤ) : ℤ := (i-1)/12

def monthOf (i : ℤ) : ℤ := (i-1)%12+1

def monthLength (i : ℤ) : ℤ :=
  if monthOf i = 2 then if isLeap (yearOf i) then 29 else 28
  else if monthOf i = 4 ∨ monthOf i = 6 ∨ monthOf i = 9 ∨ monthOf i = 11 then 30
  else 31

/-- The days of a year before a month, the leap day apart. -/
def daysBefore (month : ℤ) : ℤ :=
  if month = 1 then 0
  else if month = 2 then 31
  else if month = 3 then 59
  else if month = 4 then 90
  else if month = 5 then 120
  else if month = 6 then 151
  else if month = 7 then 181
  else if month = 8 then 212
  else if month = 9 then 243
  else if month = 10 then 273
  else if month = 11 then 304
  else 334

def daysBeforeYear (year : ℤ) : ℤ := (year-1)*365+(year-1)/4-(year-1)/100+(year-1)/400

/-- The first day of a month. -/
def firstDay (i : ℤ) : ℤ :=
  daysBeforeYear (yearOf i)+daysBefore (monthOf i)+
    (if isLeap (yearOf i) ∧ 2 < monthOf i then 1 else 0)+1

theorem daysBeforeYear_succ (year : ℤ) :
    daysBeforeYear (year+1) = daysBeforeYear year+365+(if isLeap year then 1 else 0) := by
  by_cases hl : isLeap year
  · rw [if_pos hl]
    unfold isLeap at hl
    unfold daysBeforeYear
    omega
  · rw [if_neg hl]
    unfold isLeap at hl
    unfold daysBeforeYear
    omega

theorem monthOf_mem (i : ℤ) : 1 ≤ monthOf i ∧ monthOf i ≤ 12 := by
  unfold monthOf
  omega

theorem monthOf_succ (i : ℤ) :
    monthOf i < 12 ∧ monthOf (i+1) = monthOf i+1 ∧ yearOf (i+1) = yearOf i ∨
      monthOf i = 12 ∧ monthOf (i+1) = 1 ∧ yearOf (i+1) = yearOf i+1 := by
  unfold monthOf yearOf
  omega

/-- The length of a month in a year without a leap day. -/
theorem daysBefore_succ {m : ℤ} (h1 : 1 ≤ m) (h12 : m < 12) :
    daysBefore (m+1) = daysBefore m+
      if m = 2 then 28 else if m = 4 ∨ m = 6 ∨ m = 9 ∨ m = 11 then 30 else 31 := by
  interval_cases m <;> rfl

theorem firstDay_succ (i : ℤ) : firstDay (i+1) = firstDay i+monthLength i := by
  have hm := monthOf_mem i
  unfold firstDay monthLength
  rcases monthOf_succ i with ⟨hlt, hmonth, hyear⟩ | ⟨heq, hmonth, hyear⟩
  · rw [hmonth, hyear, daysBefore_succ hm.1 hlt]
    by_cases hl : isLeap (yearOf i)
    · simp only [hl, true_and, if_true]
      split_ifs <;> omega
    · simp only [hl, false_and, if_false]
      split_ifs <;> omega
  · rw [hmonth, hyear, heq, daysBeforeYear_succ]
    by_cases hl : isLeap (yearOf i)
    · simp [daysBefore, hl]
      omega
    · simp [daysBefore, hl]
      omega

theorem monthLength_pos (i : ℤ) : 0 < monthLength i := by
  unfold monthLength
  split_ifs <;> decide

theorem firstDay_strictMono : StrictMono firstDay :=
  strictMono_int_of_lt_succ fun i => by
    have h := firstDay_succ i
    have hpos := monthLength_pos i
    omega

/-- The month of a day is the only one that has it. -/
theorem month_unique {i j n : ℤ} (hi : firstDay i ≤ n ∧ n < firstDay (i+1))
    (hj : firstDay j ≤ n ∧ n < firstDay (j+1)) : i = j := by
  have hij : i < j+1 := firstDay_strictMono.lt_iff_lt.mp (hi.1.trans_lt hj.2)
  have hji : j < i+1 := firstDay_strictMono.lt_iff_lt.mp (hj.1.trans_lt hi.2)
  omega

example : firstDay (1970*12+1) = 719163 := by decide
example : firstDay (2000*12+3) = firstDay (2000*12+2)+29 := by decide

end GregorianMonths
