/-
# Days and dates

Every day has a date of the calendar, and the number of that date is the day.  So the calendar is
a way to write down days.  The year that a day lies in is found by the mean length of a year up
to one year, and a month by going through the lengths of the months.
-/
import DeviceFleet.Time.Calendar
import Mathlib.Algebra.BigOperators.Group.List.Basic
import Mathlib.Algebra.Ring.Nat
import Mathlib.Tactic.Common

namespace DeviceFleet.Calendar

/-! ## Years -/

lemma daysBeforeYear_succ (year : Int) :
    daysBeforeYear (year + 1) = daysBeforeYear year + if isLeapYear year then 366 else 365 := by
  unfold daysBeforeYear isLeapYear
  by_cases h4 : year % 4 = 0 <;> by_cases h100 : year % 100 = 0 <;>
    by_cases h400 : year % 400 = 0 <;> simp [h4, h100, h400] <;> omega

/-- A day lies in its year. -/
lemma yearOf_spec (day : Int) :
    daysBeforeYear (yearOf day) ≤ day ∧ day < daysBeforeYear (yearOf day + 1) := by
  unfold yearOf
  simp only
  split_ifs with h
  · refine ⟨h, ?_⟩
    unfold daysBeforeYear
    omega
  · refine ⟨?_, by omega⟩
    unfold daysBeforeYear
    omega

/-! ## Months -/

lemma sum_monthLengths (leap : Bool) : (monthLengths leap).sum = if leap then 366 else 365 := by
  cases leap <;> rfl

lemma le_of_mem_monthLengths {leap : Bool} {length : Nat} (h : length ∈ monthLengths leap) :
    length ≤ 31 := by
  revert length
  cases leap <;> decide

/-- A day is in the month that is found for it, after the months before. -/
lemma splitMonths_spec {lengths : List Nat} {day : Nat} (h : day < lengths.sum) :
    1 ≤ (splitMonths lengths day).1 ∧ 1 ≤ (splitMonths lengths day).2 ∧
      (lengths.take ((splitMonths lengths day).1 - 1)).sum + (splitMonths lengths day).2 =
        day + 1 ∧
      ∃ length, lengths[(splitMonths lengths day).1 - 1]? = some length ∧
        (splitMonths lengths day).2 ≤ length := by
  induction lengths generalizing day with
  | nil => simp at h
  | cons length lengths ih =>
    rw [splitMonths]
    split_ifs with hday
    · simpa [Nat.succ_le_iff] using hday
    · rw [List.sum_cons] at h
      have hlt : day - length < lengths.sum := by omega
      obtain ⟨hmonth, hrest, hsum, found, hfound, hle⟩ := ih hlt
      obtain ⟨month, hmonth⟩ := Nat.exists_eq_add_of_le' hmonth
      simp only [hmonth, Nat.add_sub_cancel] at hsum hfound ⊢
      refine ⟨by omega, hrest, ?_, found, by simpa using hfound, hle⟩
      rw [List.take_succ_cons, List.sum_cons]
      omega

/-! ## Dates -/

/-- The place of a day in its year. -/
lemma dayOfYear_lt (day : Int) :
    (day - daysBeforeYear (yearOf day)).toNat <
      (monthLengths (isLeapYear (yearOf day))).sum := by
  obtain ⟨hle, hlt⟩ := yearOf_spec day
  rw [daysBeforeYear_succ] at hlt
  rw [sum_monthLengths]
  split_ifs at hlt ⊢ <;> omega

lemma ofDay_eq (day : Int) :
    Date.ofDay day =
      { year := yearOf day
        month := (splitMonths (monthLengths (isLeapYear (yearOf day)))
          (day - daysBeforeYear (yearOf day)).toNat).1
        day := (splitMonths (monthLengths (isLeapYear (yearOf day)))
          (day - daysBeforeYear (yearOf day)).toNat).2 } :=
  rfl

/-- The calendar has the date of every day. -/
lemma isValid_ofDay (day : Int) : (Date.ofDay day).isValid = true := by
  obtain ⟨hmonth, hday, -, length, hlength, hle⟩ := splitMonths_spec (dayOfYear_lt day)
  simp [Date.isValid, ofDay_eq, hlength, hmonth, hday, hle]

lemma month_ofDay_le (day : Int) : (Date.ofDay day).month ≤ 12 := by
  obtain ⟨hmonth, -, -, length, hlength, -⟩ := splitMonths_spec (dayOfYear_lt day)
  have hlt := (List.getElem?_eq_some_iff.mp hlength).1
  have htwelve : (monthLengths (isLeapYear (yearOf day))).length = 12 := rfl
  rw [ofDay_eq]
  dsimp only
  omega

lemma day_ofDay_le (day : Int) : (Date.ofDay day).day ≤ 31 := by
  obtain ⟨-, -, -, length, hlength, hle⟩ := splitMonths_spec (dayOfYear_lt day)
  rw [ofDay_eq]
  exact Nat.le_trans hle (le_of_mem_monthLengths (List.mem_of_getElem? hlength))

lemma toDay_eq (d : Date) :
    d.toDay = daysBeforeYear d.year +
      ((monthLengths (isLeapYear d.year)).take (d.month - 1)).sum + d.day - 1 := by
  rw [List.sum_eq_foldl]
  rfl

/-- The number of the date of a day is the day. -/
lemma toDay_ofDay (day : Int) : (Date.ofDay day).toDay = day := by
  obtain ⟨-, -, hsum, -⟩ := splitMonths_spec (dayOfYear_lt day)
  obtain ⟨hle, -⟩ := yearOf_spec day
  rw [toDay_eq, ofDay_eq]
  dsimp only
  omega

end DeviceFleet.Calendar
