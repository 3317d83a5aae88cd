import Mathlib.Tactic

/-! Years of the Gregorian calendar on the numbers of days, where day 0 is the first day of the year 1. -/

namespace VpnClient.Library.Calendar

/-- The number of the first day of a year. -/
def firstDay (year : ℤ) : ℤ := 365 * (year - 1) + (year - 1) / 4 - (year - 1) / 100 + (year - 1) / 400

/-- The year of a day is the one that the mean length of the years gives, or the next one. -/
def yearOf (day : ℤ) : ℤ :=
  let year := day * 400 / 146097 + 1
  if firstDay (year + 1) ≤ day then year + 1 else year

def dayOfYear (day : ℤ) : ℤ := day - firstDay (yearOf day) + 1

def daysInYear (day : ℤ) : ℤ := firstDay (yearOf day + 1) - firstDay (yearOf day)

variable {day other year : ℤ}

lemma firstDay_bounds (year : ℤ) :
    146097 * (year - 1) - 699 ≤ 400 * firstDay year ∧ 400 * firstDay year ≤ 146097 * (year - 1) + 396 := by
  rw [firstDay]
  omega

lemma length_year (year : ℤ) : firstDay year + 365 ≤ firstDay (year + 1) ∧ firstDay (year + 1) ≤ firstDay year + 366 := by
  rw [firstDay, firstDay]
  omega

lemma yearOf_spec (day : ℤ) : firstDay (yearOf day) ≤ day ∧ day < firstDay (yearOf day + 1) := by
  rw [yearOf]
  generalize hy : day * 400 / 146097 = y
  have h1 := firstDay_bounds (y + 1)
  have h3 := firstDay_bounds (y + 1 + 1 + 1)
  split_ifs with h
  · exact ⟨h, by omega⟩
  · exact ⟨by omega, not_le.mp h⟩

lemma firstDay_mono (h : other ≤ year) : firstDay other ≤ firstDay year := by
  rw [firstDay, firstDay]
  omega

lemma yearOf_eq (h : firstDay year ≤ day) (h' : day < firstDay (year + 1)) : yearOf day = year := by
  obtain ⟨hs, hs'⟩ := yearOf_spec day
  apply le_antisymm
  · by_contra hlt
    have : firstDay (year + 1) ≤ firstDay (yearOf day) := firstDay_mono (by omega)
    omega
  · by_contra hlt
    have : firstDay (yearOf day + 1) ≤ firstDay year := firstDay_mono (by omega)
    omega

lemma one_le_dayOfYear (day : ℤ) : 1 ≤ dayOfYear day := by
  have h := yearOf_spec day
  rw [dayOfYear]
  omega

lemma dayOfYear_le (day : ℤ) : dayOfYear day ≤ daysInYear day := by
  have h := yearOf_spec day
  rw [dayOfYear, daysInYear]
  omega

lemma daysInYear_bounds (day : ℤ) : 365 ≤ daysInYear day ∧ daysInYear day ≤ 366 := by
  have h := length_year (yearOf day)
  rw [daysInYear]
  omega

/-- The next day is in the same year, or the first one of the next year. -/
lemma succ_cases (day : ℤ) :
    dayOfYear (day + 1) = dayOfYear day + 1 ∧ daysInYear (day + 1) = daysInYear day ∨
      dayOfYear (day + 1) = 1 ∧ dayOfYear day = daysInYear day := by
  obtain ⟨hs, hs'⟩ := yearOf_spec day
  have hl := length_year (yearOf day + 1)
  rcases lt_or_ge (day + 1) (firstDay (yearOf day + 1)) with h | h
  · left
    have hy : yearOf (day + 1) = yearOf day := yearOf_eq (by omega) h
    rw [dayOfYear, dayOfYear, daysInYear, daysInYear, hy]
    omega
  · right
    have hy : yearOf (day + 1) = yearOf day + 1 := yearOf_eq h (by omega)
    rw [dayOfYear, dayOfYear, daysInYear, hy]
    omega

/-- A day of a leap year that is late enough. -/
lemma exists_day (bound : ℤ) {n : ℤ} (h1 : 1 ≤ n) (hn : n ≤ 366) : ∃ day, bound < day ∧ dayOfYear day = n := by
  have hb := firstDay_bounds (400 * (|bound| + 1))
  have hl : firstDay (400 * (|bound| + 1) + 1) = firstDay (400 * (|bound| + 1)) + 366 := by
    rw [firstDay, firstDay]
    omega
  have ha := le_abs_self bound
  have hn0 := abs_nonneg bound
  refine ⟨firstDay (400 * (|bound| + 1)) + (n - 1), by omega, ?_⟩
  have hy : yearOf (firstDay (400 * (|bound| + 1)) + (n - 1)) = 400 * (|bound| + 1) := yearOf_eq (by omega) (by omega)
  rw [dayOfYear, hy]
  omega

end VpnClient.Library.Calendar
