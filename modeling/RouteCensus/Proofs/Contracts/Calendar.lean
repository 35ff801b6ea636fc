import RouteCensus.Contracts.Timestamp
import Mathlib.Tactic.Common

/-! # Days and dates

Every number of days from year 1 to year 9999 stands for a day of the calendar.
The year within an era is guessed by a quotient; the guess is right because it
grows with the day and is right at both ends of every year.
-/

namespace RouteCensus.Timestamp

/-- The quotient of this by 365 is the year of an era. -/
def yearGuess (day : Nat) : Nat :=
  day - day / 1460 + day / 36524 - day / 146096

theorem yearGuess_mono {d e : Nat} (h : d ≤ e) : yearGuess d ≤ yearGuess e := by
  unfold yearGuess
  omega

/-- The guess at the first day of a year and at the day before it. -/
theorem yearGuess_yearStart {y : Nat} (h : y < 400) :
    365 * y ≤ yearGuess (yearStart y) ∧ (0 < y → yearGuess (yearStart y - 1) < 365 * y) := by
  have hall : ∀ y < 400, 365 * y ≤ yearGuess (yearStart y) ∧
      (0 < y → yearGuess (yearStart y - 1) < 365 * y) := by
    decide +kernel
  exact hall y h

/-- A day lies between the start of its year and the start of the next one. -/
theorem yearOfEra_spec {day : Nat} (h : day < 146097) :
    yearOfEra day ≤ 399 ∧ yearStart (yearOfEra day) ≤ day ∧
      (yearOfEra day < 399 → day < yearStart (yearOfEra day + 1)) := by
  have hyear : yearOfEra day = yearGuess day / 365 := rfl
  have hle : yearOfEra day ≤ 399 := by
    have hlast : yearGuess day ≤ yearGuess 146096 := yearGuess_mono (by omega)
    rw [show yearGuess 146096 = 145999 by decide] at hlast
    omega
  refine ⟨hle, ?_, ?_⟩
  · by_contra hbefore
    have hpos : 0 < yearOfEra day := by
      by_contra hzero
      rw [Nat.eq_zero_of_not_pos hzero] at hbefore
      exact hbefore (Nat.zero_le _)
    have hend := (yearGuess_yearStart (y := yearOfEra day) (by omega)).2 hpos
    have hmono : yearGuess day ≤ yearGuess (yearStart (yearOfEra day) - 1) :=
      yearGuess_mono (by omega)
    omega
  · intro hlt
    by_contra hafter
    have hstart := (yearGuess_yearStart (y := yearOfEra day + 1) (by omega)).1
    have hmono : yearGuess (yearStart (yearOfEra day + 1)) ≤ yearGuess day :=
      yearGuess_mono (by omega)
    omega

/-- A year has 365 days, or 366 if the year that it ends in is a leap year. -/
theorem yearStart_succ {y : Nat} (h : y < 399) : yearStart (y + 1) ≤ yearStart y + 365 ∨
    yearStart (y + 1) = yearStart y + 366 ∧ isLeap (y + 1) = true := by
  have hall : ∀ y < 399, yearStart (y + 1) ≤ yearStart y + 365 ∨
      yearStart (y + 1) = yearStart y + 366 ∧ isLeap (y + 1) = true := by
    decide +kernel
  exact hall y h

theorem dayOfYear_spec {day : Nat} (h : day < 146097) :
    day - yearStart (yearOfEra day) ≤ 365 ∧
      (day - yearStart (yearOfEra day) = 365 → isLeap (yearOfEra day + 1) = true) := by
  obtain ⟨hle, hstart, hnext⟩ := yearOfEra_spec h
  by_cases hlast : yearOfEra day = 399
  · rw [hlast, show yearStart 399 = 145731 by decide]
    exact ⟨by omega, fun _ => by decide⟩
  · have hday := hnext (by omega)
    rcases yearStart_succ (y := yearOfEra day) (by omega) with hyear | ⟨hyear, hleap⟩
    · exact ⟨by omega, fun h => by omega⟩
    · exact ⟨by omega, fun _ => hleap⟩

/-- What is known of the date of a day, beside its year. -/
def IsYearDay (day : Nat) (t : Timestamp) : Prop :=
  1 ≤ t.month ∧ t.month ≤ 12 ∧ 1 ≤ t.day ∧ (t.month ≤ 2 ↔ 306 ≤ day) ∧
    (t.month ≠ 2 → t.day ≤ monthDays 1 t.month) ∧
      (t.month = 2 → t.day ≤ 28 ∨ t.day = 29 ∧ day = 365)

instance (day : Nat) (t : Timestamp) : Decidable (IsYearDay day t) :=
  inferInstanceAs (Decidable (_ ∧ _))

theorem ofYearDay_spec {day : Nat} (year : Nat) (h : day ≤ 365) :
    IsYearDay day (ofYearDay year day) := by
  have hall : ∀ day < 366, IsYearDay day (ofYearDay 0 day) := by decide +kernel
  exact hall day (by omega)

theorem monthDays_of_ne {month : Nat} (year : Nat) (h : month ≠ 2) :
    monthDays year month = monthDays 1 month := by
  simp [monthDays, h]

theorem isLeap_add_era (year era : Nat) : isLeap (year + era * 400) = isLeap year := by
  have h4 : (year + era * 400) % 4 = year % 4 := by omega
  have h100 : (year + era * 400) % 100 = year % 100 := by omega
  have h400 : (year + era * 400) % 400 = year % 400 := by omega
  rw [isLeap, isLeap, h4, h100, h400]

/-- Each day from the first of year 1 to the last of year 9999 is one of the calendar. -/
theorem ofDays_spec {days : Nat} (hfirst : 306 ≤ days) (hlast : days ≤ 3652364) :
    1 ≤ (ofDays days).year ∧ (ofDays days).year ≤ 9999 ∧ 1 ≤ (ofDays days).month ∧
      (ofDays days).month ≤ 12 ∧
      1 ≤ (ofDays days).day ∧
      (ofDays days).day ≤ monthDays (ofDays days).year (ofDays days).month := by
  have hera : days % 146097 < 146097 := Nat.mod_lt _ (by omega)
  obtain ⟨hle, hstart, -⟩ := yearOfEra_spec hera
  obtain ⟨hday, hleap⟩ := dayOfYear_spec hera
  have hzero : yearStart 0 = 0 := rfl
  have hend : yearStart 399 = 145731 := rfl
  have hdate : ofDays days = ofYearDay (yearOfEra (days % 146097) + days / 146097 * 400)
    (days % 146097 - yearStart (yearOfEra (days % 146097))) := rfl
  rw [hdate]
  generalize hy : yearOfEra (days % 146097) = y at *
  generalize hd : days % 146097 - yearStart y = day at *
  obtain ⟨hmonthPos, hmonthLe, hdayPos, hturn, hmonth, hfebruary⟩ :=
    ofYearDay_spec (y + days / 146097 * 400) hday
  have hyear : (ofYearDay (y + days / 146097 * 400) day).year =
      y + days / 146097 * 400 +
        if (ofYearDay (y + days / 146097 * 400) day).month ≤ 2 then 1 else 0 := rfl
  refine ⟨?_, ?_, hmonthPos, hmonthLe, hdayPos, ?_⟩
  · rw [hyear]
    split
    · omega
    · next hmonth =>
      rw [hturn] at hmonth
      by_cases h0 : y = 0
      · rw [h0, hzero] at hd
        omega
      · omega
  · rw [hyear]
    split
    · next hmonth =>
      rw [hturn] at hmonth
      by_cases h399 : y = 399
      · rw [h399, hend] at hd
        omega
      · omega
    · omega
  · by_cases h2 : (ofYearDay (y + days / 146097 * 400) day).month = 2
    · rw [h2, if_pos (by omega)] at hyear
      rw [hyear, h2, show monthDays (y + days / 146097 * 400 + 1) 2 =
        if isLeap (y + days / 146097 * 400 + 1) then 29 else 28 from rfl]
      rcases hfebruary h2 with hfew | ⟨hlast, h365⟩
      · split <;> omega
      · rw [Nat.add_right_comm, isLeap_add_era, hleap h365, if_pos rfl]
        exact Nat.le_of_eq hlast
    · rw [monthDays_of_ne _ h2]
      exact hmonth h2

end RouteCensus.Timestamp
