import Mathlib.Data.Prod.Lex
import Mathlib.Order.Basic
import Mathlib.Order.Monotone.Defs
import Grouproxy.Library.DateTime

/-! # The calendar

Datetimes in their order, and the dates, weeks of the ISO calendar and months they fall in, which
never go back as time goes on.
-/

namespace Grouproxy.DateTimes

/-! ## Days -/

def daysBeforeYear (year : ℕ) : ℕ :=
  (year - 1) * 365 + (year - 1) / 4 - (year - 1) / 100 + (year - 1) / 400

def daysBeforeMonth (year : ℕ) : ℕ → ℕ
  | 0 => 0
  | 1 => 0
  | month + 2 => daysBeforeMonth year (month + 1) + daysInMonth year (month + 1)

def daysInYear (year : ℕ) : ℕ := if isLeap year then 366 else 365

theorem le_daysInYear (year : ℕ) : 365 ≤ daysInYear year := by
  rw [daysInYear]
  split <;> omega

theorem daysBeforeYear_succ {year : ℕ} (h : 0 < year) :
    daysBeforeYear (year + 1) = daysBeforeYear year + daysInYear year := by
  obtain ⟨n, rfl⟩ : ∃ n, year = n + 1 := ⟨year - 1, by omega⟩
  have hfour : (n + 1) / 4 = n / 4 + if 4 ∣ n + 1 then 1 else 0 := Nat.succ_div
  have hhundred : (n + 1) / 100 = n / 100 + if 100 ∣ n + 1 then 1 else 0 := Nat.succ_div
  have hmany : (n + 1) / 400 = n / 400 + if 400 ∣ n + 1 then 1 else 0 := Nat.succ_div
  have hle : n / 100 ≤ n / 4 := Nat.div_le_div_left (by omega) (by omega)
  have hleap : isLeap (n + 1) = true ↔ 4 ∣ n + 1 ∧ (¬ 100 ∣ n + 1 ∨ 400 ∣ n + 1) := by
    simp [isLeap, Nat.dvd_iff_mod_eq_zero]
  have hhundredFour : 100 ∣ n + 1 → 4 ∣ n + 1 := Nat.dvd_trans (by decide)
  have hmanyHundred : 400 ∣ n + 1 → 100 ∣ n + 1 := Nat.dvd_trans (by decide)
  simp only [daysBeforeYear, daysInYear, hleap, Nat.add_sub_cancel, hfour, hhundred, hmany]
  split_ifs <;> omega

theorem daysBeforeMonth_thirteen (year : ℕ) : daysBeforeMonth year 13 = daysInYear year := by
  simp only [daysBeforeMonth, daysInYear, daysInMonth]
  cases isLeap year <;> simp

theorem daysBeforeYear_add_le {y z : ℕ} (hy : 0 < y) (h : y < z) :
    daysBeforeYear y + daysInYear y ≤ daysBeforeYear z := by
  induction h with
  | refl => rw [daysBeforeYear_succ hy]
  | step hlt ih =>
      rw [daysBeforeYear_succ (Nat.lt_of_lt_of_le (Nat.succ_pos y) hlt)]
      omega

theorem daysBeforeMonth_add_le {year m n : ℕ} (hm : 0 < m) (h : m < n) :
    daysBeforeMonth year m + daysInMonth year m ≤ daysBeforeMonth year n := by
  induction h with
  | refl =>
      obtain ⟨m, rfl⟩ := Nat.exists_eq_add_of_lt hm
      simp [daysBeforeMonth]
  | @step n hlt ih =>
      have hn : 0 < n := Nat.lt_of_lt_of_le (Nat.succ_pos m) hlt
      obtain ⟨k, rfl⟩ : ∃ k, n = k + 1 := ⟨n - 1, by omega⟩
      rw [daysBeforeMonth]
      omega

namespace DateTime

variable {t u : DateTime}

instance : LinearOrder DateTime := LinearOrder.lift' number number_injective

theorem le_iff : t ≤ u ↔ t.number ≤ u.number := Iff.rfl

def toordinal (t : DateTime) : ℕ := daysBeforeYear t.year + daysBeforeMonth t.year t.month + t.day

theorem dayOfYear_le (t : DateTime) :
    daysBeforeMonth t.year t.month + t.day ≤ daysInYear t.year := by
  have hmonth : daysBeforeMonth t.year t.month + daysInMonth t.year t.month ≤
      daysBeforeMonth t.year 13 := daysBeforeMonth_add_le t.month_pos (Nat.lt_succ_of_le t.month_le)
  have hday := t.day_le
  rw [daysBeforeMonth_thirteen] at hmonth
  omega

theorem dayNumber_mono (h : t ≤ u) : t.dayNumber ≤ u.dayNumber := by
  have ht := t.hour_lt
  have hu := u.hour_lt
  have ht := t.minute_lt
  have hu := u.minute_lt
  have ht := t.second_lt
  have hu := u.second_lt
  have ht := t.microsecond_lt
  have hu := u.microsecond_lt
  rw [le_iff] at h
  simp only [number, secondNumber, minuteNumber, hourNumber] at h
  omega

theorem date_cases (h : t ≤ u) : t.year < u.year ∨ t.year = u.year ∧
    (t.month < u.month ∨ t.month = u.month ∧ t.day ≤ u.day) := by
  have hday := dayNumber_mono h
  have ht := Nat.le_trans t.day_le (daysInMonth_le t.year t.month)
  have hu := Nat.le_trans u.day_le (daysInMonth_le u.year u.month)
  have htm := t.month_le
  have hum := u.month_le
  simp only [dayNumber] at hday
  omega

theorem toordinal_mono (h : t ≤ u) : t.toordinal ≤ u.toordinal := by
  rw [toordinal, toordinal]
  rcases date_cases h with hyear | ⟨hyear, hmonth | ⟨hmonth, hday⟩⟩
  · have ht := dayOfYear_le t
    have hbefore := daysBeforeYear_add_le t.year_pos hyear
    omega
  · have hday := t.day_le
    have hbefore : daysBeforeMonth t.year t.month + daysInMonth t.year t.month ≤
        daysBeforeMonth t.year u.month := daysBeforeMonth_add_le t.month_pos hmonth
    rw [← hyear]
    omega
  · rw [hyear, hmonth]
    omega

/-! ## Dates, weeks and months -/

/-- `t.date()` -/
def date (t : DateTime) : ℕ ×ₗ ℕ ×ₗ ℕ := toLex (t.year, toLex (t.month, t.day))

/-- `(t.year, t.month)` -/
def yearMonth (t : DateTime) : ℕ ×ₗ ℕ := toLex (t.year, t.month)

theorem date_monotone : Monotone date := by
  intro t u h
  rw [date, date, Prod.Lex.toLex_le_toLex, Prod.Lex.toLex_le_toLex]
  exact date_cases h

theorem yearMonth_monotone : Monotone yearMonth := by
  intro t u h
  rw [yearMonth, yearMonth, Prod.Lex.toLex_le_toLex]
  rcases date_cases h with hyear | ⟨hyear, hmonth | ⟨hmonth, -⟩⟩
  · exact .inl hyear
  · exact .inr ⟨hyear, hmonth.le⟩
  · exact .inr ⟨hyear, hmonth.le⟩

/-- The ordinal of the Monday on which the first ISO week of a year begins. -/
def isoweek1monday (year : ℕ) : ℤ :=
  let firstday : ℤ := daysBeforeYear year + 1
  let firstweekday := (firstday + 6) % 7
  if firstweekday > 3 then firstday - firstweekday + 7 else firstday - firstweekday

/-- `t.isocalendar()[:2]` -/
def isocalendar (t : DateTime) : ℕ ×ₗ ℤ :=
  let today : ℤ := t.toordinal
  let week := (today - isoweek1monday t.year) / 7
  if week < 0 then toLex (t.year - 1, (today - isoweek1monday (t.year - 1)) / 7 + 1)
  else if week ≥ 52 ∧ today ≥ isoweek1monday (t.year + 1) then toLex (t.year + 1, 1)
  else toLex (t.year, week + 1)

theorem isoweek1monday_near (year : ℕ) : daysBeforeYear year - 2 ≤ isoweek1monday year ∧
    isoweek1monday year ≤ daysBeforeYear year + 4 ∧ isoweek1monday year % 7 = 1 := by
  simp only [isoweek1monday]
  split <;> omega

theorem isoweek1monday_add_le {y z : ℕ} (hy : 0 < y) (h : y < z) :
    isoweek1monday y + 364 ≤ isoweek1monday z := by
  have hyear := daysBeforeYear_add_le hy h
  have hlength := le_daysInYear y
  have hfirst := isoweek1monday_near y
  have hlater := isoweek1monday_near z
  omega

/-- The ISO year is that between whose first Mondays the day lies, and the week is counted from the
first of them. -/
theorem isocalendar_spec (t : DateTime) :
    ∃ year : ℕ, 0 < year ∧ isoweek1monday year ≤ t.toordinal ∧
      t.toordinal < isoweek1monday (year + 1) ∧
      isocalendar t = toLex (year, (t.toordinal - isoweek1monday year) / 7 + 1) := by
  have hyear := t.year_pos
  have hfirst : daysBeforeYear t.year + 1 ≤ t.toordinal := by
    have hday := t.day_pos
    rw [toordinal]
    omega
  have hlast : t.toordinal ≤ daysBeforeYear (t.year + 1) := by
    have hday := dayOfYear_le t
    rw [toordinal, daysBeforeYear_succ hyear]
    omega
  have hnear := isoweek1monday_near t.year
  have hnext := isoweek1monday_near (t.year + 1)
  have hlength : isoweek1monday t.year + 364 ≤ isoweek1monday (t.year + 1) :=
    isoweek1monday_add_le hyear (Nat.lt_succ_self t.year)
  rw [isocalendar]
  by_cases hbefore : ((t.toordinal : ℤ) - isoweek1monday t.year) / 7 < 0
  · -- The first days of January belong to the last week of the year before.
    have hprevious := isoweek1monday_near (t.year - 1)
    have hone : isoweek1monday 1 = 1 := by decide
    have hpos : 0 < t.year - 1 := by
      by_contra hnot
      have hsame : t.year = 1 := by omega
      rw [hsame, hone] at hbefore
      omega
    have hsucc : t.year - 1 + 1 = t.year := by omega
    have hdays := daysBeforeYear_add_le hpos (by omega : t.year - 1 < t.year)
    have hlong : 365 ≤ daysInYear (t.year - 1) := le_daysInYear _
    refine ⟨t.year - 1, hpos, by omega, by rw [hsucc]; omega, ?_⟩
    rw [if_pos hbefore]
  · by_cases hafter : ((t.toordinal : ℤ) - isoweek1monday t.year) / 7 ≥ 52 ∧
        t.toordinal ≥ isoweek1monday (t.year + 1)
    · -- The last days of December belong to the first week of the next year.
      have hlater : isoweek1monday (t.year + 1) + 364 ≤ isoweek1monday (t.year + 1 + 1) :=
        isoweek1monday_add_le (Nat.succ_pos t.year) (Nat.lt_succ_self (t.year + 1))
      refine ⟨t.year + 1, Nat.succ_pos _, hafter.2, by omega, ?_⟩
      have hweek : ((t.toordinal : ℤ) - isoweek1monday (t.year + 1)) / 7 + 1 = 1 := by omega
      rw [if_neg hbefore, if_pos hafter, hweek]
    · refine ⟨t.year, hyear, by omega, by omega, ?_⟩
      rw [if_neg hbefore, if_neg hafter]

theorem isocalendar_mono (h : t ≤ u) : isocalendar t ≤ isocalendar u := by
  obtain ⟨y, hy, hyt, hty, heq⟩ := isocalendar_spec t
  obtain ⟨z, hz, hzu, huz, heq'⟩ := isocalendar_spec u
  have hday : (t.toordinal : ℤ) ≤ u.toordinal := by exact_mod_cast toordinal_mono h
  rw [heq, heq', Prod.Lex.toLex_le_toLex]
  rcases lt_trichotomy y z with hlt | rfl | hgt
  · exact .inl hlt
  · exact .inr ⟨rfl, by simp only; omega⟩
  · have hnext : isoweek1monday (z + 1) ≤ isoweek1monday y := by
      by_cases hlast : z + 1 = y
      · rw [hlast]
      · have hle : isoweek1monday (z + 1) + 364 ≤ isoweek1monday y :=
          isoweek1monday_add_le (Nat.succ_pos z) (by omega)
        omega
    omega

end DateTime

end Grouproxy.DateTimes
