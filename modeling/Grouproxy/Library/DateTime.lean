import Mathlib.Data.Nat.Basic
import Mathlib.Tactic.SplitIfs
import Grouproxy.Library.Text

/-! # Datetimes

A `datetime` in UTC, its order, the datetime a millisecond later, and its ISO text, which
determines it.
-/

namespace Grouproxy.DateTimes

def isLeap (year : Nat) : Bool := year % 4 == 0 && (year % 100 != 0 || year % 400 == 0)

def daysInMonth (year month : Nat) : Nat :=
  if month = 2 then if isLeap year then 29 else 28
  else if month ∈ [4, 6, 9, 11] then 30
  else 31

theorem daysInMonth_le (year month : Nat) : daysInMonth year month ≤ 31 := by
  rw [daysInMonth]
  split_ifs <;> omega

theorem daysInMonth_pos (year month : Nat) : 0 < daysInMonth year month := by
  rw [daysInMonth]
  split_ifs <;> omega

structure DateTime where
  year : Nat
  month : Nat
  day : Nat
  hour : Nat
  minute : Nat
  second : Nat
  microsecond : Nat
  year_pos : 0 < year
  year_le : year ≤ 9999
  month_pos : 0 < month
  month_le : month ≤ 12
  day_pos : 0 < day
  day_le : day ≤ daysInMonth year month
  hour_lt : hour < 24
  minute_lt : minute < 60
  second_lt : second < 60
  microsecond_lt : microsecond < 1000000
  deriving DecidableEq

namespace DateTime

variable {t u : DateTime}

/-- A time from its fields, with all their bounds at once. -/
def ofFields (year month day hour minute second microsecond : Nat)
    (bounds : (0 < year ∧ year ≤ 9999) ∧ (0 < month ∧ month ≤ 12) ∧
      (0 < day ∧ day ≤ daysInMonth year month) ∧
      hour < 24 ∧ minute < 60 ∧ second < 60 ∧ microsecond < 1000000) : DateTime :=
  ⟨year, month, day, hour, minute, second, microsecond, bounds.1.1, bounds.1.2, bounds.2.1.1,
    bounds.2.1.2, bounds.2.2.1.1, bounds.2.2.1.2, bounds.2.2.2.1, bounds.2.2.2.2.1,
    bounds.2.2.2.2.2.1, bounds.2.2.2.2.2.2⟩

/-! ## Order -/

/-- The fields read as the digits of one number, which orders the days. -/
def dayNumber (t : DateTime) : Nat := (t.year * 13 + t.month) * 32 + t.day

def hourNumber (t : DateTime) : Nat := t.dayNumber * 24 + t.hour

def minuteNumber (t : DateTime) : Nat := t.hourNumber * 60 + t.minute

def secondNumber (t : DateTime) : Nat := t.minuteNumber * 60 + t.second

/-- The number that orders the datetimes. -/
def number (t : DateTime) : Nat := t.secondNumber * 1000000 + t.microsecond

theorem number_injective : Function.Injective number := by
  intro t u h
  have ht := Nat.le_trans t.day_le (daysInMonth_le t.year t.month)
  have hu := Nat.le_trans u.day_le (daysInMonth_le u.year u.month)
  obtain ⟨year, month, day, hour, minute, second, microsecond⟩ := t
  obtain ⟨year', month', day', hour', minute', second', microsecond'⟩ := u
  simp only [number, secondNumber, minuteNumber, hourNumber, dayNumber] at h ht hu
  have hmicrosecond : microsecond = microsecond' := by omega
  have hsecond : second = second' := by omega
  have hminute : minute = minute' := by omega
  have hhour : hour = hour' := by omega
  have hday : day = day' := by omega
  have hmonth : month = month' := by omega
  have hyear : year = year' := by omega
  subst hmicrosecond hsecond hminute hhour hday hmonth hyear
  rfl

/-! ## A millisecond later -/

/-- `t.replace(microsecond=(t.microsecond // 1000) * 1000)` -/
def truncated (t : DateTime) : DateTime :=
  { t with
    microsecond := t.microsecond / 1000 * 1000
    microsecond_lt := Nat.lt_of_le_of_lt (Nat.div_mul_le_self _ _) t.microsecond_lt }

def addDay (t : DateTime) : Option DateTime :=
  if h : t.day + 1 ≤ daysInMonth t.year t.month then
    some { t with day := t.day + 1, day_pos := Nat.succ_pos _, day_le := h }
  else if h : t.month + 1 ≤ 12 then
    some { t with
      month := t.month + 1
      day := 1
      month_pos := Nat.succ_pos _
      month_le := h
      day_pos := Nat.one_pos
      day_le := daysInMonth_pos _ _ }
  else if h : t.year + 1 ≤ 9999 then
    some { t with
      year := t.year + 1
      month := 1
      day := 1
      year_pos := Nat.succ_pos _
      year_le := h
      month_pos := Nat.one_pos
      month_le := by omega
      day_pos := Nat.one_pos
      day_le := daysInMonth_pos _ _ }
  else none

def addHour (t : DateTime) : Option DateTime :=
  if h : t.hour + 1 < 24 then some { t with hour := t.hour + 1, hour_lt := h }
  else addDay { t with hour := 0, hour_lt := by omega }

def addMinute (t : DateTime) : Option DateTime :=
  if h : t.minute + 1 < 60 then some { t with minute := t.minute + 1, minute_lt := h }
  else addHour { t with minute := 0, minute_lt := by omega }

def addSecond (t : DateTime) : Option DateTime :=
  if h : t.second + 1 < 60 then some { t with second := t.second + 1, second_lt := h }
  else addMinute { t with second := 0, second_lt := by omega }

/-- `t + timedelta(milliseconds=1)`, which raises an `OverflowError` after the year 9999. -/
def addMillisecond (t : DateTime) : Option DateTime :=
  if h : t.microsecond + 1000 < 1000000 then
    some { t with microsecond := t.microsecond + 1000, microsecond_lt := h }
  else
    addSecond { t with
      microsecond := t.microsecond + 1000 - 1000000
      microsecond_lt := by have hlt := t.microsecond_lt; omega }

theorem dayNumber_addDay (h : t.addDay = some u) : t.dayNumber < u.dayNumber ∧
    u.hour = t.hour ∧ u.minute = t.minute ∧ u.second = t.second ∧
      u.microsecond = t.microsecond := by
  have hday := Nat.le_trans t.day_le (daysInMonth_le t.year t.month)
  have hmonth := t.month_le
  rw [addDay] at h
  split_ifs at h
  · cases h
    refine ⟨?_, rfl, rfl, rfl, rfl⟩
    simp only [dayNumber]
    omega
  · cases h
    refine ⟨?_, rfl, rfl, rfl, rfl⟩
    simp only [dayNumber]
    omega
  · cases h
    refine ⟨?_, rfl, rfl, rfl, rfl⟩
    simp only [dayNumber]
    omega

theorem hourNumber_addHour (h : t.addHour = some u) : t.hourNumber < u.hourNumber ∧
    u.minute = t.minute ∧ u.second = t.second ∧ u.microsecond = t.microsecond := by
  have hlt := t.hour_lt
  rw [addHour] at h
  split_ifs at h
  · cases h
    refine ⟨?_, rfl, rfl, rfl⟩
    simp only [hourNumber, dayNumber]
    omega
  · obtain ⟨hday, -, hminute, hsecond, hmicrosecond⟩ := dayNumber_addDay h
    refine ⟨?_, hminute, hsecond, hmicrosecond⟩
    simp only [hourNumber, dayNumber] at hday ⊢
    omega

theorem minuteNumber_addMinute (h : t.addMinute = some u) : t.minuteNumber < u.minuteNumber ∧
    u.second = t.second ∧ u.microsecond = t.microsecond := by
  have hlt := t.minute_lt
  rw [addMinute] at h
  split_ifs at h
  · cases h
    refine ⟨?_, rfl, rfl⟩
    simp only [minuteNumber, hourNumber, dayNumber]
    omega
  · obtain ⟨hhour, -, hsecond, hmicrosecond⟩ := hourNumber_addHour h
    refine ⟨?_, hsecond, hmicrosecond⟩
    simp only [minuteNumber, hourNumber, dayNumber] at hhour ⊢
    omega

theorem secondNumber_addSecond (h : t.addSecond = some u) : t.secondNumber < u.secondNumber ∧
    u.microsecond = t.microsecond := by
  have hlt := t.second_lt
  rw [addSecond] at h
  split_ifs at h
  · cases h
    refine ⟨?_, rfl⟩
    simp only [secondNumber, minuteNumber, hourNumber, dayNumber]
    omega
  · obtain ⟨hminute, -, hmicrosecond⟩ := minuteNumber_addMinute h
    refine ⟨?_, hmicrosecond⟩
    simp only [secondNumber, minuteNumber, hourNumber, dayNumber] at hminute ⊢
    omega

/-- A millisecond later is later. -/
theorem number_addMillisecond (h : t.addMillisecond = some u) : t.number < u.number := by
  have hlt := t.microsecond_lt
  rw [addMillisecond] at h
  split_ifs at h
  · cases h
    simp only [number, secondNumber, minuteNumber, hourNumber, dayNumber]
    omega
  · obtain ⟨hsecond, hmicrosecond⟩ := secondNumber_addSecond h
    simp only [number, secondNumber, minuteNumber, hourNumber, dayNumber] at hsecond hmicrosecond ⊢
    omega

end DateTime

/-! ## The ISO text -/

/-- A number in decimal, with leading zeros up to a width. -/
def padded : (width : Nat) → Nat → List Char
  | 0, _ => []
  | width + 1, n => padded width (n / 10) ++ [Nat.digitChar (n % 10)]

theorem length_padded (width n : Nat) : (padded width n).length = width := by
  induction width generalizing n with
  | zero => rfl
  | succ width ih => rw [padded, List.length_append, ih, List.length_singleton]

theorem digitChar_inj : ∀ a < 10, ∀ b < 10, Nat.digitChar a = Nat.digitChar b → a = b := by
  decide

theorem padded_inj {width m n : Nat} (hm : m < 10 ^ width) (hn : n < 10 ^ width)
    (h : padded width m = padded width n) : m = n := by
  induction width generalizing m n with
  | zero => omega
  | succ width ih =>
      rw [padded, padded] at h
      obtain ⟨hfront, hlast⟩ := List.append_inj h (by rw [length_padded, length_padded])
      have hdigit := digitChar_inj _ (Nat.mod_lt m (by omega)) _ (Nat.mod_lt n (by omega))
        (List.cons.inj hlast).1
      have hquotient := ih (by omega) (by omega) hfront
      omega

/-- The fraction of the second, which is left out if it is zero. -/
def fraction (microsecond : Nat) : List Char :=
  if microsecond = 0 then [] else '.' :: padded 6 microsecond

theorem fraction_inj {m n : Nat} (hm : m < 1000000) (hn : n < 1000000)
    (h : fraction m = fraction n) : m = n := by
  rw [fraction, fraction] at h
  split_ifs at h with hzero hzero' hzero'
  · rw [hzero, hzero']
  · exact padded_inj hm hn (List.cons.inj h).2

/-- `t.isoformat()` -/
def DateTime.isoformat (t : DateTime) : List Char :=
  padded 4 t.year ++ ('-' :: padded 2 t.month ++ ('-' :: padded 2 t.day ++
    ('T' :: padded 2 t.hour ++ (':' :: padded 2 t.minute ++ (':' :: padded 2 t.second ++
      (fraction t.microsecond ++ "+00:00".toList))))))

/-- A separator and a number of fixed width are told from what follows. -/
theorem padded_append_inj {c : Char} {width m n : Nat} {rest others : List Char}
    (hm : m < 10 ^ width) (hn : n < 10 ^ width)
    (h : c :: padded width m ++ rest = c :: padded width n ++ others) : m = n ∧ rest = others := by
  obtain ⟨hnumber, hrest⟩ := List.append_inj h (by simp [length_padded])
  exact ⟨padded_inj hm hn (List.cons.inj hnumber).2, hrest⟩

theorem DateTime.isoformat_injective : Function.Injective DateTime.isoformat := by
  intro t u h
  have ht := Nat.le_trans t.day_le (daysInMonth_le t.year t.month)
  have hu := Nat.le_trans u.day_le (daysInMonth_le u.year u.month)
  obtain ⟨year, month, day, hour, minute, second, microsecond⟩ := t
  obtain ⟨year', month', day', hour', minute', second', microsecond'⟩ := u
  simp only [isoformat] at h ht hu
  obtain ⟨hyear, h⟩ := List.append_inj h (by rw [length_padded, length_padded])
  have hyear := padded_inj (by omega) (by omega) hyear
  obtain ⟨hmonth, h⟩ := padded_append_inj (by omega) (by omega) h
  obtain ⟨hday, h⟩ := padded_append_inj (by omega) (by omega) h
  obtain ⟨hhour, h⟩ := padded_append_inj (by omega) (by omega) h
  obtain ⟨hminute, h⟩ := padded_append_inj (by omega) (by omega) h
  obtain ⟨hsecond, h⟩ := padded_append_inj (by omega) (by omega) h
  have hmicrosecond := fraction_inj (by omega) (by omega) (List.append_cancel_right h)
  subst hmicrosecond hsecond hminute hhour hday hmonth hyear
  rfl

end Grouproxy.DateTimes
