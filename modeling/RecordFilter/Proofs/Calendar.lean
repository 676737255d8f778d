import RecordFilter.Time.Moment

/-!
# Days of the calendar

`Date.dayNumber` counts the days since the first of January of the year 0, so that the next date
has the next number (`Date.dayNumber_next`) and dates are in the order of their numbers
(`Date.dayNumber_lt_iff`).
-/

namespace RecordFilter.Time

namespace Date

structure IsValid (d : Date) : Prop where
  one_le_month : 1 ≤ d.month
  month_le : d.month ≤ 12
  one_le_day : 1 ≤ d.day
  day_le : d.day ≤ daysIn d.year d.month

/-- The days before a year, from the year 0 on. -/
def daysBeforeYear (y : Int) : Int := 365 * y + (y + 3) / 4 - (y + 99) / 100 + (y + 399) / 400

/-- The days of a year before one of its months, which count from 1. -/
def daysBeforeMonth (year : Int) : Nat → Nat
  | 0 | 1 => 0
  | month + 2 => daysBeforeMonth year (month + 1) + daysIn year (month + 1)

/-- The days before a date, from the first of January of the year 0 on. -/
def dayNumber (d : Date) : Int :=
  daysBeforeYear d.year + daysBeforeMonth d.year d.month + (d.day - 1 : Nat)

def Before (d e : Date) : Prop :=
  d.year < e.year ∨ d.year = e.year ∧ (d.month < e.month ∨ d.month = e.month ∧ d.day < e.day)

variable {d e : Date} {year other : Int} {month : Nat}

/-! ## Years and months -/

theorem of?_eq_some {day : Nat} (h : of? year month day = some d) :
    d = ⟨year, month, day⟩ ∧ d.IsValid ∧ inRange d.year = true := by
  unfold of? at h
  split at h
  · next hc =>
    cases h
    simp only [Bool.and_eq_true, decide_eq_true_eq] at hc
    obtain ⟨⟨⟨⟨hr, hm⟩, hm'⟩, hd⟩, hd'⟩ := hc
    exact ⟨rfl, ⟨hm, hm', hd, hd'⟩, hr⟩
  · cases h

theorem of?_of_isValid (h : d.IsValid) (hr : inRange d.year = true) :
    of? d.year d.month d.day = some d := by
  simp [of?, hr, h.one_le_month, h.month_le, h.one_le_day, h.day_le]

theorem daysIn_range (year : Int) (month : Nat) :
    28 ≤ daysIn year month ∧ daysIn year month ≤ 31 := by
  unfold daysIn
  split
  · split <;> decide
  all_goals decide

theorem daysBeforeMonth_succ (year : Int) (h : 1 ≤ month) :
    daysBeforeMonth year (month + 1) = daysBeforeMonth year month + daysIn year month := by
  obtain ⟨m, rfl⟩ := Nat.exists_eq_add_of_le' h
  rfl

theorem daysBeforeMonth_mono (year : Int) {m n : Nat} (h : m ≤ n) :
    daysBeforeMonth year m ≤ daysBeforeMonth year n := by
  induction h with
  | refl => exact Nat.le_refl _
  | @step n _ ih =>
    refine Nat.le_trans ih ?_
    rcases Nat.eq_zero_or_pos n with rfl | hn
    · exact Nat.le_refl _
    · rw [daysBeforeMonth_succ year hn]
      exact Nat.le_add_right _ _

/-- A year has as many days as there are before the month that would be its thirteenth. -/
theorem daysBeforeYear_succ (year : Int) :
    daysBeforeYear (year + 1) = daysBeforeYear year + daysBeforeMonth year 13 := by
  have hdays : daysBeforeMonth year 13 = if isLeapYear year then 366 else 365 := by
    cases h : isLeapYear year <;> simp [daysBeforeMonth, daysIn, h]
  have hleap : isLeapYear year = true ↔ year % 4 = 0 ∧ (year % 100 ≠ 0 ∨ year % 400 = 0) := by
    simp [isLeapYear]
  rw [hdays]
  unfold daysBeforeYear
  split
  · next h =>
    have := hleap.1 h
    omega
  · next h =>
    have := mt hleap.2 h
    omega

theorem daysBeforeYear_mono (h : year ≤ other) : daysBeforeYear year ≤ daysBeforeYear other := by
  unfold daysBeforeYear
  omega

/-! ## Days -/

/-- The days before a date in its year are fewer than the year has. -/
theorem IsValid.dayOfYear_lt (h : d.IsValid) :
    daysBeforeMonth d.year d.month + (d.day - 1) < daysBeforeMonth d.year 13 := by
  have hmonth := daysBeforeMonth_succ d.year h.one_le_month
  have hyear : daysBeforeMonth d.year (d.month + 1) ≤ daysBeforeMonth d.year 13 :=
    daysBeforeMonth_mono d.year (Nat.succ_le_succ h.month_le)
  have hday := h.one_le_day
  have hday' := h.day_le
  omega

theorem dayNumber_firstDay (year : Int) : dayNumber ⟨year, 1, 1⟩ = daysBeforeYear year := by
  simp [dayNumber, daysBeforeMonth]

theorem dayNumber_lastDay (year : Int) :
    dayNumber ⟨year, 12, 31⟩ = daysBeforeYear (year + 1) - 1 := by
  have hmonth : daysBeforeMonth year 13 = daysBeforeMonth year 12 + daysIn year 12 :=
    daysBeforeMonth_succ year (by decide)
  have hdays : daysIn year 12 = 31 := rfl
  rw [daysBeforeYear_succ]
  simp only [dayNumber]
  omega

/-- The day after a date is a date, and has the next number. -/
theorem IsValid.next (h : d.IsValid) : d.next.IsValid ∧ d.next.dayNumber = d.dayNumber + 1 := by
  obtain ⟨hm, hm', hd, hd'⟩ := h
  unfold Date.next
  split
  · next hlt =>
    refine ⟨⟨hm, hm', by simp, hlt⟩, ?_⟩
    simp only [dayNumber]
    omega
  · next hlast =>
    split
    · next hlt =>
      have hmonth := daysBeforeMonth_succ d.year hm
      have hdays := daysIn_range d.year (d.month + 1)
      refine ⟨⟨by simp, hlt, Nat.le_refl 1, by simp only; omega⟩, ?_⟩
      simp only [dayNumber]
      omega
    · next hlast' =>
      obtain ⟨year, month, day⟩ := d
      obtain rfl : month = 12 := by simp only at *; omega
      obtain rfl : day = 31 := by simp only [daysIn] at *; omega
      refine ⟨⟨Nat.le_refl 1, by simp, Nat.le_refl 1, by simp [daysIn]⟩, ?_⟩
      rw [dayNumber_lastDay, dayNumber_firstDay, Int.sub_add_cancel]

theorem IsValid.previous (h : d.IsValid) :
    d.previous.IsValid ∧ d.previous.dayNumber = d.dayNumber - 1 := by
  obtain ⟨hm, hm', hd, hd'⟩ := h
  unfold Date.previous
  split
  · next hlt =>
    refine ⟨⟨hm, hm', by simp only; omega, by simp only; omega⟩, ?_⟩
    simp only [dayNumber]
    omega
  · next hfirst =>
    split
    · next hlt =>
      have hmonth := daysBeforeMonth_succ d.year (show 1 ≤ d.month - 1 by omega)
      rw [Nat.sub_add_cancel hm] at hmonth
      have hdays := daysIn_range d.year (d.month - 1)
      refine ⟨⟨by simp only; omega, by simp only; omega, by simp only; omega, Nat.le_refl _⟩, ?_⟩
      simp only [dayNumber]
      omega
    · next hfirst' =>
      obtain ⟨year, month, day⟩ := d
      obtain rfl : month = 1 := by simp only at *; omega
      obtain rfl : day = 1 := by simp only at *; omega
      refine ⟨⟨by simp, by simp, by simp, by simp [daysIn]⟩, ?_⟩
      rw [dayNumber_lastDay, dayNumber_firstDay, Int.sub_add_cancel]

theorem year_next (d : Date) : d.year ≤ d.next.year ∧ d.next.year ≤ d.year + 1 := by
  unfold Date.next
  split
  · simp only; omega
  · split <;> simp only <;> omega

theorem year_previous (d : Date) : d.year - 1 ≤ d.previous.year ∧ d.previous.year ≤ d.year := by
  unfold Date.previous
  split
  · simp only; omega
  · split <;> simp only <;> omega

/-! ## Order -/

theorem Before.dayNumber_lt (h : d.Before e) (hd : d.IsValid) :
    d.dayNumber < e.dayNumber := by
  unfold dayNumber
  rcases h with h | ⟨hy, h | ⟨hm, h⟩⟩
  · have hyear := daysBeforeYear_mono (show d.year + 1 ≤ e.year from h)
    have hlast := hd.dayOfYear_lt
    rw [daysBeforeYear_succ] at hyear
    omega
  · have hmonth := daysBeforeMonth_mono e.year (Nat.succ_le_of_lt h)
    rw [daysBeforeMonth_succ _ hd.one_le_month] at hmonth
    have hday := hd.one_le_day
    have hday' := hd.day_le
    rw [hy] at *
    omega
  · have hday := hd.one_le_day
    rw [hy, hm]
    omega

theorem before_trichotomy (d e : Date) : d.Before e ∨ d = e ∨ e.Before d := by
  obtain ⟨y, m, n⟩ := d
  obtain ⟨y', m', n'⟩ := e
  simp only [Before, mk.injEq]
  omega

/-- Dates are in the order of their numbers. -/
theorem dayNumber_lt_iff (hd : d.IsValid) (he : e.IsValid) :
    d.dayNumber < e.dayNumber ↔ d.Before e := by
  refine ⟨fun h => ?_, fun h => h.dayNumber_lt hd⟩
  rcases before_trichotomy d e with hb | rfl | hb
  · exact hb
  · exact absurd h (Int.lt_irrefl _)
  · exact absurd h (Int.lt_asymm (hb.dayNumber_lt he))

theorem eq_of_dayNumber (hd : d.IsValid) (he : e.IsValid) (h : d.dayNumber = e.dayNumber) :
    d = e := by
  rcases before_trichotomy d e with hb | hde | hb
  · exact absurd h (Int.ne_of_lt (hb.dayNumber_lt hd))
  · exact hde
  · exact absurd h.symm (Int.ne_of_lt (hb.dayNumber_lt he))

end Date

end RecordFilter.Time
