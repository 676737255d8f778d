import Mathlib.Data.Rat.Floor
import Mathlib.Data.String.Basic
import RecordFilter.Proofs.Calendar
import RecordFilter.Proofs.Digits

/-!
# Moments and instants

A moment is one that there is (`Moment.IsValid`) if its date is one and its time of day is in
range; every moment that a text writes is (`Moment.isValid_of_ofText?`). `Moment.instant` says which
point in time a moment is, a leap second being the 61st second of its minute. Moments of the years
0000 to 9999 have texts in the order of their instants (`Moment.text_lt_text_iff`).
-/

namespace RecordFilter.Time

structure Moment.IsValid (m : Moment) : Prop where
  date : m.date.IsValid
  inRange : Date.inRange m.date.year = true
  hour : m.hour < 24
  minute : m.minute < 60
  second : m.second ≤ 60
  nanosecond : m.nanosecond < 10 ^ 9

/-- A point in time: the whole minutes since the start of the year 0, and the seconds since. -/
structure Instant where
  minute : Int
  second : ℚ

/-- The milliseconds since the start of the year 0; what is left of one does not count. -/
def Instant.milliseconds (i : Instant) : Int := ⌊(60 * i.minute + i.second) * 1000⌋

namespace Moment

def minutes (m : Moment) : Int := m.date.dayNumber * 1440 + (m.hour * 60 + m.minute : Nat)

def instant (m : Moment) : Instant := ⟨m.minutes, m.second + m.nanosecond / 10 ^ 9⟩

variable {m n : Moment} {date : Date} {hour minute second nanosecond : Nat} {east : Int}
  {cs rest : List Char}

theorem at?_eq_some (h : at? date hour minute second nanosecond = some m) :
    m = ⟨date, hour, minute, second, nanosecond⟩ ∧ hour < 24 ∧ minute < 60 ∧ second ≤ 60 := by
  unfold at? at h
  split at h
  · next hc =>
    cases h
    simp only [Bool.and_eq_true, decide_eq_true_eq] at hc
    exact ⟨rfl, hc.1.1, hc.1.2, hc.2⟩
  · cases h

/-! ## Offsets -/

/-- The date of a moment in UTC is the one that its local time has or the one before or after. -/
theorem toUtc_spec (hd : m.date.IsValid) (hh : m.hour < 24) (hm : m.minute < 60)
    (he : -1440 < east) (he' : east < 1440) :
    (m.toUtc east).date.IsValid ∧ (m.toUtc east).hour < 24 ∧ (m.toUtc east).minute < 60 ∧
      (m.toUtc east).minutes = m.minutes - east ∧
      m.date.year - 1 ≤ (m.toUtc east).date.year ∧ (m.toUtc east).date.year ≤ m.date.year + 1 := by
  have hprevious := hd.previous
  have hnext := hd.next
  have hyear := m.date.year_previous
  have hyear' := m.date.year_next
  unfold toUtc
  simp only
  split
  · refine ⟨hprevious.1, by simp only; omega, by simp only; omega, ?_, by simp only; omega,
      by simp only; omega⟩
    simp only [minutes, hprevious.2]
    omega
  · split
    · refine ⟨hnext.1, by simp only; omega, by simp only; omega, ?_, by simp only; omega,
        by simp only; omega⟩
      simp only [minutes, hnext.2]
      omega
    · refine ⟨hd, by simp only; omega, by simp only; omega, ?_, by simp only; omega,
        by simp only; omega⟩
      simp only [minutes]
      omega

theorem toUtc_seconds (m : Moment) (east : Int) :
    (m.toUtc east).second = m.second ∧ (m.toUtc east).nanosecond = m.nanosecond := by
  unfold toUtc
  simp only
  split
  · exact ⟨rfl, rfl⟩
  · split <;> exact ⟨rfl, rfl⟩

theorem toUtc_zero (hh : m.hour < 24) (hm : m.minute < 60) : m.toUtc 0 = m := by
  unfold toUtc
  simp only
  rw [if_neg (by omega), if_neg (by omega)]
  obtain ⟨date, hour, minute, second, nanosecond⟩ := m
  simp only at *
  simp only [mk.injEq, true_and, and_true]
  omega

/-! ## Moments that are read -/

theorem lt_of_takeFraction (h : takeFraction cs = some (nanosecond, rest)) :
    nanosecond < 10 ^ 9 := by
  unfold takeFraction at h
  split at h
  · next cs =>
    simp only at h
    split at h
    · cases h
    · cases h
      have hdigits : ∀ c ∈ (cs.take 9).takeWhile Char.isDigit, c.isDigit = true :=
        fun c hc => List.mem_takeWhile_imp hc
      have hlength : ((cs.take 9).takeWhile Char.isDigit).length ≤ 9 :=
        (List.takeWhile_prefix _).length_le.trans (List.length_take_le _ _)
      calc
        _ < 10 ^ ((cs.take 9).takeWhile Char.isDigit).length *
              10 ^ (9 - ((cs.take 9).takeWhile Char.isDigit).length) :=
          Nat.mul_lt_mul_of_pos_right (ofDigits_lt hdigits) (Nat.pow_pos (by decide))
        _ = 10 ^ 9 := by rw [← Nat.pow_add, Nat.add_sub_cancel' hlength]
  · cases h
    decide

theorem lt_of_takeOffset (h : takeOffset cs = some (east, rest)) : -1440 < east ∧ east < 1440 := by
  unfold takeOffset at h
  split at h
  · cases h
  · split at h
    · cases h
      decide
    · split at h
      · obtain ⟨⟨hours, cs⟩, -, h⟩ := Option.bind_eq_some_iff.1 h
        obtain ⟨cs, -, h⟩ := Option.bind_eq_some_iff.1 h
        obtain ⟨⟨minutes, cs⟩, -, h⟩ := Option.bind_eq_some_iff.1 h
        simp only at h
        split at h
        · next hlt =>
          cases h
          split <;> omega
        · cases h
      · cases h

theorem isValid_of_takeTime (hd : date.IsValid) (hr : Date.inRange date.year = true)
    (h : takeTime date cs = some (m, rest)) : m.IsValid := by
  obtain ⟨⟨hour, cs⟩, -, h⟩ := Option.bind_eq_some_iff.1 h
  obtain ⟨cs, -, h⟩ := Option.bind_eq_some_iff.1 h
  obtain ⟨⟨minute, cs⟩, -, h⟩ := Option.bind_eq_some_iff.1 h
  obtain ⟨cs, -, h⟩ := Option.bind_eq_some_iff.1 h
  obtain ⟨⟨second, cs⟩, -, h⟩ := Option.bind_eq_some_iff.1 h
  obtain ⟨⟨nanosecond, cs⟩, hf, h⟩ := Option.bind_eq_some_iff.1 h
  obtain ⟨m, ha, h⟩ := Option.map_eq_some_iff.1 h
  cases h
  obtain ⟨rfl, hh, hm, hs⟩ := at?_eq_some ha
  exact ⟨hd, hr, hh, hm, hs, lt_of_takeFraction hf⟩

theorem isValid_of_takeDate (h : takeDate cs = some (date, rest)) :
    date.IsValid ∧ Date.inRange date.year = true := by
  obtain ⟨⟨year, cs⟩, -, h⟩ := Option.bind_eq_some_iff.1 h
  obtain ⟨cs, -, h⟩ := Option.bind_eq_some_iff.1 h
  obtain ⟨⟨month, cs⟩, -, h⟩ := Option.bind_eq_some_iff.1 h
  obtain ⟨cs, -, h⟩ := Option.bind_eq_some_iff.1 h
  obtain ⟨⟨day, cs⟩, -, h⟩ := Option.bind_eq_some_iff.1 h
  obtain ⟨d, hd, h⟩ := Option.map_eq_some_iff.1 h
  cases h
  exact (Date.of?_eq_some hd).2

/-- The years with an offset have four digits, so that no offset leads out of the range. -/
theorem isValid_of_readOffset (h : readOffset cs = some m) : m.IsValid := by
  obtain ⟨⟨year, cs⟩, hy, h⟩ := Option.bind_eq_some_iff.1 h
  obtain ⟨cs, -, h⟩ := Option.bind_eq_some_iff.1 h
  obtain ⟨⟨month, cs⟩, -, h⟩ := Option.bind_eq_some_iff.1 h
  obtain ⟨cs, -, h⟩ := Option.bind_eq_some_iff.1 h
  obtain ⟨⟨day, cs⟩, -, h⟩ := Option.bind_eq_some_iff.1 h
  simp only at h
  split at h
  · split at h
    · obtain ⟨⟨hour, cs⟩, -, h⟩ := Option.bind_eq_some_iff.1 h
      obtain ⟨cs, -, h⟩ := Option.bind_eq_some_iff.1 h
      obtain ⟨⟨minute, cs⟩, -, h⟩ := Option.bind_eq_some_iff.1 h
      obtain ⟨cs, -, h⟩ := Option.bind_eq_some_iff.1 h
      obtain ⟨⟨second, cs⟩, -, h⟩ := Option.bind_eq_some_iff.1 h
      obtain ⟨⟨nanosecond, cs⟩, hf, h⟩ := Option.bind_eq_some_iff.1 h
      obtain ⟨⟨east, rest⟩, ho, h⟩ := Option.bind_eq_some_iff.1 h
      simp only at h
      split at h
      · obtain ⟨date, hd, h⟩ := Option.bind_eq_some_iff.1 h
        obtain ⟨m, ha, rfl⟩ := Option.map_eq_some_iff.1 h
        obtain ⟨rfl, hh, hm, hs⟩ := at?_eq_some ha
        obtain ⟨rfl, hd, -⟩ := Date.of?_eq_some hd
        obtain ⟨he, he'⟩ := lt_of_takeOffset ho
        have hlt := takeNumber_lt hy
        obtain ⟨hd', hh', hm', -, hyear, hyear'⟩ :=
          toUtc_spec (m := ⟨⟨year, month, day⟩, hour, minute, second, nanosecond⟩) hd hh hm he he'
        obtain ⟨hs', hn'⟩ :=
          toUtc_seconds ⟨⟨year, month, day⟩, hour, minute, second, nanosecond⟩ east
        refine ⟨hd', ?_, hh', hm', hs' ▸ hs, hn' ▸ lt_of_takeFraction hf⟩
        simp only [Date.inRange, Bool.and_eq_true, decide_eq_true_eq]
        simp only at hyear hyear'
        omega
      · cases h
    · cases h
  · cases h

theorem isValid_of_readSpaced {ending : List Char} (h : readSpaced ending cs = some m) :
    m.IsValid := by
  obtain ⟨⟨date, cs⟩, hd, h⟩ := Option.bind_eq_some_iff.1 h
  obtain ⟨hv, hr⟩ := isValid_of_takeDate hd
  obtain ⟨⟨m, cs⟩, ht, h⟩ := Option.bind_eq_some_iff.1 h
  simp only at h
  split at h
  · cases h
    exact isValid_of_takeTime hv hr ht
  · cases h

theorem isValid_of_readJoined (h : readJoined cs = some m) : m.IsValid := by
  obtain ⟨⟨date, cs⟩, hd, h⟩ := Option.bind_eq_some_iff.1 h
  obtain ⟨hv, hr⟩ := isValid_of_takeDate hd
  obtain ⟨cs, -, h⟩ := Option.bind_eq_some_iff.1 h
  obtain ⟨⟨m, cs⟩, ht, h⟩ := Option.bind_eq_some_iff.1 h
  simp only at h
  split at h
  · cases h
    exact isValid_of_takeTime hv hr ht
  · cases h

theorem isValid_of_readDate (h : readDate cs = some m) : m.IsValid := by
  obtain ⟨⟨date, cs⟩, hd, h⟩ := Option.bind_eq_some_iff.1 h
  obtain ⟨hv, hr⟩ := isValid_of_takeDate hd
  simp only at h
  split at h
  · cases h
    exact ⟨hv, hr, by simp, by simp, by simp, by simp⟩
  · cases h

theorem isValid_of_ofText? (h : ofText? cs = some m) : m.IsValid := by
  unfold ofText? at h
  simp only [Option.or_eq_some_iff] at h
  rcases h with h | ⟨-, h | ⟨-, h | ⟨-, h | ⟨-, h⟩⟩⟩⟩
  · exact isValid_of_readOffset h
  · exact isValid_of_readSpaced h
  · exact isValid_of_readSpaced h
  · exact isValid_of_readJoined h
  · exact isValid_of_readDate h

/-! ## Instants -/

/-- The minutes of a moment and what comes after them tell the moment. -/
theorem ext_of_minutes (hm : m.IsValid) (hn : n.IsValid) (h : m.minutes = n.minutes)
    (hs : m.second = n.second) (hns : m.nanosecond = n.nanosecond) : m = n := by
  obtain ⟨hd, -, hh, hmi, -, -⟩ := hm
  obtain ⟨hd', -, hh', hmi', -, -⟩ := hn
  obtain ⟨date, hour, minute, second, nanosecond⟩ := m
  obtain ⟨date', hour', minute', second', nanosecond'⟩ := n
  simp only [minutes] at *
  obtain rfl : date = date' := Date.eq_of_dayNumber hd hd' (by omega)
  simp only [mk.injEq, true_and]
  omega

theorem milliseconds_instant (m : Moment) :
    m.instant.milliseconds =
      (60 * m.minutes + m.second) * 1000 + (m.nanosecond / 1000000 : Nat) := by
  have hwhole : (60 * (m.minutes : ℚ) + (m.second + m.nanosecond / 10 ^ 9)) * 1000 =
      (((60 * m.minutes + m.second) * 1000 : ℤ) : ℚ) + (m.nanosecond : ℚ) / (1000000 : ℕ) := by
    push_cast
    ring
  rw [Instant.milliseconds, instant, hwhole, Int.floor_intCast_add,
    Rat.floor_natCast_div_natCast]
  rfl

/-! ## Order -/

theorem text_eq (m : Moment) : m.text = yearText m.date.year ++ '-' :: (padded 2 m.date.month ++
    '-' :: (padded 2 m.date.day ++ ' ' :: (padded 2 m.hour ++ ':' :: (padded 2 m.minute ++
      ':' :: (padded 2 m.second ++ '.' :: (padded 3 (m.nanosecond / 1000000) ++ ['Z'])))))) := by
  simp only [text, List.append_assoc, List.cons_append]

theorem yearText_eq (h : 0 ≤ m.date.year ∧ m.date.year ≤ 9999) :
    yearText m.date.year = padded 4 m.date.year.toNat := if_pos h

def TimeBefore (m n : Moment) : Prop :=
  m.hour < n.hour ∨ m.hour = n.hour ∧ (m.minute < n.minute ∨ m.minute = n.minute ∧
    (m.second < n.second ∨ m.second = n.second ∧ m.nanosecond / 1000000 < n.nanosecond / 1000000))

/-- Texts of moments are in the order of their parts. -/
theorem text_lt_text_iff_parts (hm : m.IsValid) (hn : n.IsValid)
    (hy : 0 ≤ m.date.year ∧ m.date.year ≤ 9999) (hy' : 0 ≤ n.date.year ∧ n.date.year ≤ 9999) :
    m.text < n.text ↔ m.date.Before n.date ∨ m.date = n.date ∧ TimeBefore m n := by
  have hpart {w a b : Nat} {c : Char} {s t : List Char} (hw : 0 < w) (ha : a < 10 ^ w)
      (hb : b < 10 ^ w) : padded w a ++ c :: s < padded w b ++ c :: t ↔ a < b ∨ a = b ∧ s < t := by
    rw [padded_append_lt_iff hw ha hb, List.cons_lt_cons_iff]
    simp
  obtain ⟨⟨_, _, _, _⟩, -, _, _, _, _⟩ := hm
  obtain ⟨⟨_, _, _, _⟩, -, _, _, _, _⟩ := hn
  have hday := (Date.daysIn_range m.date.year m.date.month).2
  have hday' := (Date.daysIn_range n.date.year n.date.month).2
  rw [text_eq, text_eq, yearText_eq hy, yearText_eq hy',
    hpart (by decide) (by omega) (by omega), hpart (by decide) (by omega) (by omega),
    hpart (by decide) (by omega) (by omega), hpart (by decide) (by omega) (by omega),
    hpart (by decide) (by omega) (by omega), hpart (by decide) (by omega) (by omega),
    hpart (by decide) (by omega) (by omega)]
  obtain ⟨⟨y, mo, d⟩, h, mi, s, ns⟩ := m
  obtain ⟨⟨y', mo', d'⟩, h', mi', s', ns'⟩ := n
  simp only [Date.Before, Date.mk.injEq, TimeBefore, List.not_lt_nil, and_false, or_false] at *
  omega

/-- Moments of the years 0000 to 9999 without leap seconds have texts in their order. -/
theorem text_lt_text_iff (hm : m.IsValid) (hn : n.IsValid) (hs : m.second < 60)
    (hs' : n.second < 60) (hy : 0 ≤ m.date.year ∧ m.date.year ≤ 9999)
    (hy' : 0 ≤ n.date.year ∧ n.date.year ≤ 9999) :
    m.text < n.text ↔ m.instant.milliseconds < n.instant.milliseconds := by
  rw [text_lt_text_iff_parts hm hn hy hy', milliseconds_instant, milliseconds_instant]
  obtain ⟨hd, -, hh, hmi, -, hns⟩ := hm
  obtain ⟨hd', -, hh', hmi', -, hns'⟩ := hn
  have hms : m.nanosecond / 1000000 < 1000 := by omega
  have hms' : n.nanosecond / 1000000 < 1000 := by omega
  rw [← Date.dayNumber_lt_iff hd hd']
  simp only [minutes, TimeBefore]
  rcases Date.before_trichotomy m.date n.date with hb | hb | hb
  · have := hb.dayNumber_lt hd
    omega
  · simp only [hb, lt_self_iff_false, true_and, false_or]
    omega
  · have := hb.dayNumber_lt hd'
    have hne : m.date ≠ n.date := fun he => by simp only [he] at this; omega
    simp only [hne, false_and, or_false]
    omega

/-- Moments have one text if they are in one millisecond, with the same exceptions. -/
theorem text_eq_text_iff (hm : m.IsValid) (hn : n.IsValid) (hs : m.second < 60)
    (hs' : n.second < 60) (hy : 0 ≤ m.date.year ∧ m.date.year ≤ 9999)
    (hy' : 0 ≤ n.date.year ∧ n.date.year ≤ 9999) :
    m.text = n.text ↔ m.instant.milliseconds = n.instant.milliseconds := by
  have hlt := text_lt_text_iff hm hn hs hs' hy hy'
  have hgt := text_lt_text_iff hn hm hs' hs hy' hy
  constructor
  · intro he
    rw [he] at hlt hgt
    have hirrefl := List.lt_irrefl n.text
    exact le_antisymm (Int.not_lt.1 (mt hgt.2 hirrefl)) (Int.not_lt.1 (mt hlt.2 hirrefl))
  · intro he
    rw [he] at hlt hgt
    rcases lt_trichotomy m.text n.text with h | h | h
    · exact absurd (hlt.1 h) (Int.lt_irrefl _)
    · exact h
    · exact absurd (hgt.1 h) (Int.lt_irrefl _)

end Moment

end RecordFilter.Time
