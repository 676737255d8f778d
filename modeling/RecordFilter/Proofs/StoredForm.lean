import RecordFilter.Proofs.Moments

/-!
# The stored form of moments

A `Timestamp` is a local date and time of day with an offset from UTC, as RFC 3339 has them, and
`Timestamp.Writes` says which texts write it. Each of them is read, as the moment of its instant
(`Timestamp.Writes.readOffset`), so that the stored form does not depend on the offset. The stored
form of every moment is read back, up to what is left of a millisecond (`Moment.ofText?_text`), and
is then the stored form of itself (`normalize_canonical`).
-/

namespace RecordFilter.Time

open Number

/-- A local date and time of day with their offset from UTC. -/
structure Timestamp where
  date : Date
  hour : Nat
  minute : Nat
  second : Nat
  /-- The digits of the fraction of a second, as many as there are. -/
  fraction : List Char
  /-- The minutes that local time is ahead of UTC. -/
  east : Int
  date_isValid : date.IsValid
  year_range : 0 ≤ date.year ∧ date.year ≤ 9999
  hour_lt : hour < 24
  minute_lt : minute < 60
  second_le : second ≤ 60
  isDigit_fraction : ∀ c ∈ fraction, c.isDigit = true

/-- An offset from UTC: `Z`, or a sign with hours and minutes. -/
inductive OffsetText : Int → List Char → Prop
  | zulu {c : Char} (h : c = 'Z' ∨ c = 'z') : OffsetText 0 [c]
  | ahead {hours minutes : Nat} (hh : hours < 24) (hm : minutes < 60) :
      OffsetText (hours * 60 + minutes : Nat) ('+' :: (padded 2 hours ++ ':' :: padded 2 minutes))
  | behind {hours minutes : Nat} (hh : hours < 24) (hm : minutes < 60) :
      OffsetText (-(hours * 60 + minutes : Nat))
        ('-' :: (padded 2 hours ++ ':' :: padded 2 minutes))

def fractionText : List Char → List Char
  | [] => []
  | d :: digits => '.' :: d :: digits

/-- The nanoseconds of a fraction of a second; digits past the ninth do not count. -/
def nanoseconds (digits : List Char) : Nat :=
  ofDigits (digits.take 9) * 10 ^ (9 - (digits.take 9).length)

namespace Timestamp

/-- A text that writes a timestamp, every part in full width. -/
def Writes (τ : Timestamp) (cs : List Char) : Prop :=
  ∃ separator offset, (separator = 'T' ∨ separator = 't' ∨ separator = ' ') ∧
    OffsetText τ.east offset ∧
    cs = padded 4 τ.date.year.toNat ++ '-' :: (padded 2 τ.date.month ++ '-' ::
      (padded 2 τ.date.day ++ separator :: (padded 2 τ.hour ++ ':' :: (padded 2 τ.minute ++ ':' ::
        (padded 2 τ.second ++ (fractionText τ.fraction ++ offset))))))

/-- What the digits of the fraction are of a second. -/
def part (τ : Timestamp) : ℚ := (ofDigits τ.fraction : ℚ) / (10 ^ τ.fraction.length : ℕ)

/-- The point in time that a timestamp denotes. -/
def instant (τ : Timestamp) : Instant :=
  ⟨τ.date.dayNumber * 1440 + (τ.hour * 60 + τ.minute : Nat) - τ.east, τ.second + τ.part⟩

def moment (τ : Timestamp) : Moment :=
  Moment.toUtc ⟨τ.date, τ.hour, τ.minute, τ.second, nanoseconds τ.fraction⟩ τ.east

end Timestamp

variable {m n : Moment} {τ υ : Timestamp} {cs rest offset digits : List Char} {east : Int}

/-! ## Parts -/

theorem OffsetText.lt (h : OffsetText east offset) : -1440 < east ∧ east < 1440 := by
  cases h <;> omega

theorem OffsetText.endsNumber (h : OffsetText east offset) : EndsNumber offset := by
  cases h with
  | zulu h => rcases h with rfl | rfl <;> exact endsNumber_cons rfl
  | ahead => exact endsNumber_cons rfl
  | behind => exact endsNumber_cons rfl

theorem OffsetText.takeOffset (h : OffsetText east offset) :
    takeOffset offset = some (east, []) := by
  have hnumber {k : Nat} (hk : k < 60) (rest : List Char) :
      takeNumber 2 2 (padded 2 k ++ rest) = some (k, rest) :=
    takeNumber_padded_self (by decide) (by omega)
  have hend {k : Nat} (hk : k < 60) : takeNumber 2 2 (padded 2 k) = some (k, []) := by
    simpa using hnumber hk []
  cases h with
  | zulu h => exact if_pos h
  | ahead hh hm => simp [Time.takeOffset, takeChar, hnumber (hh.trans (by decide)), hend hm, hh, hm]
  | behind hh hm =>
    simp [Time.takeOffset, takeChar, hnumber (hh.trans (by decide)), hend hm, hh, hm]

theorem takeChar_cons (c : Char) (cs : List Char) : takeChar c (c :: cs) = some cs := if_pos rfl

theorem takeFraction_append (hd : ∀ c ∈ digits, c.isDigit = true) (ho : OffsetText east offset) :
    takeFraction (fractionText digits ++ offset) = some (nanoseconds digits, offset) := by
  cases digits with
  | nil =>
    cases ho with
    | zulu h => rcases h with rfl | rfl <;> rfl
    | ahead => rfl
    | behind => rfl
  | cons d digits =>
    have htake :
        ((d :: digits ++ offset).take 9).takeWhile Char.isDigit = (d :: digits).take 9 := by
      rw [List.take_append]
      exact takeWhile_append_of_endsNumber (fun c hc => hd c (List.mem_of_mem_take hc))
        (endsNumber_take ho.endsNumber _)
    have hdrop : (d :: digits ++ offset).dropWhile Char.isDigit = offset :=
      dropWhile_append_of_endsNumber hd ho.endsNumber
    show takeFraction ('.' :: (d :: digits ++ offset)) = _
    simp only [takeFraction, htake, hdrop, nanoseconds]
    rfl

/-- The nanoseconds of a fraction are the whole ones in it. -/
theorem nanoseconds_eq (hd : ∀ c ∈ digits, c.isDigit = true) :
    nanoseconds digits = ofDigits digits * 10 ^ 9 / 10 ^ digits.length := by
  have hpos (k : Nat) : 0 < 10 ^ k := Nat.pow_pos (by decide)
  rcases Nat.le_total digits.length 9 with hl | hl
  · rw [nanoseconds, List.take_of_length_le hl]
    calc ofDigits digits * 10 ^ (9 - digits.length)
        = ofDigits digits * 10 ^ (9 - digits.length) * 10 ^ digits.length / 10 ^ digits.length :=
          (Nat.mul_div_cancel _ (hpos _)).symm
      _ = ofDigits digits * 10 ^ 9 / 10 ^ digits.length := by
          rw [Nat.mul_assoc, ← Nat.pow_add, Nat.sub_add_cancel hl]
  · have hlength : (digits.take 9).length = 9 := by rw [List.length_take, Nat.min_eq_left hl]
    have hrest : ofDigits (digits.drop 9) < 10 ^ (digits.drop 9).length :=
      ofDigits_lt fun c hc => hd c (List.mem_of_mem_drop hc)
    have hparts : ofDigits digits = 10 ^ (digits.drop 9).length * ofDigits (digits.take 9) +
        ofDigits (digits.drop 9) := by
      rw [← ofDigits_append, List.take_append_drop]
    have hpow : 10 ^ digits.length = 10 ^ (digits.drop 9).length * 10 ^ 9 := by
      rw [← Nat.pow_add, List.length_drop, Nat.sub_add_cancel hl]
    rw [nanoseconds, hlength, hpow, Nat.mul_div_mul_right _ _ (hpos 9), hparts,
      Nat.mul_add_div (hpos _), Nat.div_eq_of_lt hrest]
    simp

theorem fractionText_padded (w k : Nat) : fractionText (padded w k) = '.' :: padded w k := by
  cases h : padded w k with
  | nil => exact absurd h padded_ne_nil
  | cons => rfl

theorem nanoseconds_padded {k : Nat} (h : k < 10 ^ 3) : nanoseconds (padded 3 k) = k * 1000000 := by
  rw [nanoseconds_eq fun _ => isDigit_of_mem_padded, ofDigits_padded, length_padded (by decide) h]
  omega

theorem Moment.IsValid.millisecond_lt (h : m.IsValid) : m.nanosecond / 1000000 < 10 ^ 3 := by
  have := h.nanosecond
  omega

/-! ## Timestamps that are read -/

theorem Timestamp.Writes.readOffset (h : τ.Writes cs) : readOffset cs = some τ.moment := by
  obtain ⟨separator, offset, hs, ho, rfl⟩ := h
  have htwo {k : Nat} (hk : k < 100) (rest : List Char) :
      takeNumber 2 2 (padded 2 k ++ rest) = some (k, rest) :=
    takeNumber_padded_self (by decide) hk
  have hfour : ∀ rest, takeNumber 4 4 (padded 4 τ.date.year.toNat ++ rest) =
      some (τ.date.year.toNat, rest) := by
    have := τ.year_range
    exact fun rest => takeNumber_padded_self (by decide) (by omega)
  have hmonth := τ.date_isValid.month_le
  have hday := τ.date_isValid.day_le.trans (Date.daysIn_range _ _).2
  have hdate : Date.of? τ.date.year.toNat τ.date.month τ.date.day = some τ.date := by
    rw [Int.toNat_of_nonneg τ.year_range.1]
    refine Date.of?_of_isValid τ.date_isValid ?_
    have := τ.year_range
    simp only [Date.inRange, Bool.and_eq_true, decide_eq_true_eq]
    omega
  have hat : Moment.at? τ.date τ.hour τ.minute τ.second (nanoseconds τ.fraction) =
      some ⟨τ.date, τ.hour, τ.minute, τ.second, nanoseconds τ.fraction⟩ := by
    simp [Moment.at?, τ.hour_lt, τ.minute_lt, τ.second_le]
  have hlt := τ.hour_lt
  have hlt' := τ.minute_lt
  have hle := τ.second_le
  refine Option.bind_eq_some_iff.2
    ⟨_, hfour _, Option.bind_eq_some_iff.2 ⟨_, takeChar_cons _ _, ?_⟩⟩
  refine Option.bind_eq_some_iff.2 ⟨_, htwo (by omega) _,
    Option.bind_eq_some_iff.2 ⟨_, takeChar_cons _ _, ?_⟩⟩
  refine Option.bind_eq_some_iff.2 ⟨_, htwo (by omega) _, (if_pos hs).trans ?_⟩
  refine Option.bind_eq_some_iff.2 ⟨_, htwo (by omega) _,
    Option.bind_eq_some_iff.2 ⟨_, takeChar_cons _ _, ?_⟩⟩
  refine Option.bind_eq_some_iff.2 ⟨_, htwo (by omega) _,
    Option.bind_eq_some_iff.2 ⟨_, takeChar_cons _ _, ?_⟩⟩
  refine Option.bind_eq_some_iff.2 ⟨_, htwo (by omega) _, ?_⟩
  refine Option.bind_eq_some_iff.2 ⟨_, takeFraction_append τ.isDigit_fraction ho, ?_⟩
  refine Option.bind_eq_some_iff.2 ⟨_, ho.takeOffset, (if_pos rfl).trans ?_⟩
  exact Option.bind_eq_some_iff.2 ⟨_, hdate, Option.map_eq_some_iff.2 ⟨_, hat, rfl⟩⟩

theorem Timestamp.Writes.ofText? (h : τ.Writes cs) : Moment.ofText? cs = some τ.moment := by
  rw [Moment.ofText?, h.readOffset, Option.some_or]

/-- The parts of the moment of a timestamp, which are those of its instant. -/
theorem Timestamp.moment_spec (h : τ.Writes cs) :
    τ.moment.IsValid ∧ τ.moment.minutes = τ.instant.minute ∧ τ.moment.second = τ.second ∧
      τ.moment.nanosecond = ofDigits τ.fraction * 10 ^ 9 / 10 ^ τ.fraction.length := by
  have hv := Moment.isValid_of_ofText? h.ofText?
  obtain ⟨-, offset, -, ho, -⟩ := h
  obtain ⟨-, -, -, hminutes, -⟩ :=
    Moment.toUtc_spec (m := ⟨τ.date, τ.hour, τ.minute, τ.second, nanoseconds τ.fraction⟩)
      τ.date_isValid τ.hour_lt τ.minute_lt ho.lt.1 ho.lt.2
  obtain ⟨hs, hn⟩ := Moment.toUtc_seconds
    ⟨τ.date, τ.hour, τ.minute, τ.second, nanoseconds τ.fraction⟩ τ.east
  exact ⟨hv, hminutes, hs, hn.trans (nanoseconds_eq τ.isDigit_fraction)⟩

theorem Timestamp.part_range (τ : Timestamp) : 0 ≤ τ.part ∧ τ.part < 1 := by
  have hpos : (0 : ℚ) < (10 ^ τ.fraction.length : ℕ) := by exact_mod_cast Nat.pow_pos (by decide)
  refine ⟨div_nonneg (Nat.cast_nonneg _) hpos.le, (div_lt_one hpos).2 ?_⟩
  exact_mod_cast ofDigits_lt τ.isDigit_fraction

theorem Timestamp.floor_part (τ : Timestamp) (k : Nat) :
    ⌊τ.part * k⌋ = (ofDigits τ.fraction * k / 10 ^ τ.fraction.length : Nat) := by
  rw [Timestamp.part, div_mul_eq_mul_div, ← Nat.cast_mul, Rat.floor_natCast_div_natCast,
    Int.natCast_ediv]

/-- Timestamps of one instant are read as one moment. -/
theorem Timestamp.moment_eq (h : τ.Writes cs) (h' : υ.Writes rest) (he : τ.instant = υ.instant) :
    τ.moment = υ.moment := by
  obtain ⟨hv, hminutes, hs, hn⟩ := Timestamp.moment_spec h
  obtain ⟨hv', hminutes', hs', hn'⟩ := Timestamp.moment_spec h'
  have hsecond : (τ.second : ℚ) + τ.part = υ.second + υ.part := congrArg Instant.second he
  have hfloor (τ : Timestamp) : ⌊(τ.second : ℚ) + τ.part⌋ = τ.second := by
    rw [Int.floor_natCast_add, Int.floor_eq_zero_iff.2 τ.part_range, add_zero]
  have hwhole : τ.second = υ.second := by
    have := (hfloor τ).symm.trans ((congrArg Int.floor hsecond).trans (hfloor υ))
    exact_mod_cast this
  have hpart : τ.part = υ.part := by
    rw [hwhole] at hsecond
    exact add_left_cancel hsecond
  refine Moment.ext_of_minutes hv hv' ?_ ?_ ?_
  · rw [hminutes, hminutes', he]
  · rw [hs, hs', hwhole]
  · have := congrArg (⌊· * ((10 ^ 9 : Nat) : ℚ)⌋) hpart
    simp only [Timestamp.floor_part] at this
    rw [hn, hn']
    exact_mod_cast this

theorem Timestamp.milliseconds_moment (h : τ.Writes cs) :
    τ.moment.instant.milliseconds = τ.instant.milliseconds := by
  obtain ⟨-, hminutes, hs, hn⟩ := Timestamp.moment_spec h
  have hwhole : (60 * (τ.instant.minute : ℚ) + (τ.second + τ.part)) * 1000 =
      (((60 * τ.instant.minute + τ.second) * 1000 : ℤ) : ℚ) + τ.part * (1000 : ℕ) := by
    push_cast
    ring
  have hpart : ofDigits τ.fraction * 10 ^ 9 / 10 ^ τ.fraction.length / 1000000 =
      ofDigits τ.fraction * 1000 / 10 ^ τ.fraction.length := by
    rw [Nat.div_div_eq_div_mul, show 10 ^ 9 = 1000 * 1000000 from rfl, ← Nat.mul_assoc,
      Nat.mul_div_mul_right _ _ (by decide)]
  rw [Moment.milliseconds_instant, hminutes, hs, hn, hpart, ← Timestamp.floor_part,
    ← Int.floor_intCast_add, ← hwhole]
  rfl

/-! ## The stored form read back -/

namespace Moment

/-- The moment without what is left of a millisecond. -/
def truncated (m : Moment) : Moment := { m with nanosecond := m.nanosecond / 1000000 * 1000000 }

theorem text_truncated (m : Moment) : m.truncated.text = m.text := by
  simp only [text, truncated, Nat.mul_div_cancel _ (show 0 < 1000000 by decide)]

theorem not_isBlank_of_isDigit {c : Char} (h : c.isDigit = true) : Text.isBlank c = false := by
  simp only [Char.isDigit, Bool.and_eq_true, decide_eq_true_eq, UInt32.le_iff_toNat_le] at h
  have hlow : 48 ≤ c.toNat := h.1
  have hhigh : c.toNat ≤ 57 := h.2
  simp only [Text.isBlank, Bool.or_eq_false_iff, Bool.and_eq_false_iff, decide_eq_false_iff_not,
    beq_eq_false_iff_ne]
  omega

/-- The stored form of a moment writes a timestamp, if its year has four digits. -/
theorem exists_writes_text (hm : m.IsValid) (hy : 0 ≤ m.date.year ∧ m.date.year ≤ 9999) :
    ∃ τ : Timestamp, τ.Writes m.text ∧ τ.moment = m.truncated := by
  let τ : Timestamp := {
    date := m.date
    hour := m.hour
    minute := m.minute
    second := m.second
    fraction := padded 3 (m.nanosecond / 1000000)
    east := 0
    date_isValid := hm.date
    year_range := hy
    hour_lt := hm.hour
    minute_lt := hm.minute
    second_le := hm.second
    isDigit_fraction := fun _ => isDigit_of_mem_padded }
  refine ⟨τ, ⟨' ', ['Z'], .inr (.inr rfl), .zulu (.inl rfl), ?_⟩, ?_⟩
  · rw [text_eq, yearText_eq hy, fractionText_padded]
    rfl
  · show toUtc ⟨_, _, _, _, nanoseconds τ.fraction⟩ 0 = _
    rw [nanoseconds_padded hm.millisecond_lt]
    exact toUtc_zero (m := m.truncated) hm.hour hm.minute

theorem trimLeft_padded (w k : Nat) (rest : List Char) :
    Text.trimLeft (padded w k ++ rest) = padded w k ++ rest := by
  refine Text.trimLeft_eq_self fun c hc => ?_
  rw [List.head?_append_of_ne_nil _ padded_ne_nil] at hc
  exact not_isBlank_of_isDigit (isDigit_of_mem_padded (List.mem_of_mem_head? hc))

theorem takePart_padded {k : Nat} (hk : k < 100) (rest : List Char) :
    takePart (padded 2 k ++ rest) = some (k, rest) := by
  have hl := length_padded (w := 2) (by decide) hk
  rw [takePart, trimLeft_padded]
  exact takeNumber_padded (by omega) hl.le (.inl hl)

theorem padded_append_ne_cons {w k : Nat} {c : Char} (hc : c.isDigit = false) :
    padded w k ++ rest ≠ c :: cs := by
  intro h
  have hhead := congrArg List.head? h
  rw [List.head?_append_of_ne_nil _ padded_ne_nil] at hhead
  have hdigit := isDigit_of_mem_padded (List.mem_of_mem_head? hhead)
  rw [hc] at hdigit
  cases hdigit

theorem takeYear_yearText (y : Int) (rest : List Char) :
    takeYear (yearText y ++ '-' :: rest) = some (y, '-' :: rest) := by
  have hsigned (k : Nat) : takeNumber 1 (padded 4 k ++ '-' :: rest).length
      (padded 4 k ++ '-' :: rest) = some (k, '-' :: rest) := by
    have hl := le_length_padded 4 k
    refine takeNumber_padded (by omega) ?_ (.inr (endsNumber_cons rfl))
    rw [List.length_append]
    exact Nat.le_add_right _ _
  have hplus (cs : List Char) : takeYear ('+' :: cs) =
      (takeNumber 1 cs.length cs).map fun p => ((p.1 : Int), p.2) := rfl
  have hminus (cs : List Char) : takeYear ('-' :: cs) =
      (takeNumber 1 cs.length cs).map fun p => (-(p.1 : Int), p.2) := rfl
  unfold yearText
  split
  · next hy =>
    have hl := length_padded (w := 4) (n := y.toNat) (by decide) (by omega)
    unfold takeYear
    rw [trimLeft_padded]
    split
    · next h => exact absurd h (padded_append_ne_cons rfl)
    · next h => exact absurd h (padded_append_ne_cons rfl)
    · rw [takeNumber_padded (by omega) hl.le (.inl hl), Option.map_some]
      simp only [Int.toNat_of_nonneg hy.1]
  · split
    · next hy =>
      rw [List.cons_append, hplus, hsigned, Option.map_some, Int.toNat_of_nonneg hy]
    · next hy =>
      rw [List.cons_append, hminus, hsigned, Option.map_some, Int.ofNat_natAbs_of_nonpos (by omega),
        Int.neg_neg]

theorem takeDate_text (hd : m.date.IsValid) (hr : Date.inRange m.date.year = true)
    (rest : List Char) :
    takeDate (yearText m.date.year ++ '-' :: (padded 2 m.date.month ++ '-' ::
      (padded 2 m.date.day ++ rest))) = some (m.date, rest) := by
  have hmonth := hd.month_le
  have hday := hd.day_le.trans (Date.daysIn_range _ _).2
  refine Option.bind_eq_some_iff.2 ⟨_, takeYear_yearText _ _,
    Option.bind_eq_some_iff.2 ⟨_, takeChar_cons _ _, ?_⟩⟩
  refine Option.bind_eq_some_iff.2 ⟨_, takePart_padded (by omega) _,
    Option.bind_eq_some_iff.2 ⟨_, takeChar_cons _ _, ?_⟩⟩
  refine Option.bind_eq_some_iff.2 ⟨_, takePart_padded (by omega) _, ?_⟩
  exact Option.map_eq_some_iff.2 ⟨_, Date.of?_of_isValid hd hr, rfl⟩

theorem takeTime_text (hm : m.IsValid) :
    takeTime m.date (padded 2 m.hour ++ ':' :: (padded 2 m.minute ++ ':' ::
      (padded 2 m.second ++ '.' :: (padded 3 (m.nanosecond / 1000000) ++ ['Z'])))) =
      some (m.truncated, ['Z']) := by
  have hfraction : takeFraction ('.' :: (padded 3 (m.nanosecond / 1000000) ++ ['Z'])) =
      some (m.nanosecond / 1000000 * 1000000, ['Z']) := by
    have hdigits : ∀ c ∈ padded 3 (m.nanosecond / 1000000), c.isDigit = true :=
      fun _ => isDigit_of_mem_padded
    have := takeFraction_append hdigits (.zulu (.inl rfl))
    rwa [fractionText_padded, nanoseconds_padded hm.millisecond_lt] at this
  have hat : at? m.date m.hour m.minute m.second (m.nanosecond / 1000000 * 1000000) =
      some m.truncated := by
    simp [at?, hm.hour, hm.minute, hm.second, truncated]
  obtain ⟨-, -, hh, hmi, hs, -⟩ := hm
  refine Option.bind_eq_some_iff.2 ⟨_, takePart_padded (by omega) _,
    Option.bind_eq_some_iff.2 ⟨_, takeChar_cons _ _, ?_⟩⟩
  refine Option.bind_eq_some_iff.2 ⟨_, takePart_padded (by omega) _,
    Option.bind_eq_some_iff.2 ⟨_, takeChar_cons _ _, ?_⟩⟩
  refine Option.bind_eq_some_iff.2 ⟨_, takePart_padded (by omega) _, ?_⟩
  refine Option.bind_eq_some_iff.2 ⟨_, hfraction, ?_⟩
  exact Option.map_eq_some_iff.2 ⟨_, hat, rfl⟩

/-- The stored form is read as it stands, whatever the year. -/
theorem readSpaced_text (hm : m.IsValid) : readSpaced ['Z'] m.text = some m.truncated := by
  have htrim : Text.trimLeft (' ' :: (padded 2 m.hour ++ ':' :: (padded 2 m.minute ++ ':' ::
      (padded 2 m.second ++ '.' :: (padded 3 (m.nanosecond / 1000000) ++ ['Z']))))) =
      padded 2 m.hour ++ ':' :: (padded 2 m.minute ++ ':' ::
      (padded 2 m.second ++ '.' :: (padded 3 (m.nanosecond / 1000000) ++ ['Z']))) :=
    (List.dropWhile_cons_of_pos rfl).trans (trimLeft_padded _ _ _)
  rw [text_eq]
  refine Option.bind_eq_some_iff.2 ⟨_, takeDate_text hm.date hm.inRange _, ?_⟩
  simp only
  rw [htrim]
  exact Option.bind_eq_some_iff.2 ⟨_, takeTime_text hm, if_pos rfl⟩

theorem ofText?_text (hm : m.IsValid) : ofText? m.text = some m.truncated := by
  by_cases hy : 0 ≤ m.date.year ∧ m.date.year ≤ 9999
  · obtain ⟨τ, hτ, hmoment⟩ := exists_writes_text hm hy
    rw [hτ.ofText?, hmoment]
  · have hoffset : readOffset m.text = none := by
      rw [text_eq, yearText, if_neg hy]
      split
      · rfl
      · rfl
    rw [ofText?, hoffset, Option.none_or, readSpaced_text hm, Option.some_or]

theorem trim_text (m : Moment) : Text.trim m.text = m.text := by
  refine Text.trim_eq_self (fun c hc => ?_) fun c hc => ?_
  · rw [text_eq, yearText] at hc
    split at hc
    · rw [List.head?_append_of_ne_nil _ padded_ne_nil] at hc
      exact not_isBlank_of_isDigit (isDigit_of_mem_padded (List.mem_of_mem_head? hc))
    · split at hc <;> cases hc <;> rfl
  · rw [text, List.getLast?_concat] at hc
    cases hc
    rfl

end Moment

/-! ## Canonical and in order -/

theorem normalize?_eq_some_iff {s t : String} : normalize? s = some t ↔
    ∃ m, Moment.ofText? (Text.trim s.toList) = some m ∧ String.ofList m.text = t :=
  Option.map_eq_some_iff

/-- The stored form is canonical: it is the stored form of itself, timestamps of one instant have
one, and the stored forms of the years 0000 to 9999 are in the order of the milliseconds that they
stand for, leap seconds apart. -/
theorem normalize_canonical (s s' : String) :
    (∀ t, normalize? s = some t → normalize? t = some t) ∧
    (∀ τ : Timestamp, τ.Writes (Text.trim s.toList) →
      (∃ m, Moment.ofText? (Text.trim s.toList) = some m ∧
        m.instant.milliseconds = τ.instant.milliseconds) ∧
      ∀ υ : Timestamp, υ.Writes (Text.trim s'.toList) → τ.instant = υ.instant →
        ∃ t, normalize? s = some t ∧ normalize? s' = some t) ∧
    ∀ m n, Moment.ofText? (Text.trim s.toList) = some m →
      Moment.ofText? (Text.trim s'.toList) = some n → m.second < 60 → n.second < 60 →
      (0 ≤ m.date.year ∧ m.date.year ≤ 9999) → (0 ≤ n.date.year ∧ n.date.year ≤ 9999) →
      ∃ t t', normalize? s = some t ∧ normalize? s' = some t' ∧
        (t < t' ↔ m.instant.milliseconds < n.instant.milliseconds) ∧
        (t = t' ↔ m.instant.milliseconds = n.instant.milliseconds) := by
  refine ⟨fun t h => ?_, fun τ hτ => ⟨⟨τ.moment, hτ.ofText?, τ.milliseconds_moment hτ⟩,
    fun υ hυ he => ?_⟩, fun m n hm hn hs hs' hy hy' => ?_⟩
  · obtain ⟨m, hm, rfl⟩ := normalize?_eq_some_iff.1 h
    have hread := Moment.ofText?_text (Moment.isValid_of_ofText? hm)
    refine normalize?_eq_some_iff.2 ⟨m.truncated, ?_, by rw [Moment.text_truncated]⟩
    rw [String.toList_ofList, Moment.trim_text, hread]
  · have hmoment := Timestamp.moment_eq hτ hυ he
    exact ⟨_, normalize?_eq_some_iff.2 ⟨_, hτ.ofText?, rfl⟩,
      normalize?_eq_some_iff.2 ⟨_, hυ.ofText?, by rw [hmoment]⟩⟩
  · have hv := Moment.isValid_of_ofText? hm
    have hv' := Moment.isValid_of_ofText? hn
    refine ⟨_, _, normalize?_eq_some_iff.2 ⟨m, hm, rfl⟩, normalize?_eq_some_iff.2 ⟨n, hn, rfl⟩,
      ?_, ?_⟩
    · rw [String.lt_iff_toList_lt, String.toList_ofList, String.toList_ofList,
        Moment.text_lt_text_iff hv hv' hs hs' hy hy']
    · rw [String.ofList_inj, Moment.text_eq_text_iff hv hv' hs hs' hy hy']

def lateEvening : Timestamp where
  date := ⟨2024, 2, 29⟩
  hour := 23
  minute := 30
  second := 0
  fraction := ['5']
  east := -60
  date_isValid := ⟨by decide, by decide, by decide, by decide⟩
  year_range := by decide
  hour_lt := by decide
  minute_lt := by decide
  second_le := by decide
  isDigit_fraction := List.all_eq_true.1 rfl

def pastMidnight : Timestamp where
  date := ⟨2024, 3, 1⟩
  hour := 0
  minute := 30
  second := 0
  fraction := ['5', '0', '0']
  east := 0
  date_isValid := ⟨by decide, by decide, by decide, by decide⟩
  year_range := by decide
  hour_lt := by decide
  minute_lt := by decide
  second_le := by decide
  isDigit_fraction := List.all_eq_true.1 rfl

/-- One instant has one stored form across the end of a month, which comes after that of the day
itself. -/
theorem normalize_canonical_leap_day :
    lateEvening.instant = pastMidnight.instant ∧
    (∃ t, normalize? "2024-02-29T23:30:00.5-01:00" = some t ∧
      normalize? "2024-03-01 00:30:00.500Z" = some t ∧ normalize? t = some t) ∧
    ∃ t t', normalize? "2024-02-29T23:30:00.5-01:00" = some t ∧
      normalize? " 2024-2-29" = some t' ∧ t' < t := by
  have hlate : lateEvening.Writes (Text.trim "2024-02-29T23:30:00.5-01:00".toList) :=
    ⟨'T', _, .inl rfl, .behind (show 1 < 24 by decide) (show 0 < 60 by decide), by decide⟩
  have hpast : pastMidnight.Writes (Text.trim "2024-03-01 00:30:00.500Z".toList) :=
    ⟨' ', _, .inr (.inr rfl), .zulu (.inl rfl), by decide⟩
  have hinstant : lateEvening.instant = pastMidnight.instant := by
    have hpart : lateEvening.part = pastMidnight.part := by
      show ((5 : Nat) : ℚ) / ((10 ^ 1 : Nat) : ℚ) = ((500 : Nat) : ℚ) / ((10 ^ 3 : Nat) : ℚ)
      norm_num
    rw [Timestamp.instant, Timestamp.instant, hpart]
    rfl
  obtain ⟨hagain, hone, -⟩ :=
    normalize_canonical "2024-02-29T23:30:00.5-01:00" "2024-03-01 00:30:00.500Z"
  obtain ⟨t, ht, ht'⟩ := (hone _ hlate).2 _ hpast hinstant
  obtain ⟨-, -, horder⟩ := normalize_canonical " 2024-2-29" "2024-02-29T23:30:00.5-01:00"
  obtain ⟨u, u', hu, hu', hlt, -⟩ := horder ⟨⟨2024, 2, 29⟩, 0, 0, 0, 0⟩
    ⟨⟨2024, 3, 1⟩, 0, 30, 0, 500000000⟩ (by decide) (by decide) (by decide) (by decide) (by decide)
    (by decide)
  refine ⟨hinstant, ⟨t, ht, ht', hagain t ht⟩, u', u, hu', hu, hlt.2 ?_⟩
  rw [Moment.milliseconds_instant, Moment.milliseconds_instant]
  decide

end RecordFilter.Time
