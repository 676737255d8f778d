import Mathlib.Algebra.Group.Nat.Defs
import Mathlib.Data.List.Induction
import Mathlib.Data.List.TakeWhile
import RecordFilter.Time.Reading

/-!
# Numbers in digits

`padded` writes a number in at least so many digits, and `ofDigits` and `takeNumber` read it back
(`takeNumber_padded`). Numbers of one width are in the order of their texts, whatever follows them
(`padded_append_lt_iff`).
-/

namespace RecordFilter.Time

open Number

variable {w n a b low high : Nat} {s t digits rest : List Char} {c : Char}

/-! ## Digits -/

theorem digitValue_lt (h : c.isDigit = true) : digitValue c < 10 := by
  simp only [Char.isDigit, Bool.and_eq_true, decide_eq_true_eq, UInt32.le_iff_toNat_le] at h
  have hc : digitValue c = c.val.toNat - 48 := rfl
  rw [hc]
  have : c.val.toNat ≤ 57 := h.2
  omega

theorem ofDigits_append (s t : List Char) :
    ofDigits (s ++ t) = 10 ^ t.length * ofDigits s + ofDigits t := by
  calc ofDigits (s ++ t) = Nat.ofDigitChars 10 t (Nat.ofDigitChars 10 s 0) :=
        Nat.ofDigitChars_append 0
    _ = 10 ^ t.length * ofDigits s + ofDigits t := Nat.ofDigitChars_eq_ofDigitChars_zero

theorem ofDigits_lt (h : ∀ c ∈ s, c.isDigit = true) : ofDigits s < 10 ^ s.length := by
  induction s using List.reverseRecOn with
  | nil => simp
  | append_singleton s c ih =>
    have hs := ih fun d hd => h d (List.mem_append_left _ hd)
    have hc := digitValue_lt (h c (by simp))
    rw [ofDigits_append_singleton, List.length_append, List.length_singleton, Nat.pow_succ]
    omega

/-! ## Padded numbers -/

theorem isDigit_of_mem_padded (h : c ∈ padded w n) : c.isDigit = true := by
  rcases List.mem_append.1 h with h | h
  · rw [List.eq_of_mem_replicate h]
    rfl
  · exact Nat.isDigit_of_mem_toDigits (by decide) (by decide) h

theorem ofDigits_padded (w n : Nat) : ofDigits (padded w n) = n := by
  have hzeros (k : Nat) : ofDigits (List.replicate k '0') = 0 :=
    Nat.ofDigitChars_replicate_zero.trans (Nat.mul_zero _)
  have hdigits : ofDigits (Nat.toDigits 10 n) = n := Nat.ofDigitChars_ten_toDigits
  rw [padded, ofDigits_append, hzeros, hdigits, Nat.mul_zero, Nat.zero_add]

theorem length_padded (hw : 0 < w) (h : n < 10 ^ w) : (padded w n).length = w := by
  have hle := (Nat.length_toDigits_le_iff (b := 10) (by decide) hw).2 h
  rw [padded, List.length_append, List.length_replicate]
  omega

theorem le_length_padded (w n : Nat) : w ≤ (padded w n).length := by
  rw [padded, List.length_append, List.length_replicate]
  omega

theorem padded_ne_nil : padded w n ≠ [] :=
  List.append_ne_nil_of_right_ne_nil _ Nat.toDigits_ne_nil

theorem padded_succ (hw : 0 < w) (n : Nat) :
    padded (w + 1) n = padded w (n / 10) ++ [Nat.digitChar (n % 10)] := by
  unfold padded
  simp only
  by_cases hn : n < 10
  · obtain ⟨v, rfl⟩ := Nat.exists_eq_add_of_le' hw
    rw [Nat.toDigits_of_lt_base hn, Nat.div_eq_of_lt hn, Nat.mod_eq_of_lt hn,
      Nat.toDigits_of_lt_base (by decide)]
    show List.replicate (v + 1) '0' ++ _ = List.replicate v '0' ++ ['0'] ++ _
    rw [← List.replicate_succ']
  · rw [Nat.toDigits_eq_if (n := n) (by decide), if_neg hn, List.length_append,
      List.length_singleton, Nat.add_sub_add_right, List.append_assoc]

theorem digitChar_lt_iff : ∀ a < 10, ∀ b < 10,
    (Nat.digitChar a < Nat.digitChar b ↔ a < b) ∧ (Nat.digitChar a = Nat.digitChar b ↔ a = b) := by
  decide

theorem digitChar_cons_lt_iff (ha : a < 10) (hb : b < 10) :
    Nat.digitChar a :: s < Nat.digitChar b :: t ↔ a < b ∨ a = b ∧ s < t := by
  obtain ⟨hlt, heq⟩ := digitChar_lt_iff a ha b hb
  rw [List.cons_lt_cons_iff, hlt, heq]

/-- Texts that start with numbers of one width are in the order of the numbers first. -/
theorem padded_append_lt_iff (hw : 0 < w) (ha : a < 10 ^ w) (hb : b < 10 ^ w) :
    padded w a ++ s < padded w b ++ t ↔ a < b ∨ a = b ∧ s < t := by
  induction w, hw using Nat.le_induction generalizing a b s t with
  | base =>
    have hpadded {n : Nat} (hn : n < 10) : padded 1 n = [Nat.digitChar n] := by
      simp [padded, Nat.toDigits_of_lt_base hn]
    rw [hpadded ha, hpadded hb]
    exact digitChar_cons_lt_iff ha hb
  | succ w hw ih =>
    rw [Nat.pow_succ] at ha hb
    rw [padded_succ hw, padded_succ hw, List.append_assoc, List.append_assoc,
      ih (by omega) (by omega), List.singleton_append, List.singleton_append,
      digitChar_cons_lt_iff (Nat.mod_lt _ (by decide)) (Nat.mod_lt _ (by decide))]
    by_cases hst : s < t
    · simp only [hst, and_true]
      omega
    · simp only [hst, and_false, or_false]
      omega

/-! ## Reading numbers -/

/-- A text goes on without a digit, or is over. -/
def EndsNumber (rest : List Char) : Prop := ∀ c ∈ rest.head?, c.isDigit = false

theorem endsNumber_cons (h : c.isDigit = false) : EndsNumber (c :: rest) := by
  rintro _ ⟨⟩
  exact h

theorem takeWhile_append_of_endsNumber (hd : ∀ c ∈ digits, c.isDigit = true)
    (hr : EndsNumber rest) : (digits ++ rest).takeWhile Char.isDigit = digits := by
  rw [List.takeWhile_append_of_pos hd]
  cases rest with
  | nil => simp
  | cons c rest => simp [hr c rfl]

theorem dropWhile_append_of_endsNumber (hd : ∀ c ∈ digits, c.isDigit = true)
    (hr : EndsNumber rest) : (digits ++ rest).dropWhile Char.isDigit = rest := by
  rw [List.dropWhile_append_of_pos hd]
  cases rest with
  | nil => rfl
  | cons c rest => simp [hr c rfl]

theorem endsNumber_take (h : EndsNumber rest) (k : Nat) : EndsNumber (rest.take k) := by
  cases rest with
  | nil => rw [List.take_nil]; exact h
  | cons c rest =>
    cases k with
    | zero => rintro _ ⟨⟩
    | succ k => exact endsNumber_cons (h c rfl)

/-- The digits at the start of a text are read if there are enough of them, and no more of them
than may be read. -/
theorem takeNumber_append (hd : ∀ c ∈ digits, c.isDigit = true) (hl : low ≤ digits.length)
    (hh : digits.length ≤ high) (hr : digits.length = high ∨ EndsNumber rest) :
    takeNumber low high (digits ++ rest) = some (ofDigits digits, rest) := by
  have hread : ((digits ++ rest).take high).takeWhile Char.isDigit = digits := by
    rcases hr with rfl | hr
    · rw [List.take_left, List.takeWhile_eq_self_iff]
      exact hd
    · rw [List.take_append, List.take_of_length_le hh]
      exact takeWhile_append_of_endsNumber hd (endsNumber_take hr _)
  unfold takeNumber
  simp only [hread, Nat.not_lt.2 hl, if_false, List.drop_left]

theorem takeNumber_padded (hl : low ≤ (padded w n).length) (hh : (padded w n).length ≤ high)
    (hr : (padded w n).length = high ∨ EndsNumber rest) :
    takeNumber low high (padded w n ++ rest) = some (n, rest) := by
  rw [takeNumber_append (fun _ => isDigit_of_mem_padded) hl hh hr, ofDigits_padded]

theorem takeNumber_padded_self (hw : 0 < w) (h : n < 10 ^ w) :
    takeNumber w w (padded w n ++ rest) = some (n, rest) := by
  have hl := length_padded hw h
  exact takeNumber_padded hl.ge hl.le (.inl hl)

/-- What is read is below a power of ten. -/
theorem takeNumber_lt (h : takeNumber low high s = some (n, rest)) : n < 10 ^ high := by
  unfold takeNumber at h
  simp only at h
  split at h
  · cases h
  · cases h
    have hd : ∀ c ∈ (s.take high).takeWhile Char.isDigit, c.isDigit = true :=
      fun c hc => List.mem_takeWhile_imp hc
    refine Nat.lt_of_lt_of_le (ofDigits_lt hd) (Nat.pow_le_pow_right (by decide) ?_)
    exact (List.takeWhile_prefix _).length_le.trans (List.length_take_le _ _)

end RecordFilter.Time
