import Mathlib.Data.List.Nodup
import RecordFilter.Path.Resolver

/-!
# Names and values of parameters

`names` and `find?` are the two views of a registry: with distinct names they determine it
(`Params.ext_of_find?`). The lemmas here say what binding, setting and dropping do to both.
A generated name is free when it is handed out (`generated_nextNumber`), so names stay distinct.
-/

namespace RecordFilter

/-! ## Keyed lists -/

namespace Json

variable {α : Type} {k : String} {ms ns : List (String × α)}

theorem find?_eq_none_iff : find? k ms = none ↔ k ∉ ms.map Prod.fst := by
  induction ms with
  | nil => simp [find?]
  | cons m ms ih =>
    obtain ⟨k', v⟩ := m
    by_cases h : k' = k
    · simp [find?, h]
    · simp [find?, h, ih, Ne.symm h]

theorem find?_append : find? k (ms ++ ns) = (find? k ms).or (find? k ns) := by
  induction ms with
  | nil => simp [find?]
  | cons m ms ih =>
    obtain ⟨k', v⟩ := m
    by_cases h : k' = k
    · simp [find?, h]
    · simp [find?, h, ih]

/-- The first entries have the values of all entries, under the names that they have. -/
theorem find?_take (n : Nat) :
    find? k (ms.take n) = if k ∈ (ms.map Prod.fst).take n then find? k ms else none := by
  induction ms generalizing n with
  | nil => simp [find?]
  | cons m ms ih =>
    obtain ⟨k', v⟩ := m
    cases n with
    | zero => simp [find?]
    | succ n =>
      by_cases h : k' = k
      · simp [find?, h]
      · simp [find?, h, ih, Ne.symm h]

theorem mem_of_find? {v : α} (h : find? k ms = some v) : (k, v) ∈ ms := by
  induction ms with
  | nil => simp [find?] at h
  | cons m ms ih =>
    obtain ⟨k', w⟩ := m
    by_cases hk : k' = k
    · simp only [find?, hk, if_true, Option.some.injEq] at h
      simp [hk, h]
    · simp only [find?, hk, if_false] at h
      exact List.mem_cons_of_mem _ (ih h)

theorem find?_of_mem {v : α} (hn : (ms.map Prod.fst).Nodup) (h : (k, v) ∈ ms) :
    find? k ms = some v := by
  induction ms with
  | nil => simp at h
  | cons m ms ih =>
    obtain ⟨k', w⟩ := m
    rw [List.map_cons, List.nodup_cons] at hn
    rcases List.mem_cons.1 h with h | h
    · cases h; simp [find?]
    · have hk : k' ≠ k := by
        rintro rfl
        exact hn.1 (List.mem_map.2 ⟨_, h, rfl⟩)
      simp [find?, hk, ih hn.2 h]

/-- Distinct keys and the values under them make up the list. -/
theorem eq_of_find? {es fs : List (String × α)} (hn : (es.map Prod.fst).Nodup)
    (hk : fs.map Prod.fst = es.map Prod.fst) (hv : ∀ k ∈ es.map Prod.fst, find? k fs = find? k es) :
    fs = es := by
  induction es generalizing fs with
  | nil => simpa using hk
  | cons e es ih =>
    cases fs with
    | nil => simp at hk
    | cons f fs =>
      obtain ⟨k, v⟩ := e
      obtain ⟨k', w⟩ := f
      simp only [List.map_cons, List.cons.injEq] at hk
      obtain ⟨rfl, hk⟩ := hk
      rw [List.map_cons, List.nodup_cons] at hn
      have hw : w = v := by simpa [find?] using hv k' (by simp)
      have hs : fs = es := ih hn.2 hk fun k hm => by
        have hne : k' ≠ k := fun h => hn.1 (h ▸ hm)
        simpa [find?, hne] using hv k (by simp [hm])
      rw [hw, hs]

end Json

/-! ## Registries -/

namespace Sql.Params

variable {ps qs : Params} {k name : String} {v w : Json}

theorem find?_eq_none_iff : ps.find? k = none ↔ k ∉ ps.names := Json.find?_eq_none_iff

theorem contains_iff : ps.contains k = true ↔ k ∈ ps.names := by
  rw [contains, Option.isSome_iff_ne_none, ne_eq, find?_eq_none_iff, not_not]

theorem mem_names_of_find? (h : ps.find? k = some v) : k ∈ ps.names := by
  rw [← contains_iff, contains, h]; rfl

/-- With distinct names, the names, the values and the last number make up the registry. -/
theorem ext_of_find? (hn : ps.names.Nodup) (hk : qs.names = ps.names) (hl : qs.last = ps.last)
    (hv : ∀ k ∈ ps.names, qs.find? k = ps.find? k) : qs = ps := by
  obtain ⟨es, n⟩ := ps
  obtain ⟨fs, m⟩ := qs
  have he : fs = es := Json.eq_of_find? hn hk hv
  rw [he, show m = n from hl]

/-! ### Setting -/

theorem names_set : (ps.set name v).names =
    if name ∈ ps.names then ps.names else ps.names ++ [name] :=
  Json.map_fst_put name v ps.entries

theorem names_update : (ps.update name v).names = ps.names := by
  unfold update
  split
  · next h => rw [names_set, if_pos (contains_iff.1 h)]
  · rfl

@[simp] theorem last_update : (ps.update name v).last = ps.last := by
  unfold update; split <;> rfl

theorem find?_update : (ps.update name v).find? k =
    if k = name ∧ name ∈ ps.names then some v else ps.find? k := by
  unfold update
  by_cases h : name ∈ ps.names
  · simp [contains_iff.2 h, find?_set, h]
  · have hc : ps.contains name = false := by
      rw [← Bool.not_eq_true, contains_iff]; exact h
    simp [hc, h]

/-! ### Generated names -/

theorem toDigits_injective {m n : Nat} (h : Nat.toDigits 10 m = Nat.toDigits 10 n) : m = n := by
  rw [← Nat.ofDigitChars_ten_toDigits (n := m), h, Nat.ofDigitChars_ten_toDigits]

theorem generated_injective {m n : Nat} (h : generated m = generated n) : m = n :=
  toDigits_injective (by simpa [generated] using congrArg String.toList h)

/-- The search for a free number stops at one, or has seen `tries` names that are taken. -/
theorem freeAfter_spec (ps : Params) (tries n : Nat) :
    generated (ps.freeAfter tries n) ∉ ps.names ∨
      (ps.freeAfter tries n = n + tries + 1 ∧
        ∀ i < tries, generated (n + 1 + i) ∈ ps.names) := by
  induction tries generalizing n with
  | zero => exact .inr ⟨rfl, by simp⟩
  | succ tries ih =>
    by_cases h : generated (n + 1) ∈ ps.names
    · have he : ps.freeAfter (tries + 1) n = ps.freeAfter tries (n + 1) := by
        simp [freeAfter, contains_iff.2 h]
      rw [he]
      rcases ih (n + 1) with hf | ⟨hf, ht⟩
      · exact .inl hf
      · refine .inr ⟨by omega, fun i hi => ?_⟩
        cases i with
        | zero => exact h
        | succ i => rw [show n + 1 + (i + 1) = n + 1 + 1 + i by omega]; exact ht i (by omega)
    · have hc : ps.contains (generated (n + 1)) = false := by
        rw [← Bool.not_eq_true, contains_iff]; exact h
      exact .inl (by simpa [freeAfter, hc] using h)

/-- The next generated name is free: fewer names are taken than numbers are tried. -/
theorem generated_nextNumber (ps : Params) : generated ps.nextNumber ∉ ps.names := by
  rcases freeAfter_spec ps ps.entries.length ps.last with h | ⟨hn, ht⟩
  · exact h
  · intro hm
    let tried := (List.range (ps.entries.length + 1)).map fun i => generated (ps.last + 1 + i)
    have hd : tried.Nodup := List.nodup_range.map fun i j h => by
      have := generated_injective h
      omega
    have hs : tried ⊆ ps.names := by
      intro x hx
      obtain ⟨i, hi, rfl⟩ := List.mem_map.1 hx
      rcases Nat.lt_or_eq_of_le (Nat.le_of_lt_succ (List.mem_range.1 hi)) with hi | rfl
      · exact ht i hi
      · rw [show ps.last + 1 + ps.entries.length = ps.nextNumber by rw [nextNumber, hn]; omega]
        exact hm
    have hl := hd.length_le_of_subset hs
    simp only [tried, names, List.length_map, List.length_range] at hl
    omega

theorem fst_bind : (ps.bind v).1 = generated ps.nextNumber := rfl

theorem find?_bind : (ps.bind v).2.find? k =
    if k = generated ps.nextNumber then some v else ps.find? k := by
  have he : (ps.bind v).2.find? k =
      (ps.find? k).or (Json.find? k [(generated ps.nextNumber, v)]) := Json.find?_append
  rw [he]
  split
  · next h => subst h; simp [find?_eq_none_iff.2 (generated_nextNumber ps), Json.find?]
  · next h => simp [Json.find?, Ne.symm h]

/-! ### Distinct names -/

theorem nodup_set (h : ps.names.Nodup) : (ps.set name v).names.Nodup := Json.nodup_put name v h

theorem nodup_bind (h : ps.names.Nodup) : (ps.bind v).2.names.Nodup := by
  rw [names_bind, fst_bind, List.nodup_append]
  refine ⟨h, by simp, ?_⟩
  rintro a ha b hb rfl
  rw [List.mem_singleton] at hb
  exact generated_nextNumber ps (hb ▸ ha)

/-! ### Dropping -/

theorem names_rollback (m : Mark) : (ps.rollback m).names = ps.names.take m.size := by
  simp [rollback, names]

theorem find?_rollback (m : Mark) : (ps.rollback m).find? k =
    if k ∈ ps.names.take m.size then ps.find? k else none := Json.find?_take _

end Sql.Params

/-! ## Several bindings -/

namespace Resolver

open Sql (Params)

variable {ps : Params} {bs : List (String × Json)} {k : String}

theorem setAll_cons (b : String × Json) : setAll ps (b :: bs) = setAll (ps.set b.1 b.2) bs := rfl

/-- Setting keeps the names in their places. -/
theorem names_setAll (ps : Params) (bs : List (String × Json)) :
    ∃ new, (setAll ps bs).names = ps.names ++ new ∧ ∀ k ∈ new, k ∈ bs.map Prod.fst := by
  induction bs generalizing ps with
  | nil => exact ⟨[], by simp [setAll], by simp⟩
  | cons b bs ih =>
    obtain ⟨new, hn, hm⟩ := ih (ps.set b.1 b.2)
    rw [setAll_cons, hn, Params.names_set]
    split
    · exact ⟨new, rfl, fun k hk => List.mem_cons_of_mem _ (hm k hk)⟩
    · refine ⟨b.1 :: new, by simp, fun k hk => ?_⟩
      rcases List.mem_cons.1 hk with rfl | hk
      · simp
      · exact List.mem_cons_of_mem _ (hm k hk)

theorem subset_names_setAll (ps : Params) (bs : List (String × Json)) :
    ps.names ⊆ (setAll ps bs).names := by
  obtain ⟨new, hn, -⟩ := names_setAll ps bs
  rw [hn]
  exact List.subset_append_left _ _

theorem mem_names_setAll (ps : Params) (hk : k ∈ bs.map Prod.fst) :
    k ∈ (setAll ps bs).names := by
  induction bs generalizing ps with
  | nil => cases hk
  | cons b bs ih =>
    rw [setAll_cons]
    rcases List.mem_cons.1 hk with rfl | hk
    · refine subset_names_setAll _ _ ?_
      rw [Params.names_set]
      split
      · assumption
      · exact List.mem_append_right _ (List.mem_singleton.2 rfl)
    · exact ih _ hk

/-- Setting names that are bound adds none. -/
theorem names_setAll_of_subset (h : bs.map Prod.fst ⊆ ps.names) :
    (setAll ps bs).names = ps.names := by
  induction bs generalizing ps with
  | nil => rfl
  | cons b bs ih =>
    rw [List.map_cons, List.cons_subset] at h
    have hb : (ps.set b.1 b.2).names = ps.names := by rw [Params.names_set, if_pos h.1]
    rw [setAll_cons, ih (hb ▸ h.2), hb]

theorem nodup_setAll (h : ps.names.Nodup) : (setAll ps bs).names.Nodup := by
  induction bs generalizing ps with
  | nil => exact h
  | cons b bs ih => exact ih (Params.nodup_set h)

theorem find?_setAll (hb : (bs.map Prod.fst).Nodup) :
    (setAll ps bs).find? k = (Json.find? k bs).or (ps.find? k) := by
  induction bs generalizing ps with
  | nil => simp [setAll, Json.find?]
  | cons b bs ih =>
    obtain ⟨n, v⟩ := b
    rw [List.map_cons, List.nodup_cons] at hb
    rw [setAll_cons, ih hb.2, Params.find?_set]
    by_cases h : k = n
    · subst h; simp [Json.find?, Json.find?_eq_none_iff.2 hb.1]
    · simp [Json.find?, h, Ne.symm h]

/-! ### What a failure leaves behind -/

theorem names_rollback_setAll (ps : Params) (bs : List (String × Json)) :
    ((setAll ps bs).rollback ps.mark).names = ps.names := by
  obtain ⟨new, hn, -⟩ := names_setAll ps bs
  rw [Params.names_rollback, hn]
  simp [Params.mark, Params.names]

theorem find?_rollback_setAll (hb : (bs.map Prod.fst).Nodup) (hk : k ∈ ps.names) :
    ((setAll ps bs).rollback ps.mark).find? k = (Json.find? k bs).or (ps.find? k) := by
  have hm := hk
  rw [← names_rollback_setAll ps bs, Params.names_rollback] at hm
  rw [Params.find?_rollback, if_pos hm, find?_setAll hb]

/-- Setting values and dropping what was added restores the registry if and only if no name that
it had was set to another value. -/
theorem rollback_setAll_eq_iff (hn : ps.names.Nodup) (hb : (bs.map Prod.fst).Nodup) :
    (setAll ps bs).rollback ps.mark = ps ↔
      ∀ b ∈ bs, ∀ v, ps.find? b.1 = some v → v = b.2 := by
  constructor
  · intro h b hm v hv
    have hf := find?_rollback_setAll hb (Params.mem_names_of_find? hv)
    rw [h, hv, Json.find?_of_mem hb hm] at hf
    simpa using hf
  · intro h
    refine Params.ext_of_find? hn (names_rollback_setAll ps bs) rfl fun k hk => ?_
    rw [find?_rollback_setAll hb hk]
    cases hf : Json.find? k bs with
    | none => rfl
    | some w =>
      cases hp : ps.find? k with
      | none => exact absurd hk (Params.find?_eq_none_iff.1 hp)
      | some v => rw [h _ (Json.mem_of_find? hf) v hp]; rfl

end Resolver

end RecordFilter
