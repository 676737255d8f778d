import RecordFilter.Proofs.Apart

/-!
# Roots and their aliases

The alias of a root starts like those of its kind, unless it is the base. So roots of one alias are
of one kind (`Plan.RootOf.kind_eq`), and they are the same or any records of collections. There the
author of a path may have chosen the alias (`Root.Alike`).
-/

namespace RecordFilter

open Sql (Join)

theorem Comparable.take_eq {a b : String} {n : Nat} (h : Comparable a b) (ha : n ≤ a.length)
    (hb : n ≤ b.length) : a.toList.take n = b.toList.take n := by
  have prefixed {a b : String} (h : Extends a b) (ha : n ≤ a.length) :
      a.toList.take n = b.toList.take n := by
    obtain ⟨t, rfl⟩ := h
    rw [String.append_assoc, Root.take_append ha]
  rcases h with rfl | h | h
  · rfl
  · exact prefixed h ha
  · exact (prefixed h hb).symm

namespace Root

variable {ρ σ : Root}

inductive Kind
  | base
  | anyOf
  | auth
  | submitted
deriving DecidableEq

def kind : Root → Kind
  | base _ => .base
  | anyOf _ _ => .anyOf
  | auth _ _ => .auth
  | submitted _ _ _ _ => .submitted

/-- The start of the aliases of a kind of roots. -/
def Kind.stem : Kind → String
  | base => ""
  | anyOf => "__collection_"
  | auth => "__auth_"
  | submitted => "__data_"

/-- What tells apart the aliases of a kind of roots. -/
def word : Root → String
  | base c | anyOf c none | auth c _ => Sql.wordPart c.name
  | anyOf _ (some name) => fieldAlias "alias" name
  | submitted c key _ _ => fieldAlias (Sql.wordPart c.name) key

theorem firstAlias_eq (r : Root) : r.firstAlias = r.kind.stem ++ r.word := by
  rcases r with c | ⟨c, _ | name⟩ | ⟨c, id⟩ | ⟨c, key, ids, multiple⟩
  · exact String.empty_append.symm
  · rfl
  · have h : "__collection_alias_" = "__collection_" ++ ("alias" ++ "_") := rfl
    show "__collection_alias_" ++ _ = _
    rw [h, String.append_assoc]
    rfl
  · rfl
  · show "__data_" ++ _ ++ "_" ++ _ = "__data_" ++ (_ ++ "_" ++ _)
    rw [String.append_assoc, String.append_assoc, String.append_assoc]

theorem Kind.le_length_stem {k : Kind} (h : k ≠ .base) : 7 ≤ k.stem.length := by
  cases k <;> first | exact absurd rfl h | decide

theorem Kind.eq_of_take {k l : Kind} (h : k.stem.toList.take 7 = l.stem.toList.take 7) :
    k = l := by
  cases k <;> cases l <;> first | rfl | exact absurd h (by decide)

theorem take_firstAlias {r : Root} (h : r.kind ≠ .base) :
    7 ≤ r.firstAlias.length ∧ r.firstAlias.toList.take 7 = r.kind.stem.toList.take 7 := by
  have hl := Kind.le_length_stem h
  rw [firstAlias_eq]
  refine ⟨?_, take_append hl⟩
  rw [String.length_append]
  omega

/-- Roots with comparable aliases are of one kind, if the base is told apart from other roots. -/
theorem kind_eq_of_comparable (hc : Comparable ρ.firstAlias σ.firstAlias)
    (hb : ρ.kind = .base ↔ σ.kind = .base) : ρ.kind = σ.kind := by
  by_cases hk : ρ.kind = .base
  · rw [hk, hb.1 hk]
  · obtain ⟨hlong, htake⟩ := take_firstAlias hk
    obtain ⟨hlong', htake'⟩ := take_firstAlias (mt hb.2 hk)
    exact Kind.eq_of_take (by rw [← htake, hc.take_eq hlong hlong', htake'])

/-- Roots that are the same, or any records of one collection under one alias. The author may have
chosen it for the one and not for the other. -/
def Alike (ρ σ : Root) : Prop :=
  ρ = σ ∨ ∃ c x y, ρ = .anyOf c x ∧ σ = .anyOf c y ∧ ρ.firstAlias = σ.firstAlias

theorem Alike.firstAlias_eq (h : ρ.Alike σ) : ρ.firstAlias = σ.firstAlias := by
  rcases h with rfl | ⟨c, x, y, -, -, h⟩
  · rfl
  · exact h

end Root

namespace Plan

variable {s : Scope} {segments segments' rest rest' : List String} {ρ σ : Root}

/-- The root of a path is the base, or it has an alias of its kind and the join of a table. -/
theorem RootOf.eq_base_or (h : RootOf s segments ρ rest) :
    ρ = .base s.base ∨ IsReserved ρ.firstAlias ∧ ρ.collection ∈ s.catalog.collections ∧
      ∃ j ∈ ρ.joinsAt ρ.firstAlias, j.name = ρ.firstAlias ∧
        j.source = .table ρ.collection.name := by
  have hr := ρ.isReserved_firstAlias
  cases h with
  | base => exact .inl rfl
  | anyOf hfind | auth _ _ _ _ _ hfind | submitted _ _ _ _ _ hfind =>
    exact .inr ⟨hr.resolve_left (by simp), Catalog.mem_of_find? hfind, _,
      List.mem_singleton.2 rfl, rfl, rfl⟩

theorem RootOf.kind_base_iff (hb : ¬ IsReserved (Sql.wordPart s.base.name))
    (h : RootOf s segments ρ rest) : ρ.kind = .base ↔ ¬ IsReserved ρ.firstAlias := by
  have hr := ρ.isReserved_firstAlias
  cases h with
  | base => exact ⟨fun _ => hb, fun _ => rfl⟩
  | anyOf | auth | submitted => simp [Root.kind, hr.resolve_left (by simp)]

theorem RootOf.collection_mem (h : RootOf s segments ρ rest) : ρ.collection ∈ s.collections := by
  rcases h.eq_base_or with rfl | ⟨-, hc, -⟩
  · exact List.mem_cons_self
  · exact List.mem_cons_of_mem _ hc

/-- A path that starts at any record of a collection names it, and the alias if one is chosen. -/
theorem RootOf.named {c : Collection} {chosen : Option String}
    (h : RootOf s segments (.anyOf c chosen) rest) :
    ∃ first more, segments = "@collection" :: first :: more ∧
      s.catalog.find? (collectionKey first).1 = some c ∧ chosen = (collectionKey first).2 := by
  generalize hr : Root.anyOf c chosen = ρ at h
  cases h with
  | base | auth | submitted => cases hr
  | anyOf hfind =>
    obtain ⟨rfl, hchosen⟩ := Root.anyOf.inj hr
    exact ⟨_, _, rfl, hfind, hchosen⟩

theorem RootOf.auth_eq {c d : Collection} {i j : String}
    (h : RootOf s segments (.auth c i) rest) (h' : RootOf s segments' (.auth d j) rest') :
    Root.auth c i = .auth d j := by
  cases h with
  | auth hq ha hm ho hd hc =>
    cases h' with
    | auth hq' ha' hm' ho' hd' hc' =>
      obtain rfl := Option.some.inj (hq.symm.trans hq')
      obtain rfl := Option.some.inj (ha.symm.trans ha')
      obtain rfl := Option.some.inj (hc.symm.trans hc')
      rfl

theorem RootOf.submitted_eq {c d : Collection} {key : String} {is js : List String} {m n : Bool}
    (h : RootOf s segments (.submitted c key is m) rest)
    (h' : RootOf s segments' (.submitted d key js n) rest') :
    Root.submitted c key is m = .submitted d key js n := by
  cases h with
  | submitted hq hm hi hf hr hc hn =>
    cases h' with
    | submitted hq' hm' hi' hf' hr' hc' hn' =>
      obtain rfl := Option.some.inj (hq.symm.trans hq')
      obtain rfl := Option.some.inj (hf.symm.trans hf')
      obtain rfl := Option.some.inj (hr.symm.trans hr')
      obtain rfl := Option.some.inj (hc.symm.trans hc')
      rfl

theorem RootOf.crossed?_of_submitted {c : Collection} {key : String} {is : List String} {m : Bool}
    (h : RootOf s segments (.submitted c key is m) rest) :
    (∃ f ∈ s.base.fields, f.name = key) ∧ s.crossed? s.base key = some c := by
  cases h with
  | submitted hq hm hi hf hr hc hn =>
    refine ⟨⟨_, Collection.mem_of_field? hf, Collection.name_of_field? hf⟩, ?_⟩
    simp [Scope.crossed?, hf, hr, hc]

theorem RootOf.kind_eq (hb : ¬ IsReserved (Sql.wordPart s.base.name))
    (h : RootOf s segments ρ rest) (h' : RootOf s segments' σ rest')
    (ha : ρ.firstAlias = σ.firstAlias) : ρ.kind = σ.kind :=
  Root.kind_eq_of_comparable (.inl ha) (by rw [h.kind_base_iff hb, h'.kind_base_iff hb, ha])

/-- Roots of one alias at one collection are alike, if nothing is left out of the names of submitted
keys. -/
theorem RootOf.alike (hb : ¬ IsReserved (Sql.wordPart s.base.name))
    (hkeys : ∀ f ∈ s.base.fields, Sql.wordPart f.name = f.name) (h : RootOf s segments ρ rest)
    (h' : RootOf s segments' σ rest') (ha : ρ.firstAlias = σ.firstAlias)
    (hc : ρ.collection = σ.collection) : ρ.Alike σ := by
  have hk := h.kind_eq hb h' ha
  cases ρ with
  | base c =>
    cases σ with
    | base d => exact .inl (congrArg Root.base hc)
    | anyOf | auth | submitted => cases hk
  | anyOf c x =>
    cases σ with
    | anyOf d y =>
      obtain rfl : c = d := hc
      exact .inr ⟨c, x, y, rfl, rfl, ha⟩
    | base | auth | submitted => cases hk
  | auth c i =>
    cases σ with
    | auth d j => exact .inl (h.auth_eq h')
    | base | anyOf | submitted => cases hk
  | submitted c key is m =>
    cases σ with
    | submitted d key' js n =>
      obtain rfl : c = d := hc
      obtain ⟨⟨f, hf, rfl⟩, -⟩ := h.crossed?_of_submitted
      obtain ⟨⟨g, hg, rfl⟩, -⟩ := h'.crossed?_of_submitted
      have hkey : Sql.wordPart f.name = Sql.wordPart g.name := (String.append_right_inj _).1 ha
      rw [hkeys f hf, hkeys g hg] at hkey
      rw [hkey] at h
      exact .inl (hkey ▸ h.submitted_eq h')
    | base | anyOf | auth => cases hk

end Plan

end RecordFilter
