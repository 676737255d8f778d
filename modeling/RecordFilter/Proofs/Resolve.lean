import RecordFilter.Proofs.Params
import RecordFilter.Proofs.Start

/-!
# Carrying out plans

`commit_cases` lists what carrying out a plan can come to, and `Plan.Safe` says what its bindings
may be: ids of the record that signed in, ids of submitted records, or the items submitted for a
field, each under a name of its own kind. Every path has a safe plan (`Plan.safe_ofPath`).
-/

namespace RecordFilter

open Sql (Expr Join Joins Params)

/-! ## Registered joins -/

namespace Sql.Joins

variable {js ks : Joins} {new : List Join} {j k : Join} {name : String}

theorem named?_append (h : js.named? name = some j) : named? (js ++ ks) name = some j := by
  simp only [named?] at h ⊢
  simp [List.find?_append, h]

theorem named?_register {isNew : Bool} (h : js.register j = .ok (isNew, ks))
    (hk : js.named? name = some k) : ks.named? name = some k := by
  rw [register_eq_ok h]
  split
  · exact named?_append hk
  · exact hk

theorem registerAll_cons (h : js.registerAll (j :: new) = .ok ks) :
    ∃ isNew mid, js.register j = .ok (isNew, mid) ∧ mid.registerAll new = .ok ks := by
  unfold registerAll at h
  split at h
  · next isNew mid hm => exact ⟨isNew, mid, hm, h⟩
  · cases h

theorem named?_registerAll (h : js.registerAll new = .ok ks) (hk : js.named? name = some k) :
    ks.named? name = some k := by
  induction new generalizing js with
  | nil => cases h; exact hk
  | cons j new ih =>
    obtain ⟨isNew, mid, hm, h⟩ := registerAll_cons h
    exact ih h (named?_register hm hk)

theorem alike_of_register {isNew : Bool} (h : js.register j = .ok (isNew, ks)) :
    ∃ k, ks.named? j.name = some k ∧ k.alike j = true := by
  unfold register at h
  split at h
  · next hn =>
    cases h
    refine ⟨j, ?_, j.alike_refl⟩
    simp only [named?] at hn ⊢
    simp [List.find?_append, hn]
  · next k hk =>
    split at h
    · next ha => cases h; exact ⟨k, hk, ha⟩
    · cases h

/-- Every join that was registered is found under its alias, as it is written. -/
theorem alike_of_registerAll (h : js.registerAll new = .ok ks) (hj : j ∈ new) :
    ∃ k, ks.named? j.name = some k ∧ k.alike j = true := by
  induction new generalizing js with
  | nil => cases hj
  | cons i new ih =>
    obtain ⟨isNew, mid, hm, hr⟩ := registerAll_cons h
    rcases List.mem_cons.1 hj with rfl | hj
    · obtain ⟨k, hk, ha⟩ := alike_of_register hm
      exact ⟨k, named?_registerAll hr hk, ha⟩
    · exact ih hr hj

theorem prefix_register {isNew : Bool} (h : js.register j = .ok (isNew, ks)) : js <+: ks := by
  rw [register_eq_ok h]
  split
  · exact List.prefix_append _ _
  · exact List.prefix_rfl

theorem prefix_registerAll (h : js.registerAll new = .ok ks) : js <+: ks := by
  induction new generalizing js with
  | nil => cases h; exact List.prefix_rfl
  | cons j new ih =>
    obtain ⟨isNew, mid, hm, h⟩ := registerAll_cons h
    exact (prefix_register hm).trans (ih h)

theorem nodup_registerAll (hn : (js.map Join.name).Nodup) (h : js.registerAll new = .ok ks) :
    (ks.map Join.name).Nodup := by
  induction new generalizing js with
  | nil => cases h; exact hn
  | cons j new ih =>
    obtain ⟨isNew, mid, hm, h⟩ := registerAll_cons h
    exact ih (nodup_register hn hm) h

/-- Only what is registered gets an alias. -/
theorem mem_of_registerAll (h : js.registerAll new = .ok ks) (hj : j ∈ ks) : j ∈ js ∨ j ∈ new := by
  induction new generalizing js with
  | nil => cases h; exact .inl hj
  | cons i new ih =>
    obtain ⟨isNew, mid, hm, h⟩ := registerAll_cons h
    rcases ih h with hj | hj
    · rw [register_eq_ok hm] at hj
      split at hj
      · rcases List.mem_append.1 hj with hj | hj
        · exact .inl hj
        · exact .inr (List.mem_singleton.1 hj ▸ List.mem_cons_self)
      · exact .inl hj
    · exact .inr (List.mem_cons_of_mem _ hj)

/-- Joins that are registered as they are written register again and change nothing. -/
theorem registerAll_of_registered
    (h : ∀ j ∈ new, ∃ k, js.named? j.name = some k ∧ k.alike j = true) :
    js.registerAll new = .ok js := by
  induction new with
  | nil => rfl
  | cons j new ih =>
    obtain ⟨⟨k, hk, ha⟩, hrest⟩ := List.forall_mem_cons.1 h
    have hj : js.register j = .ok (false, js) := by simp [register, hk, ha]
    rw [registerAll, hj]
    exact ih hrest

theorem registerAll_singleton (hk : js.named? j.name = some k) (ha : k.alike j = true) :
    js.registerAll [j] = .ok js :=
  registerAll_of_registered (List.forall_mem_singleton.2 ⟨k, hk, ha⟩)

end Sql.Joins

/-! ## Committing -/

namespace Resolver

/-- What carrying out a plan comes to: it fails and drops what it added, or it succeeds with the
joins registered, with its own value or with one bound under a fresh name. -/
theorem commit_cases (r : Resolver) (p : Plan) :
    (∃ e, r.commit p = (.error e, r.discard (setAll r.params p.bindings)) ∧
      ((∃ name, e = .ambiguousAlias name ∧ r.joins.registerAll p.joins = .error name) ∨
        p.outcome = .error e)) ∨
    (∃ joins res, r.joins.registerAll p.joins = .ok joins ∧ p.outcome = .ok (.fixed res) ∧
      r.commit p = (.ok res, { r with joins, params := setAll r.params p.bindings })) ∨
    (∃ joins v lower, r.joins.registerAll p.joins = .ok joins ∧
      p.outcome = .ok (.bound v lower) ∧
      r.commit p = (.ok (boundResolution ((setAll r.params p.bindings).bind v).1 lower),
        { r with joins, params := ((setAll r.params p.bindings).bind v).2 })) := by
  unfold commit
  cases hj : r.joins.registerAll p.joins with
  | error name => exact .inl ⟨_, rfl, .inl ⟨name, rfl, rfl⟩⟩
  | ok joins =>
    cases ho : p.outcome with
    | error e => exact .inl ⟨e, rfl, .inr rfl⟩
    | ok o =>
      cases o with
      | fixed res => exact .inr (.inl ⟨joins, res, rfl, rfl, rfl⟩)
      | bound v lower => exact .inr (.inr ⟨joins, v, lower, rfl, rfl, rfl⟩)

theorem error_of_commit {r : Resolver} {p : Plan} {e : PathError}
    (h : (r.commit p).1 = .error e) :
    (∃ name, e = .ambiguousAlias name ∧ r.joins.registerAll p.joins = .error name) ∨
      p.outcome = .error e := by
  rcases commit_cases r p with ⟨e', hc, hf⟩ | ⟨joins, res, -, -, hc⟩ | ⟨joins, v, lower, -, -, hc⟩
  · rw [hc] at h
    cases h
    exact hf
  · rw [hc] at h; cases h
  · rw [hc] at h; cases h

/-- A path is refused as it is written, or its plan is carried out. -/
theorem resolve_cases (r : Resolver) (path : String) :
    ((∃ e, r.resolve path = (.error e, r)) ∧
        ¬ (Path.isWellFormed path = true ∧ r.allowed.admits path = true)) ∨
      (Path.isWellFormed path = true ∧ r.allowed.admits path = true ∧
        r.resolve path = r.commit (Plan.ofPath r.scope path)) := by
  unfold resolve
  cases hw : Path.isWellFormed path with
  | false => exact .inl ⟨⟨_, rfl⟩, by simp⟩
  | true =>
    cases ha : r.allowed.admits path with
    | false => exact .inl ⟨⟨_, rfl⟩, by simp⟩
    | true => exact .inr ⟨rfl, rfl, rfl⟩

/-- What resolving comes to: it fails with the joins as they were, and with the parameters as they
were or cut back to their number, or it succeeds with the joins of the plan registered. -/
theorem resolve_outcomes (r : Resolver) (path : String) :
    (∃ e ps, r.resolve path = (.error e, { r with params := ps }) ∧
      (ps = r.params ∨
        ps = (setAll r.params (Plan.ofPath r.scope path).bindings).rollback r.params.mark)) ∨
    (∃ joins res, r.joins.registerAll (Plan.ofPath r.scope path).joins = .ok joins ∧
      (Plan.ofPath r.scope path).outcome = .ok (.fixed res) ∧
      r.resolve path = (.ok res,
        { r with joins, params := setAll r.params (Plan.ofPath r.scope path).bindings })) ∨
    (∃ joins v lower, r.joins.registerAll (Plan.ofPath r.scope path).joins = .ok joins ∧
      (Plan.ofPath r.scope path).outcome = .ok (.bound v lower) ∧
      r.resolve path = (.ok (boundResolution
          ((setAll r.params (Plan.ofPath r.scope path).bindings).bind v).1 lower),
        { r with
          joins
          params := ((setAll r.params (Plan.ofPath r.scope path).bindings).bind v).2 })) := by
  rcases resolve_cases r path with ⟨⟨e, he⟩, -⟩ | ⟨-, -, hr⟩
  · exact .inl ⟨e, r.params, he, .inl rfl⟩
  · rw [hr]
    rcases commit_cases r (Plan.ofPath r.scope path) with ⟨e, hc, -⟩ | h
    · exact .inl ⟨e, _, hc, .inr rfl⟩
    · exact .inr h

end Resolver

/-! ## Names of parameters -/

namespace Root

/-- The parameter of the record that signed in, in a collection. -/
def authName (c : Collection) : String := authParam (Root.auth c "").firstAlias

/-- The alias under which the items submitted for a key are joined. -/
def itemsName (key : String) : String := itemsAlias ("__dataEach_" ++ Sql.wordPart key)

section Prefix

variable {c : Collection} {n : Nat}

theorem take_append {a b : String} (h : n ≤ a.length) :
    (a ++ b).toList.take n = a.toList.take n := by
  rw [String.toList_append]
  exact List.take_append_of_le_length h

theorem take_authName (h : n ≤ 7) : (authName c).toList.take n = "__auth_".toList.take n := by
  unfold authName authParam firstAlias
  rw [String.append_assoc]
  exact take_append h

theorem take_submittedParam {key : String} {ids : List String} {multiple : Bool} {i : Nat}
    (h : n ≤ 7) :
    (submittedParam (Root.submitted c key ids multiple).firstAlias i).toList.take n =
      "__data_".toList.take n := by
  unfold submittedParam firstAlias
  simp only [String.append_assoc]
  exact take_append h

theorem take_itemsParam (key : String) (h : n ≤ 11) :
    (Plan.itemsParam (itemsName key)).toList.take n = "__dataEach_".toList.take n := by
  unfold Plan.itemsParam itemsName itemsAlias
  simp only [String.append_assoc]
  exact take_append h

theorem ne_of_take {a b : String} (n : Nat) (h : a.toList.take n ≠ b.toList.take n) : a ≠ b := by
  rintro rfl
  exact h rfl

theorem authName_ne_generated (i : Nat) : authName c ≠ Params.generated i := by
  apply ne_of_take 1
  rw [take_authName (by decide)]
  simp [Params.generated]

theorem itemsParam_ne_generated {key : String} (i : Nat) :
    Plan.itemsParam (itemsName key) ≠ Params.generated i := by
  apply ne_of_take 1
  rw [take_itemsParam key (by decide)]
  simp [Params.generated]

theorem authName_ne_submittedParam {d : Collection} {key : String} {ids : List String}
    {multiple : Bool} {i : Nat} :
    authName c ≠ submittedParam (Root.submitted d key ids multiple).firstAlias i := by
  apply ne_of_take 7
  rw [take_authName (by decide), take_submittedParam (by decide)]
  decide

theorem itemsParam_ne_submittedParam {key k : String} {ids : List String} {multiple : Bool}
    {i : Nat} :
    Plan.itemsParam (itemsName k) ≠
      submittedParam (Root.submitted c key ids multiple).firstAlias i := by
  apply ne_of_take 7
  rw [take_itemsParam k (by decide), take_submittedParam (by decide)]
  decide

theorem authName_ne_itemsParam {key : String} :
    authName c ≠ Plan.itemsParam (itemsName key) := by
  apply ne_of_take 7
  rw [take_authName (by decide), take_itemsParam key (by decide)]
  decide

end Prefix

/-- A number at the end of a name is told apart from what it numbers. -/
theorem submittedParam_inj {a b : String} {i j : Nat}
    (h : submittedParam a i = submittedParam b j) : a = b ∧ i = j := by
  have digits (n : Nat) : '_' ∉ (Nat.toDigits 10 n).reverse := by
    intro hm
    exact absurd (Nat.isDigit_of_mem_toDigits (by decide) (by decide) (List.mem_reverse.1 hm))
      (by decide)
  have hr : (Nat.toDigits 10 i).reverse ++ '_' :: '_' :: a.toList.reverse =
      (Nat.toDigits 10 j).reverse ++ '_' :: '_' :: b.toList.reverse := by
    simpa [submittedParam] using congrArg (fun t : String => t.toList.reverse) h
  have hp := congrArg (Text.pieces '_') hr
  rw [Text.pieces_append (digits i), Text.pieces_append (digits j)] at hp
  have hd := (List.cons.inj hp).1
  rw [hd] at hr
  have hn := List.append_cancel_left hr
  simp only [List.cons.injEq, true_and] at hn
  exact ⟨String.toList_injective (List.reverse_injective hn),
    Params.toDigits_injective (List.reverse_injective hd)⟩

theorem itemsName_of_itemsParam {k l : String}
    (h : Plan.itemsParam (itemsName k) = Plan.itemsParam (itemsName l)) :
    itemsName k = itemsName l := by
  have := congrArg String.toList h
  simp only [Plan.itemsParam, String.toList_append] at this
  exact String.toList_injective (List.append_cancel_right this)

theorem nodup_bindings (root : Root) : (root.bindings.map Prod.fst).Nodup := by
  cases root with
  | base | anyOf => simp [bindings]
  | auth => simp [bindings]
  | submitted c key ids multiple =>
    rw [List.Nodup, List.pairwise_iff_getElem]
    intro i j hi hj hlt h
    simp only [bindings, List.getElem_map, List.getElem_mapIdx] at h
    exact absurd (submittedParam_inj h).2 (Nat.ne_of_lt hlt)

/-- A root binds no parameter for the items of a field. -/
theorem itemsParam_notMem_bindings (root : Root) (key : String) :
    Plan.itemsParam (itemsName key) ∉ root.bindings.map Prod.fst := by
  cases root with
  | base | anyOf => simp [bindings]
  | auth c id =>
    intro h
    exact authName_ne_itemsParam (c := c) (List.mem_singleton.1 h).symm
  | submitted c k ids multiple =>
    intro h
    obtain ⟨b, hb, hk⟩ := List.mem_map.1 h
    obtain ⟨i, hi, rfl⟩ := List.mem_mapIdx.1 hb
    exact itemsParam_ne_submittedParam hk.symm

end Root

/-! ## Safe plans -/

/-- What a plan may bind: under the name for the record that signed in only its id, and under the
name for the items of a field only where their join is registered too. -/
structure Plan.Safe (s : Scope) (p : Plan) : Prop where
  nodup : (p.bindings.map Prod.fst).Nodup
  auth : ∀ request a, s.request = some request → request.auth = some a →
    ∀ c v, (Root.authName c, v) ∈ p.bindings → v = .text a.id
  items : ∀ key v, (itemsParam (Root.itemsName key), v) ∈ p.bindings →
    itemsJoin (.param (itemsParam (Root.itemsName key))) (Root.itemsName key) ∈ p.joins

namespace Plan

variable {s : Scope} {path : String} {segments : List String}

theorem safe_of_bindings_nil {p : Plan} (h : p.bindings = []) : Safe s p where
  nodup := by simp [h]
  auth := by simp [h]
  items := by simp [h]

theorem safe_below {root : Root} {rest : List String} (h : RootOf s segments root rest) :
    Safe s (below s path root rest) where
  nodup := by rw [bindings_below]; exact root.nodup_bindings
  auth := by
    intro request a hq ha c v hv
    rw [bindings_below] at hv
    cases h with
    | base | anyOf => cases hv
    | auth hq' ha' hm ho hd hc =>
      obtain rfl : request = _ := Option.some.inj (hq.symm.trans hq')
      obtain rfl : a = _ := Option.some.inj (ha.symm.trans ha')
      exact congrArg Prod.snd (List.mem_singleton.1 hv)
    | submitted =>
      obtain ⟨i, hi, h⟩ := List.mem_mapIdx.1 hv
      exact absurd (congrArg Prod.fst h).symm Root.authName_ne_submittedParam
  items := by
    intro key v hv
    rw [bindings_below] at hv
    exact absurd (List.mem_map_of_mem hv) (root.itemsParam_notMem_bindings key)

theorem safe_submittedItems (request : Request) (key : String) (f : Field) :
    Safe s (submittedItems s request key f) where
  nodup := by simp [submittedItems]
  auth := by
    intro q a hq ha c v hv
    have hn := congrArg Prod.fst (List.mem_singleton.1 hv)
    exact absurd hn Root.authName_ne_itemsParam
  items := by
    intro k v hv
    have hn : itemsParam (Root.itemsName k) = itemsParam (Root.itemsName key) :=
      congrArg Prod.fst (List.mem_singleton.1 hv)
    rw [Root.itemsName_of_itemsParam hn]
    exact List.mem_singleton.2 rfl

theorem safe_of_kind {p : Plan} (h : Kind s path segments p) : Safe s p := by
  cases h with
  | fail | constant | bound => exact safe_of_bindings_nil rfl
  | below h => exact safe_below h
  | items => exact safe_submittedItems _ _ _

theorem safe_ofPath (s : Scope) (path : String) : Safe s (ofPath s path) :=
  safe_of_kind (kind_ofPath s path)

end Plan

end RecordFilter
