import Mathlib.Logic.Relation
import RecordFilter.Proofs.Patterns
import RecordFilter.Proofs.Resolve

/-!
# Reachable resolvers

Building resolves paths, binds literals and makes patterns of bound values, and does nothing else
to a resolver: `Builder.steps_build` takes it apart into `Step`s. `Consistent` is what every step
preserves, so it holds of every resolver that is `Reachable`.
-/

namespace RecordFilter

open Relation (ReflTransGen)
open Sql (Params)

namespace Resolver

/-! ## Steps -/

/-- The names whose values a comparison may change: generated ones and those of submitted
items. -/
def IsValueName (name : String) : Prop :=
  (∃ n, name = Params.generated n) ∨ ∃ key, name = Plan.itemsParam (Root.itemsName key)

inductive Step : Resolver → Resolver → Prop
  | path (r : Resolver) (path : String) : Step r (r.resolve path).2
  | literal (r : Resolver) (v : Json) : Step r (r.bind v).2
  | pattern (r : Resolver) {name : String} (h : IsValueName name) :
      Step r { r with params := patternParam r.params name }

abbrev Steps : Resolver → Resolver → Prop := ReflTransGen Step

/-- Only value names are handed out as the parameters of what a path resolves to. -/
theorem isValueName_of_resolve {r : Resolver} {path : String} {res : Resolution}
    (h : (r.resolve path).1 = .ok res) : ∀ name ∈ res.params, IsValueName name := by
  rcases resolve_cases r path with ⟨⟨e, he⟩, -⟩ | ⟨-, -, hr⟩
  · rw [he] at h; cases h
  · rw [hr] at h
    rcases commit_cases r (Plan.ofPath r.scope path) with
      ⟨e, hc, -⟩ | ⟨joins, res', -, ho, hc⟩ | ⟨joins, v, lower, -, -, hc⟩
    · rw [hc] at h; cases h
    · rw [hc] at h
      cases h
      have hk := Plan.kind_ofPath r.scope path
      generalize Plan.ofPath r.scope path = p at hk ho
      cases hk with
      | fail => cases ho
      | constant => cases ho; simp
      | bound => cases ho
      | below hs =>
        obtain ⟨route, extra, outcome, -, hp, hf⟩ := Plan.below_laid r.scope path _ _
        rw [hp] at ho
        obtain ⟨res', he, hn⟩ := hf _ ho
        cases he
        simp [hn]
      | @items request key =>
        cases ho
        intro name hn
        exact .inr ⟨key, List.mem_singleton.1 hn⟩
    · rw [hc] at h
      cases h
      intro name hn
      exact .inl ⟨_, List.mem_singleton.1 hn⟩

/-- A property that a resolver keeps while a filter is built. -/
structure IsKept (P : Resolver → Prop) : Prop where
  path {r : Resolver} (path : String) (h : P r) : P (r.resolve path).2
  text {r : Resolver} (s : String) (h : P r) : P (r.bind (.text s)).2
  number {r : Resolver} (x : Number.Binary64) (h : P r) : P (r.bind x.toJson).2
  pattern {r : Resolver} {name : String} (hn : IsValueName name) (h : P r) :
    P { r with params := patternParam r.params name }

theorem isKept_steps (r : Resolver) : IsKept (Steps r) where
  path path h := h.tail (.path _ path)
  text s h := h.tail (.literal _ (.text s))
  number x h := h.tail (.literal _ x.toJson)
  pattern hn h := h.tail (.pattern _ hn)

theorem IsKept.patterns {P : Resolver → Prop} (hP : IsKept P) {r : Resolver}
    (names : List String) (hn : ∀ name ∈ names, IsValueName name) (h : P r) :
    P { r with params := names.foldl patternParam r.params } := by
  induction names generalizing r with
  | nil => exact h
  | cons name names ih =>
    rw [List.forall_mem_cons] at hn
    exact ih hn.2 (hP.pattern hn.1 h)

end Resolver

namespace Builder

open Resolver (Step Steps IsValueName IsKept)

/-! ## Building step by step -/

/-- The right side inside a guard has the parameters of the right side, or none. -/
theorem params_of_guardOf {n : Nat} {left right insideLeft insideRight : Resolution}
    {guardWith : Sql.Test → Sql.Guard}
    (h : guardOf n left right = some (insideLeft, insideRight, guardWith)) :
    insideRight.params ⊆ right.params := by
  unfold guardOf at h
  simp only at h
  split at h <;> cases h
  · exact List.nil_subset _
  · exact List.Subset.refl _
  · exact List.nil_subset _

theorem isValueName_operand (b : Builder) (o : Operand) {res : Resolution}
    (h : (b.operand o).1 = .ok res) : ∀ name ∈ res.params, IsValueName name := by
  cases o with
  | field path =>
    have hn := @Resolver.isValueName_of_resolve b.resolver path
    unfold operand at h
    simp only at h
    split at h
    · next res r hr =>
      cases h
      exact hn (by rw [hr])
    · cases h
  | text | number =>
    cases h
    intro name hn
    exact .inl ⟨_, List.mem_singleton.1 hn⟩
  | bool | null =>
    cases h
    simp

section Kept

variable {P : Resolver → Prop} (hP : IsKept P)
include hP

theorem kept_operand (b : Builder) (o : Operand) (h : P b.resolver) :
    P (b.operand o).2.resolver := by
  cases o with
  | field path =>
    have hr := hP.path path h
    unfold operand
    simp only
    split
    · next h => rwa [h] at hr
    · next h => rwa [h] at hr
  | text s => exact hP.text s h
  | number x => exact hP.number x h
  | bool | null => exact h

theorem kept_compare (b : Builder) (op : Operator) (left right : Resolution)
    (hn : ∀ name ∈ right.params, IsValueName name) (h : P b.resolver) :
    P (b.compare op left right).2.resolver := by
  have hs := hP.patterns right.params hn h
  cases op <;> first | exact hs | exact h

theorem kept_comparison (b : Builder) (left : Resolution) (c : Comparator) (right : Resolution)
    (hn : ∀ name ∈ right.params, IsValueName name) (h : P b.resolver) :
    P (b.comparison left c right).2.resolver := by
  have hs := kept_compare hP b c.operator left right hn h
  unfold comparison
  simp only
  split
  · next insideLeft insideRight guardWith ha hg =>
    exact kept_compare hP _ c.operator insideLeft insideRight
      (fun name hm => hn name (params_of_guardOf hg hm)) hs
  · exact hs

end Kept

mutual

/-- Whatever comes of it, building keeps what resolving, binding and making patterns keep. -/
theorem kept_build {P : Resolver → Prop} (hP : IsKept P) (b : Builder) (h : P b.resolver) :
    (f : Filter) → P (b.build f).2.resolver
  | .comparison left c right => by
    have hl := kept_operand hP b left h
    unfold build
    split
    · next h => rwa [h] at hl
    · next l bl h =>
      rw [h] at hl
      have hr := kept_operand hP bl right hl
      have hn := fun res => @isValueName_operand bl right res
      split
      · next h => rwa [h] at hr
      · next res br h =>
        rw [h] at hr hn
        exact kept_comparison hP br l c res (hn res rfl) hr
  | .group connective items => by
    have hs := kept_buildAll hP b h items
    unfold build
    split
    · next h => rwa [h] at hs
    · next h => rwa [h] at hs

theorem kept_buildAll {P : Resolver → Prop} (hP : IsKept P) (b : Builder) (h : P b.resolver) :
    (fs : List Filter) → P (b.buildAll fs).2.resolver
  | [] => h
  | f :: fs => by
    have hf := kept_build hP b h f
    unfold buildAll
    split
    · next h => rwa [h] at hf
    · next c bf h =>
      rw [h] at hf
      have hs := kept_buildAll hP bf hf fs
      split
      · next h => rwa [h] at hs
      · next h => rwa [h] at hs

end

theorem steps_operand (b : Builder) (o : Operand) :
    Steps b.resolver (b.operand o).2.resolver ∧
      ∀ res, (b.operand o).1 = .ok res → ∀ name ∈ res.params, IsValueName name :=
  ⟨kept_operand (Resolver.isKept_steps b.resolver) b o .refl,
    fun _ h => isValueName_operand b o h⟩

theorem steps_comparison (b : Builder) (left : Resolution) (c : Comparator) (right : Resolution)
    (h : ∀ name ∈ right.params, IsValueName name) :
    Steps b.resolver (b.comparison left c right).2.resolver :=
  kept_comparison (Resolver.isKept_steps b.resolver) b left c right h .refl

/-- Whatever comes of it, building takes a resolver through steps. -/
theorem steps_build (b : Builder) (f : Filter) : Steps b.resolver (b.build f).2.resolver :=
  kept_build (Resolver.isKept_steps b.resolver) b .refl f

theorem steps_buildAll (b : Builder) (fs : List Filter) :
    Steps b.resolver (b.buildAll fs).2.resolver :=
  kept_buildAll (Resolver.isKept_steps b.resolver) b .refl fs

end Builder

/-! ## What steps preserve -/

namespace Resolver

theorem nodup_commit {r : Resolver} (p : Plan) (h : r.params.names.Nodup) :
    (r.commit p).2.params.names.Nodup := by
  rcases commit_cases r p with ⟨e, hc, -⟩ | ⟨joins, res, -, -, hc⟩ | ⟨joins, v, lower, -, -, hc⟩
  · rw [hc]
    show (Params.rollback _ _).names.Nodup
    rw [names_rollback_setAll]
    exact h
  · rw [hc]; exact nodup_setAll h
  · rw [hc]; exact Params.nodup_bind (nodup_setAll h)

theorem nodup_steps {r r' : Resolver} (hs : Steps r r') (h : r.params.names.Nodup) :
    r'.params.names.Nodup := by
  induction hs with
  | refl => exact h
  | tail _ hs ih =>
    cases hs with
    | path path =>
      rcases resolve_cases _ path with ⟨⟨e, he⟩, -⟩ | ⟨-, -, hr⟩
      · rw [he]; exact ih
      · rw [hr]; exact nodup_commit _ ih
    | literal v => exact Params.nodup_bind ih
    | @pattern name _ =>
      show (patternParam _ name).names.Nodup
      rw [Params.names_patternParam]
      exact ih

theorem names_step {r r' : Resolver} (h : Step r r') : r.params.names ⊆ r'.params.names := by
  cases h with
  | path path =>
    rcases resolve_outcomes r path with ⟨e, ps, hr, rfl | rfl⟩ | ⟨joins, res, -, -, hr⟩ |
      ⟨joins, v, lower, -, -, hr⟩
    · rw [hr]; exact List.Subset.refl _
    · rw [hr]
      show _ ⊆ (Params.rollback _ _).names
      rw [names_rollback_setAll]
      exact List.Subset.refl _
    · rw [hr]; exact subset_names_setAll _ _
    · rw [hr]
      show _ ⊆ (Params.bind _ _).2.names
      rw [Params.names_bind]
      exact List.subset_append_of_subset_left _ (subset_names_setAll _ _)
  | literal v =>
    show _ ⊆ (Params.bind _ _).2.names
    rw [Params.names_bind]
    exact List.subset_append_left _ _
  | pattern =>
    show _ ⊆ (patternParam _ _).names
    rw [Params.names_patternParam]
    exact List.Subset.refl _

theorem names_steps {r r' : Resolver} (h : Steps r r') : r.params.names ⊆ r'.params.names := by
  induction h with
  | refl => exact List.Subset.refl _
  | tail _ h ih => exact List.Subset.trans ih (names_step h)

/-- Resolving changes neither what paths are resolved against nor which of them may be used. -/
theorem scope_resolve (r : Resolver) (path : String) : (r.resolve path).2.scope = r.scope := by
  rcases resolve_outcomes r path with ⟨e, ps, he, -⟩ | ⟨joins, res, -, -, he⟩ |
    ⟨joins, v, lower, -, -, he⟩ <;> rw [he]

theorem allowed_resolve (r : Resolver) (path : String) :
    (r.resolve path).2.allowed = r.allowed := by
  rcases resolve_outcomes r path with ⟨e, ps, he, -⟩ | ⟨joins, res, -, -, he⟩ |
    ⟨joins, v, lower, -, -, he⟩ <;> rw [he]

theorem scope_steps {r r' : Resolver} (h : Steps r r') : r'.scope = r.scope := by
  induction h with
  | refl => rfl
  | tail _ hs ih =>
    cases hs with
    | path path => rw [scope_resolve, ih]
    | literal | pattern => exact ih

theorem allowed_steps {r r' : Resolver} (h : Steps r r') : r'.allowed = r.allowed := by
  induction h with
  | refl => rfl
  | tail _ hs ih =>
    cases hs with
    | path path => rw [allowed_resolve, ih]
    | literal | pattern => exact ih

/-- The name for the record that signed in has its id, and the name for submitted items is bound
only once their join is registered. -/
structure Consistent (s : Scope) (r : Resolver) : Prop where
  scope : r.scope = s
  auth : ∀ request a, s.request = some request → request.auth = some a →
    ∀ c v, r.params.find? (Root.authName c) = some v → v = .text a.id
  items : ∀ key, Plan.itemsParam (Root.itemsName key) ∈ r.params.names →
    ∃ k, r.joins.named? (Root.itemsName key) = some k ∧
      k.alike (itemsJoin (.param (Plan.itemsParam (Root.itemsName key)))
        (Root.itemsName key)) = true

namespace Consistent

variable {s : Scope} {allowed : AllowedPaths} {r : Resolver} {p : Plan}

theorem fresh (s : Scope) (allowed : AllowedPaths) :
    Consistent s { scope := s, allowed := allowed } where
  scope := rfl
  auth := by rintro _ _ _ _ _ _ ⟨⟩
  items := by rintro _ ⟨⟩

theorem bind (h : Consistent s r) (v : Json) : Consistent s (r.bind v).2 where
  scope := h.scope
  auth := by
    intro request a hq ha c w hw
    have hne := Root.authName_ne_generated (c := c) r.params.nextNumber
    have hf : (r.bind v).2.params.find? (Root.authName c) = r.params.find? (Root.authName c) := by
      show (r.params.bind v).2.find? _ = _
      rw [Params.find?_bind, if_neg hne]
    exact h.auth request a hq ha c w (hf ▸ hw)
  items := by
    intro key hk
    have hn : (r.bind v).2.params.names = r.params.names ++ [(r.params.bind v).1] :=
      Params.names_bind r.params v
    rw [hn, Params.fst_bind, List.mem_append, List.mem_singleton] at hk
    exact h.items key (hk.resolve_right (Root.itemsParam_ne_generated _))

/-- A bound value that is changed is neither the id of the record that signed in nor new. -/
theorem pattern (h : Consistent s r) {name : String} (hn : IsValueName name) :
    Consistent s { r with params := patternParam r.params name } where
  scope := h.scope
  auth := by
    intro request a hq ha c v hv
    have hne : Root.authName c ≠ name := by
      rcases hn with ⟨n, rfl⟩ | ⟨key, rfl⟩
      · exact Root.authName_ne_generated n
      · exact Root.authName_ne_itemsParam
    exact h.auth request a hq ha c v (Params.find?_patternParam_of_ne hne ▸ hv)
  items := by
    intro key hk
    exact h.items key (Params.names_patternParam r.params name ▸ hk)

/-- The value that a safe plan leaves under the name for the record that signed in is its id. -/
theorem auth_of_safe (h : Consistent s r) (hp : Plan.Safe s p) {request : Request}
    {a : AuthRecord} (hq : s.request = some request) (ha : request.auth = some a)
    {c : Collection} {v : Json}
    (hv : (Json.find? (Root.authName c) p.bindings).or
      (r.params.find? (Root.authName c)) = some v) : v = .text a.id := by
  rcases Option.or_eq_some_iff.1 hv with hb | ⟨-, hf⟩
  · exact hp.auth request a hq ha c v (Json.mem_of_find? hb)
  · exact h.auth request a hq ha c v hf

theorem setAll (h : Consistent s r) (hp : Plan.Safe s p) {joins : Sql.Joins}
    (hj : r.joins.registerAll p.joins = .ok joins) :
    Consistent s { r with joins := joins, params := Resolver.setAll r.params p.bindings } where
  scope := h.scope
  auth := by
    intro request a hq ha c v hv
    have hf : (Resolver.setAll r.params p.bindings).find? (Root.authName c) =
        (Json.find? (Root.authName c) p.bindings).or (r.params.find? (Root.authName c)) :=
      find?_setAll hp.nodup
    exact h.auth_of_safe hp hq ha (hf ▸ hv)
  items := by
    intro key hk
    obtain ⟨new, hn, hm⟩ := names_setAll r.params p.bindings
    show ∃ k, joins.named? _ = some k ∧ _
    rcases List.mem_append.1 (hn ▸ hk) with hk | hk
    · obtain ⟨k, hk, ha⟩ := h.items key hk
      exact ⟨k, Sql.Joins.named?_registerAll hj hk, ha⟩
    · obtain ⟨b, hb, hb'⟩ := List.mem_map.1 (hm _ hk)
      have hmem : (Plan.itemsParam (Root.itemsName key), b.2) ∈ p.bindings := by
        rw [← hb']; exact hb
      exact Sql.Joins.alike_of_registerAll hj (hp.items key b.2 hmem)

theorem discard (h : Consistent s r) (hp : Plan.Safe s p) :
    Consistent s (r.discard (Resolver.setAll r.params p.bindings)) := by
  have hn := names_rollback_setAll r.params p.bindings
  exact {
    scope := h.scope
    auth := by
      intro request a hq ha c v hv
      have hk : Root.authName c ∈ r.params.names := hn ▸ Params.mem_names_of_find? hv
      have hf := find?_rollback_setAll hp.nodup hk
      exact h.auth_of_safe hp hq ha (hf ▸ hv)
    items := by
      intro key hk
      exact h.items key (hn ▸ hk) }

theorem commit (h : Consistent s r) (hp : Plan.Safe s p) : Consistent s (r.commit p).2 := by
  rcases commit_cases r p with ⟨e, hc, -⟩ | ⟨joins, res, hj, -, hc⟩ | ⟨joins, v, lower, hj, -, hc⟩
  · rw [hc]; exact h.discard hp
  · rw [hc]; exact h.setAll hp hj
  · rw [hc]; exact (h.setAll hp hj).bind v

theorem step {r' : Resolver} (h : Consistent s r) (hs : Step r r') : Consistent s r' := by
  cases hs with
  | path path =>
    rcases resolve_cases r path with ⟨⟨e, he⟩, -⟩ | ⟨-, -, hr⟩
    · rw [he]; exact h
    · rw [hr, h.scope]; exact h.commit (Plan.safe_ofPath s path)
  | literal v => exact h.bind v
  | pattern hn => exact h.pattern hn

theorem steps {r' : Resolver} (h : Consistent s r) (hs : Steps r r') : Consistent s r' := by
  induction hs with
  | refl => exact h
  | tail _ hs ih => exact ih.step hs

end Consistent

/-! ## Reachable resolvers -/

/-- The resolvers that a fresh one becomes when it resolves paths and has filters built. -/
inductive Reachable (s : Scope) (allowed : AllowedPaths) : Resolver → Prop
  | fresh : Reachable s allowed { scope := s, allowed := allowed }
  | resolve {r : Resolver} (h : Reachable s allowed r) (path : String) :
      Reachable s allowed (r.resolve path).2
  | build {r : Resolver} (h : Reachable s allowed r) (f : Filter) :
      Reachable s allowed (f.condition r).2

namespace Reachable

variable {s : Scope} {allowed : AllowedPaths} {r : Resolver}

theorem kept {P : Resolver → Prop} (hP : IsKept P) (h : Reachable s allowed r)
    (hs : P { scope := s, allowed := allowed }) : P r := by
  induction h with
  | fresh => exact hs
  | resolve _ path ih => exact hP.path path ih
  | build _ f ih => exact Builder.kept_build hP _ ih f

theorem steps (h : Reachable s allowed r) : Steps { scope := s, allowed := allowed } r :=
  h.kept (isKept_steps _) .refl

theorem consistent (h : Reachable s allowed r) : Consistent s r :=
  (Consistent.fresh s allowed).steps h.steps

theorem nodup_names (h : Reachable s allowed r) : r.params.names.Nodup :=
  nodup_steps h.steps List.nodup_nil

end Reachable

end Resolver

end RecordFilter
