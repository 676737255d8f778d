import RecordFilter.Proofs.Crossings
import RecordFilter.Proofs.Hidden
import RecordFilter.Proofs.Marks

/-!
# Which comparisons are guarded

A path stands for several values of one record because of where it starts or of what it crosses
below: `Plan.SeveralAt` says so in terms of the catalog and the segments of the path. A strict
comparison has a guard if and only if one of its sides is such a path
(`Builder.build_guarded_iff`).
-/

namespace RecordFilter

open Sql (Condition HasGuard)

namespace Plan

variable {s : Scope} {path : String} {root : Root} {r : Route} {rest segments : List String}
  {res : Resolution}

/-! ## Paths that ask for presence -/

def AsksIfSet (segments : List String) : Prop :=
  ∃ last name, segments.getLast? = some last ∧ splitModifier last = .ok (name, some .isset)

theorem asksIfSet_suffix (h : rest <:+ segments) (hne : rest ≠ []) :
    AsksIfSet segments ↔ AsksIfSet rest := by
  obtain ⟨before, rfl⟩ := h
  unfold AsksIfSet
  rw [List.getLast?_append_of_ne_nil _ hne]

theorem asksIfSet_singleton {last : String} :
    AsksIfSet [last] ↔ ∃ name, splitModifier last = .ok (name, some .isset) := by
  simp [AsksIfSet]

theorem not_asksIfSet_belowJson {f : Field} (h : belowJson s path r f segments = .ok (.fixed res)) :
    ¬ AsksIfSet segments := by
  rintro ⟨last, name, hl, hm⟩
  unfold belowJson at h
  rw [hl] at h
  simp only [hm] at h
  cases h

theorem not_asksIfSet_atLast {last : String} (h : (atLast s path r last).outcome = .ok (.fixed res))
    (hv : res.value ≠ .null) : ¬ AsksIfSet [last] := by
  rw [asksIfSet_singleton]
  rintro ⟨name, hm⟩
  unfold atLast at h
  rw [hm] at h
  simp only at h
  split at h
  · unfold missing at h
    split at h <;> cases h
    exact absurd rfl hv
  · split at h
    · cases h
    · next f hf hw =>
      rcases atField_cases s path r f (some .isset) with ⟨e, he⟩ | ⟨hn, -⟩
      · rw [he] at h; cases h
      · exact absurd rfl hn

/-- A walk to a value does not ask whether the request has it. -/
theorem not_asksIfSet_walk (h : (walk s path r segments).outcome = .ok (.fixed res))
    (hv : res.value ≠ .null) : ¬ AsksIfSet segments := by
  have tail (segment next : String) (rest : List String) :
      AsksIfSet (segment :: next :: rest) ↔ AsksIfSet (next :: rest) :=
    asksIfSet_suffix (List.suffix_cons _ _) (List.cons_ne_nil _ _)
  fun_induction walk s path r segments with
  | case1 r => cases h
  | case2 r last => exact not_asksIfSet_atLast h hv
  | case3 r =>
    unfold missing at h
    split at h <;> cases h
    exact absurd rfl hv
  | case4 r => cases h
  | case5 r segment next rest f ht =>
    rw [tail]
    exact not_asksIfSet_belowJson h
  | case6 r segment next rest f ht =>
    have hf := found_turn s r segment (next :: rest)
    rw [ht] at hf
    obtain ⟨-, -, hid, -⟩ := hf
    rw [tail, hid, asksIfSet_singleton]
    rintro ⟨name, ⟨⟩⟩
  | case7 r => cases h
  | case8 r segment next rest l ht hh ih =>
    rw [tail]
    exact ih h

theorem not_asksIfSet_below (h : (below s path root segments).outcome = .ok (.fixed res))
    (hv : res.value ≠ .null) : ¬ AsksIfSet segments := by
  unfold below at h
  split at h
  · cases h
  · exact not_asksIfSet_walk h hv

/-! ## Paths with several values -/

/-- A path stands for several values of one record. -/
inductive SeveralAt (s : Scope) (path : String) : Prop
  /-- Those of all records of a collection. -/
  | anyOf (h : (segmentsOf path).head? = some "@collection")
  /-- Below its root the path crosses to many records, or it ends in each item of a field. -/
  | below {root : Root} {rest : List String} (h : Starts s path root rest)
      (hs : SeveralBelow s root.collection rest)
  /-- The records submitted for a relation field of the base that holds many. -/
  | submitted {key next : String} {rest : List String} {f : Field} {ref : Reference}
      (h : segmentsOf path = "@request" :: "body" :: key :: next :: rest)
      (hf : s.base.field? key = some f) (hk : f.kind = .relation ref) (hm : ref.multiple = true)
  /-- The items submitted for a field of the base that holds many. -/
  | items {last key : String} {f : Field} (h : segmentsOf path = ["@request", "body", last])
      (hm : splitModifier last = .ok (key, some .each)) (hf : s.base.field? key = some f)
      (hk : f.kind.isMultiple = true)

/-- What is listed stands for several values. -/
theorem severalAt_of_listing (ho : (ofPath s path).outcome = .ok (.fixed res))
    (hl : res.listing.isSome = true) :
    ¬ AsksIfSet (segmentsOf path) ∧ res.value ≠ .null ∧ SeveralAt s path := by
  have hempty := nonempty_of_outcome ho
  have hseveral (root : Root) (rest : List String) (h : RootOf s (segmentsOf path) root rest) :
      root.isMany = true ∨ SeveralBelow s root.collection rest → SeveralAt s path := by
    rintro (hm | hb)
    · generalize hs : segmentsOf path = segments at h
      cases h with
      | base | auth => cases hm
      | anyOf => exact .anyOf (by rw [hs]; rfl)
      | submitted hq hmod hi hf hr => exact .submitted hs hf (FieldKind.eq_of_reference? hr) hm
    · exact .below ⟨hempty, h⟩ hb
  have hk := kind_ofPath s path
  generalize ofPath s path = p at hk ho
  cases hk with
  | fail | bound => cases ho
  | constant => cases ho; cases hl
  | @below root rest h =>
    have hv := value_ne_null_of_listing ho hl
    have hiff := listed_below_iff ho hv
    refine ⟨?_, hv, hseveral root rest h (hiff.1 hl)⟩
    rw [asksIfSet_suffix h.suffix h.ne_nil]
    exact not_asksIfSet_below ho hv
  | @items request key f last hq hf hk hs hm =>
    cases ho
    refine ⟨?_, by rintro ⟨⟩, ?_⟩
    · have hlast : AsksIfSet ["@request", "body", last] ↔ AsksIfSet [last] :=
        asksIfSet_suffix ⟨["@request", "body"], rfl⟩ (List.cons_ne_nil _ _)
      rw [hs, hlast, asksIfSet_singleton, hm]
      rintro ⟨name, hm'⟩
      cases hm'
    · cases hmany : f.kind.isMultiple with
      | true => exact .items hs hm hf hmany
      | false => simp [hmany] at hl

/-- A path that stands for several values below a root is listed, unless it is NULL. -/
theorem listed_of_starts {o : Outcome} (h : Starts s path root rest)
    (hs : root.isMany = true ∨ SeveralBelow s root.collection rest)
    (ho : (ofPath s path).outcome = .ok o) :
    ∃ res, o = .fixed res ∧ (res.value = .null ∨ res.listing.isSome = true) := by
  rw [ofPath_of_starts h] at ho
  obtain ⟨r, extra, outcome, -, hp, hfixed⟩ := below_laid s path root rest
  have houtcome : (below s path root rest).outcome = outcome := by rw [hp]; rfl
  obtain ⟨res, rfl, -⟩ := hfixed o (houtcome ▸ ho)
  refine ⟨res, rfl, ?_⟩
  by_cases hv : res.value = .null
  · exact .inl hv
  · exact .inr ((listed_below_iff ho hv).2 hs)

/-! ### Paths below the request and below collections -/

theorem ne_isset_of_not_asks {name : String} {modifier : Option Modifier}
    (ha : ¬ AsksIfSet ("@request" :: rest)) (hne : rest ≠ [])
    (hm : splitModifier (rest.getLast?.getD "") = .ok (name, modifier)) :
    modifier ≠ some .isset := by
  rintro rfl
  have hl : rest.getLast? = some (rest.getLast hne) := List.getLast?_eq_some_getLast hne
  rw [hl] at hm
  exact ha ((asksIfSet_suffix (List.suffix_cons _ _) hne).2 ⟨_, name, hl, hm⟩)

theorem outcome_body {o : Outcome} (hs : segmentsOf path = "@request" :: "body" :: rest)
    (ha : ¬ AsksIfSet (segmentsOf path)) (ho : (ofPath s path).outcome = .ok o) :
    (∃ res, o = .fixed res ∧ res.value = .null) ∨
      ∃ request name modifier, s.request = some request ∧
        splitModifier (("body" :: rest).getLast?.getD "") = .ok (name, modifier) ∧
        modifier ≠ some .isset ∧ (ofBody s path request rest modifier).outcome = .ok o := by
  rw [ofPath_of_request (nonempty_of_outcome ho) hs] at ho
  rw [hs] at ha
  cases hm : splitModifier (("body" :: rest).getLast?.getD "") with
  | error e =>
    simp only [ofRequest, hm] at ho
    cases ho
  | ok nm =>
    obtain ⟨name, modifier⟩ := nm
    have hi := ne_isset_of_not_asks ha (List.cons_ne_nil _ _) hm
    cases hq : s.request with
    | none =>
      simp only [ofRequest, hm, hq, absent, if_neg hi] at ho
      cases ho
      exact .inl ⟨_, rfl, rfl⟩
    | some request =>
      simp only [ofRequest, hm, hq] at ho
      exact .inr ⟨request, name, modifier, rfl, rfl, hi, ho⟩

/-- A path that stands for several values is listed, unless it is NULL. -/
theorem listed_of_severalAt {o : Outcome} (h : SeveralAt s path)
    (ha : ¬ AsksIfSet (segmentsOf path)) (ho : (ofPath s path).outcome = .ok o) :
    ∃ res, o = .fixed res ∧ (res.value = .null ∨ res.listing.isSome = true) := by
  have hempty := nonempty_of_outcome ho
  cases h with
  | anyOf h =>
    obtain ⟨rest, hs⟩ : ∃ rest, segmentsOf path = "@collection" :: rest := by
      cases hs : segmentsOf path with
      | nil => rw [hs] at h; cases h
      | cons first rest => rw [hs] at h; cases h; exact ⟨rest, rfl⟩
    have hcollection := ofPath_of_collection hempty hs ▸ ho
    rcases rest with _ | ⟨first, _ | ⟨second, rest⟩⟩
    · cases hcollection
    · cases hcollection
    · rw [ofCollection_cons] at hcollection
      cases hc : s.catalog.find? (collectionKey first).1 with
      | none => rw [hc] at hcollection; cases hcollection
      | some c =>
        have hroot : RootOf s (segmentsOf path) (.anyOf c (collectionKey first).2)
            (second :: rest) := by
          rw [hs]
          exact .anyOf hc
        exact listed_of_starts ⟨hempty, hroot⟩ (.inl rfl) ho
  | below h hs => exact listed_of_starts h (.inr hs) ho
  | @submitted key next rest f ref hs hf hk hm =>
    rcases outcome_body hs ha ho with ⟨res, ho, hv⟩ | ⟨request, name, modifier, hq, hmod, hi, hb⟩
    · exact ⟨res, ho, .inl hv⟩
    · have href : ((s.base.field? key).bind fun f => f.kind.reference?) = some ref := by
        rw [hf, Option.bind_some, hk]
        rfl
      have hmodifier : requestModifier ("body" :: key :: next :: rest) = .ok modifier := by
        rw [requestModifier, hmod]
        rfl
      unfold ofBody at hb
      simp only [href] at hb
      cases hc : s.catalog.find? ref.target with
      | none =>
        simp only [hc] at hb
        cases hb
        exact ⟨_, rfl, .inl rfl⟩
      | some target =>
        simp only [hc] at hb
        split at hb
        · cases hb
          exact ⟨_, rfl, .inl rfl⟩
        · next hn =>
          have hroot : RootOf s (segmentsOf path)
              (.submitted target key (request.itemsOf key) ref.multiple) (next :: rest) := by
            rw [hs]
            exact .submitted hq hmodifier hi hf (hk ▸ rfl) hc (by simpa using hn)
          exact listed_of_starts ⟨hempty, hroot⟩ (.inl hm) ho
  | @items last key f hs hm hf hk =>
    rcases outcome_body hs ha ho with ⟨res, ho, hv⟩ | ⟨request, name, modifier, hq, hmod, hi, hb⟩
    · exact ⟨res, ho, .inl hv⟩
    · have heach : splitModifier last = .ok (name, modifier) := hmod
      obtain ⟨rfl, rfl⟩ := Prod.mk.inj (Except.ok.inj (hm.symm.trans heach))
      simp only [ofBody, hm, hf, FieldKind.holdsItems_of_isMultiple hk] at hb
      cases hb
      refine ⟨_, rfl, .inr ?_⟩
      simp [hk]

end Plan

open Plan (AsksIfSet SeveralAt segmentsOf)

/-- A side of a comparison is a path that stands for several values and does not ask whether the
request has them, and what it resolved to is not NULL. -/
def Operand.IsSeveral (s : Scope) (o : Operand) (res : Resolution) : Prop :=
  ∃ path, o = .field path ∧ ¬ AsksIfSet (segmentsOf path) ∧ res.value ≠ .null ∧ SeveralAt s path

theorem Resolver.listed_iff {r : Resolver} {path : String} {res : Resolution}
    (h : (r.resolve path).1 = .ok res) :
    res.listing.isSome = true ↔
      ¬ AsksIfSet (segmentsOf path) ∧ res.value ≠ .null ∧ SeveralAt r.scope path := by
  constructor
  · intro hl
    obtain ⟨l, hl'⟩ := Option.isSome_iff_exists.1 hl
    exact Plan.severalAt_of_listing (outcome_of_listing h hl') hl
  · rintro ⟨ha, hv, hs⟩
    rcases resolve_outcomes r path with ⟨e, ps, he, -⟩ | ⟨joins, res', -, ho, he⟩ |
      ⟨joins, v, lower, -, ho, -⟩
    · rw [he] at h; cases h
    · rw [he] at h
      cases h
      obtain ⟨_, ⟨⟩, hnull | hl⟩ := Plan.listed_of_severalAt hs ha ho
      · exact absurd hnull hv
      · exact hl
    · obtain ⟨_, ⟨⟩, -⟩ := Plan.listed_of_severalAt hs ha ho

namespace Builder

open Resolver (coauthored coauthoredCatalog coauthoredScope)

variable {b b₁ b' : Builder} {f : Filter} {c : Condition} {res : Resolution}

theorem listed_operand_iff {o : Operand} (h : b.operand o = (.ok res, b₁)) :
    res.listing.isSome = true ↔ o.IsSeveral b.resolver.scope res := by
  cases o with
  | field path =>
    rw [Resolver.listed_iff (resolve_of_operand h).1]
    constructor
    · exact fun hs => ⟨path, rfl, hs⟩
    · rintro ⟨_, ⟨⟩, hs⟩
      exact hs
  | text | number | bool | null =>
    cases h
    refine iff_of_false Bool.false_ne_true ?_
    rintro ⟨_, ⟨⟩, -⟩

/-- Whatever was resolved before, each comparison of a filter has a guard in its text if and only
if its operator is strict and one of its sides is a path that stands for several values. -/
theorem build_guarded_iff {ds : Definitions} (hc : ds.toCatalog = .ok b.resolver.scope.catalog)
    (hb : b.resolver.scope.base ∈ b.resolver.scope.catalog.collections)
    (h : b.build f = (.ok c, b')) :
    List.Forall₂ (fun q part => ∃ l r, q.Built b.resolver b'.resolver l r part ∧
        (HasGuard part.text ↔ q.comparator.isAny = false ∧
          (q.left.IsSeveral b.resolver.scope l ∨ q.right.IsSeveral b.resolver.scope r)))
      f.comparisons c.parts := by
  have hnamed := Scope.isWellNamed_of_toCatalog hc hb
  refine (built_build f h).imp ?_
  rintro q part ⟨l, r, hq⟩
  refine ⟨l, r, hq, ?_⟩
  cases hq with
  | @intro first second third hs hl hr he =>
    have hfirst : first.resolver.scope = b.resolver.scope := Resolver.scope_steps hs
    have hsecond : second.resolver.scope = b.resolver.scope := by
      have hsteps := (steps_operand first q.left).1
      rw [hl] at hsteps
      rw [← hfirst]
      exact Resolver.scope_steps hsteps
    have hleft := isUnmarked_of_operand (hfirst.symm ▸ hnamed) hl
    have hright := isUnmarked_of_operand (hsecond.symm ▸ hnamed) hr
    rw [hasGuard_comparison_iff third hleft q.comparator hright, listed_operand_iff hl,
      listed_operand_iff hr, hfirst, hsecond]

/-! ### Posts with several authors -/

def allNamed : Comparison := ⟨.field "authors.name", ⟨.equal, false⟩, .text "x"⟩

def oneNamed : Comparison := ⟨.field "authors.name", ⟨.equal, true⟩, .text "x"⟩

def allOrOne : Filter :=
  .group .or [.comparison allNamed.left allNamed.comparator allNamed.right,
    .comparison oneNamed.left oneNamed.comparator oneNamed.right]

theorem segmentsOf_authors : segmentsOf "authors.name" = ["authors", "name"] := by decide

theorem severalAt_authors : SeveralAt coauthoredScope "authors.name" := by
  refine .below (Plan.starts_of_isOwn (by decide) (by decide)) (.inl ?_)
  rw [segmentsOf_authors]
  obtain ⟨f, ref, target, hf, hk, ht, hm⟩ : ∃ f ref target,
      coauthoredScope.base.field? "authors" = some f ∧ f.kind = .relation ref ∧
        coauthoredScope.catalog.find? ref.target = some target ∧ ref.multiple = true :=
    ⟨_, _, _, rfl, rfl, rfl, rfl⟩
  have hcross : Plan.Crossing coauthoredScope coauthoredScope.base "authors" target ref.multiple :=
    .forward hf hk ht
  rw [hm] at hcross
  exact .here hcross

theorem not_asksIfSet_authors : ¬ AsksIfSet (segmentsOf "authors.name") := by
  rw [segmentsOf_authors]
  rintro ⟨last, name, ⟨⟩, ⟨⟩⟩

set_option maxRecDepth 4000 in
/-- The guard stands where all authors are asked for. -/
theorem build_guarded_iff_authors :
    coauthored.toCatalog = .ok coauthoredCatalog ∧
      coauthoredScope.base ∈ coauthoredScope.catalog.collections ∧
      ∃ c b' all one, build { resolver := { scope := coauthoredScope } } allOrOne = (.ok c, b') ∧
        c.parts = [all, one] ∧ HasGuard all.text ∧ ¬ HasGuard one.text := by
  have hcatalog : coauthored.toCatalog = .ok coauthoredScope.catalog := rfl
  have hbase : coauthoredScope.base ∈ coauthoredScope.catalog.collections := List.mem_cons_self
  obtain ⟨c, b', hbuild⟩ : ∃ c b',
      build { resolver := { scope := coauthoredScope } } allOrOne = (.ok c, b') := by
    have hok : (build { resolver := { scope := coauthoredScope } } allOrOne).1.isOk = true := by
      decide +kernel
    generalize build { resolver := { scope := coauthoredScope } } allOrOne = built at hok
    obtain ⟨e | c, b'⟩ := built
    · cases hok
    · exact ⟨c, b', rfl⟩
  have hall := build_guarded_iff hcatalog hbase hbuild
  have hcomparisons : allOrOne.comparisons = [allNamed, oneNamed] := rfl
  rw [hcomparisons] at hall
  generalize hparts : c.parts = parts at hall
  cases hall with
  | @cons _ all _ _ hfirst hrest =>
    cases hrest with
    | @cons _ one _ _ hsecond hnil =>
      cases hnil
      obtain ⟨l, r, hq, hguard⟩ := hfirst
      obtain ⟨_, _, _, hnone⟩ := hsecond
      refine ⟨hcatalog, hbase, c, b', all, one, hbuild, hparts, hguard.2 ⟨rfl, .inl ?_⟩,
        fun hg => ?_⟩
      · obtain ⟨start, hsteps, hres, -⟩ := hq.left_of_field rfl
        obtain ⟨-, ho⟩ := Resolver.outcome_of_isOwn (by decide) hres
        rw [Resolver.scope_steps hsteps] at ho
        obtain ⟨res, hplan, hvalue⟩ : ∃ res,
            (Plan.ofPath coauthoredScope "authors.name").outcome = .ok (.fixed res) ∧
              res.value = .column "posts_authors" "name" := ⟨_, rfl, rfl⟩
        obtain rfl : res = l := by
          cases hplan.symm.trans ho
          rfl
        have hnull : res.value ≠ .null := by
          rw [hvalue]
          rintro ⟨⟩
        exact ⟨_, rfl, not_asksIfSet_authors, hnull, severalAt_authors⟩
      · cases (hnone.1 hg).1

end Builder

end RecordFilter
