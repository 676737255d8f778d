import RecordFilter.Catalog.Definition
import RecordFilter.Proofs.Reachable

/-!
# Guards and what they guard

A guard holds every listed value to the comparison that it guards. The form of that comparison
depends on properties of both sides, of which the sides inside the guard have only some: a listed
value has no parameters, and the other side does not count as exact. `Builder.guard_test_iff` says
when the two forms are the same all the same.
-/

namespace RecordFilter

open Resolution (isBlankValue)
open Sql (Expr Test Guard Listing Params Relation)

/-! ## Forms -/

namespace Sql.Guard

def test : Guard → Test
  | one _ _ t | pairs _ _ _ _ t => t

def listings : Guard → List (Listing × String)
  | one l name _ => [(l, name)]
  | pairs l leftName r rightName _ => [(l, leftName), (r, rightName)]

end Sql.Guard

/-- The form of an equality with given properties of its sides: whether one is exact, which are
blank and whether one is filled. -/
def equalityForm (equal isExact leftBlank rightBlank isFilled : Bool) (left right : Expr) : Test :=
  let same : Relation := if equal then .equal else .distinct
  if isExact then .relates left (if equal then .notDistinct else .distinct) right
  else
    let shown (e : Expr) (blank : Bool) : Expr := if blank then .emptyText else e
    if leftBlank && rightBlank then .relates .emptyText same .emptyText
    else if isFilled then .relates (shown left leftBlank) same (shown right rightBlank)
    else if leftBlank then if equal then .blankRight right else .filledRight right
    else if rightBlank then if equal then .blankLeft left else .filledLeft left
    else .relates (.coalesced left) same (.coalesced right)

/-- The form in which two sides are compared, with values in the places of theirs. -/
def comparisonForm (op : Operator) (left right : Resolution) (params : Params) (l r : Expr) :
    Test :=
  let equality (equal : Bool) : Test :=
    equalityForm equal (left.isExact || right.isExact) (left.isBlank params)
      (right.isBlank params) (left.isFilled params || right.isFilled params) l r
  let like (negated : Bool) : Test :=
    if right.params.isEmpty then .containsText negated l r else .matchesPattern negated l r
  match op with
  | .equal => equality true
  | .notEqual => equality false
  | .like => like false
  | .notLike => like true
  | .greater => .relates l .greater r
  | .greaterEqual => .relates l .greaterEqual r
  | .less => .relates l .less r
  | .lessEqual => .relates l .lessEqual r

theorem comparisonTest_eq_form (op : Operator) (left right : Resolution) (params : Params) :
    comparisonTest op left right params =
      comparisonForm op left right params left.value right.value := by
  cases op <;> rfl

theorem coalesced_ne (e : Expr) : Expr.coalesced e ≠ e := by
  intro h
  have hs := congrArg sizeOf h
  simp at hs

/-- With fewer properties an equality has the same form only if it is exact still, or was not and
has a filled side still. -/
theorem equalityForm_eq_iff {equal e e' lb rb f f' : Bool} {l r : Expr} (he : e' = true → e = true)
    (hf : f' = true → f = true) (hb : (lb && rb) = false)
    (hx : e = true → e' = false → lb = false ∧ rb = false ∧ f' = false) :
    equalityForm equal e' lb rb f' l r = equalityForm equal e lb rb f l r ↔
      e' = true ∨ (e = false ∧ f = f') := by
  have hl := coalesced_ne l
  have hr := coalesced_ne r
  cases e with
  | true =>
    cases e' with
    | true => simp [equalityForm]
    | false =>
      obtain ⟨rfl, rfl, rfl⟩ := hx rfl rfl
      cases equal <;> simp [equalityForm, hl]
  | false =>
    obtain rfl : e' = false := by simpa using he
    cases f with
    | false =>
      obtain rfl : f' = false := by simpa using hf
      simp
    | true =>
      cases f' with
      | true => simp
      | false => cases lb <;> cases rb <;> cases equal <;> simp_all [equalityForm]

/-! ## Sides inside a guard -/

namespace Resolution

def insideValue (name : String) (r : Resolution) : Expr :=
  if r.listing.isSome then .column name Listing.valueColumn else r.value

/-- A side inside a guard. -/
def inside (name : String) (r : Resolution) : Resolution :=
  if r.listing.isSome then listedValue name r.isExact else r.beside

variable {name : String} {r : Resolution} {params : Params}

@[simp] theorem value_inside : (r.inside name).value = r.insideValue name := by
  unfold inside insideValue
  split <;> rfl

@[simp] theorem isExact_inside : (r.inside name).isExact = (r.listing.isSome && r.isExact) := by
  unfold inside
  split
  · next h => simp [listedValue, h]
  · next h => simp [beside, h]

@[simp] theorem params_inside :
    (r.inside name).params = if r.listing.isSome then [] else r.params := by
  unfold inside
  split <;> rfl

/-- What is known of the operands of a comparison: a value that is exact or listed comes from the
rows, an exact one has no parameters, and those of a listed one are not blank. -/
structure Fits (params : Params) (r : Resolution) : Prop where
  value : r.isExact = true ∨ r.listing.isSome = true →
    r.value.isEmpty = false ∧ r.value.isSolid = false
  exact : r.isExact = true → r.params = []
  listed : r.listing.isSome = true → r.hasBlankParam params = false

theorem Fits.isBlank_of_listed (h : r.Fits params) (hl : r.listing.isSome = true) :
    r.isBlank params = false := by
  rw [isBlank, (h.value (.inr hl)).1, h.listed hl]
  rfl

theorem Fits.isBlank_inside (h : r.Fits params) :
    (r.inside name).isBlank params = r.isBlank params := by
  cases hl : r.listing.isSome with
  | true =>
    rw [h.isBlank_of_listed hl]
    simp [inside, hl, listedValue, isBlank, hasBlankParam, Expr.isEmpty]
  | false => simp [inside, hl, beside, isBlank, hasBlankParam]

/-- Only sides that are not listed are filled inside a guard. -/
theorem isFilled_inside :
    (r.inside name).isFilled params = (!r.listing.isSome && r.isFilled params) := by
  cases hl : r.listing.isSome with
  | true => simp [inside, hl, listedValue, isFilled, Expr.isSolid]
  | false => simp [inside, hl, beside, isFilled, hasBlankParam]

theorem Fits.isFilled_of_listed (h : r.Fits params) (hl : r.listing.isSome = true) :
    r.isFilled params = !r.params.isEmpty := by
  obtain ⟨he, hs⟩ := h.value (.inr hl)
  simp [isFilled, he, hs, h.listed hl]

theorem Fits.flags_of_exact (h : r.Fits params) (he : r.isExact = true) :
    r.isBlank params = false ∧ r.isFilled params = false := by
  obtain ⟨hv, hs⟩ := h.value (.inl he)
  simp [isBlank, isFilled, hasBlankParam, h.exact he, hv, hs]

end Resolution

/-- The sides that `guardOf` puts inside, and what the guard lists. -/
theorem guardOf_eq {left right : Resolution}
    (h : left.listing.isSome = true ∨ right.listing.isSome = true) (n : Nat) :
    ∃ leftName rightName guardWith,
      guardOf n left right = some (left.inside leftName, right.inside rightName, guardWith) ∧
        ∀ t, (guardWith t).test = t ∧ (guardWith t).listings =
          (left.listing.map (·, leftName)).toList ++ (right.listing.map (·, rightName)).toList := by
  unfold guardOf
  cases hl : left.listing with
  | some l =>
    cases hr : right.listing with
    | some r =>
      refine ⟨numberedAlias "__ml" n, numberedAlias "__mr" n,
        .pairs l (numberedAlias "__ml" n) r (numberedAlias "__mr" n), ?_, fun t => ⟨rfl, rfl⟩⟩
      simp [Resolution.inside, hl, hr]
    | none =>
      refine ⟨numberedAlias "__sm" n, "", .one l (numberedAlias "__sm" n), ?_,
        fun t => ⟨rfl, rfl⟩⟩
      simp [Resolution.inside, hl, hr]
  | none =>
    cases hr : right.listing with
    | some r =>
      refine ⟨"", numberedAlias "__sm" n, .one r (numberedAlias "__sm" n), ?_,
        fun t => ⟨rfl, rfl⟩⟩
      simp [Resolution.inside, hl, hr]
    | none => simp [hl, hr] at h

theorem guardOf_eq_some {left right insideLeft insideRight : Resolution} {guardWith : Test → Guard}
    {n : Nat} (h : guardOf n left right = some (insideLeft, insideRight, guardWith)) :
    ∃ leftName rightName, insideLeft = left.inside leftName ∧
      insideRight = right.inside rightName ∧
        ∀ t, (guardWith t).test = t ∧ (guardWith t).listings =
          (left.listing.map (·, leftName)).toList ++
            (right.listing.map (·, rightName)).toList := by
  have hm : left.listing.isSome = true ∨ right.listing.isSome = true := by
    by_contra hm
    rw [not_or, Bool.not_eq_true, Bool.not_eq_true, Option.isSome_eq_false_iff,
      Option.isSome_eq_false_iff, Option.isNone_iff_eq_none, Option.isNone_iff_eq_none] at hm
    simp [guardOf, hm] at h
  obtain ⟨leftName, rightName, guardWith', hg, ht⟩ := guardOf_eq hm n
  cases h.symm.trans hg
  exact ⟨leftName, rightName, rfl, rfl, ht⟩

/-! ## When the form is kept -/

/-- Whether the guard of a strict comparison has the form of the comparison. An equality keeps the
form if a listed side is exact, or no side is exact and either a side without listing is filled or
the listed sides have no parameters. A comparison of texts keeps it unless its right side is listed
and has parameters. Only the submitted items of a field are listed and have one. -/
def KeepsForm (op : Operator) (left right : Resolution) (params : Params) : Prop :=
  match op with
  | .equal | .notEqual =>
    (∃ r ∈ [left, right], r.listing.isSome = true ∧ r.isExact = true) ∨
      (∀ r ∈ [left, right], r.isExact = false) ∧
        ((∃ r ∈ [left, right], r.listing.isSome = false ∧ r.isFilled params = true) ∨
          ∀ r ∈ [left, right], r.listing.isSome = true → r.params = [])
  | .like | .notLike => right.listing.isSome = true → right.params = []
  | .greater | .greaterEqual | .less | .lessEqual => True

section Forms

variable {left right : Resolution} {params : Params} {leftName rightName : String}

theorem keepsForm_iff_flags (hl : left.Fits params) (hr : right.Fits params) :
    KeepsForm .equal left right params ↔
      ((left.listing.isSome && left.isExact) || (right.listing.isSome && right.isExact)) = true ∨
        (left.isExact || right.isExact) = false ∧
          (left.isFilled params || right.isFilled params) =
            ((!left.listing.isSome && left.isFilled params) ||
              (!right.listing.isSome && right.isFilled params)) := by
  have hfl := hl.isFilled_of_listed
  have hfr := hr.isFilled_of_listed
  simp only [KeepsForm, List.mem_cons, List.not_mem_nil, or_false, exists_eq_or_imp,
    exists_eq_left, forall_eq_or_imp, forall_eq]
  cases hll : left.listing.isSome <;> cases hrl : right.listing.isSome <;>
    cases hle : left.isExact <;> cases hre : right.isExact <;> simp_all
  · exact or_iff_not_imp_right
  · exact or_iff_not_imp_right

theorem equality_inside_iff (hl : left.Fits params) (hr : right.Fits params)
    (h : left.listing.isSome = true ∨ right.listing.isSome = true) (equal : Bool) (l r : Expr) :
    equalityForm equal ((left.inside leftName).isExact || (right.inside rightName).isExact)
        ((left.inside leftName).isBlank params) ((right.inside rightName).isBlank params)
        ((left.inside leftName).isFilled params || (right.inside rightName).isFilled params) l r =
      equalityForm equal (left.isExact || right.isExact) (left.isBlank params)
        (right.isBlank params) (left.isFilled params || right.isFilled params) l r ↔
      KeepsForm .equal left right params := by
  rw [keepsForm_iff_flags hl hr, hl.isBlank_inside, hr.isBlank_inside,
    Resolution.isFilled_inside, Resolution.isFilled_inside, Resolution.isExact_inside,
    Resolution.isExact_inside]
  have hbl := hl.isBlank_of_listed
  have hbr := hr.isBlank_of_listed
  have hxl := hl.flags_of_exact
  have hxr := hr.flags_of_exact
  refine equalityForm_eq_iff ?_ ?_ ?_ ?_
  · cases left.listing.isSome <;> cases right.listing.isSome <;> simp +contextual
  · cases left.listing.isSome <;> cases right.listing.isSome <;> simp +contextual
  · rcases h with h | h
    · rw [hbl h, Bool.false_and]
    · rw [hbr h, Bool.and_false]
  · -- the exact side is not listed, so the other one is
    intro he he'
    cases hll : left.listing.isSome <;> cases hrl : right.listing.isSome <;>
      cases hle : left.isExact <;> cases hre : right.isExact <;> simp_all

/-- The test inside a guard has the form of the comparison, with the listed values in the places of
the listed sides, if and only if the comparison keeps its form. -/
theorem inside_form_iff (hl : left.Fits params) (hr : right.Fits params)
    (h : left.listing.isSome = true ∨ right.listing.isSome = true) (op : Operator)
    (inner : Params) (hi : inner = comparisonParams op right params) :
    comparisonTest op (left.inside leftName) (right.inside rightName) inner =
      comparisonForm op left right params (left.insideValue leftName)
        (right.insideValue rightName) ↔ KeepsForm op left right params := by
  rw [comparisonTest_eq_form, Resolution.value_inside, Resolution.value_inside]
  have like (negated : Bool) (l r : Expr) :
      ((if (right.inside rightName).params.isEmpty then Test.containsText negated l r
        else .matchesPattern negated l r) =
        if right.params.isEmpty then .containsText negated l r
        else .matchesPattern negated l r) ↔
        (right.listing.isSome = true → right.params = []) := by
    rw [Resolution.params_inside]
    cases right.listing.isSome <;> cases right.params <;> simp
  cases op with
  | equal | notEqual =>
    subst hi
    exact equality_inside_iff hl hr h _ _ _
  | like | notLike => exact like _ _ _
  | greater | greaterEqual | less | lessEqual => exact iff_of_true rfl trivial

end Forms

/-! ## Operands -/

namespace Plan

variable {s : Scope} {path : String} {segments : List String}

theorem isBlankValue_of_items (s : Scope) (path key : String) {v : Json}
    (h : (itemsParam (Root.itemsName key), v) ∈ (ofPath s path).bindings) :
    isBlankValue (some v) = false := by
  have hk := kind_ofPath s path
  generalize ofPath s path = p at hk h
  cases hk with
  | fail | constant | bound => cases h
  | @below root rest =>
    rw [bindings_below] at h
    exact absurd (List.mem_map_of_mem h) (root.itemsParam_notMem_bindings key)
  | @items request k =>
    obtain rfl := congrArg Prod.snd (List.mem_singleton.1 h)
    rw [← Bool.not_eq_true]
    show ¬ (String.ofList (Json.chars (.list _))).isEmpty = true
    rw [String.isEmpty_iff]
    intro he
    have hc := congrArg String.toList he
    rw [String.toList_ofList] at hc
    cases hi : (request.itemsOf k).map Json.text with
    | nil => rw [hi] at hc; cases hc
    | cons => rw [hi] at hc; cases hc

theorem Reading.isEmpty_value (how : Reading) (f : Field) (table : String) :
    (how.value f table).isEmpty = false ∧ (how.value f table).isSolid = false := by
  cases how with
  | column lower | document names lower => cases lower <;> exact ⟨rfl, rfl⟩
  | count | items => exact ⟨rfl, rfl⟩

end Plan

namespace Resolver

variable {s : Scope} {allowed : AllowedPaths} {r r' : Resolver}

/-! ### Submitted items -/

/-- The submitted items of every field are bound to something that is not blank. -/
def ItemsFilled (ps : Params) : Prop :=
  ∀ key v, ps.find? (Plan.itemsParam (Root.itemsName key)) = some v →
    isBlankValue (some v) = false

theorem ItemsFilled.setAll {ps : Params} (h : ItemsFilled ps) (s : Scope) (path : String) :
    ItemsFilled (setAll ps (Plan.ofPath s path).bindings) := by
  intro key v hv
  rw [find?_setAll (Plan.safe_ofPath s path).nodup] at hv
  rcases Option.or_eq_some_iff.1 hv with hv | ⟨-, hv⟩
  · exact Plan.isBlankValue_of_items s path key (Json.mem_of_find? hv)
  · exact h key v hv

theorem ItemsFilled.rollback {ps : Params} (h : ItemsFilled ps) (m : Params.Mark) :
    ItemsFilled (ps.rollback m) := by
  intro key v hv
  rw [Params.find?_rollback] at hv
  split at hv
  · exact h key v hv
  · cases hv

theorem ItemsFilled.bind {ps : Params} (h : ItemsFilled ps) (w : Json) :
    ItemsFilled (ps.bind w).2 := by
  intro key v hv
  rw [Params.find?_bind, if_neg (Root.itemsParam_ne_generated _)] at hv
  exact h key v hv

theorem ItemsFilled.pattern {ps : Params} (h : ItemsFilled ps) (name : String) :
    ItemsFilled (patternParam ps name) := by
  intro key v hv
  have hb := Params.isBlankValue_patternParam ps name (Plan.itemsParam (Root.itemsName key))
  rw [hv] at hb
  rw [hb]
  split
  · rfl
  · cases hf : ps.find? (Plan.itemsParam (Root.itemsName key)) with
    | some w => exact h key w hf
    | none =>
      -- making a pattern binds no name
      have hk := Params.mem_names_of_find? hv
      rw [Params.names_patternParam] at hk
      exact absurd hk (Params.find?_eq_none_iff.1 hf)

theorem ItemsFilled.step (h : ItemsFilled r.params) (hs : Step r r') : ItemsFilled r'.params := by
  cases hs with
  | path path =>
    have hset := h.setAll r.scope path
    rcases resolve_outcomes r path with ⟨e, ps, hr, rfl | rfl⟩ | ⟨joins, res, -, -, hr⟩ |
      ⟨joins, v, lower, -, -, hr⟩
    · rw [hr]; exact h
    · rw [hr]; exact hset.rollback _
    · rw [hr]; exact hset
    · rw [hr]; exact hset.bind v
  | literal v => exact h.bind v
  | @pattern name _ => exact h.pattern name

theorem ItemsFilled.steps (h : ItemsFilled r.params) (hs : Steps r r') :
    ItemsFilled r'.params := by
  induction hs with
  | refl => exact h
  | tail _ hs ih => exact ih.step hs

/-! ### What operands resolve to -/

/-- What an operand has resolved to: an exact or listed value comes from the rows, and the
parameters of a listed one are submitted items, which are bound. -/
structure Resolved (r : Resolver) (res : Resolution) : Prop where
  value : res.isExact = true ∨ res.listing.isSome = true →
    res.value.isEmpty = false ∧ res.value.isSolid = false
  exact : res.isExact = true → res.params = []
  listed : res.listing.isSome = true → ∀ name ∈ res.params,
    name ∈ r.params.names ∧ ∃ key, name = Plan.itemsParam (Root.itemsName key)

variable {res : Resolution}

theorem Resolved.steps (h : Resolved r res) (hs : Steps r r') : Resolved r' res :=
  ⟨h.value, h.exact, fun hl name hn =>
    ⟨names_steps hs (h.listed hl name hn).1, (h.listed hl name hn).2⟩⟩

theorem Resolved.fits (h : Resolved r res) (hf : ItemsFilled r.params) : res.Fits r.params where
  value := h.value
  exact := h.exact
  listed := by
    intro hl
    rw [← Bool.not_eq_true]
    intro hb
    obtain ⟨name, hn, hb⟩ := List.any_eq_true.1 hb
    obtain ⟨hk, key, rfl⟩ := h.listed hl name hn
    cases hv : r.params.find? (Plan.itemsParam (Root.itemsName key)) with
    | none => exact Params.find?_eq_none_iff.1 hv hk
    | some v =>
      rw [hv, hf key v hv] at hb
      cases hb

theorem resolved_plain (he : res.isExact = false) (hl : res.listing = none) : Resolved r res where
  value := by simp [he, hl]
  exact := by simp [he]
  listed := by simp [hl]

theorem resolved_of_resolve {path : String} (h : (r.resolve path).1 = .ok res) :
    Resolved (r.resolve path).2 res := by
  rcases resolve_outcomes r path with ⟨e, ps, he, -⟩ | ⟨joins, res', -, ho, he⟩ |
    ⟨joins, v, lower, -, -, he⟩
  · rw [he] at h; cases h
  · rw [he] at h ⊢
    cases h
    have hnames : ∀ k ∈ (Plan.ofPath r.scope path).bindings.map Prod.fst,
        k ∈ (setAll r.params (Plan.ofPath r.scope path).bindings).names :=
      fun k hk => mem_names_setAll r.params hk
    have hk := Plan.kind_ofPath r.scope path
    generalize Plan.ofPath r.scope path = p at hk ho hnames
    cases hk with
    | fail | bound => cases ho
    | constant => cases ho; exact resolved_plain rfl rfl
    | @below root rest =>
      obtain ⟨route, rest', -, -, hends⟩ := Plan.ends_below r.scope path root rest
      generalize Plan.below r.scope path root rest = p at hends ho
      cases hends with
      | fails => cases ho
      | nothing => cases ho; exact resolved_plain rfl rfl
      | @reads f how =>
        cases ho
        exact ⟨fun _ => how.isEmpty_value f _, fun _ => rfl, fun _ name hn => by cases hn⟩
    | @items request key =>
      cases ho
      refine ⟨fun _ => ⟨rfl, rfl⟩, fun h => (Bool.false_ne_true h).elim, ?_⟩
      intro _ name hn
      obtain rfl := List.mem_singleton.1 hn
      exact ⟨hnames _ (List.mem_singleton.2 rfl), key, rfl⟩
  · rw [he] at h
    cases h
    cases lower <;> exact resolved_plain rfl rfl

end Resolver

namespace Builder

open Resolver (Steps Resolved ItemsFilled)

variable {s : Scope} {allowed : AllowedPaths} {b b₁ b₂ : Builder} {left right : Operand}
  {l r : Resolution} {op : Operator}

theorem resolved_of_operand {o : Operand} {res : Resolution} (h : b.operand o = (.ok res, b₁)) :
    Resolved b₁.resolver res := by
  cases o with
  | field path =>
    have hr := @Resolver.resolved_of_resolve b.resolver res path
    unfold operand at h
    simp only at h
    split at h
    · next res' r' he =>
      cases h
      rw [he] at hr
      exact hr rfl
    · cases h
  | text | number | bool | null => cases h; exact Resolver.resolved_plain rfl rfl

/-- Building a strict comparison with a listed side adds a guard that lists the values of the
listed sides. Its test has the form of the comparison, with the listed values in the places of the
listed sides, if and only if the comparison keeps its form. -/
theorem guard_test_iff (hb : Steps { scope := s, allowed := allowed } b.resolver)
    (hl : b.operand left = (.ok l, b₁)) (hr : b₁.operand right = (.ok r, b₂))
    (hm : l.listing.isSome = true ∨ r.listing.isSome = true) :
    ∃ guard leftName rightName,
      (b.build (.comparison left ⟨op, false⟩ right)).1 = .ok (requireVisible
        (.guarded (comparisonForm op l r b₂.resolver.params l.value r.value) guard)
        [l.visibleIn, r.visibleIn]) ∧
      guard.listings =
        (l.listing.map (·, leftName)).toList ++ (r.listing.map (·, rightName)).toList ∧
      (guard.test = comparisonForm op l r b₂.resolver.params (l.insideValue leftName)
          (r.insideValue rightName) ↔ KeepsForm op l r b₂.resolver.params) := by
  have hs₁ := (steps_operand b left).1
  have hs₂ := (steps_operand b₁ right).1
  rw [hl] at hs₁
  rw [hr] at hs₂
  have hfilled : ItemsFilled b₂.resolver.params := by
    refine ItemsFilled.steps ?_ (hb.trans (hs₁.trans hs₂))
    rintro key v ⟨⟩
  have hfl := ((resolved_of_operand hl).steps hs₂).fits hfilled
  have hfr := (resolved_of_operand hr).fits hfilled
  obtain ⟨leftName, rightName, guardWith, hg, ht⟩ := guardOf_eq hm (b₂.guards + 1)
  refine ⟨guardWith (comparisonTest op (l.inside leftName) (r.inside rightName)
    (comparisonParams op r b₂.resolver.params)), leftName, rightName, ?_, (ht _).2, ?_⟩
  · simp only [build, hl, hr, comparison, compare, hg]
    rw [comparisonTest_eq_form]
  · rw [(ht _).1]
    exact inside_form_iff hfl hfr hm op _ rfl

/-! ### A JSON value beside the values of a field -/

def documented : Definitions :=
  { collections :=
      [{ name := "posts", fields := [{ name := "title", type := .text },
          { name := "data", type := .json },
          { name := "tags", type := .select, multiple := true }] }] }

def documentedCatalog : Catalog := documented.toCatalog.toOption.getD default

def documentedBuilder : Builder :=
  { resolver :=
      { scope :=
          { catalog := documentedCatalog
            base := (documentedCatalog.find? "posts").getD default } } }

set_option maxRecDepth 4000 in
theorem guard_test_titles :
    documented.toCatalog = .ok documentedCatalog ∧
      ∃ guard name,
        (documentedBuilder.build
          (.comparison (.field "tags:each") ⟨.equal, false⟩ (.field "title"))).1 =
          .ok (.guarded (.relates (.coalesced (itemOf "posts_tags_je")) .equal
            (.coalesced (.column "posts" "title"))) guard) ∧
        guard.listings.map Prod.snd = [name] ∧
        guard.test = .relates (.coalesced (.column name Listing.valueColumn)) .equal
          (.coalesced (.column "posts" "title")) := by
  obtain ⟨l, b₁, r, b₂, hl, hr, hlm, hrm, hform, hin, hshown, hlp, hle, hre⟩ : ∃ l b₁ r b₂,
      documentedBuilder.operand (.field "tags:each") = (.ok l, b₁) ∧
      b₁.operand (.field "title") = (.ok r, b₂) ∧
      l.listing.isSome = true ∧ r.listing = none ∧
      comparisonForm .equal l r b₂.resolver.params l.value r.value =
        .relates (.coalesced (itemOf "posts_tags_je")) .equal
          (.coalesced (.column "posts" "title")) ∧
      (∀ name other, comparisonForm .equal l r b₂.resolver.params (l.insideValue name)
          (r.insideValue other) = .relates (.coalesced (.column name Listing.valueColumn)) .equal
          (.coalesced (.column "posts" "title"))) ∧
      (∀ c, requireVisible c [l.visibleIn, r.visibleIn] = c) ∧
      l.params = [] ∧ l.isExact = false ∧ r.isExact = false :=
    ⟨_, _, _, _, rfl, rfl, rfl, rfl, rfl, fun _ _ => rfl, fun _ => rfl, rfl, rfl, rfl⟩
  obtain ⟨guard, leftName, rightName, hbuild, hlist, hiff⟩ :=
    guard_test_iff .refl hl hr (.inl hlm)
  have hkeeps : KeepsForm .equal l r b₂.resolver.params := by
    refine .inr ⟨by simp [hle, hre], .inr ?_⟩
    simp [hlp, hrm]
  obtain ⟨listing, hlisting⟩ := Option.isSome_iff_exists.1 hlm
  refine ⟨rfl, guard, leftName, ?_, ?_, ?_⟩
  · rw [hbuild, hshown, hform]
  · rw [hlist, hlisting, hrm]
    rfl
  · rw [hiff.2 hkeeps, hin]

set_option maxRecDepth 4000 in
/-- A part of a document tells NULL from the empty text, but the guard does not. -/
theorem guard_test_coalesces :
    documented.toCatalog = .ok documentedCatalog ∧
      ∃ listing, (documentedBuilder.build
          (.comparison (.field "tags:each") ⟨.equal, false⟩ (.field "data.a"))).1 =
        .ok (.guarded
          (.relates (itemOf "posts_tags_je") .notDistinct
            (.extract (.column "posts" "data") "a"))
          (.one listing "__sm1" (.relates (.coalesced (.column "__sm1" Listing.valueColumn)) .equal
            (.coalesced (.extract (.column "posts" "data") "a"))))) :=
  ⟨rfl, _, rfl⟩

end Builder

end RecordFilter
