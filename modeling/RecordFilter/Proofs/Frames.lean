import RecordFilter.Proofs.Comparisons
import RecordFilter.Proofs.Query
import RecordFilter.Proofs.Rebinding

/-!
# What comparisons leave alone

Building a comparison adds parameters and changes few of those that are bound: a path that is
carried out binds the names of its plan anew, and a text comparison makes patterns of the parameters
that its right side resolves to. These are its own literal, or the list of submitted items, which a
join reads (`Operand.ListsItems`). `Builder.Rewrites` lists the ways in which a bound value is set.
-/

namespace RecordFilter

open Sql (Params)
open Plan (itemsParam)
open Root (itemsName)

/-! ## Patterns -/

namespace Json

/-- A value as the pattern of the texts that contain it; one with a wildcard is left alone. -/
def asPattern (v : Json) : Json :=
  if Wildcard.hasWildcard v.plainText.toList then v
  else .text (String.ofList (Wildcard.containing v.plainText.toList))

theorem asPattern_comp : asPattern ∘ asPattern = asPattern := by
  funext v
  have h : Wildcard.hasWildcard v.asPattern.plainText.toList = true := by
    unfold asPattern
    split
    · assumption
    · rw [plainText, String.toList_ofList]
      exact Wildcard.hasWildcard_containing _
  exact if_pos h

end Json

namespace Sql.Params

variable {ps : Params} {name k : String} {names : List String}

theorem find?_patternParam :
    (patternParam ps name).find? k =
      if k = name then (ps.find? k).map Json.asPattern else ps.find? k := by
  split
  · next h =>
    subst h
    unfold patternParam Json.asPattern
    split
    · next hf => rw [hf]; rfl
    · next v hf =>
      rw [hf]
      simp only [Option.map_some]
      split
      · exact hf
      · rw [find?_update, if_pos ⟨rfl, mem_names_of_find? hf⟩]
  · next h => exact find?_patternParam_of_ne h

theorem find?_patterns :
    (names.foldl patternParam ps).find? k =
      if k ∈ names then (ps.find? k).map Json.asPattern else ps.find? k := by
  induction names generalizing ps with
  | nil => rfl
  | cons name names ih =>
    rw [List.foldl_cons, ih, find?_patternParam]
    by_cases hk : k = name <;> by_cases hm : k ∈ names <;>
      simp [hk, hm, Option.map_map, Json.asPattern_comp]

end Sql.Params

def Operator.isLike : Operator → Bool
  | like | notLike => true
  | _ => false

namespace Builder

variable {b : Builder} {name : String} {v : Json}

theorem find?_compare (b : Builder) (op : Operator) (left right : Resolution) (name : String) :
    (b.compare op left right).2.resolver.params.find? name =
      if op.isLike = true ∧ name ∈ right.params then
        (b.resolver.params.find? name).map Json.asPattern
      else b.resolver.params.find? name := by
  show (comparisonParams op right b.resolver.params).find? name = _
  cases op with
  | like | notLike => simp [comparisonParams, Params.find?_patterns, Operator.isLike]
  | _ => rfl

/-- A comparison of two sides changes parameters of its right side only, guarded or not. -/
theorem find?_comparison (b : Builder) (left right : Resolution) (c : Comparator) (name : String) :
    (b.comparison left c right).2.resolver.params.find? name =
      if c.operator.isLike = true ∧ name ∈ right.params then
        (b.resolver.params.find? name).map Json.asPattern
      else b.resolver.params.find? name := by
  have hplain := find?_compare b c.operator left right name
  unfold comparison
  simp only
  split
  · next insideLeft insideRight guardWith ha hg =>
    have hsub := params_of_guardOf hg
    simp only
    rw [find?_compare, hplain]
    -- inside the guard a pattern is made once more, of the same parameters or of none
    by_cases hin : c.operator.isLike = true ∧ name ∈ insideRight.params
    · rw [if_pos hin, if_pos ⟨hin.1, hsub hin.2⟩, Option.map_map, Json.asPattern_comp]
    · rw [if_neg hin]
  · exact hplain

end Builder

/-! ## Operands -/

namespace Resolver

variable {r : Resolver} {path name : String} {v : Json}

/-- The value of a bound name after a path, whether it resolves or not: a path that is carried out
binds the names of its plan anew. -/
theorem find?_resolve_of_bound (hv : r.params.find? name = some v) :
    (r.resolve path).2.params.find? name =
      if Path.isWellFormed path = true ∧ r.allowed.admits path = true then
        (Json.find? name (Plan.ofPath r.scope path).bindings).or (some v)
      else some v := by
  have resolved {res : Resolution} (h : (r.resolve path).1 = .ok res) :
      (r.resolve path).2.params.find? name =
        (Json.find? name (Plan.ofPath r.scope path).bindings).or (some v) := by
    rcases find?_of_resolved h name with ⟨-, hn⟩ | hf
    · rw [hv] at hn; cases hn
    · rw [hf, hv]
  rcases resolve_cases r path with ⟨⟨e, he⟩, hn⟩ | ⟨hw, ha, hr⟩
  · rw [if_neg hn, he, hv]
  · rw [if_pos ⟨hw, ha⟩]
    rcases commit_cases r (Plan.ofPath r.scope path) with ⟨e, hc, -⟩ | ⟨joins, res, -, -, hc⟩ |
      ⟨joins, w, lower, -, -, hc⟩ <;> rw [hc] at hr
    · -- a path that fails takes back only the names that it added
      rw [hr]
      show ((setAll r.params (Plan.ofPath r.scope path).bindings).rollback r.params.mark).find? name
        = _
      have hnodup := (Plan.safe_ofPath r.scope path).nodup
      rw [find?_rollback_setAll hnodup (Params.mem_names_of_find? hv), hv]
    · exact resolved (congrArg Prod.fst hr)
    · exact resolved (congrArg Prod.fst hr)

end Resolver

def Resolution.IsPlaceholder (res : Resolution) (name : String) : Prop :=
  res.value = .param name ∨ res.value = .lower (.param name)

namespace Operand

def Binds (r : Resolver) (name : String) (w : Json) : Operand → Prop
  | field path => Path.isWellFormed path = true ∧ r.allowed.admits path = true ∧
      (name, w) ∈ (Plan.ofPath r.scope path).bindings
  | _ => False

/-- An operand lists the items that are bound under a name: it is the path to the items submitted for
a field of the base. -/
inductive ListsItems (s : Scope) (name : String) : Operand → Prop
  | intro {path last key : String} {request : Request} {f : Field}
      (hs : Plan.segmentsOf path = ["@request", "body", last])
      (hm : splitModifier last = .ok (key, some .each)) (hq : s.request = some request)
      (hf : s.base.field? key = some f) (hk : f.kind.holdsItems = true)
      (hn : name = itemsParam (itemsName key)) : ListsItems s name (.field path)

variable {r r' : Resolver} {o : Operand} {name : String} {v w : Json}

theorem Binds.unique (h : o.Binds r name v) (h' : o.Binds r name w) : v = w := by
  cases o with
  | field path =>
    have hn := (Plan.safe_ofPath r.scope path).nodup
    exact Option.some.inj ((Json.find?_of_mem hn h.2.2).symm.trans (Json.find?_of_mem hn h'.2.2))
  | _ => cases h

theorem ListsItems.text_of_binds {s : Scope} {path : String} (h : o.ListsItems s name)
    (hb : Plan.Binds s path name w) : ∃ request key, w = .text (Plan.itemsText request key) := by
  cases h with
  | intro _ _ _ _ _ hn =>
    cases hb with
    | auth => exact absurd hn Root.authName_ne_itemsParam
    | submitted => exact absurd hn.symm Root.itemsParam_ne_submittedParam
    | items => exact ⟨_, _, rfl⟩

theorem binds_congr (hs : r'.scope = r.scope) (ha : r'.allowed = r.allowed) :
    o.Binds r' name w ↔ o.Binds r name w := by
  cases o with
  | field path => rw [Binds, Binds, hs, ha]
  | _ => exact Iff.rfl

end Operand

namespace Builder

variable {b : Builder} {o left right : Operand} {c : Comparator} {name : String} {v w : Json}
  {res : Resolution}

theorem scope_operand (b : Builder) (o : Operand) :
    (b.operand o).2.resolver.scope = b.resolver.scope ∧
      (b.operand o).2.resolver.allowed = b.resolver.allowed :=
  have hs := (steps_operand b o).1
  ⟨Resolver.scope_steps hs, Resolver.allowed_steps hs⟩

theorem resolver_operand_field (b : Builder) (path : String) :
    (b.operand (.field path)).2.resolver = (b.resolver.resolve path).2 := by
  unfold operand
  simp only
  split
  · next h => rw [h]
  · next h => rw [h]

theorem find?_literal_of_bound (value : Json) (hv : b.resolver.params.find? name = some v) :
    (b.literal value).2.resolver.params.find? name = some v := by
  have hne : name ≠ Params.generated b.resolver.params.nextNumber := by
    rintro rfl
    exact Params.generated_nextNumber _ (Params.mem_names_of_find? hv)
  show (b.resolver.params.bind value).2.find? name = some v
  rw [Params.find?_bind, if_neg hne, hv]

/-- A bound name has the value after an operand that the operand binds, or the one before. -/
theorem find?_operand (o : Operand) (hv : b.resolver.params.find? name = some v) :
    (∃ w, o.Binds b.resolver name w ∧ (b.operand o).2.resolver.params.find? name = some w) ∨
      (∀ w, ¬ o.Binds b.resolver name w) ∧
        (b.operand o).2.resolver.params.find? name = some v := by
  cases o with
  | field path =>
    rw [resolver_operand_field, Resolver.find?_resolve_of_bound hv]
    split
    · next hp =>
      cases hb : Json.find? name (Plan.ofPath b.resolver.scope path).bindings with
      | some w => exact .inl ⟨w, ⟨hp.1, hp.2, Json.mem_of_find? hb⟩, rfl⟩
      | none =>
        refine .inr ⟨fun w hw => Json.find?_eq_none_iff.1 hb ?_, rfl⟩
        exact List.mem_map_of_mem hw.2.2
    · next hp => exact .inr ⟨fun w hw => hp ⟨hw.1, hw.2.1⟩, rfl⟩
  | text t => exact .inr ⟨fun _ => id, find?_literal_of_bound _ hv⟩
  | number x => exact .inr ⟨fun _ => id, find?_literal_of_bound _ hv⟩
  | bool | null => exact .inr ⟨fun _ => id, hv⟩

/-- The parameters of an operand are its own placeholder, under a generated name that was free, or
they are submitted items that it lists. -/
theorem params_operand {b₁ : Builder} (h : b.operand o = (.ok res, b₁)) (hn : name ∈ res.params) :
    (res.IsPlaceholder name ∧ (∃ n, name = Params.generated n) ∧
        b.resolver.params.find? name = none) ∨
      o.ListsItems b.resolver.scope name := by
  have own {ps : Params} {lower : Bool} (hps : b.resolver.params.names ⊆ ps.names)
      (hn : name ∈ (Resolver.boundResolution (Params.generated ps.nextNumber) lower).params) :
      (Resolver.boundResolution (Params.generated ps.nextNumber) lower).IsPlaceholder name ∧
        (∃ n, name = Params.generated n) ∧ b.resolver.params.find? name = none := by
    obtain rfl := List.mem_singleton.1 hn
    refine ⟨?_, ⟨_, rfl⟩,
      Params.find?_eq_none_iff.2 fun hm => Params.generated_nextNumber ps (hps hm)⟩
    cases lower
    · exact .inl rfl
    · exact .inr rfl
  cases o with
  | field path =>
    have hr := (resolve_of_operand h).1
    rcases Resolver.resolve_outcomes b.resolver path with ⟨e, ps, he, -⟩ | ⟨joins, res', -, ho, he⟩ |
      ⟨joins, v, lower, -, -, he⟩
    · rw [he] at hr; cases hr
    · rw [he] at hr
      cases hr
      right
      have hk := Plan.kind_ofPath b.resolver.scope path
      generalize Plan.ofPath b.resolver.scope path = p at hk ho
      cases hk with
      | fail | bound => cases ho
      | constant => cases ho; cases hn
      | below =>
        obtain ⟨route, extra, outcome, -, hp, hf⟩ := Plan.below_laid b.resolver.scope path _ _
        rw [hp] at ho
        obtain ⟨res', he, hnil⟩ := hf _ ho
        cases he
        rw [hnil] at hn
        cases hn
      | items hq hf hk hs hm =>
        cases ho
        exact .intro hs hm hq hf hk (List.mem_singleton.1 hn)
    · rw [he] at hr
      cases hr
      exact .inl (own (Resolver.subset_names_setAll _ _) hn)
  | text | number =>
    cases h
    exact .inl (own (List.Subset.refl _) hn)
  | bool | null => cases h; cases hn

theorem resolved_of_listsItems {b₁ : Builder} (h : b.operand o = (.ok res, b₁))
    (hl : o.ListsItems b.resolver.scope name) :
    name ∈ res.params ∧ ∃ w, o.Binds b.resolver name w := by
  cases hl with
  | @intro path last key request f hs hm hq hf hk hn =>
    obtain ⟨⟨hw, ha⟩, -, o, ho, hy, -⟩ := Resolver.resolved_cases (resolve_of_operand h).1
    have hp := Plan.ofPath_of_items hs hm hq hf hk
    rw [hp] at ho
    cases ho
    cases hy
    refine ⟨List.mem_singleton.2 hn, .text (Plan.itemsText request key), hw, ha, ?_⟩
    rw [hp, hn]
    exact List.mem_singleton.2 rfl

theorem find?_of_listsItems {b₁ : Builder} (h : b.operand o = (.ok res, b₁))
    (hl : o.ListsItems b.resolver.scope name) :
    ∃ request key,
      b₁.resolver.params.find? name = some (.text (Plan.itemsText request key)) := by
  obtain ⟨w, hb⟩ := (resolved_of_listsItems h hl).2
  cases o with
  | field path =>
    obtain ⟨hr, hb₁⟩ := resolve_of_operand h
    have hname : ∀ n, name ≠ Params.generated n := (Plan.binds_of_mem hb.2.2).ne_generated
    have hw := Json.find?_of_mem (Plan.safe_ofPath b.resolver.scope path).nodup hb.2.2
    obtain ⟨request, key, rfl⟩ := hl.text_of_binds (Plan.binds_of_mem hb.2.2)
    refine ⟨request, key, ?_⟩
    rcases Resolver.find?_of_resolved hr name with ⟨⟨n, hg⟩, -⟩ | hfind
    · exact absurd hg (hname n)
    · rw [hb₁, hfind, hw]
      rfl
  | _ => cases hb

/-! ## Comparisons -/

def MakesPattern (b : Builder) (left : Operand) (c : Comparator) (right : Operand)
    (name : String) : Prop :=
  c.operator.isLike = true ∧ right.ListsItems b.resolver.scope name ∧
    ∃ res, ((b.operand left).2.operand right).1 = .ok res

/-- The ways in which a comparison sets a parameter that is bound before it. -/
inductive Rewrites (b : Builder) (left : Operand) (c : Comparator) (right : Operand)
    (name : String) : Json → Prop
  /-- The left side binds the name, and the right side does not or is not reached. -/
  | left {w : Json} (hl : left.Binds b.resolver name w)
      (hr : ∀ l, (b.operand left).1 = .ok l → ∀ u, ¬ right.Binds b.resolver name u) :
      Rewrites b left c right name w
  | right {l : Resolution} {w : Json} (hl : (b.operand left).1 = .ok l)
      (hr : right.Binds b.resolver name w) (hp : ¬ b.MakesPattern left c right name) :
      Rewrites b left c right name w
  /-- The right side binds the name for its items, and they are made a pattern. -/
  | pattern {l : Resolution} {w : Json} (hl : (b.operand left).1 = .ok l)
      (hr : right.Binds b.resolver name w) (hp : b.MakesPattern left c right name) :
      Rewrites b left c right name w.asPattern

theorem Rewrites.unique (h : b.Rewrites left c right name v) (h' : b.Rewrites left c right name w) :
    v = w := by
  cases h with
  | left hl hr =>
    cases h' with
    | left hl' _ => exact hl.unique hl'
    | right hok hb | pattern hok hb => exact absurd hb (hr _ hok _)
  | right hok hb hp =>
    cases h' with
    | left _ hr => exact absurd hb (hr _ hok _)
    | right _ hb' _ => exact hb.unique hb'
    | pattern _ _ hp' => exact absurd hp' hp
  | pattern hok hb hp =>
    cases h' with
    | left _ hr => exact absurd hb (hr _ hok _)
    | right _ _ hp' => exact absurd hp hp'
    | pattern _ hb' _ => rw [hb.unique hb']

/-- The parameters of the right side that are bound before are made patterns where it lists them. -/
theorem makesPattern_iff {l : Resolution} {bl br : Builder} (hl : b.operand left = (.ok l, bl))
    (hr : bl.operand right = (.ok res, br)) (hv : bl.resolver.params.find? name = some v) :
    c.operator.isLike = true ∧ name ∈ res.params ↔ b.MakesPattern left c right name := by
  have hscope : bl.resolver.scope = b.resolver.scope := by
    have hs := (scope_operand b left).1
    rwa [hl] at hs
  unfold MakesPattern
  rw [hl, ← hscope]
  constructor
  · rintro ⟨hlike, hn⟩
    rcases params_operand hr hn with ⟨-, -, hfree⟩ | hlists
    · rw [hv] at hfree; cases hfree
    · exact ⟨hlike, hlists, res, by rw [hr]⟩
  · rintro ⟨hlike, hlists, -⟩
    exact ⟨hlike, (resolved_of_listsItems hr hlists).1⟩

theorem find?_build_comparison (left : Operand) (c : Comparator) (right : Operand)
    (hv : b.resolver.params.find? name = some v) :
    (∃ w, b.Rewrites left c right name w ∧
        (b.build (.comparison left c right)).2.resolver.params.find? name = some w) ∨
      (∀ w, ¬ b.Rewrites left c right name w) ∧
        (b.build (.comparison left c right)).2.resolver.params.find? name = some v := by
  have hleft := find?_operand left hv
  unfold build
  split
  · next e bl hl =>
    -- the right side is not reached
    rw [hl] at hleft
    have hok (l : Resolution) : (b.operand left).1 ≠ .ok l := by rw [hl]; simp
    rcases hleft with ⟨w, hb, hf⟩ | ⟨hnone, hf⟩
    · exact .inl ⟨w, .left hb fun l hlok => absurd hlok (hok l), hf⟩
    · refine .inr ⟨fun w hw => ?_, hf⟩
      cases hw with
      | left hb _ => exact hnone w hb
      | right hlok | pattern hlok => exact hok _ hlok
  · next l bl hl =>
    rw [hl] at hleft
    have hlok : (b.operand left).1 = .ok l := by rw [hl]
    obtain ⟨v₁, hv₁⟩ : ∃ v₁, bl.resolver.params.find? name = some v₁ := by
      rcases hleft with ⟨w, -, hf⟩ | ⟨-, hf⟩ <;> exact ⟨_, hf⟩
    obtain ⟨hscope, hallowed⟩ := scope_operand b left
    rw [hl] at hscope hallowed
    have hbinds (w : Json) : right.Binds bl.resolver name w ↔ right.Binds b.resolver name w :=
      Operand.binds_congr hscope hallowed
    have hright := find?_operand right hv₁
    simp only [hbinds] at hright
    -- what the left side leaves, if the right side leaves it too
    have hkept (hnone : ∀ w, ¬ right.Binds b.resolver name w) :
        (∃ w, b.Rewrites left c right name w ∧ v₁ = w) ∨
          (∀ w, ¬ b.Rewrites left c right name w) ∧ v₁ = v := by
      rw [hv₁] at hleft
      rcases hleft with ⟨w, hb, hf⟩ | ⟨hn, hf⟩
      · exact .inl ⟨w, .left hb fun _ _ => hnone, Option.some.inj hf⟩
      · refine .inr ⟨fun w hw => ?_, Option.some.inj hf⟩
        cases hw with
        | left hb _ => exact hn w hb
        | right _ hb | pattern _ hb => exact hnone _ hb
    split
    · next e br hr =>
      rw [hr] at hright
      have hp : ¬ b.MakesPattern left c right name := by
        rintro ⟨-, -, res, hres⟩
        rw [hl, hr] at hres
        cases hres
      rcases hright with ⟨w, hb, hf⟩ | ⟨hnone, hf⟩
      · exact .inl ⟨w, .right hlok hb hp, hf⟩
      · simpa only [hf, Option.some.injEq] using hkept hnone
    · next res br hr =>
      rw [hr] at hright
      have hpattern := makesPattern_iff (c := c) hl hr hv₁
      have hc := find?_comparison br l res c name
      rcases hright with ⟨w, hb, hf⟩ | ⟨hnone, hf⟩
      · left
        by_cases hp : b.MakesPattern left c right name
        · rw [if_pos (hpattern.2 hp), hf] at hc
          exact ⟨_, .pattern hlok hb hp, hc⟩
        · rw [if_neg (mt hpattern.1 hp), hf] at hc
          exact ⟨w, .right hlok hb hp, hc⟩
      · have hp : ¬ b.MakesPattern left c right name := by
          rintro ⟨-, hlists, -⟩
          rw [← hscope] at hlists
          obtain ⟨w, hb⟩ := (resolved_of_listsItems hr hlists).2
          exact hnone w ((hbinds w).1 hb)
        rw [if_neg (mt hpattern.1 hp), hf] at hc
        simpa only [hc, Option.some.injEq] using hkept hnone

/-- A comparison keeps the value of a bound parameter if and only if it does not set it to another
one. Whatever it is built from, the comparison of the two sides, guarded or not, changes a parameter
only where texts are compared, and then it is the placeholder that the right side is, or the list of
submitted items that the right side lists. -/
theorem build_comparison_keeps_iff (b : Builder) (left : Operand) (c : Comparator)
    (right : Operand) :
    (∀ name v, b.resolver.params.find? name = some v →
      ((b.build (.comparison left c right)).2.resolver.params.find? name = some v ↔
        ∀ w, b.Rewrites left c right name w → w = v)) ∧
    ∀ l bl res br, b.operand left = (.ok l, bl) → bl.operand right = (.ok res, br) →
      ∀ name, (br.comparison l c res).2.resolver.params.find? name ≠
          br.resolver.params.find? name →
        c.operator.isLike = true ∧
          (res.IsPlaceholder name ∨ right.ListsItems b.resolver.scope name) := by
  constructor
  · intro name v hv
    rcases find?_build_comparison left c right hv with ⟨w, hw, hf⟩ | ⟨hnone, hf⟩
    · rw [hf, Option.some.injEq]
      exact ⟨fun h u hu => by rw [hu.unique hw, h], fun h => h w hw⟩
    · exact iff_of_true hf fun w hw => absurd hw (hnone w)
  · intro l bl res br hl hr name hne
    rw [find?_comparison] at hne
    split at hne
    · next hc =>
      refine ⟨hc.1, (params_operand hr hc.2).imp And.left fun h => ?_⟩
      have hscope := (scope_operand b left).1
      rw [hl] at hscope
      rwa [hscope] at h
    · exact absurd rfl hne

def afterTags : Builder := (build { resolver := Filter.taggedResolver } Filter.tagIsTitle).2

set_option maxRecDepth 4000 in
/-- Looking for the submitted tags in the title makes a pattern of the list that a join reads. -/
theorem build_comparison_changes_tags :
    Filter.tagged.toCatalog = .ok Filter.taggedCatalog ∧
      (build { resolver := Filter.taggedResolver } Filter.tagIsTitle).1.isOk = true ∧
      (∃ j ∈ afterTags.resolver.joins, j.source = .items (.param "__dataEach_tags_je__items")) ∧
      afterTags.resolver.params.find? "__dataEach_tags_je__items" = some (.text "[\"x\"]") ∧
      (afterTags.build Filter.titleHasTag).1.isOk = true ∧
      (afterTags.build Filter.titleHasTag).2.resolver.params.find? "__dataEach_tags_je__items" =
        some (.text "%[\"x\"]%") :=
  ⟨rfl, rfl, ⟨_, List.mem_singleton.2 rfl, rfl⟩, rfl, rfl, rfl⟩

set_option maxRecDepth 4000 in
theorem build_comparison_keeps_tags :
    afterTags.resolver.params.find? "__dataEach_tags_je__items" = some (.text "[\"x\"]") ∧
      (afterTags.build (.comparison (.field "title") ⟨.like, false⟩
        (.text "x"))).2.resolver.params.find? "__dataEach_tags_je__items" =
        some (.text "[\"x\"]") := by
  refine ⟨rfl, ((build_comparison_keeps_iff afterTags (.field "title") ⟨.like, false⟩
    (.text "x")).1 _ _ rfl).2 fun w hw => ?_⟩
  have hb : (Plan.ofPath afterTags.resolver.scope "title").bindings = [] := rfl
  cases hw with
  | left hl =>
    have hm := hl.2.2
    rw [hb] at hm
    cases hm
  | right _ hr | pattern _ hr => exact hr.elim

end Builder

end RecordFilter
