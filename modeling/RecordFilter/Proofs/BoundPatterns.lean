import RecordFilter.Proofs.Equality
import RecordFilter.Proofs.Wildcards

/-!
# Patterns that are bound

The right side of a text comparison is bound as a pattern. It is well formed, since backslashes are
added where a character is missing after one; only a value with an unescaped percent sign is left as
it is, and so is a backslash at its end (`Builder.hasPattern_build`). What is said of a bound
value holds until the whole filter is built if the paths bind nothing else under its name and
patterns are made of it in the same way (`Sql.Params.Holds.steps`).
-/

namespace RecordFilter

open Sql (Expr Test Condition Params)
open Plan (itemsParam)
open Root (itemsName)
open Wildcard (Unescaped)

/-! ## Escapes at the end -/

namespace Wildcard

variable {s : List Char}

/-- Whether a text ends in a backslash that no backslash stands before to take its meaning. -/
def EndsInEscape (s : List Char) : Prop :=
  ∃ before, s = before ++ ['\\'] ∧ (marks? before).isSome = true

theorem endsInEscape_iff : EndsInEscape s ↔ marks? s = none := by
  constructor
  · rintro ⟨before, rfl, h⟩
    obtain ⟨ms, hms⟩ := Option.isSome_iff_exists.1 h
    rw [marks?_append hms]
    rfl
  · intro h
    fun_induction marks? s with
    | case1 => cases h
    | case2 => exact ⟨[], rfl, rfl⟩
    | case3 c rest ih =>
      obtain ⟨before, rfl, hb⟩ := ih (Option.map_eq_none_iff.1 h)
      exact ⟨'\\' :: c :: before, rfl, by rwa [marks?, Option.isSome_map]⟩
    | case4 c cs hc ih =>
      obtain ⟨before, rfl, hb⟩ := ih (Option.map_eq_none_iff.1 h)
      exact ⟨c :: before, rfl, by rwa [marks?_cons hc, Option.isSome_map]⟩

theorem EndsInEscape.eq_backslash {c : Char} {before : List Char}
    (h : EndsInEscape (before ++ [c])) : c = '\\' := by
  obtain ⟨_, hs, -⟩ := h
  exact List.singleton_inj.1 (List.append_inj_right' hs rfl)

/-- A text with a wildcard of its own stays as it is, and any other one becomes well formed. -/
theorem endsInEscape_containing :
    EndsInEscape (containing s) ↔ Unescaped '%' s ∧ EndsInEscape s := by
  by_cases h : hasWildcard s = true
  · rw [containing, if_pos h, and_iff_right (hasWildcard_iff.1 h)]
  · rw [endsInEscape_iff, marks?_containing (Bool.eq_false_iff.2 h)]
    exact iff_of_false (by simp) fun hs => h (hasWildcard_iff.2 hs.1)

end Wildcard

open Wildcard (EndsInEscape)

namespace Json

variable {v : Json}

theorem plainText_asPattern :
    v.asPattern.plainText.toList = Wildcard.containing v.plainText.toList := by
  unfold asPattern
  split
  · next h => rw [Wildcard.containing, if_pos h]
  · rw [plainText, String.toList_ofList]

theorem endsInEscape_asPattern :
    EndsInEscape v.asPattern.plainText.toList ↔
      Unescaped '%' v.plainText.toList ∧ EndsInEscape v.plainText.toList := by
  rw [plainText_asPattern, Wildcard.endsInEscape_containing]

theorem itemsTail_eq_append (items : List Json) : ∃ before, itemsTail items = before ++ [']'] := by
  induction items with
  | nil => exact ⟨[], rfl⟩
  | cons item items ih =>
    obtain ⟨before, h⟩ := ih
    exact ⟨',' :: chars item ++ before, by rw [itemsTail, h, List.append_assoc]⟩

theorem not_endsInEscape_list (items : List Json) :
    ¬ EndsInEscape (Json.list items).compact.toList := by
  obtain ⟨before, h⟩ : ∃ before, (Json.list items).chars = before ++ [']'] := by
    cases items with
    | nil => exact ⟨['['], rfl⟩
    | cons item items =>
      obtain ⟨before, h⟩ := itemsTail_eq_append items
      exact ⟨'[' :: chars item ++ before, by rw [chars, h, List.append_assoc]⟩
  rw [compact, String.toList_ofList, h]
  exact fun he => absurd he.eq_backslash (by decide)

end Json

/-! ## Values that stay -/

namespace Sql.Params

variable {ps : Params} {name : String} {P : Json → Prop}

def Holds (ps : Params) (name : String) (P : Json → Prop) : Prop :=
  ∃ v, ps.find? name = some v ∧ P v

theorem Holds.patterns {names : List String} (h : ps.Holds name P)
    (hp : ∀ v, P v → P v.asPattern) : (names.foldl patternParam ps).Holds name P := by
  obtain ⟨v, hv, hPv⟩ := h
  unfold Holds
  rw [find?_patterns, hv]
  split
  · exact ⟨_, rfl, hp v hPv⟩
  · exact ⟨_, rfl, hPv⟩

variable {r r' : Resolver}

/-- A path binds a value with the property or leaves the one there is. -/
theorem Holds.step (hs : Resolver.Step r r') (h : r.params.Holds name P)
    (hb : ∀ path v, Plan.Binds r.scope path name v → P v) (hp : ∀ v, P v → P v.asPattern) :
    r'.params.Holds name P := by
  cases hs with
  | path path =>
    obtain ⟨v, hv, hPv⟩ := h
    unfold Holds
    rw [Resolver.find?_resolve_of_bound hv]
    split
    · cases hf : Json.find? name (Plan.ofPath r.scope path).bindings with
      | none => exact ⟨v, rfl, hPv⟩
      | some w => exact ⟨w, rfl, hb path w (Plan.binds_of_mem (Json.mem_of_find? hf))⟩
    · exact ⟨v, rfl, hPv⟩
  | literal w =>
    obtain ⟨v, hv, hPv⟩ := h
    refine ⟨v, ?_, hPv⟩
    have hne : name ≠ generated r.params.nextNumber := by
      rintro rfl
      exact generated_nextNumber _ (mem_names_of_find? hv)
    show (r.params.bind w).2.find? name = some v
    rw [find?_bind, if_neg hne, hv]
  | @pattern k _ => exact @Holds.patterns _ _ _ [k] h hp

theorem Holds.steps (hs : Resolver.Steps r r') (h : r.params.Holds name P)
    (hb : ∀ path v, Plan.Binds r.scope path name v → P v) (hp : ∀ v, P v → P v.asPattern) :
    r'.params.Holds name P := by
  induction hs with
  | refl => exact h
  | tail hsteps hstep ih =>
    refine ih.step hstep (fun path v hv => hb path v ?_) hp
    rwa [Resolver.scope_steps hsteps] at hv

end Sql.Params

/-! ## Filters -/

/-- The pattern of a text comparison. A literal or a value of the request on the right is bound as
what the test matches; it ends in an escape if and only if the value has an unescaped percent sign,
so that it is used as it is, and ends in one. Items that are listed on the right never do. -/
structure Comparison.HasPattern (s : Scope) (params : Params) (q : Comparison) (part : Condition) :
    Prop where
  bound : ∀ v lower, q.right.outcome? s = some (.bound v lower) →
    ∃ n l w, part.test? = some (.matchesPattern (q.comparator.operator == .notLike) l
        (Resolver.boundResolution (Params.generated n) lower).value) ∧
      params.find? (Params.generated n) = some w ∧
      (Unescaped '%' v.plainText.toList → w = v) ∧
      (EndsInEscape w.plainText.toList ↔
        Unescaped '%' v.plainText.toList ∧ EndsInEscape v.plainText.toList)
  listed : ∀ name, q.right.ListsItems s name →
    params.Holds name fun w => ¬ EndsInEscape w.plainText.toList

namespace Builder

variable {b b' b₁ : Builder} {o : Operand} {l r res : Resolution} {name : String}

theorem matchesPattern_of_isLike {op : Operator} {params : Params} (hop : op.isLike = true)
    (hr : r.params ≠ []) :
    comparisonTest op l r params = .matchesPattern (op == .notLike) l.value r.value := by
  have hne : r.params.isEmpty = false := by simpa using hr
  cases op with
  | like | notLike =>
    simp only [comparisonTest, likeTest, hne]
    rfl
  | _ => cases hop

/-- Every text comparison of a filter has its pattern bound when the filter is built. -/
theorem hasPattern_build {f : Filter} {cond : Condition} (h : b.build f = (.ok cond, b')) :
    List.Forall₂ (fun q part => q.comparator.operator.isLike = true →
        q.HasPattern b.resolver.scope b'.resolver.params part)
      f.comparisons cond.parts := by
  refine (built_build f h).imp ?_
  rintro q part ⟨l, r, hq⟩ hop
  cases hq with
  | @intro c b₁ b₂ hs hl hr he =>
    have hscope : b₁.resolver.scope = b.resolver.scope := by
      rw [← Resolver.scope_steps hs, ← (scope_operand c q.left).1, hl]
    have hstop := steps_build b f
    rw [h] at hstop
    -- the comparison makes a pattern of its parameters, and the rest of the filter leaves it
    have hkept {P : Json → Prop} {name : String} {v : Json} (hn : name ∈ r.params)
        (hv : b₂.resolver.params.find? name = some v) (hPv : P v.asPattern)
        (hb : ∀ path w, Plan.Binds b.resolver.scope path name w → P w)
        (hp : ∀ w, P w → P w.asPattern) : b'.resolver.params.Holds name P := by
      refine Params.Holds.steps he ⟨v.asPattern, ?_, hPv⟩ ?_ hp
      · rw [find?_comparison, if_pos ⟨hop, hn⟩, hv, Option.map_some]
      · rwa [← Resolver.scope_steps he, Resolver.scope_steps hstop]
    refine ⟨fun v lower ho => ?_, fun name hlists => ?_⟩
    · have hres := resolves_operand hr
      rw [hscope] at hres
      cases hres with
      | fixed ho' => rw [ho] at ho'; cases ho'
      | @bound n v' lower' ho' hf =>
        cases ho.symm.trans ho'
        obtain ⟨w, hw, rfl⟩ := hkept (P := (· = v.asPattern)) List.mem_cons_self hf rfl
          (fun path w hb => absurd rfl (hb.ne_generated n))
          (by rintro _ rfl; exact congrFun Json.asPattern_comp v)
        refine ⟨n, l.value, _, ?_, hw, fun hs => ?_, Json.endsInEscape_asPattern⟩
        · rw [(test?_comparison b₂ l q.comparator _).1,
            matchesPattern_of_isLike hop (List.cons_ne_nil _ _)]
        · rw [Json.asPattern, if_pos (Wildcard.hasWildcard_iff.2 hs)]
    · have hlists' := hscope ▸ hlists
      obtain ⟨request, key, hv⟩ := find?_of_listsItems hr hlists'
      refine hkept (resolved_of_listsItems hr hlists').1 hv
        (fun he => Json.not_endsInEscape_list _ (Json.endsInEscape_asPattern.1 he).2)
        (fun path w hb => ?_) (fun w hw he => hw (Json.endsInEscape_asPattern.1 he).2)
      obtain ⟨request, key, rfl⟩ := hlists.text_of_binds hb
      exact Json.not_endsInEscape_list _

def titledLike (s : String) : Filter := .comparison (.field "title") ⟨.like, false⟩ (.text s)

set_option maxRecDepth 4000 in
theorem hasPattern_build_backslash :
    ∃ b', documentedBuilder.build (titledLike "a\\") =
        (.ok (.test (.matchesPattern false (.column "posts" "title") (.param "p1"))), b') ∧
      EndsInEscape "a\\".toList ∧
      ∃ w, b'.resolver.params.find? "p1" = some w ∧ ¬ EndsInEscape w.plainText.toList := by
  obtain ⟨b', h⟩ : ∃ b', documentedBuilder.build (titledLike "a\\") =
      (.ok (.test (.matchesPattern false (.column "posts" "title") (.param "p1"))), b') := ⟨_, rfl⟩
  have hall := hasPattern_build h
  rw [titledLike, Filter.comparisons, Condition.parts, List.forall₂_cons] at hall
  · obtain ⟨n, l, w, ht, hw, -, hiff⟩ := (hall.1 rfl).bound _ _ rfl
    obtain ⟨-, -, hn⟩ := Test.matchesPattern.inj (Option.some.inj ht)
    rw [← Expr.param.inj hn] at hw
    refine ⟨b', h, ⟨['a'], rfl, rfl⟩, w, hw, fun he => ?_⟩
    exact Bool.eq_false_iff.1 rfl (Wildcard.hasWildcard_iff.2 (hiff.1 he).1)
  · simp

set_option maxRecDepth 4000 in
/-- A text with a percent sign is a pattern as it is, with the backslash at its end. -/
theorem pattern_endsInEscape :
    documented.toCatalog = .ok documentedCatalog ∧
      ∃ b', documentedBuilder.build (titledLike "50%\\") =
          (.ok (.test (.matchesPattern false (.column "posts" "title") (.param "p1"))), b') ∧
        b'.resolver.params.find? "p1" = some (.text "50%\\") ∧
        EndsInEscape "50%\\".toList :=
  ⟨rfl, _, rfl, rfl, ['5', '0', '%'], rfl, rfl⟩

end Builder

end RecordFilter
