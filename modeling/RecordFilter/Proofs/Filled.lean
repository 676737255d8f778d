import RecordFilter.Proofs.Elements
import RecordFilter.Proofs.Items

/-!
# Sides that are compared as they are

A side that is taken to be filled is compared without coalescing. A constant or a bound value that
is not blank is neither NULL nor empty in any row. Submitted items are judged by the text of their
whole list, which is not blank even if the list is empty; then the left join of the items has only
NULL (`Builder.filled_side_iff`).
-/

namespace RecordFilter

open Sql (Expr Test Guard Listing Condition Row Value Truth Params Database)
open Plan (itemsParam)
open Root (itemsName)
open Resolver (Steps)

/-! ## Submitted items -/

section Items

variable {item key : String}

theorem Submitted.ne_empty_of_mem_items {submitted : Submitted} (h : item ∈ submitted.items) :
    item ≠ "" := by
  cases submitted with
  | plain v => exact (mem_distinctItems.1 h).2
  | raw document =>
    change item ∈ ((Json.parse document).map Json.items).getD [] at h
    cases hp : Json.parse document with
    | none => simp [hp] at h
    | some v =>
      rw [hp] at h
      exact (mem_distinctItems.1 h).2

theorem Request.ne_empty_of_mem_itemsOf {request : Request} (h : item ∈ request.itemsOf key) :
    item ≠ "" := by
  unfold itemsOf at h
  cases hb : Json.find? key request.body with
  | none => simp [hb] at h
  | some submitted =>
    rw [hb] at h
    exact Submitted.ne_empty_of_mem_items h

end Items

namespace Plan

variable {s : Scope} {q key : String} {j k : Sql.Join}

theorem Laid.isTable_or {c : Collection} {parent : String} {names : List String}
    (h : Laid s c parent names j) :
    j.source.isTable = true ∨
      ∃ table field name, j = itemsJoin (.column table field) name := by
  induction h with
  | @table c parent a l j hl hj hn =>
    cases l with
    | multiple target field =>
      rcases List.mem_cons.1 hj with rfl | hj
      · exact .inr ⟨_, _, _, rfl⟩
      · exact .inl (List.mem_singleton.1 hj ▸ rfl)
    | single | backSingle | backMultiple => exact .inl (List.mem_singleton.1 hj ▸ rfl)
  | items => exact .inr ⟨_, _, _, rfl⟩
  | later _ _ ih => exact ih

theorem eq_itemsJoin_of_alike (hk : k ∈ (ofPath s q).joins)
    (ha : k.alike (itemsJoin (.param (itemsParam (itemsName key))) (itemsName key)) = true) :
    k = itemsJoin (.param (itemsParam (itemsName key))) (itemsName key) := by
  obtain ⟨htable, hsource, hname, -⟩ := Sql.Join.alike_iff.1 ha
  have htable : k.source.isTable = false := htable
  rcases mem_joins_ofPath hk with ⟨ρ, rest, -, hroot | ⟨names, hlaid⟩⟩ | ⟨key', rfl⟩
  · -- the join of a root is one of a table
    have hroot : k.source.isTable = true := by
      cases ρ with
      | base => cases hroot
      | anyOf | auth | submitted => exact List.mem_singleton.1 hroot ▸ rfl
    rw [hroot] at htable
    cases htable
  · rcases hlaid.isTable_or with htrue | ⟨table, field, name, rfl⟩
    · rw [htrue] at htable
      cases htable
    · exact absurd (Sql.jsonEach_inj hsource) Sql.quoteColumn_ne_placeholder
  · have hkey : itemsName key' = itemsName key := hname
    rw [hkey]

end Plan

namespace Resolver

variable {s : Scope} {allowed : AllowedPaths} {r : Resolver} {key : String}

/-- Where items are bound, they are joined. -/
theorem itemsJoin_mem_joins (h : Steps { scope := s, allowed := allowed } r)
    (hk : itemsParam (itemsName key) ∈ r.params.names) :
    itemsJoin (.param (itemsParam (itemsName key))) (itemsName key) ∈ r.joins := by
  obtain ⟨k, hnamed, halike⟩ := ((Consistent.fresh s allowed).steps h).items key hk
  have hmem : k ∈ r.joins := List.mem_of_find?_eq_some hnamed
  obtain ⟨paths, hpaths⟩ := exists_history h
  obtain ⟨q, -, hq⟩ := hpaths.mem_joins hmem
  exact Plan.eq_itemsJoin_of_alike hq halike ▸ hmem

/-- In every row of the joined query the alias of bound items holds one of them, or NULL if there are
none. -/
theorem item_of_mem_rows (h : Steps { scope := s, allowed := allowed } r) {items : List String}
    (hv : r.params.find? (itemsParam (itemsName key)) =
      some (.text (Json.list (items.map .text)).compact))
    {db : Database} {row x : Row} (hx : x ∈ Sql.Joins.rows db r.params r.joins row) :
    x.column (itemsName key) Sql.itemColumn ∈ items.map Value.text ∨
      items = [] ∧ x.column (itemsName key) Sql.itemColumn = .null := by
  have hnodup := ((InScope.fresh s allowed).steps h).nodup
  have hjoin := itemsJoin_mem_joins h (Sql.Params.mem_names_of_find? hv)
  have hunnest : db.unnest (.ofJson (.text (Json.list (items.map .text)).compact)) =
      items.map .text := db.unnest_texts items
  have hitem := Sql.Joins.item_of_mem_rows hnodup hjoin hv hx
  rwa [hunnest, List.map_eq_nil_iff] at hitem

end Resolver

/-! ## Filled sides -/

/-- The operand lists submitted items and there are none. -/
def Operand.ListsNone (s : Scope) (params : Params) (o : Operand) : Prop :=
  ∃ name, o.ListsItems s name ∧ params.find? name = some (.text "[]")

/-- The value of an expression is neither NULL nor empty in any row of the joined query. -/
def Resolver.Fills (r : Resolver) (db : Database) (e : Expr) : Prop :=
  ∀ row, ∀ x ∈ Sql.Joins.rows db r.params r.joins row, (e.eval x r.params).orEmpty ≠ .text ""

namespace Operand

variable {s : Scope} {params : Params} {o : Operand} {res : Resolution} {name name' : String}

theorem ListsItems.unique (h : o.ListsItems s name) (h' : o.ListsItems s name') : name = name' := by
  cases h with
  | intro hs hm _ _ _ hn =>
    cases h' with
    | intro hs' hm' _ _ _ hn' =>
      cases hs.symm.trans hs'
      cases hm.symm.trans hm'
      rw [hn, hn']

theorem ListsItems.outcome (h : o.ListsItems s name) :
    ∃ key res, name = itemsParam (itemsName key) ∧ o.outcome? s = some (.fixed res) ∧
      res.value = itemOf (itemsName key) := by
  cases h with
  | @intro path last key request f hs hm hq hf hk hn =>
    have ho : (field path).outcome? s =
        (Plan.submittedItems s request key f).outcome.toOption := by
      rw [outcome?, Plan.ofPath_of_items hs hm hq hf hk]
    exact ⟨key, _, hn, ho, rfl⟩

/-- A side that is filled is a constant, a bound value or the submitted items of a field. -/
theorem Resolves.filled_cases (h : o.Resolves s params res) (hf : res.isFilled params = true) :
    res.value.isSolid = true ∨
      (∃ n v lower, o.outcome? s = some (.bound v lower) ∧
        res = Resolver.boundResolution (Params.generated n) lower ∧
        params.find? (Params.generated n) = some v) ∨
      ∃ name, o.ListsItems s name := by
  cases h with
  | @bound n v lower ho hv => exact .inr (.inl ⟨n, v, lower, ho, rfl, hv⟩)
  | fixed ho hv he =>
    have solid (hp : res.params = []) : res.value.isSolid = true := by
      rw [Resolution.isFilled, hp, List.isEmpty_nil, Bool.not_true, Bool.false_and,
        Bool.false_and, Bool.or_false] at hf
      exact hf
    cases o with
    | text | number => cases ho
    | bool | null => cases ho; exact .inl (solid rfl)
    | field path =>
      have hok : (Plan.ofPath s path).outcome = .ok (.fixed res) := by
        change (Plan.ofPath s path).outcome.toOption = some (.fixed res) at ho
        cases hp : (Plan.ofPath s path).outcome with
        | error e => rw [hp] at ho; cases ho
        | ok o => rw [hp] at ho; cases ho; rfl
      have hk := Plan.kind_ofPath s path
      generalize Plan.ofPath s path = p at hk hok
      cases hk with
      | fail | bound => cases hok
      | constant => cases hok; exact .inl (solid rfl)
      | @below root rest =>
        obtain ⟨route, extra, outcome, -, hp, hfixed⟩ := Plan.below_laid s path root rest
        rw [hp] at hok
        obtain ⟨res', he, hnil⟩ := hfixed _ hok
        cases he
        exact .inl (solid hnil)
      | items hq hf hk hs hm => exact .inr (.inr ⟨_, .intro hs hm hq hf hk rfl⟩)

end Operand

namespace Resolver

variable {s : Scope} {allowed : AllowedPaths} {r : Resolver} {params : Params} {o : Operand}
  {res : Resolution}

theorem fills_of_isSolid {e : Expr} (h : e.isSolid = true) (db : Database) : r.Fills db e := by
  intro row x _
  cases e with
  | bool | numeral => exact Value.noConfusion
  | _ => cases h

theorem fills_items_iff (hr : Steps { scope := s, allowed := allowed } r) {request : Request}
    {key key' : String} (hv : r.params.find? (itemsParam (itemsName key)) =
      some (.text (Plan.itemsText request key'))) (db : Database) :
    r.Fills db (itemOf (itemsName key)) ↔ request.itemsOf key' ≠ [] := by
  constructor
  · intro hfills hnone
    obtain ⟨x, hx⟩ := List.exists_mem_of_ne_nil _
      (@Sql.Joins.rows_ne_nil db r.params r.joins .vacant)
    rcases item_of_mem_rows hr hv hx with hitem | ⟨-, hnull⟩
    · rw [hnone] at hitem
      cases hitem
    · refine hfills .vacant x hx ?_
      show (x.column _ _).orEmpty = _
      rw [hnull]
      rfl
  · intro hne row x hx
    show (x.column _ _).orEmpty ≠ _
    rcases item_of_mem_rows hr hv hx with hitem | ⟨hnone, -⟩
    · obtain ⟨item, hi, he⟩ := List.mem_map.1 hitem
      rw [← he]
      exact fun h => Request.ne_empty_of_mem_itemsOf hi (Value.text.inj h)
    · exact absurd hnone hne

/-- A filled side is neither NULL nor empty in any row, unless it lists submitted items and there are
none. -/
theorem fills_iff (hr : Steps { scope := s, allowed := allowed } r) (ho : o.Resolves s params res)
    (hf : res.isFilled params = true)
    (hkept : ∀ name v, params.find? name = some v → r.params.find? name = some v)
    (hitems : ∀ name, o.ListsItems s name → ∃ request key,
      params.find? name = some (.text (Plan.itemsText request key))) (db : Database) :
    r.Fills db res.value ↔ ¬ o.ListsNone s r.params := by
  have listed {name : String} (hl : o.ListsItems s name) :
      ∃ key, name = itemsParam (itemsName key) ∧ res.value = itemOf (itemsName key) := by
    obtain ⟨key, res', hn, hout, hval⟩ := hl.outcome
    cases ho with
    | fixed ho => cases ho.symm.trans hout; exact ⟨key, hn, hval⟩
    | bound ho => cases ho.symm.trans hout
  rcases ho.filled_cases hf with hsolid | ⟨n, v, lower, hbound, -, -⟩ | ⟨name, hl⟩
  · refine iff_of_true (fills_of_isSolid hsolid db) ?_
    rintro ⟨name, hl, -⟩
    obtain ⟨key, -, hval⟩ := listed hl
    rw [hval] at hsolid
    cases hsolid
  · refine iff_of_true (fun row x hx => ?_) ?_
    · have hu : o.value? x s = some (x.bound v lower) := by rw [Operand.value?, hbound]; rfl
      rw [((ho.mono fun n v => hkept _ v).has hu).value]
      exact (ho.has hu).filled hf
    · rintro ⟨name, hl, -⟩
      obtain ⟨key, res', -, hout, -⟩ := hl.outcome
      cases hbound.symm.trans hout
  · obtain ⟨request, key', hv⟩ := hitems name hl
    obtain ⟨key, rfl, hval⟩ := listed hl
    have hv' := hkept _ _ hv
    rw [hval, fills_items_iff hr hv', Ne, not_iff_not]
    constructor
    · intro hnone
      refine ⟨_, hl, ?_⟩
      rw [hv', Plan.itemsText, hnone]
      rfl
    · rintro ⟨name', hl', hnone⟩
      rw [← hl.unique hl', hv', Option.some_inj, Json.text.injEq] at hnone
      exact @Json.compact_texts_injective _ [] hnone

end Resolver

/-! ## Direct equalities -/

namespace Builder

variable {b b' : Builder} {left right o : Operand} {l r res side : Resolution} {c : Comparator}
  {cond : Condition} {name : String}

theorem find?_of_listsItems_of_build (hc : c.operator.isLike = false)
    (h : b.build (.comparison left c right) = (.ok cond, b')) (ho : o = left ∨ o = right)
    (hl : o.ListsItems b.resolver.scope name) : ∃ request key,
      b'.resolver.params.find? name = some (.text (Plan.itemsText request key)) := by
  obtain ⟨l, b₁, r, b₂, hleft, hright, hbuilt⟩ := operands_of_build h
  have hs : b₁.resolver.scope = b.resolver.scope := by
    rw [← (scope_operand b left).1, hleft]
  rw [params_of_comparison hc hbuilt]
  rcases ho with rfl | rfl
  · obtain ⟨request, key, hv⟩ := find?_of_listsItems hleft hl
    -- the right side may list items under the same name
    have hafter := find?_operand right hv
    rw [hright] at hafter
    rcases hafter with ⟨w, hb, hw⟩ | ⟨-, hw⟩
    · cases right with
      | field path =>
        obtain ⟨request, key, rfl⟩ := hl.text_of_binds (hs ▸ Plan.binds_of_mem hb.2.2)
        exact ⟨request, key, hw⟩
      | _ => cases hb
    · exact ⟨request, key, hw⟩
  · exact find?_of_listsItems hright (hs ▸ hl)

theorem test_of_guard? (hc : c.operator.isLike = false) (b : Builder) {guard : Guard}
    (h : (b.comparison l c r).1.guard? = some guard) : ∃ leftName rightName,
      guard.test = comparisonTest c.operator (l.inside leftName) (r.inside rightName)
        b.resolver.params := by
  unfold comparison at h
  simp only [guard?_requireVisible, compare, comparisonParams_of_not_like hc] at h
  split at h
  · next insideLeft insideRight guardWith _ hg =>
    obtain ⟨leftName, rightName, rfl, rfl, ht⟩ := guardOf_eq_some hg
    cases h
    exact ⟨leftName, rightName, (ht _).1⟩
  · cases h

/-- An equality is built of two sides, in its guard too. What a filled side stands for is neither NULL
nor empty in any row of the joined query, and of a query in which the values are bound still, unless
the side lists submitted items and there are none. -/
theorem filled_side_iff {s : Scope} {allowed : AllowedPaths} {r' : Resolver} {isEqual isAny : Bool}
    (hb : Steps { scope := s, allowed := allowed } b.resolver)
    (h : b.build (.comparison left ⟨if isEqual then .equal else .notEqual, isAny⟩ right) =
      (.ok cond, b'))
    (hlater : Steps b'.resolver r')
    (hkept : ∀ name v, b'.resolver.params.find? name = some v → r'.params.find? name = some v) :
    ∃ l r, left.Resolves s b'.resolver.params l ∧ right.Resolves s b'.resolver.params r ∧
      cond.test? = some (equalityTest isEqual l r b'.resolver.params) ∧
      (∀ guard, cond.guard? = some guard → ∃ leftName rightName,
        guard.test = equalityTest isEqual (l.inside leftName) (r.inside rightName)
          b'.resolver.params) ∧
      ∀ o side, (o, side) ∈ [(left, l), (right, r)] →
        (∀ name, (side.inside name).isFilled b'.resolver.params = true →
          side.isFilled b'.resolver.params = true ∧ (side.inside name).value = side.value) ∧
        (side.isFilled b'.resolver.params = true → ∀ db,
          r'.Fills db side.value ↔ ¬ o.ListsNone s r'.params) := by
  have hop : (if isEqual then Operator.equal else .notEqual).isLike = false := by
    cases isEqual <;> rfl
  have hform (l r : Resolution) (params : Params) :
      comparisonTest (if isEqual then .equal else .notEqual) l r params =
        equalityTest isEqual l r params := by
    cases isEqual <;> rfl
  obtain ⟨l, r, b₂, hl, hr, hparams, hcond⟩ := resolves_of_build hop h
  have hscope : b.resolver.scope = s := Resolver.scope_steps hb
  have hbuild := steps_build b (.comparison left ⟨if isEqual then .equal else .notEqual, isAny⟩ right)
  rw [h] at hbuild
  have hsteps := (hb.trans hbuild).trans hlater
  rw [hscope] at hl hr
  refine ⟨l, r, hl, hr, ?_, fun guard hg => ?_,
    fun o side hside => ⟨fun name hf => ?_, fun hf db => ?_⟩⟩
  · rw [← hcond, (test?_comparison b₂ l _ r).1, hform, hparams]
  · rw [← hcond] at hg
    obtain ⟨leftName, rightName, ht⟩ := test_of_guard? hop b₂ hg
    exact ⟨leftName, rightName, by rw [ht, hform, hparams]⟩
  · rw [Resolution.isFilled_inside, Bool.and_eq_true, Bool.not_eq_true'] at hf
    refine ⟨hf.2, ?_⟩
    rw [Resolution.value_inside, Resolution.insideValue, hf.1]
    rfl
  · have hres : o.Resolves s b'.resolver.params side ∧ (o = left ∨ o = right) := by
      rcases List.mem_cons.1 hside with he | he
      · cases he
        exact ⟨hl, .inl rfl⟩
      · cases List.mem_singleton.1 he
        exact ⟨hr, .inr rfl⟩
    have hlisted {name : String} (hn : o.ListsItems b.resolver.scope name) :=
      find?_of_listsItems_of_build hop h hres.2 hn
    rw [hscope] at hlisted
    exact Resolver.fills_iff hsteps hres.1 hf hkept (fun name => hlisted) db

def submitting (body : List (String × Submitted)) : Builder :=
  { resolver :=
      { scope :=
          { documentedBuilder.resolver.scope with
            request := some { method := "POST", body := body } } } }

def titledByTag : Filter :=
  .comparison (.field "@request.body.tags:each") ⟨.equal, true⟩ (.field "title")

set_option maxRecDepth 4000 in
theorem filled_side_iff_submitted :
    ∃ b', (submitting [("tags", .plain (.list [.text "a"]))]).build titledByTag =
        (.ok (.test (.relates (itemOf "__dataEach_tags_je") .equal (.column "posts" "title"))), b') ∧
      Steps (submitting [("tags", .plain (.list [.text "a"]))]).resolver b'.resolver ∧
      b'.resolver.Fills .vacant (itemOf "__dataEach_tags_je") := by
  obtain ⟨b', res, h, hparam, hout, hval, hpar⟩ : ∃ b' res,
      (submitting [("tags", .plain (.list [.text "a"]))]).build titledByTag =
        (.ok (.test (.relates (itemOf "__dataEach_tags_je") .equal (.column "posts" "title"))), b') ∧
      b'.resolver.params.find? "__dataEach_tags_je__items" = some (.text "[\"a\"]") ∧
      (Operand.field "@request.body.tags:each").outcome?
        (submitting [("tags", .plain (.list [.text "a"]))]).resolver.scope = some (.fixed res) ∧
      res.value = itemOf "__dataEach_tags_je" ∧ res.params = ["__dataEach_tags_je__items"] :=
    ⟨_, _, rfl, rfl, rfl, rfl, rfl⟩
  have hsteps := steps_build (submitting [("tags", .plain (.list [.text "a"]))]) titledByTag
  rw [h] at hsteps
  obtain ⟨l, r, hl, -, -, -, hsides⟩ :=
    @filled_side_iff _ b' _ _ _ _ _ _ true true .refl h .refl fun _ _ => id
  obtain rfl : l = res := by
    cases hl with
    | fixed ho => cases ho.symm.trans hout; rfl
    | bound ho => cases ho.symm.trans hout
  have hfilled : l.isFilled b'.resolver.params = true := by
    rw [Resolution.isFilled, Resolution.hasBlankParam, hpar, hval, List.any_cons, hparam]
    rfl
  refine ⟨b', h, hsteps, ?_⟩
  rw [← hval]
  refine ((hsides _ _ List.mem_cons_self).2 hfilled .vacant).2 ?_
  rintro ⟨name, hlists, hnone⟩
  obtain ⟨key, res, rfl, hout', hval'⟩ := hlists.outcome
  cases hout.symm.trans hout'
  rw [hval] at hval'
  rw [← (Expr.column.inj hval').1] at hnone
  have htext := Json.text.inj (Option.some.inj (hparam.symm.trans hnone))
  exact absurd htext (by decide)

set_option maxRecDepth 4000 in
/-- Where no tags were submitted, the tags are compared as they are too, and they are NULL. -/
theorem filled_side_null :
    documented.toCatalog = .ok documentedCatalog ∧
      ∃ b', (submitting []).build titledByTag = (.ok (.test (.relates
          (itemOf "__dataEach_tags_je") .equal (.column "posts" "title"))), b') ∧
        ∃ x ∈ Sql.Joins.rows .vacant b'.resolver.params b'.resolver.joins .vacant,
          (itemOf "__dataEach_tags_je").eval x b'.resolver.params = .null := by
  obtain ⟨b', h, hv⟩ : ∃ b', (submitting []).build titledByTag = (.ok (.test (.relates
        (itemOf "__dataEach_tags_je") .equal (.column "posts" "title"))), b') ∧
      b'.resolver.params.find? (itemsParam (itemsName "tags")) =
        some (.text (Json.list (([] : List String).map .text)).compact) := ⟨_, rfl, rfl⟩
  have hsteps := steps_build (submitting []) titledByTag
  rw [h] at hsteps
  obtain ⟨x, hx⟩ := List.exists_mem_of_ne_nil _
    (@Sql.Joins.rows_ne_nil .vacant b'.resolver.params b'.resolver.joins .vacant)
  rcases Resolver.item_of_mem_rows hsteps hv hx with hitem | ⟨-, hnull⟩
  · cases hitem
  · exact ⟨rfl, b', h, x, hx, hnull⟩

end Builder

end RecordFilter
