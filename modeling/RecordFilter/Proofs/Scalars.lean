import RecordFilter.Proofs.Frames
import RecordFilter.Proofs.Presence
import RecordFilter.Proofs.Refusals

/-!
# Filters that need no join

A path to one value of the row of the base or of the request is scalar (`Plan.IsScalar`). Its plan
has no join and lists nothing (`Plan.IsScalar.isDirect`), although other paths that start the same
way are joined. So a filter of scalar fields adds to a fresh query nothing but its parameters and a
condition without guards (`Filter.apply_scalar`).
-/

namespace RecordFilter

open Sql (Join Select Condition HasGuard Unmarked)

namespace Plan

variable {s : Scope} {path : String} {c : Collection} {f : Field} {segments : List String}

/-! ## Scalar paths -/

/-- The last segment asks for each item. -/
def AsksForEach (segments : List String) : Prop :=
  ∃ last name, segments.getLast? = some last ∧ splitModifier last = .ok (name, some .each)

/-- A path to one value of the row of the base or of the request. -/
inductive IsScalar (s : Scope) (path : String) : Prop
  /-- A field of the base as a whole. -/
  | field {last : String} (h : segmentsOf path = [last]) (he : ¬ AsksForEach [last])
  /-- A part of the document in a JSON field of the base. -/
  | document {key next : String} {rest : List String} {f : Field}
      (h : segmentsOf path = key :: next :: rest) (hf : s.base.field? key = some f)
      (hk : f.kind = .json)
  /-- The id of the one record to which a field of the base refers. -/
  | recordId {key : String} {f : Field} {ref : Reference}
      (h : segmentsOf path = [key, FieldName.id]) (hf : s.base.field? key = some f)
      (hk : f.kind = .relation ref) (hm : ref.multiple = false)
  /-- The context or the method of the request, or one of its query values or headers. -/
  | plain {part : String} {rest : List String} (h : segmentsOf path = "@request" :: part :: rest)
      (hp : part ∈ plainParts)
  /-- A field of the record that signed in which the request has. -/
  | carried {first name : String} {modifier : Option Modifier}
      (h : segmentsOf path = ["@request", "auth", first])
      (hm : splitModifier first = .ok (name, modifier)) (hc : name ∈ carriedFields)
  /-- Whether the record that signed in has a value. -/
  | authIsSet {rest : List String} (h : segmentsOf path = "@request" :: "auth" :: rest)
      (hi : AsksIfSet (segmentsOf path))
  /-- A submitted value, or whether there is one. Only the latter may be asked for below a
  relation field. -/
  | body {key : String} {rest : List String}
      (h : segmentsOf path = "@request" :: "body" :: key :: rest)
      (he : ¬ AsksForEach (segmentsOf path))
      (hr : AsksIfSet (segmentsOf path) ∨ rest = [] ∨
        (s.base.field? key).bind (·.kind.reference?) = none)

/-! ## Plans without joins -/

/-- A plan without joins that comes to one value. -/
structure IsDirect (p : Plan) : Prop where
  joins : p.joins = []
  listing : ∀ res, p.outcome = .ok (.fixed res) → res.listing = none

theorem isDirect_fail (e : PathError) : IsDirect (fail e) := ⟨rfl, by rintro _ ⟨⟩⟩

theorem isDirect_constant (v : Sql.Expr) : IsDirect (direct (.fixed { value := v })) :=
  ⟨rfl, by rintro _ ⟨⟩; rfl⟩

theorem isDirect_bound (v : Json) (lower : Bool) : IsDirect (direct (.bound v lower)) :=
  ⟨rfl, by rintro _ ⟨⟩⟩

/-- A plan that leads below no root and lists no items. -/
theorem Kind.isDirect {p : Plan} (h : Kind s path [] p) : IsDirect p := by
  cases h with
  | fail e => exact isDirect_fail e
  | constant => exact isDirect_constant _
  | bound v lower => exact isDirect_bound v lower
  | below h => cases h
  | items _ _ _ hs => cases hs

theorem isDirect_submittedValue (value : Option Json) (modifier : Option Modifier)
    (kind : Option FieldKind) : IsDirect (submittedValue path value modifier kind) :=
  Kind.isDirect (show Kind default path [] _ from kind_submittedValue value modifier kind)

theorem isDirect_readRequest (request : Request) (segments : List String)
    (modifier : Option Modifier) (kind : Option FieldKind) :
    IsDirect (readRequest path request segments modifier kind) :=
  Kind.isDirect (show Kind default path [] _ from kind_readRequest request segments modifier kind)

theorem isDirect_absent (modifier : Option Modifier) : IsDirect (absent modifier) :=
  Kind.isDirect (show Kind default "" [] _ from kind_absent modifier)

/-! ### Below the base -/

theorem isDirect_along {extra : List Join} {outcome : Except PathError Outcome} (he : extra = [])
    (ho : ∀ res, outcome = .ok (.fixed res) → res.listing = none) :
    IsDirect (along ⟨.base c, []⟩ extra outcome) := ⟨by rw [he]; rfl, ho⟩

theorem isDirect_error (e : PathError) : IsDirect (along ⟨.base c, []⟩ [] (.error e)) :=
  isDirect_along rfl (by rintro _ ⟨⟩)

theorem isDirect_reads {how : Reading} (hi : how ≠ .items) (visibleIn : Option String) :
    IsDirect (along ⟨.base c, []⟩ (how.joins f (Route.lastAlias ⟨.base c, []⟩))
      (.ok (.fixed (how.resolution s ⟨.base c, []⟩ f visibleIn)))) := by
  cases how with
  | items => exact absurd rfl hi
  | column | document | count => exact isDirect_along rfl (by rintro _ ⟨⟩; rfl)

theorem isDirect_atLast {last : String} (he : ¬ AsksForEach [last]) :
    IsDirect (atLast s path ⟨.base c, []⟩ last) := by
  unfold atLast
  split
  · exact isDirect_error _
  · next name modifier hm =>
    split
    · exact isDirect_error _
    · next f hf =>
      split
      · exact isDirect_error _
      · rcases atField_cases s path ⟨.base c, []⟩ f modifier with ⟨e, hp⟩ | ⟨-, how, -, hi, hp⟩
        · exact hp ▸ isDirect_error e
        · rw [hp]
          refine isDirect_reads (fun h => he ?_) _
          exact ⟨last, name, rfl, by rw [hm, hi.1 h]⟩

theorem isDirect_belowJson :
    IsDirect (along ⟨.base c, []⟩ [] (belowJson s path ⟨.base c, []⟩ f segments)) := by
  refine isDirect_along rfl fun res h => ?_
  have hl := isSome_listing_belowJson h
  rw [← Option.not_isSome_iff_eq_none, hl]
  exact Bool.false_ne_true

/-- A JSON field of a collection is followed by the path of a document, if it may be read. -/
theorem isDirect_walk_json {key next : String} {rest : List String} (hf : c.field? key = some f)
    (hk : f.kind = .json) : IsDirect (walk s path ⟨.base c, []⟩ (key :: next :: rest)) := by
  have hturn : turn s ⟨.base c, []⟩ key (next :: rest) =
      if isWithheld s ⟨.base c, []⟩ f then .withheld else .json f := by
    have hr : (⟨.base c, []⟩ : Route).collection.field? key = some f := hf
    simp [turn, hr, hk]
  rw [walk, hturn]
  split <;> rename_i h
  all_goals split at h <;> cases h
  · exact isDirect_error _
  · exact isDirect_belowJson

theorem isDirect_walk_id {key : String} {ref : Reference} (hf : c.field? key = some f)
    (hk : f.kind = .relation ref) (hm : ref.multiple = false) :
    IsDirect (walk s path ⟨.base c, []⟩ [key, FieldName.id]) := by
  have hturn : turn s ⟨.base c, []⟩ key [FieldName.id] =
      if isWithheld s ⟨.base c, []⟩ f then .withheld else .idColumn f := by
    have hr : (⟨.base c, []⟩ : Route).collection.field? key = some f := hf
    simp [turn, hr, hk, hm]
  rw [walk, hturn]
  split <;> rename_i h
  all_goals split at h <;> cases h
  · exact isDirect_error _
  · exact isDirect_along rfl (by rintro _ ⟨⟩; rfl)

theorem isDirect_below (h : IsDirect (walk s path ⟨.base c, []⟩ segments)) :
    IsDirect (below s path (.base c) segments) := by
  unfold below
  split
  · exact isDirect_error _
  · exact h

/-! ### Below the request -/

theorem isDirect_ofAuth {request : Request} {modifier : Option Modifier}
    (hd : modifier = some .isset ∨ ∃ first name own, segments = [first] ∧
      splitModifier first = .ok (name, own) ∧ name ∈ carriedFields) :
    IsDirect (ofAuth s path request segments modifier) := by
  unfold ofAuth
  split
  · exact isDirect_fail _
  · exact isDirect_absent _
  · next first rest a _ =>
    split
    · exact isDirect_fail _
    · next name own hm =>
      have hcarried : (modifier = some .isset ||
          (rest.isEmpty && carriedFields.contains name)) = true := by
        rcases hd with rfl | ⟨first', name', own', hs, hm', hn⟩
        · rfl
        · obtain ⟨rfl, rfl⟩ := List.cons.inj hs
          obtain ⟨rfl, -⟩ := Prod.mk.inj (Except.ok.inj (hm.symm.trans hm'))
          simp [hn]
      simp only [hcarried, if_true]
      split
      · exact isDirect_fail _
      · exact isDirect_submittedValue _ _ _

theorem isDirect_ofBody {request : Request} {key : String} {rest : List String}
    {modifier : Option Modifier} (he : modifier ≠ some .each)
    (hr : modifier = some .isset ∨ rest = [] ∨
      (s.base.field? key).bind (·.kind.reference?) = none) :
    IsDirect (ofBody s path request (key :: rest) modifier) := by
  unfold ofBody
  split
  · exact isDirect_fail _
  · split
    · exact isDirect_fail _
    · split
      · exact isDirect_readRequest _ _ _ _
      · split
        · exact absurd rfl he
        · exact isDirect_constant _
        · exact isDirect_readRequest _ _ _ _
  · next key' rest' hne hs =>
    obtain ⟨rfl, rfl⟩ := List.cons.inj hs
    split
    · exact isDirect_readRequest _ _ _ _
    · exact isDirect_readRequest _ _ _ _
    · next ref href hi =>
      rcases hr with hr | hr | hr
      · exact (hi hr).elim
      · exact (hne hr).elim
      · rw [href] at hr
        cases hr

/-- What is not below the record that signed in or the submitted values needs no join. -/
theorem isDirect_ofRequest {rest : List String}
    (ha : ∀ below request name modifier, rest = "auth" :: below →
      splitModifier (rest.getLast?.getD "") = .ok (name, modifier) →
        IsDirect (ofAuth s path request below modifier))
    (hb : ∀ below request name modifier, rest = "body" :: below →
      splitModifier (rest.getLast?.getD "") = .ok (name, modifier) →
        IsDirect (ofBody s path request below modifier)) :
    IsDirect (ofRequest s path rest) := by
  unfold ofRequest
  split
  · exact isDirect_fail _
  · next name modifier hm =>
    split
    · exact isDirect_absent _
    · exact ha _ _ _ _ rfl hm
    · exact hb _ _ _ _ rfl hm
    · split
      · exact isDirect_readRequest _ _ _ _
      · exact isDirect_fail _
    · exact isDirect_fail _

theorem modifier_of_asksIfSet {first second name : String} {rest : List String}
    {modifier : Option Modifier} (h : AsksIfSet (first :: second :: rest))
    (hm : splitModifier ((second :: rest).getLast?.getD "") = .ok (name, modifier)) :
    modifier = some .isset := by
  obtain ⟨last, name', hl, hs⟩ := h
  rw [List.getLast?_cons_cons] at hl
  rw [hl, Option.getD_some, hs] at hm
  cases hm
  rfl

theorem modifier_of_not_asksForEach {first second name : String} {rest : List String}
    {modifier : Option Modifier} (h : ¬ AsksForEach (first :: second :: rest))
    (hm : splitModifier ((second :: rest).getLast?.getD "") = .ok (name, modifier)) :
    modifier ≠ some .each := by
  rintro rfl
  have hl := List.getLast?_eq_some_getLast (List.cons_ne_nil second rest)
  rw [hl, Option.getD_some] at hm
  exact h ⟨_, name, by rw [List.getLast?_cons_cons, hl], hm⟩

/-! ### Scalar paths -/

theorem ne_sign_of_field? (hs : s.IsWellNamed) {key : String} (hf : s.base.field? key = some f) :
    key ≠ "@request" ∧ key ≠ "@collection" := by
  have hw : Text.IsWordy key :=
    Collection.name_of_field? hf ▸ hs.base.fields f (Collection.mem_of_field? hf)
  constructor
  · rintro rfl
    exact absurd hw (by decide)
  · rintro rfl
    exact absurd hw (by decide)

theorem isDirect_of_base {key : String} {rest : List String} (h : segmentsOf path = key :: rest)
    (hk : key ≠ "@request" ∧ key ≠ "@collection")
    (hp : IsDirect (walk s path ⟨.base s.base, []⟩ (key :: rest))) : IsDirect (ofPath s path) := by
  have hown : IsOwn path := by
    unfold IsOwn
    rw [h]
    simpa using hk
  rcases ofPath_of_isOwn (s := s) hown with hn | hn
  · rw [hn]
    exact isDirect_fail _
  · rw [hn, h]
    exact isDirect_below hp

theorem isDirect_of_request {rest : List String} (h : segmentsOf path = "@request" :: rest)
    (hp : IsDirect (ofRequest s path rest)) : IsDirect (ofPath s path) := by
  by_cases he : "" ∈ segmentsOf path
  · rw [ofPath_of_emptySegment he]
    exact isDirect_fail _
  · rw [ofPath_of_request he h]
    exact hp

/-- A scalar path has a plan without joins. -/
theorem IsScalar.isDirect (hs : s.IsWellNamed) (h : IsScalar s path) :
    IsDirect (ofPath s path) := by
  cases h with
  | @field last h he =>
    by_cases hr : last = "@request"
    · subst hr
      exact isDirect_of_request h (isDirect_ofRequest (by simp) (by simp))
    by_cases hc : last = "@collection"
    · subst hc
      rw [ofPath_of_collection (by rw [h]; decide) h]
      exact isDirect_fail _
    exact isDirect_of_base h ⟨hr, hc⟩ (by rw [walk]; exact isDirect_atLast he)
  | document h hf hk =>
    exact isDirect_of_base h (ne_sign_of_field? hs hf) (isDirect_walk_json hf hk)
  | recordId h hf hk hm =>
    exact isDirect_of_base h (ne_sign_of_field? hs hf) (isDirect_walk_id hf hk hm)
  | @plain part rest h hp =>
    refine isDirect_of_request h (isDirect_ofRequest ?_ ?_)
    · rintro _ _ _ _ ⟨⟩
      exact absurd hp (by decide)
    · rintro _ _ _ _ ⟨⟩
      exact absurd hp (by decide)
  | @carried first name own h hm hc =>
    refine isDirect_of_request h (isDirect_ofRequest ?_ (by simp))
    rintro _ _ _ _ ⟨⟩ -
    exact isDirect_ofAuth (.inr ⟨first, name, own, rfl, hm, hc⟩)
  | @authIsSet rest h hi =>
    refine isDirect_of_request h (isDirect_ofRequest ?_ (by simp))
    rintro _ request name modifier ⟨⟩ hm
    rw [h] at hi
    exact isDirect_ofAuth (.inl (modifier_of_asksIfSet hi hm))
  | @body key rest h he hr =>
    refine isDirect_of_request h (isDirect_ofRequest (by simp) ?_)
    rintro _ request name modifier ⟨⟩ hm
    rw [h] at he hr
    refine isDirect_ofBody (modifier_of_not_asksForEach he hm) ?_
    rcases hr with hr | hr
    · exact .inl (modifier_of_asksIfSet hr hm)
    · exact .inr hr

end Plan

open Plan (IsScalar)

/-! ## Resolving and building -/

theorem Resolver.resolve_of_isDirect {r : Resolver} {path : String}
    (h : (Plan.ofPath r.scope path).IsDirect) :
    (r.resolve path).2.joins = r.joins ∧
      ∀ res, (r.resolve path).1 = .ok res → res.listing = none := by
  have registered {joins : Sql.Joins}
      (hj : r.joins.registerAll (Plan.ofPath r.scope path).joins = .ok joins) :
      joins = r.joins := by
    rw [h.joins] at hj
    exact (Except.ok.inj hj).symm
  rcases resolve_outcomes r path with ⟨e, ps, hr, -⟩ | ⟨joins, res, hj, ho, hr⟩ |
    ⟨joins, v, lower, hj, -, hr⟩
  · rw [hr]
    exact ⟨rfl, by rintro _ ⟨⟩⟩
  · rw [hr]
    refine ⟨registered hj, ?_⟩
    rintro _ ⟨⟩
    exact h.listing res ho
  · rw [hr]
    refine ⟨registered hj, ?_⟩
    rintro _ ⟨⟩
    rfl

def Operand.IsScalar (s : Scope) (o : Operand) : Prop :=
  ∀ path, o = .field path → Plan.IsScalar s path

/-- Every field that a filter compares is scalar. -/
def Filter.IsScalar (s : Scope) (f : Filter) : Prop :=
  ∀ q ∈ f.comparisons, q.left.IsScalar s ∧ q.right.IsScalar s

namespace Builder

variable {s : Scope} {b : Builder}

theorem operand_of_isScalar (hs : s.IsWellNamed) (hb : b.resolver.scope = s) {o : Operand}
    (ho : o.IsScalar s) :
    (b.operand o).2.resolver.joins = b.resolver.joins ∧
      ∀ res, (b.operand o).1 = .ok res → res.listing = none := by
  cases o with
  | field path =>
    have hd : (Plan.ofPath b.resolver.scope path).IsDirect := hb ▸ (ho path rfl).isDirect hs
    obtain ⟨hj, hl⟩ := Resolver.resolve_of_isDirect hd
    rw [resolver_operand_field]
    refine ⟨hj, fun res h => hl res ?_⟩
    exact (resolve_of_operand (Prod.ext h rfl)).1
  | text | number | bool | null => exact ⟨rfl, by rintro _ ⟨⟩; rfl⟩

theorem joins_comparison (b : Builder) (l : Resolution) (c : Comparator) (r : Resolution) :
    (b.comparison l c r).2.resolver.joins = b.resolver.joins := by
  unfold comparison
  simp only
  split <;> rfl

theorem scope_of_build {f : Filter} {b' : Builder} {c : Except FilterError Condition}
    (h : b.build f = (c, b')) : b'.resolver.scope = b.resolver.scope := by
  have hs := Resolver.scope_steps (steps_build b f)
  rwa [h] at hs

mutual

/-- The condition of a scalar filter needs no join and has no guard. -/
theorem scalar_build (hs : s.IsWellNamed) {b b' : Builder} {c : Condition}
    (hb : b.resolver.scope = s) :
    (f : Filter) → f.IsScalar s → b.build f = (.ok c, b') →
      b'.resolver.joins = b.resolver.joins ∧ Unmarked c.text
  | .comparison left comparator right, hf, h => by
    obtain ⟨hleft, hright⟩ := hf ⟨left, comparator, right⟩ (by simp [Filter.comparisons])
    obtain ⟨hjl, hll⟩ := operand_of_isScalar hs hb hleft
    have hscope := (scope_operand b left).1
    unfold build at h
    split at h
    · cases h
    · next l b₁ hl =>
      rw [hl] at hjl hll hscope
      have hb₁ : b₁.resolver.scope = s := hscope.trans hb
      obtain ⟨hjr, hlr⟩ := operand_of_isScalar hs hb₁ hright
      split at h
      · cases h
      · next r b₂ hr =>
        rw [hr] at hjr hlr
        simp only [Prod.mk.injEq, Except.ok.injEq] at h
        obtain ⟨rfl, rfl⟩ := h
        refine ⟨?_, ?_⟩
        · rw [joins_comparison, hjr, hjl]
        · have hul := isUnmarked_of_operand (hb ▸ hs) hl
          have hur := isUnmarked_of_operand (hb₁ ▸ hs) hr
          exact unmarked_comparison b₂ hul comparator hur (.inr ⟨hll l rfl, hlr r rfl⟩)
  | .group connective items, hf, h => by
    unfold build at h
    split at h
    · cases h
    · next cs b₁ hi =>
      obtain ⟨hg, rfl⟩ := Prod.mk.inj h
      have hall : ∀ q ∈ Filter.comparisonsAll items, q.left.IsScalar s ∧ q.right.IsScalar s := by
        simpa [Filter.IsScalar, Filter.comparisons] using hf
      obtain ⟨hj, hu⟩ := scalar_buildAll hs hb items hall hi
      exact ⟨hj, text_grouped Sql.isTextual_unmarked hu hg⟩

theorem scalar_buildAll (hs : s.IsWellNamed) {b b' : Builder} {cs : List Condition}
    (hb : b.resolver.scope = s) :
    (fs : List Filter) →
      (∀ q ∈ Filter.comparisonsAll fs, q.left.IsScalar s ∧ q.right.IsScalar s) →
      b.buildAll fs = (.ok cs, b') →
      b'.resolver.joins = b.resolver.joins ∧ ∀ c ∈ cs, Unmarked c.text
  | [], _, h => by
    cases h
    exact ⟨rfl, List.forall_mem_nil _⟩
  | f :: fs, hfs, h => by
    rw [Filter.comparisonsAll, List.forall_mem_append] at hfs
    unfold buildAll at h
    split at h
    · cases h
    · next c b₁ hf =>
      obtain ⟨hj, hu⟩ := scalar_build hs hb f hfs.1 hf
      split at h
      · cases h
      · next cs' b₂ hrest =>
        cases h
        obtain ⟨hjs, hus⟩ :=
          scalar_buildAll hs ((scope_of_build hf).trans hb) fs hfs.2 hrest
        exact ⟨hjs.trans hj, List.forall_mem_cons.2 ⟨hu, hus⟩⟩

end

end Builder

namespace Filter

variable {s : Scope} {r : Resolver} {f : Filter} {table : String}

/-- What a scalar filter leaves in a fresh query: at most a condition without a guard. -/
theorem apply_eq_of_isScalar (hs : s.IsWellNamed) (hr : r.scope = s) (hj : r.joins = [])
    (hf : f.IsScalar s) (h : (f.apply r { table := table }).1 = .ok ()) :
    (f.apply r { table := table }).2.1.joins = [] ∧
      ∃ params c, Unmarked c.text ∧ (f.apply r { table := table }).2.2 =
        Select.addCondition { table := table, params := params } c := by
  rcases apply_cases f r { table := table } with ⟨e, -, ha⟩ | ⟨c, name, -, -, ha⟩ | ⟨c, hc, -, ha⟩
  · rw [ha] at h; cases h
  · rw [ha] at h; cases h
  · have hbuild : Builder.build { resolver := r } f =
        (.ok c, (Builder.build { resolver := r } f).2) := Prod.ext hc rfl
    obtain ⟨hjoins, hu⟩ := Builder.scalar_build hs hr f hf hbuild
    have hnone : (f.condition r).2.joins = [] := hjoins.trans hj
    rw [ha, hnone]
    exact ⟨rfl, _, c, hu, rfl⟩

/-- A filter whose fields are all scalar needs no join: once it is added to a fresh query, none is
registered, the query has none and does not list distinct rows, and there is no guard in its
text. -/
theorem apply_scalar {ds : Definitions} (hc : ds.toCatalog = .ok s.catalog)
    (hb : s.base ∈ s.catalog.collections) (allowed : AllowedPaths) (table : String)
    (hf : f.IsScalar s)
    (h : (f.apply { scope := s, allowed := allowed } { table := table }).1 = .ok ()) :
    (f.apply { scope := s, allowed := allowed } { table := table }).2.1.joins = [] ∧
      (f.apply { scope := s, allowed := allowed } { table := table }).2.2.joins = [] ∧
      (f.apply { scope := s, allowed := allowed } { table := table }).2.2.isDistinct = false ∧
      ¬ HasGuard (f.apply { scope := s, allowed := allowed } { table := table }).2.2.whereText ∧
      (' ' ∉ table.toList →
        ¬ HasGuard (f.apply { scope := s, allowed := allowed } { table := table }).2.2.sql) := by
  have hs := Scope.isWellNamed_of_toCatalog hc hb
  obtain ⟨hj, params, c, hu, hq⟩ := apply_eq_of_isScalar hs rfl rfl hf h
  have hconditions : ∀ d ∈ (Select.addCondition { table := table, params := params } c).conditions,
      Unmarked d.text := by
    rw [Select.conditions_addCondition]
    split
    · exact List.forall_mem_nil _
    · exact List.forall_mem_singleton.2 hu
  rw [hq]
  refine ⟨hj, by rw [Select.joins_addCondition], ?_, ?_, ?_⟩
  · unfold Select.addCondition
    split <;> rfl
  · exact (Select.text_whereText Sql.isTextual_unmarked hconditions).not_hasGuard
  · intro ht
    refine (Select.text_sql Sql.isTextual_unmarked ?_ ?_ hconditions).not_hasGuard
    · rw [Select.table_addCondition]
      exact Sql.unmarked_quote ht
    · rw [Select.joins_addCondition]
      exact List.forall_mem_nil _

/-! ### A document, an id and what the request has -/

def sized : Definitions :=
  { collections :=
      [{ name := "posts", fields := [
          { name := "data", type := .json },
          { name := "author", type := .relation, collection := some "users" }] },
        { name := "users", fields := [{ name := "name", type := .text }] }] }

def sizedCatalog : Catalog := sized.toCatalog.toOption.getD default

def sizedScope : Scope :=
  { catalog := sizedCatalog
    base := (sizedCatalog.find? "posts").getD default
    request := some { auth := some { collectionId := "users", id := "u1" } } }

def ownSized : Filter :=
  .group .and [
    .comparison (.field "data.size") ⟨.greater, false⟩ .null,
    .comparison (.field "author.id") ⟨.equal, false⟩ (.field "@request.auth.id"),
    .comparison (.field "@request.body.author.name:isset") ⟨.equal, false⟩ (.bool false)]

theorem isScalar_ownSized : ownSized.IsScalar sizedScope := by
  have path {p : String} (h : Plan.IsScalar sizedScope p) :
      (Operand.field p).IsScalar sizedScope := by
    rintro _ ⟨⟩
    exact h
  have hdata : Plan.IsScalar sizedScope "data.size" :=
    .document (show Plan.segmentsOf "data.size" = ["data", "size"] by decide) rfl rfl
  have hauthor : Plan.IsScalar sizedScope "author.id" :=
    .recordId (show Plan.segmentsOf "author.id" = ["author", FieldName.id] by decide) rfl rfl rfl
  have hauth : Plan.IsScalar sizedScope "@request.auth.id" :=
    .carried (show Plan.segmentsOf "@request.auth.id" = ["@request", "auth", "id"] by decide)
      rfl (by decide)
  have hbody : Plan.segmentsOf "@request.body.author.name:isset" =
      ["@request", "body", "author", "name:isset"] := by decide
  have hsubmitted : Plan.IsScalar sizedScope "@request.body.author.name:isset" := by
    refine .body hbody ?_ (.inl ?_)
    · rw [hbody]
      rintro ⟨_, _, ⟨⟩, ⟨⟩⟩
    · rw [hbody]
      exact ⟨_, _, rfl, rfl⟩
  have hcomparisons : ownSized.comparisons =
      [⟨.field "data.size", ⟨.greater, false⟩, .null⟩,
        ⟨.field "author.id", ⟨.equal, false⟩, .field "@request.auth.id"⟩,
        ⟨.field "@request.body.author.name:isset", ⟨.equal, false⟩, .bool false⟩] := rfl
  unfold IsScalar
  simp only [hcomparisons, List.forall_mem_cons]
  refine ⟨⟨path hdata, ?_⟩, ⟨path hauthor, path hauth⟩, ⟨path hsubmitted, ?_⟩,
    List.forall_mem_nil _⟩
  · rintro _ ⟨⟩
  · rintro _ ⟨⟩

set_option maxRecDepth 4000 in
theorem apply_scalar_sized :
    sized.toCatalog = .ok sizedCatalog ∧
      (ownSized.apply { scope := sizedScope } { table := "posts" }).1 = .ok () ∧
      (ownSized.apply { scope := sizedScope } { table := "posts" }).2.2.joins = [] ∧
      ¬ HasGuard (ownSized.apply { scope := sizedScope } { table := "posts" }).2.2.sql := by
  have hc : sized.toCatalog = .ok sizedScope.catalog := rfl
  have hb : sizedScope.base ∈ sizedScope.catalog.collections := List.mem_cons_self
  have h := apply_scalar hc hb .wellFormed "posts" isScalar_ownSized rfl
  exact ⟨hc, rfl, h.2.1, h.2.2.2.2 (by decide)⟩

end Filter

end RecordFilter
