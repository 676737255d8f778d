import RecordFilter.Catalog.Definition
import RecordFilter.Proofs.AlikeRequests
import RecordFilter.Proofs.Patterns

/-!
# What values do to a condition

Two runs that build alike filters for alike requests end in the same condition, the same joins and
the same names (`Filter.condition_alike`). Values stay in the parameters: what a run looks up there
is only whether a value is blank, and `Params.Alike` says that both runs find the same.
-/

namespace RecordFilter

open Sql (Params)
open Resolution (isBlankValue)

/-! ## Parameters -/

namespace Sql.Params

/-- The same names, bound to values of which both are blank or neither is. -/
structure Alike (ps qs : Params) : Prop where
  last : ps.last = qs.last
  names : ps.names = qs.names
  blank : ∀ k, isBlankValue (ps.find? k) = isBlankValue (qs.find? k)

namespace Alike

variable {ps qs : Params} {v w : Json}

theorem refl (ps : Params) : Alike ps ps := ⟨rfl, rfl, fun _ => rfl⟩

theorem contains (h : Alike ps qs) (k : String) : ps.contains k = qs.contains k := by
  rw [Bool.eq_iff_iff, contains_iff, contains_iff, h.names]

theorem freeAfter (h : Alike ps qs) (tries n : Nat) :
    ps.freeAfter tries n = qs.freeAfter tries n := by
  induction tries generalizing n with
  | zero => rfl
  | succ tries ih =>
    unfold Params.freeAfter
    rw [h.contains, ih]

theorem length (h : Alike ps qs) : ps.entries.length = qs.entries.length := by
  have hl := congrArg List.length h.names
  simpa [Params.names] using hl

theorem nextNumber (h : Alike ps qs) : ps.nextNumber = qs.nextNumber := by
  unfold Params.nextNumber
  rw [h.length, h.last, h.freeAfter]

theorem mark (h : Alike ps qs) : ps.mark = qs.mark := by
  unfold Params.mark
  rw [h.length, h.last]

theorem set (h : Alike ps qs) (name : String) (hv : isBlankValue (some v) = isBlankValue (some w)) :
    Alike (ps.set name v) (qs.set name w) where
  last := h.last
  names := by rw [names_set, names_set, h.names]
  blank := by
    intro k
    rw [find?_set, find?_set]
    split
    · exact hv
    · exact h.blank k

theorem setAll (h : Alike ps qs) (bs : List (String × Json)) :
    Alike (Resolver.setAll ps bs) (Resolver.setAll qs bs) := by
  induction bs generalizing ps qs with
  | nil => exact h
  | cons b bs ih => exact ih (h.set b.1 rfl)

theorem fst_bind (h : Alike ps qs) : (ps.bind v).1 = (qs.bind w).1 := by
  rw [Params.fst_bind, Params.fst_bind, h.nextNumber]

theorem snd_bind (h : Alike ps qs) (hv : isBlankValue (some v) = isBlankValue (some w)) :
    Alike (ps.bind v).2 (qs.bind w).2 where
  last := h.nextNumber
  names := by rw [names_bind, names_bind, h.fst_bind, h.names]
  blank := by
    intro k
    rw [find?_bind, find?_bind, h.nextNumber]
    split
    · exact hv
    · exact h.blank k

theorem rollback (h : Alike ps qs) (m : Mark) : Alike (ps.rollback m) (qs.rollback m) where
  last := rfl
  names := by rw [names_rollback, names_rollback, h.names]
  blank := by
    intro k
    rw [find?_rollback, find?_rollback, h.names]
    split
    · exact h.blank k
    · rfl

theorem pattern (h : Alike ps qs) (name : String) :
    Alike (patternParam ps name) (patternParam qs name) where
  last := by rw [last_patternParam, last_patternParam, h.last]
  names := by rw [names_patternParam, names_patternParam, h.names]
  blank := by
    intro k
    rw [isBlankValue_patternParam, isBlankValue_patternParam, h.names, h.blank]

theorem patterns (h : Alike ps qs) (names : List String) :
    Alike (names.foldl patternParam ps) (names.foldl patternParam qs) := by
  induction names generalizing ps qs with
  | nil => exact h
  | cons name names ih => exact ih (h.pattern name)

end Alike

end Sql.Params

/-! ## Resolvers -/

namespace Resolver

/-- Two resolvers in the middle of alike runs: the same joins and alike parameters, over requests
`o` and `o'`. -/
structure Alike (s : Scope) (o o' : Option Request) (r r' : Resolver) : Prop where
  scope : r.scope = s.withRequest o
  scope' : r'.scope = s.withRequest o'
  allowed : r.allowed = r'.allowed
  joins : r.joins = r'.joins
  params : r.params.Alike r'.params

namespace Alike

variable {s : Scope} {o o' : Option Request} {r r' : Resolver}

theorem setParams (h : Alike s o o' r r') {ps ps' : Params} (hp : ps.Alike ps') :
    Alike s o o' { r with params := ps } { r' with params := ps' } :=
  { h with params := hp }

theorem discard (h : Alike s o o' r r') {ps ps' : Params} (hp : ps.Alike ps') :
    Alike s o o' (r.discard ps) (r'.discard ps') := by
  unfold Resolver.discard
  rw [h.params.mark]
  exact h.setParams (hp.rollback _)

theorem bind (h : Alike s o o' r r') {v w : Json}
    (hv : isBlankValue (some v) = isBlankValue (some w)) :
    (r.bind v).1 = (r'.bind w).1 ∧ Alike s o o' (r.bind v).2 (r'.bind w).2 := by
  have hn : (r.params.bind v).1 = (r'.params.bind w).1 := h.params.fst_bind
  exact ⟨hn, h.setParams (h.params.snd_bind hv)⟩

theorem commit (h : Alike s o o' r r') {p p' : Plan} (hp : p.Alike p') :
    (r.commit p).1 = (r'.commit p').1 ∧ Alike s o o' (r.commit p).2 (r'.commit p').2 := by
  cases hp with
  | same p =>
    have hps := h.params.setAll p.bindings
    unfold Resolver.commit
    rw [h.joins]
    cases r'.joins.registerAll p.joins with
    | error name => exact ⟨rfl, h.discard hps⟩
    | ok joins =>
      have hj : Alike s o o' { r with joins := joins } { r' with joins := joins } :=
        { h with joins := rfl }
      cases p.outcome with
      | error e => exact ⟨rfl, h.discard hps⟩
      | ok outcome =>
        cases outcome with
        | fixed res => exact ⟨rfl, hj.setParams hps⟩
        | bound v lower =>
          have hn : ((setAll r.params p.bindings).bind v).1 =
              ((setAll r'.params p.bindings).bind v).1 := hps.fst_bind
          exact ⟨by simp only [hn], hj.setParams (hps.snd_bind rfl)⟩
  | @bound v w lower hv =>
    have hn : (r.params.bind v).1 = (r'.params.bind w).1 := h.params.fst_bind
    refine ⟨?_, h.setParams (h.params.snd_bind hv)⟩
    show Except.ok (boundResolution (r.params.bind v).1 lower) = _
    rw [hn]
    rfl

theorem resolve (ho : Option.Rel Request.Alike o o') (h : Alike s o o' r r') (path : String) :
    (r.resolve path).1 = (r'.resolve path).1 ∧
      Alike s o o' (r.resolve path).2 (r'.resolve path).2 := by
  unfold Resolver.resolve
  rw [h.allowed]
  split
  · exact ⟨rfl, h⟩
  · split
    · exact ⟨rfl, h⟩
    · rw [h.scope, h.scope']
      exact h.commit (Plan.alike_ofPath ho path)

end Alike

end Resolver

/-! ## Comparisons -/

section Tests

variable {ps qs : Params}

theorem hasBlankParam_alike (h : ps.Alike qs) (res : Resolution) :
    res.hasBlankParam ps = res.hasBlankParam qs := by
  unfold Resolution.hasBlankParam
  simp only [h.blank]

theorem isBlank_alike (h : ps.Alike qs) (res : Resolution) : res.isBlank ps = res.isBlank qs := by
  unfold Resolution.isBlank
  rw [hasBlankParam_alike h]

theorem isFilled_alike (h : ps.Alike qs) (res : Resolution) :
    res.isFilled ps = res.isFilled qs := by
  unfold Resolution.isFilled
  rw [hasBlankParam_alike h]

/-- The form of a comparison depends on which values are blank and on nothing else of them. -/
theorem comparisonTest_alike (h : ps.Alike qs) (op : Operator) (left right : Resolution) :
    comparisonTest op left right ps = comparisonTest op left right qs := by
  have he (equal : Bool) : equalityTest equal left right ps = equalityTest equal left right qs := by
    unfold equalityTest
    rw [isBlank_alike h, isBlank_alike h, isFilled_alike h, isFilled_alike h]
  cases op with
  | equal => exact he true
  | notEqual => exact he false
  | _ => rfl

theorem comparisonParams_alike (h : ps.Alike qs) (op : Operator) (right : Resolution) :
    (comparisonParams op right ps).Alike (comparisonParams op right qs) := by
  cases op with
  | like | notLike => exact h.patterns right.params
  | _ => exact h

end Tests

/-! ## Filters -/

/-- The same operand, two texts of the same emptiness or two numbers. -/
inductive Operand.Alike : Operand → Operand → Prop
  | same (o : Operand) : Alike o o
  | text {s t : String} (h : SameEmptiness s t) : Alike (.text s) (.text t)
  | number (x y : Number.Binary64) : Alike (.number x) (.number y)

mutual

/-- Filters of the same shape that differ in texts of the same emptiness and in numbers. -/
inductive Filter.Alike : Filter → Filter → Prop
  | comparison {left left' right right' : Operand} (c : Comparator) (hl : left.Alike left')
      (hr : right.Alike right') :
      Filter.Alike (.comparison left c right) (.comparison left' c right')
  | group {items items' : List Filter} (connective : Sql.Connective)
      (h : Filter.AllAlike items items') :
      Filter.Alike (.group connective items) (.group connective items')

inductive Filter.AllAlike : List Filter → List Filter → Prop
  | nil : Filter.AllAlike [] []
  | cons {f f' : Filter} {fs fs' : List Filter} (h : Filter.Alike f f')
      (hs : Filter.AllAlike fs fs') : Filter.AllAlike (f :: fs) (f' :: fs')

end

namespace Builder

structure Alike (s : Scope) (o o' : Option Request) (b b' : Builder) : Prop where
  resolver : b.resolver.Alike s o o' b'.resolver
  guards : b.guards = b'.guards

variable {s : Scope} {o o' : Option Request} {b b' : Builder}

theorem Alike.literal (h : Alike s o o' b b') {v w : Json}
    (hv : isBlankValue (some v) = isBlankValue (some w)) :
    (b.literal v).1 = (b'.literal w).1 ∧ Alike s o o' (b.literal v).2 (b'.literal w).2 := by
  obtain ⟨hn, hr⟩ := h.resolver.bind hv
  refine ⟨?_, hr, h.guards⟩
  show Resolver.boundResolution (b.resolver.bind v).1 false = _
  rw [hn]
  rfl

theorem isBlankValue_toJson (x : Number.Binary64) : isBlankValue (some x.toJson) = false := by
  unfold Number.Binary64.toJson
  split <;> rfl

theorem Alike.operand (ho : Option.Rel Request.Alike o o') (h : Alike s o o' b b')
    {l l' : Operand} (hl : l.Alike l') :
    (b.operand l).1 = (b'.operand l').1 ∧
      Alike s o o' (b.operand l).2 (b'.operand l').2 := by
  have literal {v w : Json} (hv : isBlankValue (some v) = isBlankValue (some w)) :
      Except.ok (b.literal v).1 = (Except.ok (b'.literal w).1 : Except FilterError Resolution) ∧
        Alike s o o' (b.literal v).2 (b'.literal w).2 :=
    ⟨by rw [(h.literal hv).1], (h.literal hv).2⟩
  cases hl with
  | text he => exact literal (isBlankValue_text he)
  | number x y =>
    exact literal ((isBlankValue_toJson x).trans (isBlankValue_toJson y).symm)
  | same l =>
    cases l with
    | field path =>
      obtain ⟨hr, ha⟩ := h.resolver.resolve ho path
      unfold Builder.operand
      simp only
      generalize b.resolver.resolve path = x at hr ha
      generalize b'.resolver.resolve path = x' at hr ha
      obtain ⟨res, r⟩ := x
      obtain ⟨res', r'⟩ := x'
      obtain rfl : res = res' := hr
      cases res with
      | ok res => exact ⟨rfl, ha, h.guards⟩
      | error e => exact ⟨rfl, ha, h.guards⟩
    | text => exact literal rfl
    | number => exact literal rfl
    | bool => exact ⟨rfl, h⟩
    | null => exact ⟨rfl, h⟩

theorem Alike.compare (h : Alike s o o' b b') (op : Operator) (left right : Resolution) :
    (b.compare op left right).1 = (b'.compare op left right).1 ∧
      Alike s o o' (b.compare op left right).2 (b'.compare op left right).2 :=
  ⟨comparisonTest_alike h.resolver.params op left right,
    h.resolver.setParams (comparisonParams_alike h.resolver.params op right), h.guards⟩

theorem Alike.comparison (h : Alike s o o' b b') (left : Resolution) (c : Comparator)
    (right : Resolution) :
    (b.comparison left c right).1 = (b'.comparison left c right).1 ∧
      Alike s o o' (b.comparison left c right).2 (b'.comparison left c right).2 := by
  obtain ⟨ht, hb⟩ := h.compare c.operator left right
  have hg : (b.compare c.operator left right).2.guards =
      (b'.compare c.operator left right).2.guards := hb.guards
  unfold Builder.comparison
  simp only
  rw [ht, hg]
  split
  · next insideLeft insideRight guardWith ha hgd =>
    have hb' : Alike s o o'
        { (b.compare c.operator left right).2 with
          guards := (b'.compare c.operator left right).2.guards + 1 }
        { (b'.compare c.operator left right).2 with
          guards := (b'.compare c.operator left right).2.guards + 1 } := ⟨hb.resolver, rfl⟩
    obtain ⟨hi, hc⟩ := hb'.compare c.operator insideLeft insideRight
    exact ⟨by rw [hi], hc⟩
  · exact ⟨rfl, hb⟩

/-- Two runs that agree so far have both failed or have both come to a result. -/
theorem agree_cases {α : Type} {x x' : Except FilterError α × Builder}
    (h : x.1 = x'.1 ∧ Alike s o o' x.2 x'.2) :
    (∃ e c c', x = (.error e, c) ∧ x' = (.error e, c') ∧ Alike s o o' c c') ∨
      ∃ a c c', x = (.ok a, c) ∧ x' = (.ok a, c') ∧ Alike s o o' c c' := by
  obtain ⟨res, c⟩ := x
  obtain ⟨res', c'⟩ := x'
  obtain ⟨rfl, ha⟩ : res = res' ∧ Alike s o o' c c' := h
  cases res with
  | error e => exact .inl ⟨e, c, c', rfl, rfl, ha⟩
  | ok a => exact .inr ⟨a, c, c', rfl, rfl, ha⟩

mutual

theorem Alike.build (ho : Option.Rel Request.Alike o o') {f f' : Filter} (hf : f.Alike f')
    {b b' : Builder} (h : Alike s o o' b b') :
    (b.build f).1 = (b'.build f').1 ∧ Alike s o o' (b.build f).2 (b'.build f').2 := by
  cases hf with
  | comparison c hl hr =>
    unfold Builder.build
    rcases agree_cases (h.operand ho hl) with
      ⟨e, bl, bl', hx, hx', ha⟩ | ⟨l, bl, bl', hx, hx', ha⟩
    · rw [hx, hx']; exact ⟨rfl, ha⟩
    · rw [hx, hx']
      simp only
      rcases agree_cases (ha.operand ho hr) with
        ⟨e, br, br', hy, hy', hb⟩ | ⟨r, br, br', hy, hy', hb⟩
      · rw [hy, hy']; exact ⟨rfl, hb⟩
      · rw [hy, hy']
        obtain ⟨hc, hd⟩ := hb.comparison l c r
        exact ⟨congrArg Except.ok hc, hd⟩
  | group connective hs =>
    unfold Builder.build
    rcases agree_cases (Alike.buildAll ho hs h) with
      ⟨e, c, c', hx, hx', ha⟩ | ⟨cs, c, c', hx, hx', ha⟩
    · rw [hx, hx']; exact ⟨rfl, ha⟩
    · rw [hx, hx']; exact ⟨rfl, ha⟩

theorem Alike.buildAll (ho : Option.Rel Request.Alike o o') {fs fs' : List Filter}
    (hf : Filter.AllAlike fs fs') {b b' : Builder} (h : Alike s o o' b b') :
    (b.buildAll fs).1 = (b'.buildAll fs').1 ∧
      Alike s o o' (b.buildAll fs).2 (b'.buildAll fs').2 := by
  cases hf with
  | nil => exact ⟨rfl, h⟩
  | cons hf hs =>
    unfold Builder.buildAll
    rcases agree_cases (Alike.build ho hf h) with
      ⟨e, d, d', hx, hx', ha⟩ | ⟨c, d, d', hx, hx', ha⟩
    · rw [hx, hx']; exact ⟨rfl, ha⟩
    · rw [hx, hx']
      simp only
      rcases agree_cases (Alike.buildAll ho hs ha) with
        ⟨e, d, d', hy, hy', hb⟩ | ⟨cs, d, d', hy, hy', hb⟩
      · rw [hy, hy']; exact ⟨rfl, hb⟩
      · rw [hy, hy']; exact ⟨rfl, hb⟩

end

end Builder

/-- Alike filters for alike requests come to the same condition or the same error, with the same
joins and the same names of parameters. -/
theorem Filter.condition_alike (s : Scope) (allowed : AllowedPaths) {o o' : Option Request}
    (ho : Option.Rel Request.Alike o o') {f f' : Filter} (hf : f.Alike f') :
    let run := f.condition { scope := s.withRequest o, allowed := allowed }
    let run' := f'.condition { scope := s.withRequest o', allowed := allowed }
    run.1 = run'.1 ∧ run.2.joins = run'.2.joins ∧ run.2.params.names = run'.2.params.names := by
  intro run run'
  have hr : Resolver.Alike s o o' { scope := s.withRequest o, allowed := allowed }
      { scope := s.withRequest o', allowed := allowed } :=
    ⟨rfl, rfl, rfl, rfl, .refl _⟩
  have hb : Builder.Alike s o o' { resolver := _ } { resolver := _ } := ⟨hr, rfl⟩
  obtain ⟨hc, ha⟩ := hb.build ho hf
  exact ⟨hc, ha.resolver.joins, ha.resolver.params.names⟩

/-! ### A search -/

def rated : Definitions :=
  { collections :=
      [{ name := "posts", fields := [{ name := "title", type := .text },
          { name := "score", type := .number }] }] }

def ratedScope : Scope :=
  { catalog := rated.toCatalog.toOption.getD default
    base := ((rated.toCatalog.toOption.getD default).find? "posts").getD default }

def search (title : String) (score : Number.Binary64) : Filter :=
  .group .and
    [.comparison (.field "title") ⟨.like, false⟩ (.text title),
      .comparison (.field "score") ⟨.greater, false⟩ (.number score),
      .comparison (.field "@request.query.key") ⟨.notEqual, false⟩ .null]

def asking (key : String) : Request := { method := "GET", query := [("key", key)] }

theorem alike_asking {a b : String} (h : SameEmptiness a b) : (asking a).Alike (asking b) where
  context := .rfl
  method := .rfl
  query := by
    intro key
    by_cases hk : "key" = key
    · simp only [asking, Json.find?, hk, if_true]
      exact .some h
    · simp only [asking, Json.find?, hk, if_false]
      exact .none
  headers := fun _ => .none
  body := rfl
  auth := rfl

set_option maxRecDepth 4000 in
/-- What is looked for and the quotes and the signs in it leave no trace in the condition. -/
theorem condition_alike_search :
    (∃ c, ((search "draft" ⟨false, 5, -1⟩).condition
      { scope := ratedScope.withRequest (some (asking "a")), allowed := .wellFormed }).1 = .ok c) ∧
    ((search "draft" ⟨false, 5, -1⟩).condition
      { scope := ratedScope.withRequest (some (asking "a")), allowed := .wellFormed }).1 =
    ((search "' OR 1=1" ⟨true, 7, 0⟩).condition
      { scope := ratedScope.withRequest (some (asking "b")), allowed := .wellFormed }).1 := by
  have hf : (search "draft" ⟨false, 5, -1⟩).Alike (search "' OR 1=1" ⟨true, 7, 0⟩) :=
    .group _ (.cons (.comparison _ (.same _) (.text (by decide)))
      (.cons (.comparison _ (.same _) (.number _ _))
        (.cons (.comparison _ (.same _) (.same _)) .nil)))
  exact ⟨⟨_, rfl⟩,
    (Filter.condition_alike ratedScope .wellFormed (.some (alike_asking (by decide))) hf).1⟩

end RecordFilter
