import RecordFilter.Proofs.Comparisons
import RecordFilter.Proofs.Formulas
import RecordFilter.Proofs.Frames
import RecordFilter.Proofs.Truth

/-!
# NULL and the empty text in equalities

An equality is written in one of five forms, chosen by what is known of its sides. They all mean the
same: the test is true exactly if the values of the sides are equal with NULL read as the empty
text, and that of the negation exactly if they are not. Beside a JSON extraction NULL is a value of
its own (`Builder.equality_truth`).
-/

namespace RecordFilter

open Sql (Expr Test Condition Row Value Truth Params Relation)

/-! ## Forms of equality -/

namespace Sql

variable {row : Row} {params : Params} {u v w a b : Value} {e e' : Expr}

namespace Value

theorem ne_null_of_filled (h : u.orEmpty ≠ .text "") : u ≠ .null := fun hu => h (hu ▸ rfl)

/-- Values that are not both blank are told apart. -/
theorem orEmpty_inj_iff (h : a.orEmpty ≠ .text "" ∨ b.orEmpty ≠ .text "") :
    a.orEmpty = b.orEmpty ↔ a = b := by
  refine ⟨fun he => ?_, congrArg _⟩
  have ha : a.orEmpty ≠ .text "" := h.elim id fun hb => he ▸ hb
  have hb : b.orEmpty ≠ .text "" := he ▸ ha
  rwa [orEmpty_of_ne_null (ne_null_of_filled ha),
    orEmpty_of_ne_null (ne_null_of_filled hb)] at he

/-- What an equality, or its negation, says of two values. NULL and the empty text are one value,
unless the comparison is exact. -/
def Agrees (exact equal : Bool) (u w : Value) : Prop :=
  (if exact then u = w else u.orEmpty = w.orEmpty) ↔ equal = true

end Value

namespace Relation

theorem equal_truth : equal.truth row u w = some true ↔ u ≠ .null ∧ w ≠ .null ∧ u = w := by
  rw [truth]
  split
  · next h => simp only [reduceCtorEq, false_iff]; tauto
  · next h => simp only [Option.some.injEq, decide_eq_true_eq]; tauto

theorem distinct_truth : distinct.truth row u w = some true ↔ u ≠ w := by
  simp [truth]

theorem notDistinct_truth : notDistinct.truth row u w = some true ↔ u = w := by
  simp [truth]

def same (isEqual : Bool) : Relation := if isEqual then equal else distinct

theorem same_truth (hu : u ≠ .null) (hw : w ≠ .null) (isEqual : Bool) :
    (same isEqual).truth row u w = some true ↔ (u = w ↔ isEqual = true) := by
  cases isEqual with
  | true => simp [same, equal_truth, hu, hw]
  | false => simp [same, distinct_truth]

/-- Where one side is filled, a blank side may be written as the empty text. -/
theorem same_truth_of_filled (ha : a.orEmpty = u.orEmpty) (hb : b.orEmpty = w.orEmpty)
    (h : u.orEmpty ≠ .text "" ∨ w.orEmpty ≠ .text "") (isEqual : Bool) :
    (same isEqual).truth row a b = some true ↔ Value.Agrees false isEqual u w := by
  rw [← ha, ← hb] at h
  show _ ↔ (u.orEmpty = w.orEmpty ↔ isEqual = true)
  rw [← ha, ← hb, Value.orEmpty_inj_iff h]
  cases isEqual with
  | true =>
    have hne : a = b → a ≠ .null ∧ b ≠ .null := by
      rintro rfl
      have ha := Value.ne_null_of_filled (h.elim id id)
      exact ⟨ha, ha⟩
    simp only [same, if_true, equal_truth, iff_true]
    exact ⟨fun h => h.2.2, fun h => ⟨(hne h).1, (hne h).2, h⟩⟩
  | false => simp [same, distinct_truth]

end Relation

namespace Test

theorem coalesced_truth (he : e.eval row params = u) (he' : e'.eval row params = w)
    (isEqual : Bool) :
    (relates (.coalesced e) (.same isEqual) (.coalesced e')).truth row params = some true ↔
      Value.Agrees false isEqual u w := by
  show (Relation.same isEqual).truth row (e.eval row params).orEmpty (e'.eval row params).orEmpty =
    some true ↔ _
  rw [he, he', Relation.same_truth (Value.orEmpty_ne_null u) (Value.orEmpty_ne_null w)]
  rfl

/-- Beside a blank side it is asked whether the other one is blank too. -/
theorem blank_truth (he : e.eval row params = u) :
    ((blankRight e).truth row params = some true ↔ u.orEmpty = .text "") ∧
      ((blankLeft e).truth row params = some true ↔ u.orEmpty = .text "") := by
  rw [Value.orEmpty_eq_empty_iff]
  constructor <;>
    simp only [truth, predicate, Predicate.truth, Expr.eval, he, Truth.or_eq_true,
      Relation.equal_truth, Option.some.injEq, decide_eq_true_eq] <;>
    cases u <;> simp [eq_comm]

theorem filled_truth (he : e.eval row params = u) :
    ((filledRight e).truth row params = some true ↔ u.orEmpty ≠ .text "") ∧
      ((filledLeft e).truth row params = some true ↔ u.orEmpty ≠ .text "") := by
  rw [Ne, Value.orEmpty_eq_empty_iff]
  constructor <;>
    simp only [truth, predicate, Predicate.truth, Expr.eval, he, Truth.and_eq_true,
      Relation.distinct_truth, Option.some.injEq, decide_eq_true_eq] <;>
    cases u <;> simp [eq_comm]

theorem blankRight_truth (hu : u.orEmpty = .text "") (he : e.eval row params = w)
    (isEqual : Bool) :
    (if isEqual then blankRight e else filledRight e).truth row params = some true ↔
      Value.Agrees false isEqual u w := by
  simp only [Value.Agrees, hu, Bool.false_eq_true, if_false, eq_comm (a := Value.text "")]
  cases isEqual with
  | true => simpa using (blank_truth he).1
  | false => simpa using (filled_truth he).1

theorem blankLeft_truth (he : e.eval row params = u) (hw : w.orEmpty = .text "")
    (isEqual : Bool) :
    (if isEqual then blankLeft e else filledLeft e).truth row params = some true ↔
      Value.Agrees false isEqual u w := by
  simp only [Value.Agrees, hw, Bool.false_eq_true, if_false]
  cases isEqual with
  | true => simpa using (blank_truth he).2
  | false => simpa using (filled_truth he).2

end Test

end Sql

/-! ## Resolved sides -/

namespace Resolution

variable {row : Row} {params : Params} {left right res : Resolution} {u w : Value}

/-- A resolved side has a value, and what is known of the side is true of the value. -/
structure Has (row : Row) (params : Params) (res : Resolution) (u : Value) : Prop where
  value : res.value.eval row params = u
  blank : res.isBlank params = true → u.orEmpty = .text ""
  filled : res.isFilled params = true → u.orEmpty ≠ .text ""

theorem Has.shown (h : res.Has row params u) :
    ((if res.isBlank params then Expr.emptyText else res.value).eval row params).orEmpty =
      u.orEmpty := by
  split
  · next hb => exact (h.blank hb).symm
  · rw [h.value]

/-- Every form of an equality says that the values are equal, and every form of its negation that
they are not. -/
theorem equalityTest_truth (hl : left.Has row params u) (hr : right.Has row params w)
    (isEqual : Bool) :
    (equalityTest isEqual left right params).truth row params = some true ↔
      Value.Agrees (left.isExact || right.isExact) isEqual u w := by
  unfold equalityTest
  simp only
  split
  · next he =>
    rw [he]
    show Relation.truth row _ (left.value.eval row params) (right.value.eval row params) = _ ↔ _
    rw [hl.value, hr.value]
    cases isEqual <;>
      simp [Value.Agrees, Relation.notDistinct_truth, Relation.distinct_truth]
  · next he =>
    rw [Bool.eq_false_iff.2 he]
    split
    · next hb =>
      rw [Bool.and_eq_true] at hb
      have hagree : u.orEmpty = w.orEmpty := (hl.blank hb.1).trans (hr.blank hb.2).symm
      refine (Relation.same_truth (u := .text "") (w := .text "") ?_ ?_ isEqual).trans ?_
      · exact Value.noConfusion
      · exact Value.noConfusion
      · exact iff_congr (iff_of_true rfl hagree) Iff.rfl
    · split
      · next hf =>
        refine Relation.same_truth_of_filled hl.shown hr.shown ?_ isEqual
        rw [Bool.or_eq_true] at hf
        exact hf.imp hl.filled hr.filled
      · split
        · next hb => exact Test.blankRight_truth (hl.blank hb) hr.value isEqual
        · split
          · next hb => exact Test.blankLeft_truth hl.value (hr.blank hb) isEqual
          · exact Test.coalesced_truth hl.value hr.value isEqual

end Resolution

/-! ## Conditions of one comparison -/

namespace Sql.Condition

def test? : Condition → Option Test
  | test t | guarded t _ => some t
  | visible inner _ => inner.test?
  | _ => none

/-- What the condition of a comparison asks besides its test: its guard, and emails to be shown. -/
def Demands (row : Row) : Condition → Prop
  | guarded _ guard => row.passes guard = true
  | visible inner table => inner.Demands row ∧ row.shows table = some true
  | _ => True

/-- The condition of a comparison is true where its test is and nothing else is missing. -/
theorem truth_of_test? {row : Row} {params : Params} {t : Test} :
    ∀ {c : Condition}, c.test? = some t →
      (c.truth row params = some true ↔ t.truth row params = some true ∧ c.Demands row)
  | test _, h => by
    cases h
    simp [truth, Demands]
  | guarded _ _, h => by
    cases h
    simp [truth, Demands]
  | visible inner table, h => by
    rw [truth, Truth.and_eq_true, truth_of_test? (c := inner) h, Demands, and_assoc]

end Sql.Condition

namespace Builder

variable {l r : Resolution} {t : Test}

theorem test?_requireVisible (c : Condition) (tables : List (Option String)) :
    (requireVisible c tables).test? = c.test? := by
  induction tables generalizing c with
  | nil => rfl
  | cons table tables ih => cases table <;> exact ih _

/-- The condition of a comparison has its test in it, and may be nothing else. -/
theorem test?_comparison (b : Builder) (l : Resolution) (c : Comparator) (r : Resolution) :
    (b.comparison l c r).1.test? =
        some (comparisonTest c.operator l r b.resolver.params) ∧
      ((c.isAny = true ∨ l.listing = none ∧ r.listing = none) → l.visibleIn = none →
        r.visibleIn = none →
        (b.comparison l c r).1 = .test (comparisonTest c.operator l r b.resolver.params)) := by
  obtain ⟨inner, hs, he⟩ := comparison_shape b l c r
  rw [he, test?_requireVisible]
  cases hs with
  | plain => exact ⟨rfl, fun _ hl hr => by rw [hl, hr]; rfl⟩
  | guarded guard hstrict hm =>
    refine ⟨rfl, fun ha _ _ => ?_⟩
    rcases ha with ha | ⟨hl, hr⟩
    · rw [hstrict] at ha; cases ha
    · rw [hl, hr] at hm
      simp at hm

end Builder

/-! ## The values of operands -/

def Sql.Row.bound (row : Row) (v : Json) (lower : Bool) : Value :=
  if lower then row.lower (.ofJson v) else .ofJson v

def Sql.Expr.isExtraction : Expr → Bool
  | .extract _ _ => true
  | .lower e => e.isExtraction
  | _ => false

namespace Outcome

/-- The value that an outcome has in a row. Submitted items have none: they are rows of their
own. -/
def value? (row : Row) : Outcome → Option Value
  | fixed res => if res.params = [] then some (res.value.eval row {}) else none
  | bound v lower => some (row.bound v lower)

def isExtraction : Outcome → Bool
  | fixed res => res.value.isExtraction
  | bound _ _ => false

/-- Whether nothing is asked of a comparison but its test: one value is enough or there is only
one, and no record has to show its email. -/
def isAlone (isAny : Bool) : Outcome → Bool
  | fixed res => (isAny || res.listing.isNone) && res.visibleIn.isNone
  | bound _ _ => true

end Outcome

namespace Operand

def outcome? (s : Scope) : Operand → Option Outcome
  | field path => (Plan.ofPath s path).outcome.toOption
  | text t => some (.bound (.text t) false)
  | number x => some (.bound x.toJson false)
  | bool b => some (.fixed { value := .bool b })
  | null => some (.fixed { value := .null })

def value? (row : Row) (s : Scope) (o : Operand) : Option Value :=
  (o.outcome? s).bind (·.value? row)

def isExtraction (s : Scope) (o : Operand) : Bool := (o.outcome? s).any Outcome.isExtraction

def isAlone (isAny : Bool) (s : Scope) (o : Operand) : Bool :=
  (o.outcome? s).any (Outcome.isAlone isAny)

end Operand

namespace Plan

variable {s : Scope} {path : String} {res : Resolution}

theorem fixed_ofPath (ho : (ofPath s path).outcome = .ok (.fixed res)) :
    res.value.params = [] ∧ res.isExact = res.value.isExtraction := by
  have hk := kind_ofPath s path
  generalize ofPath s path = p at hk ho
  cases hk with
  | fail => cases ho
  | constant hv =>
    cases ho
    cases hv <;> exact ⟨rfl, rfl⟩
  | bound => cases ho
  | @below root rest h =>
    obtain ⟨r, rest', -, -, he⟩ := ends_below s path root rest
    generalize below s path root rest = p at he ho
    cases he with
    | fails => cases ho
    | nothing =>
      cases ho
      exact ⟨rfl, rfl⟩
    | @reads f how =>
      cases ho
      refine ⟨how.params_value f _, ?_⟩
      rcases how with (_ | _) | ⟨_, _ | _⟩ | _ | _ <;> rfl
  | items =>
    cases ho
    exact ⟨rfl, rfl⟩

end Plan

namespace Resolution

variable {row : Row}

/-- What counts as a blank value is bound as NULL or as the empty text. -/
theorem isBlankValue_iff {v : Json} :
    isBlankValue (some v) = true ↔ (Value.ofJson v).orEmpty = .text "" := by
  have written {cs : List Char} (h : cs ≠ []) : String.ofList cs ≠ "" := fun he => by
    rw [← String.toList_eq_nil_iff, String.toList_ofList] at he
    exact h he
  cases v with
  | null => exact iff_of_true rfl rfl
  | text s => simp [isBlankValue, Value.ofJson, Value.orEmpty, String.isEmpty_iff]
  | bool b => simp [isBlankValue, Value.ofJson, Value.orEmpty]
  | number n => cases n <;> simp [isBlankValue, Value.ofJson, Value.orEmpty]
  | list items =>
    have hne : (Json.list items).compact ≠ "" := written (by cases items <;> simp [Json.chars])
    simpa [isBlankValue, Value.ofJson, Value.orEmpty] using hne
  | object members =>
    have hne : (Json.object members).compact ≠ "" :=
      written (by cases members <;> simp [Json.chars])
    simpa [isBlankValue, Value.ofJson, Value.orEmpty] using hne

theorem isBlankValue_bound {v : Json} {lower : Bool} :
    isBlankValue (some v) = true ↔ (row.bound v lower).orEmpty = .text "" := by
  rw [isBlankValue_iff]
  cases lower with
  | false => rfl
  | true =>
    show _ ↔ (row.lower (.ofJson v)).orEmpty = .text ""
    rw [Value.orEmpty_eq_empty_iff, Value.orEmpty_eq_empty_iff, row.lower_eq_null,
      row.lower_eq_empty]

end Resolution

/-- What an operand resolves to: an expression without parameters in it, or a value that is bound
under a generated name. -/
inductive Operand.Resolves (s : Scope) (params : Params) (o : Operand) : Resolution → Prop
  | fixed {res : Resolution} (ho : o.outcome? s = some (.fixed res)) (hv : res.value.params = [])
      (he : res.isExact = res.value.isExtraction) : Resolves s params o res
  | bound {n : Nat} {v : Json} {lower : Bool} (ho : o.outcome? s = some (.bound v lower))
      (hf : params.find? (Params.generated n) = some v) :
      Resolves s params o (Resolver.boundResolution (Params.generated n) lower)

namespace Operand.Resolves

variable {s : Scope} {params params' : Params} {o : Operand} {res : Resolution} {row : Row}
  {u : Value}

theorem mono (h : o.Resolves s params res) (hp : ∀ n v, params.find? (Params.generated n) = some v →
    params'.find? (Params.generated n) = some v) : o.Resolves s params' res := by
  cases h with
  | fixed ho hv he => exact .fixed ho hv he
  | bound ho hf => exact .bound ho (hp _ _ hf)

theorem isExact_eq (h : o.Resolves s params res) : res.isExact = o.isExtraction s := by
  cases h with
  | fixed ho hv he => rw [he, isExtraction, ho]; rfl
  | bound ho hf => rw [isExtraction, ho]; rfl

theorem has (h : o.Resolves s params res) (hu : o.value? row s = some u) :
    res.Has row params u := by
  cases h with
  | fixed ho hv he =>
    rw [value?, ho, Option.bind_some, Outcome.value?, Option.ite_none_right_eq_some,
      Option.some.injEq] at hu
    obtain ⟨hp, rfl⟩ := hu
    have hnone : res.hasBlankParam params = false := by
      rw [Resolution.hasBlankParam, hp, List.any_nil]
    refine ⟨Expr.eval_congr (by simp [hv]), fun hb => ?_, fun hf => ?_⟩
    · rw [Resolution.isBlank, hnone, Bool.or_false] at hb
      cases hr : res.value <;> rw [hr] at hb <;> cases hb <;> rfl
    · rw [Resolution.isFilled, hp, List.isEmpty_nil, Bool.not_true, Bool.false_and,
        Bool.false_and, Bool.or_false] at hf
      cases hr : res.value <;> rw [hr] at hf <;>
        first | exact absurd hf Bool.false_ne_true | simp [Expr.eval, Value.orEmpty]
  | @bound n v lower ho hf =>
    obtain rfl : row.bound v lower = u := by
      rw [value?, ho] at hu
      exact Option.some.inj hu
    have hblank : (Resolver.boundResolution (Params.generated n) lower).hasBlankParam params =
        Resolution.isBlankValue (some v) := by
      simp [Resolution.hasBlankParam, Resolver.boundResolution, hf]
    have hempty : (Resolver.boundResolution (Params.generated n) lower).value.isEmpty = false ∧
        (Resolver.boundResolution (Params.generated n) lower).value.isSolid = false := by
      cases lower <;> exact ⟨rfl, rfl⟩
    refine ⟨?_, fun hb => ?_, fun hs he => ?_⟩
    · cases lower <;> simp [Resolver.boundResolution, Expr.eval, hf, Row.bound]
    · rw [Resolution.isBlank, hempty.1, hblank, Bool.false_or] at hb
      exact Resolution.isBlankValue_bound.1 hb
    · rw [Resolution.isFilled, hempty.1, hempty.2, hblank, Resolution.isBlankValue_bound.2 he] at hs
      simp at hs

theorem alone (h : o.Resolves s params res) {isAny : Bool} (ha : o.isAlone isAny s = true) :
    (isAny = true ∨ res.listing = none) ∧ res.visibleIn = none := by
  cases h with
  | fixed ho hv he =>
    rw [isAlone, ho] at ha
    simpa [Outcome.isAlone] using ha
  | bound => exact ⟨.inr rfl, rfl⟩

end Operand.Resolves

namespace Builder

variable {b b' : Builder} {o left right : Operand} {l r res : Resolution}

theorem resolves_operand (h : b.operand o = (.ok res, b')) :
    o.Resolves b.resolver.scope b'.resolver.params res := by
  have bound (ps : Params) (v : Json) :
      (ps.bind v).2.find? (Params.generated ps.nextNumber) = some v := by
    rw [Params.find?_bind]
    exact if_pos rfl
  cases o with
  | field path =>
    obtain ⟨hr, hb⟩ := resolve_of_operand h
    rcases Resolver.resolve_outcomes b.resolver path with
      ⟨e, ps, he, -⟩ | ⟨joins, res', -, ho, he⟩ | ⟨joins, v, lower, -, ho, he⟩
    · rw [he] at hr; cases hr
    · rw [he] at hr
      cases hr
      obtain ⟨hv, hx⟩ := Plan.fixed_ofPath ho
      exact .fixed (by rw [Operand.outcome?, ho]; rfl) hv hx
    · rw [he] at hr hb
      cases hr
      refine .bound (by rw [Operand.outcome?, ho]; rfl) ?_
      rw [hb]
      exact bound _ v
  | text t | number x =>
    cases h
    exact .bound rfl (bound _ _)
  | bool | null =>
    cases h
    exact .fixed rfl rfl rfl

/-- What was bound under a generated name stays bound while operands are resolved. -/
theorem find?_generated_operand {n : Nat} {v : Json}
    (hv : b.resolver.params.find? (Params.generated n) = some v) (o : Operand) :
    (b.operand o).2.resolver.params.find? (Params.generated n) = some v := by
  rcases find?_operand o hv with ⟨w, hb, -⟩ | ⟨-, hf⟩
  · cases o with
    | field path => exact absurd rfl ((Plan.binds_of_mem hb.2.2).ne_generated n)
    | _ => cases hb
  · exact hf

theorem comparisonParams_of_not_like {op : Operator} (hop : op.isLike = false)
    (right : Resolution) (params : Params) : comparisonParams op right params = params := by
  cases op <;> first | rfl | cases hop

theorem params_comparison {c : Comparator} (hc : c.operator.isLike = false) :
    (b.comparison l c r).2.resolver.params = b.resolver.params := by
  unfold comparison
  simp only
  split
  · simp only [compare, comparisonParams_of_not_like hc]
  · simp only [compare, comparisonParams_of_not_like hc]

theorem params_of_comparison {c : Comparator} {cond : Condition} (hc : c.operator.isLike = false)
    (h : b.comparison l c r = (cond, b')) : b'.resolver.params = b.resolver.params := by
  have hkept := params_comparison (b := b) (l := l) (r := r) hc
  rwa [h] at hkept

theorem operands_of_build {c : Comparator} {cond : Condition}
    (h : b.build (.comparison left c right) = (.ok cond, b')) :
    ∃ l b₁ r b₂, b.operand left = (.ok l, b₁) ∧ b₁.operand right = (.ok r, b₂) ∧
      b₂.comparison l c r = (cond, b') := by
  rw [build] at h
  split at h
  · cases h
  · next l b₁ hl =>
    split at h
    · cases h
    · next r b₂ hr =>
      cases h
      exact ⟨l, b₁, r, b₂, hl, hr, rfl⟩

/-- What the sides of a comparison resolve to is bound when the comparison is built, unless patterns
are made. -/
theorem resolves_of_build {c : Comparator} {cond : Condition} (hc : c.operator.isLike = false)
    (h : b.build (.comparison left c right) = (.ok cond, b')) :
    ∃ l r, ∃ b₂ : Builder, left.Resolves b.resolver.scope b'.resolver.params l ∧
      right.Resolves b.resolver.scope b'.resolver.params r ∧
      b₂.resolver.params = b'.resolver.params ∧ (b₂.comparison l c r).1 = cond := by
  obtain ⟨l, b₁, r, b₂, hl, hr, hbuilt⟩ := operands_of_build h
  have hs : b₁.resolver.scope = b.resolver.scope := by
    rw [← (scope_operand b left).1, hl]
  rw [params_of_comparison hc hbuilt]
  -- what the left side binds outlives the right side
  refine ⟨l, r, b₂, (resolves_operand hl).mono fun n v hf => ?_, hs ▸ resolves_operand hr, rfl,
    by rw [hbuilt]⟩
  have hkept := find?_generated_operand hf right
  rwa [hr] at hkept

/-- The test that is built for an equality is true exactly if its sides are equal, and that of a
negation exactly if they are not: NULL and the empty text are one value, unless a side is an
extraction from JSON. The condition asks for more only if several values have to pass or an email
has to be shown. -/
theorem equality_truth {isEqual isAny : Bool} {cond : Condition} {row : Row} {u w : Value}
    (hu : left.value? row b.resolver.scope = some u)
    (hw : right.value? row b.resolver.scope = some w)
    (h : b.build (.comparison left ⟨if isEqual then .equal else .notEqual, isAny⟩ right) =
      (.ok cond, b')) :
    ∃ t, cond.test? = some t ∧
      (t.truth row b'.resolver.params = some true ↔
        Value.Agrees (left.isExtraction b.resolver.scope || right.isExtraction b.resolver.scope)
          isEqual u w) ∧
      (cond.truth row b'.resolver.params = some true ↔
        t.truth row b'.resolver.params = some true ∧ cond.Demands row) ∧
      (left.isAlone isAny b.resolver.scope = true → right.isAlone isAny b.resolver.scope = true →
        cond = .test t) := by
  obtain ⟨l, b₁, r, b₂, hl, hr, hc⟩ := operands_of_build h
  have hs : b₁.resolver.scope = b.resolver.scope := by
    rw [← (scope_operand b left).1, hl]
  -- what the left side binds outlives the right side
  have hleft : left.Resolves b.resolver.scope b₂.resolver.params l :=
    (resolves_operand hl).mono fun n v hf => by
      have hkept := find?_generated_operand hf right
      rwa [hr] at hkept
  have hright : right.Resolves b.resolver.scope b₂.resolver.params r := hs ▸ resolves_operand hr
  have hlike : (if isEqual then Operator.equal else .notEqual).isLike = false := by
    cases isEqual <;> rfl
  have hform : comparisonTest (if isEqual then .equal else .notEqual) l r b₂.resolver.params =
      equalityTest isEqual l r b₂.resolver.params := by
    cases isEqual <;> rfl
  have hparams : b'.resolver.params = b₂.resolver.params := by
    have hkept := params_comparison (b := b₂) (l := l) (r := r)
      (c := ⟨if isEqual then .equal else .notEqual, isAny⟩) hlike
    rwa [hc] at hkept
  obtain ⟨htest, halone⟩ :=
    test?_comparison b₂ l ⟨if isEqual then .equal else .notEqual, isAny⟩ r
  rw [hc, hform] at htest halone
  rw [hparams, ← hleft.isExact_eq, ← hright.isExact_eq]
  refine ⟨_, htest, Resolution.equalityTest_truth (hleft.has hu) (hright.has hw) isEqual,
    Condition.truth_of_test? htest, fun ha ha' => ?_⟩
  obtain ⟨hlist, hv⟩ := hleft.alone ha
  obtain ⟨hlist', hv'⟩ := hright.alone ha'
  exact halone (by tauto) hv hv'

def untitled : Definitions :=
  { collections := [{ name := "posts", fields := [{ name := "title", type := .text }] }] }

def untitledScope : Scope :=
  { catalog := untitled.toCatalog.toOption.getD default
    base := ((untitled.toCatalog.toOption.getD default).find? "posts").getD default
    request := some { method := "PATCH", body := [("title", .plain (.text ""))] } }

def untitledBuilder : Builder := { resolver := { scope := untitledScope } }

def sameTitle : Filter :=
  .comparison (.field "title") ⟨.equal, false⟩ (.field "@request.body.title:lower")

set_option maxRecDepth 4000 in
/-- A post without a title has the empty title that was submitted. -/
theorem equality_truth_untitled :
    (Operand.field "title").value? .vacant untitledScope = some .null ∧
      (Operand.field "@request.body.title:lower").value? .vacant untitledScope = some (.text "") ∧
      ∃ cond, (untitledBuilder.build sameTitle).1 = .ok cond ∧
        cond.truth .vacant (untitledBuilder.build sameTitle).2.resolver.params = some true := by
  have hu : (Operand.field "title").value? .vacant untitledScope = some .null := rfl
  have hw : (Operand.field "@request.body.title:lower").value? .vacant untitledScope =
    some (.text "") := rfl
  have hb : untitledBuilder.build sameTitle =
    (.ok (.test (.blankLeft (.column "posts" "title"))), (untitledBuilder.build sameTitle).2) := rfl
  obtain ⟨t, -, htrue, -, halone⟩ :=
    @equality_truth untitledBuilder _ _ _ true false _ _ _ _ hu hw hb
  refine ⟨hu, hw, .test (.blankLeft (.column "posts" "title")), rfl, ?_⟩
  rw [halone rfl rfl]
  exact htrue.2 (iff_of_true rfl rfl)

end Builder

end RecordFilter
