import RecordFilter.Proofs.Equality
import RecordFilter.Proofs.LeftJoins

/-!
# Elements that a guard lets pass

A guard looks for a listed value whose test is false. One whose test is neither true nor false is not
found, so it passes like one whose test is true. Beside a literal a test is undecided only for
orderings of NULL and where an equality is written without coalescing (`Undecided`), so guards of
other tests ask that the test be true of every element (`Builder.guard_holds_iff`).
-/

namespace RecordFilter

open Sql (Expr Test Guard Listing Condition Row Record Value Truth Params Relation)

/-! ## Guards -/

namespace Sql

/-- A denial is as undecided as what it denies. -/
def Truth.not (p : Truth) : Truth := p.map (!·)

@[simp] theorem Truth.not_eq_true {p : Truth} : p.not = some true ↔ p = some false := by
  rcases p with _ | _ | _ <;> simp [Truth.not]

namespace Guard

variable (row : Row) (values : Listing → List Value)

/-- The rows that a guard looks at, one for each element or pair of elements. Where nothing is listed
on the right, the elements on the left stand beside NULL. -/
def rows : Guard → List Row
  | one l name _ => (values l).map fun v => row.under name (.single Listing.valueColumn v)
  | pairs l leftName r rightName _ =>
    (values l).flatMap fun v =>
      (if (values r).isEmpty then [.null] else values r).map fun w =>
        (row.under leftName (.single Listing.valueColumn v)).under rightName
          (.single Listing.valueColumn w)

def holds (params : Params) (g : Guard) : Bool :=
  !(g.rows row values).any fun x => (g.test.truth x params).not = some true

theorem holds_iff {row : Row} {values : Listing → List Value} {params : Params} {g : Guard} :
    g.holds row values params = true ↔
      ∀ x ∈ g.rows row values, g.test.truth x params ≠ some false := by
  simp [holds]

end Guard

def Test.element (t : Test) (row : Row) (name : String) (params : Params) (v : Value) : Truth :=
  t.truth (row.under name (.single Listing.valueColumn v)) params

theorem Guard.holds_one_iff {row : Row} {values : Listing → List Value} {params : Params}
    {l : Listing} {name : String} {t : Test} :
    (one l name t).holds row values params = true ↔
      ∀ v ∈ values l, t.element row name params v ≠ some false := by
  rw [holds_iff, rows, List.forall_mem_map]
  rfl

/-- Whether orderings are undecided beside NULL and nowhere else. -/
def Row.Orders (row : Row) : Prop :=
  ∀ relation u w, row.ordered relation u w = none ↔ u = .null ∨ w = .null

theorem Relation.equal_undecided {row : Row} {u w : Value} :
    equal.truth row u w = none ↔ u = .null ∨ w = .null := by
  rw [truth]
  split
  · next h => exact iff_of_true rfl h
  · next h => exact iff_of_false (by simp) h

/-- Of the two relations only the one of equality leaves values undecided. -/
theorem Relation.same_undecided {row : Row} {u w : Value} {isEqual : Bool} :
    (same isEqual).truth row u w = none ↔ isEqual = true ∧ (u = .null ∨ w = .null) := by
  cases isEqual with
  | true => simpa [same] using equal_undecided
  | false => simp [same, truth]

namespace Test

variable (row : Row) (params : Params)

theorem relates_truth (left : Expr) (relation : Relation) (right : Expr) :
    (relates left relation right).truth row params =
      relation.truth row (left.eval row params) (right.eval row params) :=
  rfl

theorem blank_decided (e : Expr) (isEqual : Bool) :
    (if isEqual then blankRight e else filledRight e).truth row params ≠ none ∧
      (if isEqual then blankLeft e else filledLeft e).truth row params ≠ none := by
  have decided {p q : Truth} (hp : p ≠ none) (hq : q ≠ none) : p.or q ≠ none ∧ p.and q ≠ none := by
    rcases p with _ | _ | _ <;> rcases q with _ | _ | _ <;> simp_all [Truth.or, Truth.and]
  by_cases h : e.eval row params = .null
  · cases isEqual <;>
      simp [truth, predicate, Predicate.truth, Expr.eval, Relation.truth, h, Truth.or, Truth.and]
  · cases isEqual <;>
      simp [truth, predicate, Predicate.truth, Expr.eval, Relation.truth, h, decided]

end Test

end Sql

/-! ## Tests that are undecided -/

namespace Resolution

variable {row : Row} {params : Params} {left right res : Resolution} {u w : Value}

/-- An equality is undecided only where a side is filled, so that the values are compared as they
are, and one of them is NULL and not written as the empty text. -/
theorem equalityTest_undecided (hu : left.value.eval row params = u)
    (hw : right.value.eval row params = w) (isEqual : Bool) :
    (equalityTest isEqual left right params).truth row params = none ↔
      isEqual = true ∧ (left.isExact || right.isExact) = false ∧
        (left.isFilled params || right.isFilled params) = true ∧
          (left.isBlank params = false ∧ u = .null ∨ right.isBlank params = false ∧ w = .null) := by
  have shown (r : Resolution) {v : Value} (hv : r.value.eval row params = v) :
      (if r.isBlank params then Expr.emptyText else r.value).eval row params = .null ↔
        r.isBlank params = false ∧ v = .null := by
    cases r.isBlank params <;> simp [Expr.eval, hv]
  unfold equalityTest
  simp only
  split
  · next he =>
    refine iff_of_false ?_ fun h => by rw [h.2.1] at he; cases he
    rw [Test.relates_truth]
    cases isEqual <;> simp [Relation.truth]
  · next he =>
    rw [Bool.eq_false_iff.2 he]
    split
    · next hb =>
      -- both sides are written as the empty text
      rw [Bool.and_eq_true] at hb
      refine iff_of_false ?_ fun h => ?_
      · cases isEqual <;> simp [Test.relates_truth, Relation.truth, Expr.eval]
      · simp [hb.1, hb.2] at h
    · split
      · next hf =>
        rw [Test.relates_truth]
        refine Relation.same_undecided.trans ?_
        rw [shown left hu, shown right hw]
        simp [hf]
      · next hf =>
        have hno : (left.isFilled params || right.isFilled params) = false :=
          Bool.eq_false_iff.2 hf
        refine iff_of_false ?_ fun h => by rw [hno] at h; exact absurd h.2.2.1 (by simp)
        split
        · exact (Test.blank_decided row params right.value isEqual).1
        · split
          · exact (Test.blank_decided row params left.value isEqual).2
          · rw [Test.relates_truth]
            refine mt Relation.same_undecided.1 ?_
            simp [Expr.eval]

end Resolution

/-! ## Elements beside a literal -/

def Operand.literal? : Operand → Option Value
  | field _ => none
  | text t => some (.text t)
  | number x => some (.ofJson x.toJson)
  | bool b => some (.bool b)
  | null => some .null

/-- Whether the comparison of an element with a literal is neither true nor false. -/
def Undecided (op : Operator) (isExact : Bool) (literal element : Value) : Prop :=
  match op with
  | .equal => isExact = false ∧ literal.orEmpty ≠ .text "" ∧ element = .null
  | .notEqual | .like | .notLike => False
  | .greater | .greaterEqual | .less | .lessEqual => literal = .null ∨ element = .null

section Undecided

variable {op : Operator} {isExact : Bool} {u v : Value}

/-- If any element is undecided, then NULL is. -/
theorem Undecided.null (h : Undecided op isExact u v) : Undecided op isExact u .null := by
  cases op with
  | equal => exact ⟨h.1, h.2.1, rfl⟩
  | notEqual | like | notLike => exact h
  | greater | greaterEqual | less | lessEqual => exact .inr rfl

theorem not_undecided_null_iff (hop : op.isLike = false) :
    ¬ Undecided op isExact u .null ↔
      op = .notEqual ∨ op = .equal ∧ (isExact = true ∨ u.orEmpty = .text "") := by
  cases op with
  | equal => cases isExact <;> simp [Undecided]
  | notEqual | greater | greaterEqual | less | lessEqual => simp [Undecided]
  | like | notLike => cases hop

/-- A guard passes the elements for which its test is true and those for which it is undecided. It
asks that the test be true of every element if and only if NULL is not undecided. -/
theorem Sql.Guard.holds_one_of_undecided {row : Row} {params : Params} {l : Listing}
    {name : String} {t : Test}
    (h : ∀ v, t.element row name params v = none ↔ Undecided op isExact u v) :
    (∀ values, (one l name t).holds row values params = true ↔
        ∀ v ∈ values l, t.element row name params v = some true ∨ Undecided op isExact u v) ∧
      ((∀ values, (one l name t).holds row values params = true ↔
          ∀ v ∈ values l, t.element row name params v = some true) ↔
        ¬ Undecided op isExact u .null) := by
  have hpass (v : Value) : t.element row name params v ≠ some false ↔
      t.element row name params v = some true ∨ Undecided op isExact u v := by
    rw [← h]
    rcases t.element row name params v with _ | _ | _ <;> simp
  have holds (values : Listing → List Value) : (one l name t).holds row values params = true ↔
      ∀ v ∈ values l, t.element row name params v = some true ∨ Undecided op isExact u v := by
    rw [holds_one_iff]
    exact forall₂_congr fun v _ => hpass v
  refine ⟨holds, fun hall hnull => ?_, fun hnull values => ?_⟩
  · -- NULL alone passes
    have htrue := (hall fun _ => [.null]).1 ((holds _).2 fun v hv => ?_) .null (by simp)
    · rw [(h _).2 hnull] at htrue
      cases htrue
    · rw [List.mem_singleton.1 hv]
      exact .inr hnull
  · rw [holds]
    exact forall₂_congr fun v _ => or_iff_left fun hv => hnull hv.null

end Undecided

/-- A side stands for a literal: whether it is filled is known. -/
structure Resolution.IsLiteral (params : Params) (res : Resolution) (u : Value) : Prop where
  plain : res.listing = none ∧ res.isExact = false
  value : ∀ row : Row, res.value.eval row params = u
  filled : res.isFilled params = true ↔ u.orEmpty ≠ .text ""

theorem Operand.Resolves.isLiteral {s : Scope} {params : Params} {o : Operand} {res : Resolution}
    {u : Value} (h : o.Resolves s params res) (hu : o.literal? = some u) :
    res.IsLiteral params u := by
  cases h with
  | fixed ho hv he =>
    cases o with
    | field => cases hu
    | text | number => cases ho
    | bool v =>
      cases hu
      cases ho
      exact ⟨⟨rfl, rfl⟩, fun _ => rfl, by simp [Resolution.isFilled, Expr.isSolid, Value.orEmpty]⟩
    | null =>
      cases hu
      cases ho
      exact ⟨⟨rfl, rfl⟩, fun _ => rfl, by simp [Resolution.isFilled, Expr.isSolid, Value.orEmpty]⟩
  | @bound n v lower ho hf =>
    obtain ⟨rfl, rfl⟩ : lower = false ∧ u = .ofJson v := by
      cases o <;> cases hu <;> cases ho <;> exact ⟨rfl, rfl⟩
    refine ⟨⟨rfl, rfl⟩, fun row => ?_, ?_⟩
    · simp [Resolver.boundResolution, Expr.eval, hf]
    · rw [Ne, ← Resolution.isBlankValue_iff, Bool.not_eq_true]
      simp [Resolution.isFilled, Resolution.hasBlankParam, Resolver.boundResolution, Expr.isSolid,
        Expr.isEmpty, hf]

section Elements

variable {params : Params} {res : Resolution} {u v : Value} {row : Row} {op : Operator}
  {name : String} {isExact : Bool} {t : Test}

theorem Resolution.flags_listedValue :
    (listedValue name isExact).isBlank params = false ∧
      (listedValue name isExact).isFilled params = false := by
  simp [listedValue, isBlank, isFilled, hasBlankParam, Expr.isEmpty, Expr.isSolid]

theorem Resolution.isExact_listedValue : (listedValue name isExact).isExact = isExact := rfl

theorem Resolution.isExact_beside : res.beside.isExact = false := rfl

theorem Resolution.eval_listedValue :
    (listedValue name isExact).value.eval (row.under name (.single Listing.valueColumn v)) params =
      v := by
  simp [listedValue, Expr.eval]

/-- An equality of an element and a literal, written in either order, is undecided if the literal is
filled, the element is NULL and NULL is not a value of its own. -/
theorem Resolution.IsLiteral.equality_undecided (h : res.IsLiteral params u) (isEqual : Bool)
    (ht : t = equalityTest isEqual (listedValue name isExact) res.beside params ∨
      t = equalityTest isEqual res.beside (listedValue name isExact) params) :
    t.element row name params v = none ↔
      isEqual = true ∧ isExact = false ∧ u.orEmpty ≠ .text "" ∧ v = .null := by
  have hu : res.beside.value.eval (row.under name (.single Listing.valueColumn v)) params = u :=
    h.value _
  have hfill : res.beside.isFilled params = true ↔ u.orEmpty ≠ .text "" := h.filled
  have hflags := @flags_listedValue params name isExact
  have hiff : (isEqual = true ∧ isExact = false ∧ res.beside.isFilled params = true ∧
        (v = .null ∨ res.beside.isBlank params = false ∧ u = .null)) ↔
      isEqual = true ∧ isExact = false ∧ u.orEmpty ≠ .text "" ∧ v = .null := by
    refine and_congr_right fun _ => and_congr_right fun _ => ?_
    rw [hfill]
    refine and_congr_right fun hf => or_iff_left ?_
    exact fun hu => Value.ne_null_of_filled hf hu.2
  rw [← hiff]
  rcases ht with rfl | rfl
  · refine (equalityTest_undecided eval_listedValue hu isEqual).trans ?_
    simp [hflags, isExact_listedValue, isExact_beside]
  · refine (equalityTest_undecided hu eval_listedValue isEqual).trans ?_
    simp [hflags, isExact_listedValue, isExact_beside, or_comm]

theorem Resolution.IsLiteral.undecided (h : res.IsLiteral params u) (hrow : row.Orders)
    (hop : op.isLike = false)
    (ht : t = comparisonTest op (listedValue name isExact) res.beside params ∨
      t = comparisonTest op res.beside (listedValue name isExact) params) :
    t.element row name params v = none ↔ Undecided op isExact u v := by
  have ordering {relation : Relation}
      (hr : ∀ a b, relation.truth (row.under name (.single Listing.valueColumn v)) a b =
        row.ordered relation a b)
      (ht : t = .relates (listedValue name isExact).value relation res.beside.value ∨
        t = .relates res.beside.value relation (listedValue name isExact).value) :
      t.element row name params v = none ↔ u = .null ∨ v = .null := by
    have hu : res.beside.value.eval (row.under name (.single Listing.valueColumn v)) params = u :=
      h.value _
    rcases ht with rfl | rfl <;>
      rw [Test.element, Test.relates_truth, hr, hrow, eval_listedValue, hu]
    exact or_comm
  cases op with
  | equal =>
    refine (h.equality_undecided true ht).trans ?_
    simp [Undecided]
  | notEqual =>
    refine (h.equality_undecided false ht).trans ?_
    simp [Undecided]
  | greater | greaterEqual | less | lessEqual => exact ordering (fun _ _ => rfl) ht
  | like | notLike => cases hop

end Elements

/-! ## Guards of comparisons with a literal -/

def Sql.Condition.guard? : Condition → Option Guard
  | guarded _ guard => some guard
  | visible inner _ => inner.guard?
  | _ => none

namespace Builder

variable {b b' : Builder} {left right o : Operand} {l r res : Resolution} {op : Operator}
  {u : Value} {path : String} {listing : Listing} {cond : Condition}

theorem guard?_requireVisible (c : Condition) (tables : List (Option String)) :
    (requireVisible c tables).guard? = c.guard? := by
  induction tables generalizing c with
  | nil => rfl
  | cons table tables ih => cases table <;> exact ih _

/-- A strict comparison of a listed side and one that is not listed has a guard that lists the one
side and holds its elements to the other. -/
theorem guard?_comparison (hop : op.isLike = false) (b : Builder) :
    (l.listing = some listing → r.listing = none → ∃ name,
      (b.comparison l ⟨op, false⟩ r).1.guard? = some (.one listing name
        (comparisonTest op (listedValue name l.isExact) r.beside b.resolver.params))) ∧
    (l.listing = none → r.listing = some listing → ∃ name,
      (b.comparison l ⟨op, false⟩ r).1.guard? = some (.one listing name
        (comparisonTest op l.beside (listedValue name r.isExact) b.resolver.params))) := by
  have hparams := comparisonParams_of_not_like hop
  constructor
  · intro hl hr
    refine ⟨numberedAlias "__sm" (b.guards + 1), ?_⟩
    simp only [comparison, guard?_requireVisible, compare, guardOf, hl, hr, hparams]
    rfl
  · intro hl hr
    refine ⟨numberedAlias "__sm" (b.guards + 1), ?_⟩
    simp only [comparison, guard?_requireVisible, compare, guardOf, hl, hr, hparams]
    rfl

/-- The guard of a strict comparison of a path with several values and a literal passes every element
for which the comparison is true, and every one for which it is undecided. So it asks that the
comparison be true of every element if and only if it is a negated equality, or an equality in which
NULL is a value of its own or the literal is blank. -/
theorem guard_holds_iff
    (hsides : left = .field path ∧ right = o ∨ left = o ∧ right = .field path)
    (hpath : (Operand.field path).outcome? b.resolver.scope = some (.fixed res))
    (hlist : res.listing = some listing) (hu : o.literal? = some u) (hop : op.isLike = false)
    (h : b.build (.comparison left ⟨op, false⟩ right) = (.ok cond, b')) :
    ∃ name t, cond.guard? = some (.one listing name t) ∧ ∀ row : Row, row.Orders →
      (∀ v, t.element row name b'.resolver.params v = none ↔ Undecided op res.isExact u v) ∧
      (∀ values, (Guard.one listing name t).holds row values b'.resolver.params = true ↔
        ∀ v ∈ values listing, t.element row name b'.resolver.params v = some true ∨
          Undecided op res.isExact u v) ∧
      ((∀ values, (Guard.one listing name t).holds row values b'.resolver.params = true ↔
          ∀ v ∈ values listing, t.element row name b'.resolver.params v = some true) ↔
        op = .notEqual ∨ op = .equal ∧ (res.isExact = true ∨ u.orEmpty = .text "")) := by
  obtain ⟨l, r, b₂, hl, hr, hparams, hcond⟩ := resolves_of_build hop h
  have listed {side : Resolution}
      (hside : (Operand.field path).Resolves b.resolver.scope b'.resolver.params side) :
      side = res := by
    cases hside with
    | fixed ho => cases hpath.symm.trans ho; rfl
    | bound ho => cases hpath.symm.trans ho
  obtain ⟨hone, hother⟩ := @guard?_comparison l r op listing hop b₂
  rw [hcond, hparams] at hone hother
  obtain ⟨name, t, side, hg, hside, ht⟩ : ∃ name t, ∃ side : Resolution,
      cond.guard? = some (.one listing name t) ∧ side.IsLiteral b'.resolver.params u ∧
        (t = comparisonTest op (listedValue name res.isExact) side.beside b'.resolver.params ∨
          t = comparisonTest op side.beside (listedValue name res.isExact)
            b'.resolver.params) := by
    rcases hsides with ⟨rfl, rfl⟩ | ⟨rfl, rfl⟩
    · have hlit := hr.isLiteral hu
      obtain rfl := listed hl
      obtain ⟨name, hg⟩ := hone hlist hlit.plain.1
      exact ⟨name, _, r, hg, hlit, .inl rfl⟩
    · have hlit := hl.isLiteral hu
      obtain rfl := listed hr
      obtain ⟨name, hg⟩ := hother hlit.plain.1 hlist
      exact ⟨name, _, l, hg, hlit, .inr rfl⟩
  refine ⟨name, t, hg, fun row hrow => ?_⟩
  have hund (v : Value) : t.element row name b'.resolver.params v = none ↔
      Undecided op res.isExact u v := hside.undecided hrow hop ht
  obtain ⟨hholds, hall⟩ := Sql.Guard.holds_one_of_undecided (l := listing) hund
  exact ⟨hund, hholds, hall.trans (not_undecided_null_iff hop)⟩

def ordered : Row :=
  { Row.vacant with
    ordered := fun _ u w => if u = .null ∨ w = .null then none else some true }

theorem orders_ordered : ordered.Orders := by
  intro relation u w
  show (if u = .null ∨ w = .null then (none : Truth) else some true) = none ↔ _
  split
  · next h => exact iff_of_true rfl h
  · next h => exact iff_of_false (by simp) h

def taggedX (op : Operator) : Filter :=
  .comparison (.field "tags:each") ⟨op, false⟩ (.text "x")

set_option maxRecDepth 4000 in
theorem guard_holds_iff_different :
    ∃ cond b' listing name t, documentedBuilder.build (taggedX .notEqual) = (.ok cond, b') ∧
      cond.guard? = some (.one listing name t) ∧ ordered.Orders ∧
      ∀ values, (Guard.one listing name t).holds ordered values b'.resolver.params = true ↔
        ∀ v ∈ values listing, t.element ordered name b'.resolver.params v = some true := by
  obtain ⟨res, listing, cond, b', hpath, hlist, hbuild⟩ : ∃ res listing cond b',
      (Operand.field "tags:each").outcome? documentedBuilder.resolver.scope = some (.fixed res) ∧
      res.listing = some listing ∧
      documentedBuilder.build (taggedX .notEqual) = (.ok cond, b') :=
    ⟨_, _, _, _, rfl, rfl, rfl⟩
  obtain ⟨name, t, hg, hall⟩ :=
    guard_holds_iff (.inl ⟨rfl, rfl⟩) hpath hlist rfl rfl hbuild
  exact ⟨cond, b', listing, name, t, hbuild, hg, orders_ordered,
    (hall ordered orders_ordered).2.2.2 (.inl rfl)⟩

set_option maxRecDepth 4000 in
/-- Where every tag has to be `x`, a tag that is NULL passes. -/
theorem guard_passes_null :
    documented.toCatalog = .ok documentedCatalog ∧
      ∃ listing b', documentedBuilder.build (taggedX .equal) =
          (.ok (.guarded (.relates (itemOf "posts_tags_je") .equal (.param "p1"))
            (.one listing "__sm1"
              (.relates (.column "__sm1" Listing.valueColumn) .equal (.param "p1")))), b') ∧
        (Guard.one listing "__sm1"
            (.relates (.column "__sm1" Listing.valueColumn) .equal (.param "p1"))).holds
          .vacant (fun _ => [.text "x", .null]) b'.resolver.params = true ∧
        (Test.relates (.column "__sm1" Listing.valueColumn) .equal (.param "p1")).element
          .vacant "__sm1" b'.resolver.params .null = none :=
  ⟨rfl, _, _, rfl, rfl, rfl⟩

end Builder

end RecordFilter
