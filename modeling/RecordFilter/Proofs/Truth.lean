import Mathlib.Algebra.Group.Int.Defs
import Mathlib.Algebra.Group.Nat.Defs
import RecordFilter.Json.Printer
import RecordFilter.Sql.Condition
import RecordFilter.Sql.Params

/-!
# The truth of conditions

An expression has a value in a row, under the values of the bound parameters, and a condition is
true or false there, or neither of the two (`Condition.truth`). What a test says is written with the
predicates of SQL, in the same text (`Test.text_predicate`), so that its truth is that of
comparisons, checks for NULL and connectives. The results of functions and of sub-selects are those
of the row; only of `LOWER` it is known which texts it leaves empty.
-/

namespace RecordFilter

def Number.Binary64.toRat (x : Binary64) : Rat :=
  let n : Int := if x.negative then -x.significand else x.significand
  if 0 ≤ x.exponent then Rat.ofInt (n * 2 ^ x.exponent.toNat)
  else mkRat n (2 ^ (-x.exponent).toNat)

namespace Sql

/-! ## Values -/

inductive Value
  | null
  | text (s : String)
  | number (q : Rat)
  | bool (b : Bool)
deriving DecidableEq, Repr, Inhabited

namespace Value

/-- What is bound for a JSON value: lists and objects are bound as their text. -/
def ofJson : Json → Value
  | .null => .null
  | .bool b => .bool b
  | .number (.int n) => .number n
  | .number (.real x) => .number x.toRat
  | .text s => .text s
  | v => .text v.compact

def orEmpty : Value → Value
  | null => .text ""
  | v => v

@[simp] theorem orEmpty_ne_null (v : Value) : v.orEmpty ≠ null := by
  cases v <;> simp [orEmpty]

theorem orEmpty_of_ne_null {v : Value} (h : v ≠ null) : v.orEmpty = v := by
  cases v <;> first | rfl | exact absurd rfl h

theorem orEmpty_eq_empty_iff {v : Value} : v.orEmpty = .text "" ↔ v = .null ∨ v = .text "" := by
  cases v <;> simp [orEmpty]

end Value

/-! ## Truth -/

/-- True, false, or neither. -/
abbrev Truth := Option Bool

namespace Truth

def and : Truth → Truth → Truth
  | some false, _ | _, some false => some false
  | some true, some true => some true
  | _, _ => none

def or : Truth → Truth → Truth
  | some true, _ | _, some true => some true
  | some false, some false => some false
  | _, _ => none

variable {p q : Truth}

@[simp] theorem and_eq_true : p.and q = some true ↔ p = some true ∧ q = some true := by
  rcases p with _ | _ | _ <;> rcases q with _ | _ | _ <;> simp [and]

@[simp] theorem or_eq_true : p.or q = some true ↔ p = some true ∨ q = some true := by
  rcases p with _ | _ | _ <;> rcases q with _ | _ | _ <;> simp [or]

end Truth

/-- A row of a query, with the results of functions and of sub-selects there. -/
structure Row where
  /-- The value of a column of a table in scope. -/
  column : String → String → Value
  lower : Value → Value
  lower_eq_null : ∀ v, lower v = .null ↔ v = .null
  lower_eq_empty : ∀ v, lower v = .text "" ↔ v = .text ""
  itemCount : Value → Value
  extract : Value → String → Value
  /-- The relations that order values. -/
  ordered : Relation → Value → Value → Truth
  /-- Whether a value matches a pattern. -/
  like : Value → Value → Truth
  /-- Whether a value contains another one. -/
  contains : Value → Value → Truth
  /-- Whether a guard finds no value that fails its test. -/
  passes : Guard → Bool
  verbatim : String → Truth

def Row.vacant : Row where
  column _ _ := .null
  lower
    | .text s => .text (String.ofList (s.toList.map Char.toLower))
    | v => v
  lower_eq_null v := by cases v <;> simp
  lower_eq_empty v := by cases v <;> simp
  itemCount _ := .null
  extract _ _ := .null
  ordered _ _ _ := none
  like _ _ := none
  contains _ _ := none
  passes _ := true
  verbatim _ := none

/-! ## Expressions and predicates -/

/-- The value of an expression; a parameter that is not bound has none. -/
def Expr.eval (row : Row) (params : Params) : Expr → Value
  | column table name => row.column table name
  | param name => ((params.find? name).map Value.ofJson).getD .null
  | null => .null
  | bool b => .bool b
  | numeral n => .number n
  | emptyText => .text ""
  | lower e => row.lower (e.eval row params)
  | itemCount e => row.itemCount (e.eval row params)
  | extract e steps => row.extract (e.eval row params) steps
  | coalesced e => (e.eval row params).orEmpty

/-- The value depends on the parameters that are written in the expression. -/
theorem Expr.eval_congr {row : Row} {params params' : Params} {e : Expr}
    (h : ∀ name ∈ e.params, params.find? name = params'.find? name) :
    e.eval row params = e.eval row params' := by
  induction e with
  | param name => rw [eval, eval, h name List.mem_cons_self]
  | lower e ih | itemCount e ih | extract e _ ih | coalesced e ih => rw [eval, eval, ih h]
  | _ => rfl

/-- Whether one value has a relation to another: NULL is neither equal to a value nor different
from it, unless the relation says that it is a value itself. -/
def Relation.truth (row : Row) : Relation → Value → Value → Truth
  | equal, u, w => if u = .null ∨ w = .null then none else some (decide (u = w))
  | distinct, u, w => some (decide (u ≠ w))
  | notDistinct, u, w => some (decide (u = w))
  | relation, u, w => row.ordered relation u w

/-- What a test is written with. -/
inductive Predicate
  | relates (left : Expr) (relation : Relation) (right : Expr)
  | isNull (value : Expr)
  | isNotNull (value : Expr)
  | and (p q : Predicate)
  | or (p q : Predicate)
  | like (negated : Bool) (value pattern : Expr)
  | contains (negated : Bool) (value part : Expr)
deriving DecidableEq, Repr, Inhabited

namespace Predicate

def text : Predicate → String
  | relates left relation right => left.text ++ " " ++ relation.text ++ " " ++ right.text
  | isNull v => v.text ++ " IS NULL"
  | isNotNull v => v.text ++ " IS NOT NULL"
  | and p q => "(" ++ p.text ++ " AND " ++ q.text ++ ")"
  | or p q => "(" ++ p.text ++ " OR " ++ q.text ++ ")"
  | like negated v pattern =>
    v.text ++ "::text" ++ Test.likeWord negated ++ pattern.text ++ " ESCAPE '\\'"
  | contains negated v part =>
    v.text ++ "::text" ++ Test.likeWord negated ++ "('%' || " ++ part.text ++
      " || '%') ESCAPE '\\'"

def truth (row : Row) (params : Params) : Predicate → Truth
  | relates left relation right =>
    relation.truth row (left.eval row params) (right.eval row params)
  | isNull v => some (decide (v.eval row params = .null))
  | isNotNull v => some (decide (v.eval row params ≠ .null))
  | and p q => (p.truth row params).and (q.truth row params)
  | or p q => (p.truth row params).or (q.truth row params)
  | like negated v pattern =>
    (row.like (v.eval row params) (pattern.eval row params)).map (negated ^^ ·)
  | contains negated v part =>
    (row.contains (v.eval row params) (part.eval row params)).map (negated ^^ ·)

end Predicate

/-! ## Tests and conditions -/

def Test.predicate : Test → Predicate
  | relates left relation right => .relates left relation right
  | blankRight v => .or (.relates .emptyText .equal v) (.isNull v)
  | blankLeft v => .or (.relates v .equal .emptyText) (.isNull v)
  | filledRight v => .and (.relates .emptyText .distinct v) (.isNotNull v)
  | filledLeft v => .and (.relates v .distinct .emptyText) (.isNotNull v)
  | matchesPattern negated left pattern => .like negated left pattern
  | containsText negated left right => .contains negated left right

/-- A test is written as what it says. -/
theorem Test.text_predicate (t : Test) : t.predicate.text = t.text := by
  have isNull : " IS NULL)" = " IS NULL" ++ ")" := by simp
  have isNotNull : " IS NOT NULL)" = " IS NOT NULL" ++ ")" := by simp
  have equalRight : "('' = " = "(" ++ ("''" ++ (" " ++ ("=" ++ " "))) := by simp
  have equalLeft : " = '' OR " = " " ++ ("=" ++ (" " ++ ("''" ++ " OR "))) := by simp
  have distinctRight : "('' IS DISTINCT FROM " =
    "(" ++ ("''" ++ (" " ++ ("IS DISTINCT FROM" ++ " "))) := by simp
  have distinctLeft : " IS DISTINCT FROM '' AND " =
    " " ++ ("IS DISTINCT FROM" ++ (" " ++ ("''" ++ " AND "))) := by simp
  cases t with
  | blankRight v =>
    show "(" ++ ("''" ++ " " ++ "=" ++ " " ++ v.text) ++ " OR " ++ (v.text ++ " IS NULL") ++ ")" =
      "('' = " ++ v.text ++ " OR " ++ v.text ++ " IS NULL)"
    rw [isNull, equalRight]
    simp only [-String.reduceAppend, String.append_assoc]
  | blankLeft v =>
    show "(" ++ (v.text ++ " " ++ "=" ++ " " ++ "''") ++ " OR " ++ (v.text ++ " IS NULL") ++ ")" =
      "(" ++ v.text ++ " = '' OR " ++ v.text ++ " IS NULL)"
    rw [isNull, equalLeft]
    simp only [-String.reduceAppend, String.append_assoc]
  | filledRight v =>
    show "(" ++ ("''" ++ " " ++ "IS DISTINCT FROM" ++ " " ++ v.text) ++ " AND " ++
        (v.text ++ " IS NOT NULL") ++ ")" =
      "('' IS DISTINCT FROM " ++ v.text ++ " AND " ++ v.text ++ " IS NOT NULL)"
    rw [isNotNull, distinctRight]
    simp only [-String.reduceAppend, String.append_assoc]
  | filledLeft v =>
    show "(" ++ (v.text ++ " " ++ "IS DISTINCT FROM" ++ " " ++ "''") ++ " AND " ++
        (v.text ++ " IS NOT NULL") ++ ")" =
      "(" ++ v.text ++ " IS DISTINCT FROM '' AND " ++ v.text ++ " IS NOT NULL)"
    rw [isNotNull, distinctLeft]
    simp only [-String.reduceAppend, String.append_assoc]
  | _ => rfl

def Test.truth (row : Row) (params : Params) (t : Test) : Truth := t.predicate.truth row params

/-- What the record under an alias must show for its email to count. -/
def Row.shows (row : Row) (table : String) : Truth :=
  Relation.equal.truth row (row.column table emailVisibilityColumn) (.bool true)

namespace Condition

mutual

def truth (row : Row) (params : Params) : Condition → Truth
  | test t => t.truth row params
  | guarded t guard => (t.truth row params).and (some (row.passes guard))
  | visible inner table => (truth row params inner).and (row.shows table)
  | group .and items => allTrue row params items
  | group .or items => someTrue row params items
  | verbatim text => row.verbatim text

def allTrue (row : Row) (params : Params) : List Condition → Truth
  | [] => some true
  | c :: cs => (truth row params c).and (allTrue row params cs)

def someTrue (row : Row) (params : Params) : List Condition → Truth
  | [] => some false
  | c :: cs => (truth row params c).or (someTrue row params cs)

end

end Condition

end Sql

end RecordFilter
