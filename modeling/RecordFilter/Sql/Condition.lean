import RecordFilter.Sql.Join

/-!
# Conditions

A `Test` compares two expressions. A `Condition` is built from tests: a test may carry a guard
that lists every value of a multi-valued side, may require that a record shows its email, and may
stand in a group. `text` is the SQL of each; every condition is one operand of its connective.
-/

namespace RecordFilter.Sql

inductive Relation
  | equal
  /-- Different, NULL being a value. -/
  | distinct
  /-- Not different, NULL being a value. -/
  | notDistinct
  | greater
  | greaterEqual
  | less
  | lessEqual
deriving DecidableEq, Repr, Inhabited

def Relation.text : Relation → String
  | equal => "="
  | distinct => "IS DISTINCT FROM"
  | notDistinct => "IS NOT DISTINCT FROM"
  | greater => ">"
  | greaterEqual => ">="
  | less => "<"
  | lessEqual => "<="

inductive Test
  | relates (left : Expr) (relation : Relation) (right : Expr)
  /-- The value is NULL or empty, the empty side written on the left. -/
  | blankRight (value : Expr)
  /-- The value is NULL or empty, the empty side written on the right. -/
  | blankLeft (value : Expr)
  /-- The value is neither NULL nor empty, the empty side written on the left. -/
  | filledRight (value : Expr)
  /-- The value is neither NULL nor empty, the empty side written on the right. -/
  | filledLeft (value : Expr)
  | matchesPattern (negated : Bool) (left pattern : Expr)
  | containsText (negated : Bool) (left right : Expr)
deriving DecidableEq, Repr, Inhabited

namespace Test

def likeWord (negated : Bool) : String := if negated then " NOT LIKE " else " LIKE "

def text : Test → String
  | relates left relation right => left.text ++ " " ++ relation.text ++ " " ++ right.text
  | blankRight v => "('' = " ++ v.text ++ " OR " ++ v.text ++ " IS NULL)"
  | blankLeft v => "(" ++ v.text ++ " = '' OR " ++ v.text ++ " IS NULL)"
  | filledRight v => "('' IS DISTINCT FROM " ++ v.text ++ " AND " ++ v.text ++ " IS NOT NULL)"
  | filledLeft v => "(" ++ v.text ++ " IS DISTINCT FROM '' AND " ++ v.text ++ " IS NOT NULL)"
  | matchesPattern negated left pattern =>
    left.text ++ "::text" ++ likeWord negated ++ pattern.text ++ " ESCAPE '\\'"
  | containsText negated left right =>
    left.text ++ "::text" ++ likeWord negated ++ "('%' || " ++ right.text ++
      " || '%') ESCAPE '\\'"

end Test

/-- A sub-select that lists every value of a multi-valued side for the row of the base table. -/
structure Listing where
  /-- The alias of the base table in the query around it. -/
  baseAlias : String
  table : String
  /-- The alias of the base table inside. -/
  tableAlias : String
  value : Expr
  joins : List Join
deriving DecidableEq, Repr, Inhabited

namespace Listing

def valueColumn : String := "multiMatchValue"

def keyColumn : String := "id"

def text (l : Listing) : String :=
  "SELECT " ++ l.value.text ++ " AS " ++ quote valueColumn ++ " FROM " ++ quote l.table ++ " " ++
    quote l.tableAlias ++ String.join (l.joins.map fun j => " " ++ j.sql) ++
    " WHERE " ++ quoteColumn l.tableAlias keyColumn ++ " = " ++
    quoteColumn l.baseAlias keyColumn

end Listing

/-- A guard lists values and says that none of them fails a test. -/
inductive Guard
  | one (listing : Listing) (name : String) (test : Test)
  /-- All pairs of values of two sides. -/
  | pairs (left : Listing) (leftName : String) (right : Listing) (rightName : String)
    (test : Test)
deriving DecidableEq, Repr, Inhabited

namespace Guard

def text : Guard → String
  | one listing name test =>
    "NOT EXISTS (SELECT 1 FROM (" ++ listing.text ++ ") " ++ quote name ++ " WHERE NOT (" ++
      test.text ++ "))"
  | pairs left leftName right rightName test =>
    "NOT EXISTS (SELECT 1 FROM (" ++ left.text ++ ") " ++ quote leftName ++ " LEFT JOIN (" ++
      right.text ++ ") " ++ quote rightName ++ " ON TRUE WHERE NOT (" ++ test.text ++ "))"

end Guard

inductive Connective
  | and
  | or
deriving DecidableEq, Repr, Inhabited

def Connective.text : Connective → String
  | and => "AND"
  | or => "OR"

def emailVisibilityColumn : String := "emailVisibility"

inductive Condition
  | test (t : Test)
  /-- A test that must hold of every listed value too. -/
  | guarded (t : Test) (guard : Guard)
  /-- A condition on an email that the record under the alias must show. -/
  | visible (inner : Condition) (table : String)
  | group (connective : Connective) (items : List Condition)
  /-- A condition as a caller wrote it. -/
  | verbatim (text : String)
deriving Repr, Inhabited

namespace Condition

/-- An expression that also requires the record under an alias to show its email. -/
def requireVisible (expr table : String) : String :=
  "((" ++ expr ++ ") AND (" ++ quoteColumn table emailVisibilityColumn ++ " = TRUE))"

mutual

def text : Condition → String
  | test t => t.text
  | guarded t guard => "((" ++ t.text ++ ") AND (" ++ guard.text ++ "))"
  | visible inner table => requireVisible inner.text table
  | group connective items =>
    "(" ++ String.intercalate (" " ++ connective.text ++ " ") (texts items) ++ ")"
  | verbatim text => text

def texts : List Condition → List String
  | [] => []
  | c :: cs => text c :: texts cs

end

end Condition

end RecordFilter.Sql
