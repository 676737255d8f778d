import RecordFilter.Sql.Identifier

/-!
# Scalar expressions

An `Expr` is a value that a comparison can speak of: a column, a bound parameter, a constant, or a
function of one of these. `Expr.text` is its SQL.
-/

namespace RecordFilter.Sql

inductive Expr
  | column (table name : String)
  | param (name : String)
  | null
  | bool (b : Bool)
  /-- A number that was counted, not submitted. -/
  | numeral (n : Nat)
  | emptyText
  | lower (e : Expr)
  /-- The number of items of a JSON array. -/
  | itemCount (e : Expr)
  /-- The part of a JSON document at a path of steps. -/
  | extract (e : Expr) (steps : String)
  /-- A value with NULL read as the empty text. -/
  | coalesced (e : Expr)
deriving DecidableEq, Repr, Inhabited

namespace Expr

def text : Expr → String
  | column table name => quoteColumn table name
  | param name => placeholder name
  | null => "NULL"
  | bool true => "TRUE"
  | bool false => "FALSE"
  | numeral n => String.ofList (Nat.toDigits 10 n)
  | emptyText => "''"
  | lower e => "LOWER(" ++ e.text ++ ")"
  | itemCount e => jsonArrayLength e.text
  | extract e steps => jsonExtract e.text steps
  | coalesced e => "COALESCE(" ++ e.text ++ ", '')"

def columns : Expr → List (String × String)
  | column table name => [(table, name)]
  | lower e | itemCount e | extract e _ | coalesced e => e.columns
  | _ => []

def aliases (e : Expr) : List String := e.columns.map Prod.fst

def params : Expr → List String
  | param name => [name]
  | lower e | itemCount e | extract e _ | coalesced e => e.params
  | _ => []

def rename (f : String → String) : Expr → Expr
  | column table name => column (f table) name
  | lower e => lower (e.rename f)
  | itemCount e => itemCount (e.rename f)
  | extract e steps => extract (e.rename f) steps
  | coalesced e => coalesced (e.rename f)
  | e => e

@[simp] theorem columns_rename (f : String → String) (e : Expr) :
    (e.rename f).columns = e.columns.map fun c => (f c.1, c.2) := by
  induction e <;> simp_all [rename, columns]

/-- Whether an expression stands for NULL or the empty text whatever the row. -/
def isEmpty : Expr → Bool
  | null | emptyText => true
  | _ => false

/-- Whether an expression is a constant that is neither NULL nor empty: a truth value, zero or
one. -/
def isSolid : Expr → Bool
  | bool _ => true
  | numeral n => n ≤ 1
  | _ => false

end Expr

end RecordFilter.Sql
