import RecordFilter.Sql.Condition
import RecordFilter.Sql.Params
import RecordFilter.Sql.Positional
import RecordFilter.Text.Blank

/-!
# Select queries

A `Select` lists the rows of one table, with left joins, conditions that must all hold and bound
parameters. `sql` writes it with named placeholders, `positional?` with numbered ones.
-/

namespace RecordFilter.Sql

inductive SelectError
  /-- A placeholder has no value. -/
  | unbound (name : String)
deriving DecidableEq, Repr

def SelectError.message : SelectError → String
  | unbound name => "No value bound for placeholder " ++ placeholder name

structure Select where
  table : String
  isDistinct : Bool := false
  joins : List Join := []
  conditions : List Condition := []
  params : Params := {}
deriving Inhabited

namespace Select

def join? (q : Select) (name : String) : Option Join := q.joins.find? (·.name == name)

def addJoin (q : Select) (j : Join) : Select := { q with joins := q.joins ++ [j] }

/-- Adds a condition; one whose text is blank adds nothing. -/
def addCondition (q : Select) (c : Condition) : Select :=
  if (Text.trim c.text.toList).isEmpty then q else { q with conditions := q.conditions ++ [c] }

def bind (q : Select) (name : String) (value : Json) : Select :=
  { q with params := q.params.set name value }

/-- The conditions after `WHERE`: one stands alone, several stand in parentheses. -/
def whereText (q : Select) : String :=
  match q.conditions with
  | [] => ""
  | [c] => " WHERE " ++ c.text
  | cs => " WHERE " ++ String.intercalate " AND " (cs.map fun c => "(" ++ c.text ++ ")")

def sql (q : Select) : String :=
  "SELECT " ++ (if q.isDistinct then "DISTINCT " else "") ++ quote q.table ++ ".* FROM " ++
    quote q.table ++ String.join (q.joins.map fun j => " " ++ j.sql) ++ q.whereText

def positional? (q : Select) : Except SelectError (String × List Json) :=
  match numbered q.params.find? q.sql with
  | .error name => .error (.unbound name)
  | .ok r => .ok r

end Select

end RecordFilter.Sql
