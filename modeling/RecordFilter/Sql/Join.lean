import RecordFilter.Sql.Expr

/-!
# Left joins

A `Join` brings a table, or the rows of a JSON array, into scope under an alias. Its source and
its condition are kept as what they mean; `verbatim` holds what a caller wrote by hand. `sql` is
the text of the join, and two joins are `alike` if they are written the same.
-/

namespace RecordFilter.Sql

inductive Source
  | table (name : String)
  /-- One row for each item of a JSON array. -/
  | items (array : Expr)
  /-- A source as a caller wrote it. -/
  | verbatim (text : String)
deriving DecidableEq, Repr, Inhabited

inductive On
  /-- All of them. -/
  | always
  | equal (left right : Expr)
  /-- The value is one of a list. -/
  | among (value : Expr) (list : List Expr)
  /-- The value is an item of a JSON array; `inner` names the array's rows. -/
  | itemOf (value : Expr) (inner : String) (array : Expr)
  /-- A condition as a caller wrote it. -/
  | verbatim (text : String)
deriving DecidableEq, Repr, Inhabited

structure Join where
  source : Source
  name : String
  on : On
deriving DecidableEq, Repr, Inhabited

def itemColumn : String := "value"

def commas (texts : List String) : String := String.intercalate ", " texts

namespace Source

def text : Source → String
  | table name => quote name
  | items array => jsonEach array.text
  | verbatim text => text

/-- A table is never the same source as an expression, even if the two are written alike. -/
def isTable : Source → Bool
  | table _ => true
  | _ => false

def aliases : Source → List String
  | items array => array.aliases
  | _ => []

def rename (f : String → String) : Source → Source
  | items array => items (array.rename f)
  | s => s

end Source

namespace On

/-- The condition as text; a join of all rows has none. -/
def text? : On → Option String
  | always => none
  | equal left right => some (left.text ++ " = " ++ right.text)
  | among value list => some (value.text ++ " IN (" ++ commas (list.map Expr.text) ++ ")")
  | itemOf value inner array =>
    some (value.text ++ " IN (SELECT " ++ quoteColumn inner itemColumn ++ " FROM " ++
      jsonEach array.text ++ " " ++ quote inner ++ ")")
  | verbatim text => some text

/-- The aliases that a condition refers to, those that it introduces itself left out. -/
def aliases : On → List String
  | equal left right => left.aliases ++ right.aliases
  | among value list => value.aliases ++ list.flatMap Expr.aliases
  | itemOf value _ array => value.aliases ++ array.aliases
  | _ => []

def rename (f : String → String) : On → On
  | equal left right => equal (left.rename f) (right.rename f)
  | among value list => among (value.rename f) (list.map (Expr.rename f))
  | itemOf value inner array => itemOf (value.rename f) (f inner) (array.rename f)
  | c => c

end On

namespace Join

/-- A join without a condition is one on `TRUE`. -/
def sql (j : Join) : String :=
  "LEFT JOIN " ++ j.source.text ++ " " ++ quote j.name ++ " ON " ++ j.on.text?.getD "TRUE"

def alike (j k : Join) : Bool :=
  j.source.isTable == k.source.isTable && j.source.text == k.source.text && j.name == k.name &&
    j.on.text? == k.on.text?

def rename (f : String → String) (j : Join) : Join :=
  ⟨j.source.rename f, f j.name, j.on.rename f⟩

theorem alike_refl (j : Join) : j.alike j = true := by simp [alike]

theorem alike_iff {j k : Join} : j.alike k = true ↔
    j.source.isTable = k.source.isTable ∧ j.source.text = k.source.text ∧ j.name = k.name ∧
      j.on.text? = k.on.text? := by
  simp [alike, and_assoc]

end Join

end RecordFilter.Sql
