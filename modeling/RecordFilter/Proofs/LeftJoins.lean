import RecordFilter.Path.Route
import RecordFilter.Proofs.JsonLists
import RecordFilter.Proofs.Truth
import RecordFilter.Sql.Joins

/-!
# The rows of left joins

A left join puts every record of its source that meets its condition beside a row, or a record of
NULLs if none does (`Join.rows`). So every row of the base has rows in the joined query, and what
they hold under an alias is decided by the join of that alias (`Joins.column_of_mem_rows`): the
unnested items of a bound array are its items, or NULL if it has none (`Joins.item_of_mem_rows`).
-/

namespace RecordFilter.Sql

/-! ## Records and rows -/

abbrev Record := String → Value

namespace Record

/-- The record of NULLs that stands for a missing one. -/
def missing : Record := fun _ => .null

def single (name : String) (v : Value) : Record := fun c => if c = name then v else .null

@[simp] theorem single_self (name : String) (v : Value) : single name v name = v := if_pos rfl

end Record

/-- A row with a record under an alias. -/
def Row.under (row : Row) (name : String) (record : Record) : Row :=
  { row with column := fun table c => if table = name then record c else row.column table c }

@[simp] theorem Row.column_under (row : Row) (name : String) (record : Record) :
    (row.under name record).column name = record := by
  funext c
  exact if_pos rfl

theorem Row.column_under_of_ne (row : Row) (record : Record) {name table : String}
    (h : table ≠ name) : (row.under name record).column table = row.column table := by
  funext c
  exact if_neg h

/-- What the rows of joins come from. -/
structure Database where
  records : String → List Record
  /-- The items of a JSON array. -/
  unnest : Value → List Value
  unnest_texts : ∀ items : List String,
    unnest (.text (Json.list (items.map .text)).compact) = items.map .text
  /-- The rows of a source as a caller wrote it. -/
  written : String → List Record

def Database.vacant : Database where
  records _ := []
  unnest
    | .text s => ((Json.writtenList? s).getD []).map .ofJson
    | _ => []
  unnest_texts items := by
    simp only [Json.writtenList?_texts, Option.getD_some, List.map_map]
    rfl
  written _ := []

/-! ## Joins -/

def Value.isAmong (row : Row) (v : Value) (list : List Value) : Truth :=
  (list.map (Relation.equal.truth row v)).foldr Truth.or (some false)

section Rows

variable (db : Database) (params : Params)

def Source.records (row : Row) : Source → List Record
  | table name => db.records name
  | items array => (db.unnest (array.eval row params)).map (Record.single itemColumn)
  | verbatim text => db.written text

def On.truth (row : Row) : On → Truth
  | always => some true
  | equal left right => Relation.equal.truth row (left.eval row params) (right.eval row params)
  | among value list => (value.eval row params).isAmong row (list.map (·.eval row params))
  | itemOf value _ array =>
    (value.eval row params).isAmong row (db.unnest (array.eval row params))
  | verbatim text => row.verbatim text

/-- The rows in which a record meets the condition of a join. -/
def Join.paired (j : Join) (row : Row) : List Row :=
  ((j.source.records db params row).map (row.under j.name)).filter
    fun x => j.on.truth db params x = some true

def Join.rows (j : Join) (row : Row) : List Row :=
  if (j.paired db params row).isEmpty then [row.under j.name .missing]
  else j.paired db params row

/-- The rows of a query for a row of its base. -/
def Joins.rows : Joins → Row → List Row
  | [], row => [row]
  | j :: js, row => (j.rows db params row).flatMap (rows js)

end Rows

section Columns

variable {db : Database} {params : Params} {row x : Row} {j : Join} {js : Joins} {name : String}

theorem Join.rows_ne_nil : j.rows db params row ≠ [] := by
  unfold rows
  split
  · exact List.cons_ne_nil _ _
  · next h => exact fun he => h (List.isEmpty_iff.2 he)

theorem Join.exists_under_of_mem_rows (h : x ∈ j.rows db params row) :
    ∃ record, x = row.under j.name record ∧
      (record ∈ j.source.records db params row ∨
        (j.paired db params row).isEmpty = true ∧ record = .missing) := by
  unfold rows at h
  split at h
  · next he => exact ⟨.missing, List.mem_singleton.1 h, .inr ⟨he, rfl⟩⟩
  · obtain ⟨record, hr, rfl⟩ := List.mem_map.1 (List.mem_of_mem_filter h)
    exact ⟨record, rfl, .inl hr⟩

theorem Joins.rows_ne_nil (js : Joins) (row : Row) : js.rows db params row ≠ [] := by
  induction js generalizing row with
  | nil => exact List.cons_ne_nil _ _
  | cons j js ih =>
    obtain ⟨y, hy⟩ := List.exists_mem_of_ne_nil _ (@Join.rows_ne_nil db params row j)
    obtain ⟨x, hx⟩ := List.exists_mem_of_ne_nil _ (ih y)
    exact List.ne_nil_of_mem (List.mem_flatMap.2 ⟨y, hy, hx⟩)

/-- Joins leave what other aliases stand for alone. -/
theorem Joins.column_of_mem_rows (hx : x ∈ js.rows db params row)
    (hn : name ∉ js.map Join.name) : x.column name = row.column name := by
  induction js generalizing row with
  | nil =>
    rw [List.mem_singleton.1 hx]
  | cons j js ih =>
    rw [List.map_cons, List.mem_cons, not_or] at hn
    obtain ⟨y, hy, hx⟩ := List.mem_flatMap.1 hx
    obtain ⟨record, rfl, -⟩ := Join.exists_under_of_mem_rows hy
    rw [ih hx hn.2, Row.column_under_of_ne _ _ hn.1]

theorem Joins.exists_of_mem_rows (hn : (js.map Join.name).Nodup) (hj : j ∈ js)
    (hx : x ∈ js.rows db params row) :
    ∃ before y, y ∈ j.rows db params before ∧ x.column j.name = y.column j.name := by
  induction js generalizing row with
  | nil => cases hj
  | cons k js ih =>
    rw [List.map_cons, List.nodup_cons] at hn
    obtain ⟨y, hy, hxy⟩ := List.mem_flatMap.1 hx
    rcases List.mem_cons.1 hj with rfl | hj
    · exact ⟨row, y, hy, column_of_mem_rows hxy hn.1⟩
    · exact ih hn.2 hj hxy

/-- Under the alias of an unnested array that is bound, every row holds an item of the array, or
NULL if the array has none. -/
theorem Joins.item_of_mem_rows {param : String} {v : Json} (hn : (js.map Join.name).Nodup)
    (hj : itemsJoin (.param param) name ∈ js) (hv : params.find? param = some v)
    (hx : x ∈ js.rows db params row) :
    x.column name itemColumn ∈ db.unnest (.ofJson v) ∨
      db.unnest (.ofJson v) = [] ∧ x.column name itemColumn = .null := by
  obtain ⟨before, y, hy, hxy⟩ := exists_of_mem_rows hn hj hx
  obtain ⟨record, rfl, hr⟩ := Join.exists_under_of_mem_rows hy
  have harray : (Expr.param param).eval before params = .ofJson v := by rw [Expr.eval, hv]; rfl
  have hrecords : (itemsJoin (.param param) name).source.records db params before =
      (db.unnest (.ofJson v)).map (Record.single itemColumn) := by
    show (db.unnest _).map _ = _
    rw [harray]
  change x.column name = (before.under name record).column name at hxy
  rw [hxy, Row.column_under]
  rcases hr with hr | ⟨he, rfl⟩
  · rw [hrecords] at hr
    obtain ⟨item, hi, rfl⟩ := List.mem_map.1 hr
    exact .inl (by rwa [Record.single_self])
  · refine .inr ⟨?_, rfl⟩
    rw [Join.paired, List.isEmpty_iff, List.filter_eq_nil_iff, hrecords] at he
    rw [List.eq_nil_iff_forall_not_mem]
    intro item hi
    refine he _ (List.mem_map_of_mem (List.mem_map_of_mem hi)) ?_
    rfl

end Columns

end RecordFilter.Sql
