import RecordFilter.Catalog.Schema
import RecordFilter.Json.Basic
import RecordFilter.Sql.Condition

/-!
# Routes

A `Route` is where the tables of a path come from: a `Root` and the `Link`s crossed since. It fixes
every alias and every join that the path needs. A route is laid twice, in the query itself and in a
listing of all its values, with the same links under two root aliases.
-/

namespace RecordFilter

open Sql (Expr Join)

/-! ## Joins -/

def tableJoin (c : Collection) (name : String) (on : Sql.On) : Join := ⟨.table c.name, name, on⟩

def itemsJoin (array : Expr) (name : String) : Join := ⟨.items array, name, .always⟩

/-- The alias under which the items of a column are unnested. -/
def itemsAlias (name : String) : String := name ++ "_je"

def fieldAlias (parent field : String) : String := parent ++ "_" ++ Sql.wordPart field

def idOf (name : String) : Expr := .column name FieldName.id

def itemOf (name : String) : Expr := .column name Sql.itemColumn

/-! ## Links -/

/-- A step from one collection to another. -/
inductive Link
  /-- Through a relation field to the one record it refers to. -/
  | single (target : Collection) (field : String)
  /-- Through a relation field to all the records it refers to. -/
  | multiple (target : Collection) (field : String)
  /-- Back to the one record that refers here by a field. -/
  | backSingle (source : Collection) (segment field : String)
  /-- Back to all the records that refer here by a field. -/
  | backMultiple (source : Collection) (segment field : String)
deriving DecidableEq, Repr, Inhabited

namespace Link

def target : Link → Collection
  | single target _ | multiple target _ => target
  | backSingle source _ _ | backMultiple source _ _ => source

def segment : Link → String
  | single _ field | multiple _ field => field
  | backSingle _ segment _ | backMultiple _ segment _ => segment

def isMany : Link → Bool
  | single _ _ | backSingle _ _ _ => false
  | multiple _ _ | backMultiple _ _ _ => true

def aliasUnder (parent : String) (l : Link) : String := fieldAlias parent l.segment

def joins (parent : String) (l : Link) : List Join :=
  let name := l.aliasUnder parent
  match l with
  | single target field => [tableJoin target name (.equal (idOf name) (.column parent field))]
  | multiple target field =>
    [itemsJoin (.column parent field) (itemsAlias name),
      tableJoin target name (.equal (idOf name) (itemOf (itemsAlias name)))]
  | backSingle source _ field =>
    [tableJoin source name (.equal (.column name field) (idOf parent))]
  | backMultiple source _ field =>
    [tableJoin source name (.itemOf (idOf parent) (itemsAlias name) (.column name field))]

def aliasAfter (parent : String) (links : List Link) : String := links.foldl aliasUnder parent

def joinsAlong (parent : String) : List Link → List Join
  | [] => []
  | l :: ls => l.joins parent ++ joinsAlong (l.aliasUnder parent) ls

theorem aliasAfter_concat (parent : String) (links : List Link) (l : Link) :
    aliasAfter parent (links ++ [l]) = l.aliasUnder (aliasAfter parent links) := by
  simp [aliasAfter]

theorem joinsAlong_append (parent : String) (as bs : List Link) :
    joinsAlong parent (as ++ bs) =
      joinsAlong parent as ++ joinsAlong (aliasAfter parent as) bs := by
  induction as generalizing parent with
  | nil => simp [joinsAlong, aliasAfter]
  | cons l ls ih => simp [joinsAlong, aliasAfter, ih]

end Link

/-! ## Roots -/

/-- Where a path starts. -/
inductive Root
  /-- At the record that the filter is about. -/
  | base (c : Collection)
  /-- At any record of a collection, under an alias of the author's choice or none. -/
  | anyOf (c : Collection) (name : Option String)
  /-- At the record that signed in. -/
  | auth (c : Collection) (id : String)
  /-- At the records that the request submits for a relation field. -/
  | submitted (c : Collection) (key : String) (ids : List String) (multiple : Bool)
deriving DecidableEq, Repr, Inhabited

namespace Root

def collection : Root → Collection
  | base c | anyOf c _ | auth c _ | submitted c _ _ _ => c

def firstAlias : Root → String
  | base c => Sql.wordPart c.name
  | anyOf _ (some name) => "__collection_alias_" ++ Sql.wordPart name
  | anyOf c none => "__collection_" ++ Sql.wordPart c.name
  | auth c _ => "__auth_" ++ Sql.wordPart c.name
  | submitted c key _ _ => "__data_" ++ Sql.wordPart c.name ++ "_" ++ Sql.wordPart key

/-- The alias that stands in a listing for an alias of the query. -/
def listed (name : String) : String := "__mm_" ++ name

def listAlias : Root → String
  | submitted c key _ _ => "__data_mm_" ++ Sql.wordPart c.name ++ "_" ++ Sql.wordPart key
  | r => listed r.firstAlias

def isMany : Root → Bool
  | base _ | auth _ _ => false
  | anyOf _ _ => true
  | submitted _ _ _ multiple => multiple

/-- Whether hidden fields may be read from here whoever wrote the filter. -/
def isTrusted : Root → Bool
  | base _ => false
  | _ => true

/-- Whether what is not there counts as NULL instead of an error. -/
def isLenient : Root → Bool
  | base _ | anyOf _ _ => false
  | auth _ _ | submitted _ _ _ _ => true

def authParam (name : String) : String := name ++ "__id"

def submittedParam (name : String) (i : Nat) : String :=
  name ++ "__" ++ String.ofList (Nat.toDigits 10 i)

/-- The parameters that the joins of the root refer to, with their values. -/
def bindings (r : Root) : List (String × Json) :=
  match r with
  | base _ | anyOf _ _ => []
  | auth _ id => [(authParam r.firstAlias, .text id)]
  | submitted _ _ ids _ => ids.mapIdx fun i id => (submittedParam r.firstAlias i, .text id)

def idAmong (id : Expr) : List Expr → Sql.On
  | [p] => .equal id p
  | ps => .among id ps

def joinsAt (name : String) (r : Root) : List Join :=
  match r with
  | base _ => []
  | anyOf c _ => [tableJoin c name .always]
  | auth c _ => [tableJoin c name (.equal (idOf name) (.param (authParam r.firstAlias)))]
  | submitted c _ ids _ =>
    [tableJoin c name
      (idAmong (idOf name) (ids.mapIdx fun i _ => .param (submittedParam r.firstAlias i)))]

end Root

/-! ## Routes -/

structure Route where
  root : Root
  links : List Link := []
deriving DecidableEq, Repr, Inhabited

namespace Route

def collection (r : Route) : Collection :=
  match r.links.getLast? with
  | some l => l.target
  | none => r.root.collection

def cross (r : Route) (l : Link) : Route := { r with links := r.links ++ [l] }

def hops (r : Route) : Nat := r.links.length

def lastAlias (r : Route) : String := Link.aliasAfter r.root.firstAlias r.links

def listAlias (r : Route) : String := Link.aliasAfter r.root.listAlias r.links

def joins (r : Route) : List Join :=
  r.root.joinsAt r.root.firstAlias ++ Link.joinsAlong r.root.firstAlias r.links

def listJoins (r : Route) : List Join :=
  r.root.joinsAt r.root.listAlias ++ Link.joinsAlong r.root.listAlias r.links

def isMany (r : Route) : Bool := r.root.isMany || r.links.any Link.isMany

@[simp] theorem collection_cross (r : Route) (l : Link) : (r.cross l).collection = l.target := by
  simp [collection, cross]

@[simp] theorem hops_cross (r : Route) (l : Link) : (r.cross l).hops = r.hops + 1 := by
  simp [hops, cross]

theorem lastAlias_cross (r : Route) (l : Link) :
    (r.cross l).lastAlias = l.aliasUnder r.lastAlias := by
  simp [lastAlias, cross, Link.aliasAfter_concat]

theorem joins_cross (r : Route) (l : Link) :
    (r.cross l).joins = r.joins ++ l.joins r.lastAlias := by
  simp [joins, cross, lastAlias, Link.joinsAlong_append, Link.joinsAlong]

theorem isMany_cross (r : Route) (l : Link) : (r.cross l).isMany = (r.isMany || l.isMany) := by
  simp [isMany, cross, Bool.or_assoc]

end Route

end RecordFilter
