import RecordFilter.Path.Allowed
import RecordFilter.Path.Plan
import RecordFilter.Settings
import RecordFilter.Sql.Joins
import RecordFilter.Sql.Select

/-!
# Resolving paths

A `Resolver` collects the joins and the parameters of the paths that it resolves. `resolve` carries
out the plan of a path: it binds, registers the joins and hands back what the path stands for. A
path that fails adds nothing. `updateQuery` brings what was collected into a query.
-/

namespace RecordFilter

structure Resolver where
  scope : Scope
  allowed : AllowedPaths := .wellFormed
  joins : Sql.Joins := []
  params : Sql.Params := {}
deriving Inhabited

namespace Resolver

def withSettings (r : Resolver) (st : Settings) : Resolver :=
  { r with
    scope := { r.scope with
      showHidden := r.scope.showHidden || st.showHidden
      maxHops := st.pathDepth } }

def boundResolution (name : String) (lower : Bool) : Resolution :=
  { value := if lower then .lower (.param name) else .param name, params := [name] }

def setAll (params : Sql.Params) (bindings : List (String × Json)) : Sql.Params :=
  bindings.foldl (fun ps b => ps.set b.1 b.2) params

/-- Drops what was added to the parameters; a value set in place of another one stays. -/
def discard (r : Resolver) (params : Sql.Params) : Resolver :=
  { r with params := params.rollback r.params.mark }

/-- Carries out a plan: its bindings, then its joins, then its outcome. -/
def commit (r : Resolver) (p : Plan) : Except PathError Resolution × Resolver :=
  let params := setAll r.params p.bindings
  match r.joins.registerAll p.joins, p.outcome with
  | .error name, _ => (.error (.ambiguousAlias name), r.discard params)
  | .ok _, .error e => (.error e, r.discard params)
  | .ok joins, .ok (.fixed res) => (.ok res, { r with joins, params })
  | .ok joins, .ok (.bound value lower) =>
    let (name, params) := params.bind value
    (.ok (boundResolution name lower), { r with joins, params })

def resolve (r : Resolver) (path : String) : Except PathError Resolution × Resolver :=
  if !Path.isWellFormed path then (.error (.invalidFormat path), r)
  else if !r.allowed.admits path then (.error (.unknownField path), r)
  else r.commit (Plan.ofPath r.scope path)

def bind (r : Resolver) (value : Json) : String × Resolver :=
  let (name, params) := r.params.bind value
  (name, { r with params })

def update (r : Resolver) (name : String) (value : Json) : Resolver :=
  { r with params := r.params.update name value }

/-- Brings joins into a query, up to the first whose alias stands for another join there. -/
def addJoins (q : Sql.Select) : List Sql.Join → Option String × Sql.Select
  | [] => (none, q)
  | j :: rest =>
    match q.join? j.name with
    | none => addJoins (q.addJoin j) rest
    | some k => if k.alike j then addJoins q rest else (some j.name, q)

/-- Brings the joins and parameters into a query. With joins, a row of the table may come up more
than once, so the query lists distinct rows. -/
def updateQuery (r : Resolver) (q : Sql.Select) : Except PathError Unit × Sql.Select :=
  match addJoins q r.joins with
  | (some name, q) => (.error (.ambiguousAlias name), q)
  | (none, q) =>
    (.ok (), { q with
      params := setAll q.params r.params.entries
      isDistinct := q.isDistinct || !r.joins.isEmpty })

end Resolver

end RecordFilter
