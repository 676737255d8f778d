import RecordFilter.Catalog.File
import RecordFilter.Command.Arguments
import RecordFilter.Command.Variables
import RecordFilter.Filter.Build
import RecordFilter.Filter.Encoding

/-!
# The command

Compiles one filter to SQL: reads the settings, the catalog, the filter and the request, applies the
filter to a query on the collection, and writes the query with its values as JSON. Files are read
through a function, so that the command itself touches nothing.
-/

namespace RecordFilter

inductive FileError
  | unreadable
  | malformed
  | invalid (e : CatalogError)
deriving DecidableEq, Repr

def FileError.message : FileError → String
  | unreadable => "Failed to read configuration file"
  | malformed => "Failed to parse configuration"
  | invalid e => e.message

/-- The catalog of a file's text; a file that cannot be read has none. -/
def Catalog.ofFile (text : Option String) : Except FileError Catalog :=
  match text with
  | none => .error .unreadable
  | some text =>
    match Definitions.ofYaml? text with
    | none => .error .malformed
    | some ds => ds.toCatalog.mapError .invalid

namespace Command

inductive Failure
  /-- The words of the command line make no sense. -/
  | usage
  /-- The file of variables gives a value that no variable can have. -/
  | unsettable
  | environment (e : SettingsError)
  | arguments (e : SettingsError)
  | noCatalog
  | catalog (path : String) (e : FileError)
  | collection (name : String)
  | unreadable (path : String)
  | badFilter
  | badRequest
  | filter (e : FilterError)
  | query (e : Sql.SelectError)
deriving DecidableEq, Repr

def Failure.message : Failure → String
  | usage => "Invalid usage"
  | unsettable => "Invalid value for a variable"
  | environment _ => "Invalid RULESQL_* environment"
  | arguments _ => "Invalid command line arguments"
  | noCatalog => "No collection catalog given (use --catalog or RULESQL_CATALOG_PATH)"
  | catalog path e =>
    "Invalid configuration: Configuration error in '" ++ path ++ "': failed to load\n  Context: " ++
      e.message
  | collection name => "No collection found for `" ++ name ++ "\n  Context: Resolving --collection`"
  | unreadable path => "Failed to read " ++ path
  | badFilter => "Failed to parse filter JSON"
  | badRequest => "Failed to parse request info JSON"
  | filter e => e.message
  | query e => e.message

def Failure.status : Failure → Nat
  | usage => 2
  | unsettable => 101
  | _ => 1

/-- The settings of the environment with the arguments on top. -/
def settings (env : Variables) (a : Arguments) : Except Failure Settings :=
  match Settings.ofEnvironment (Json.find? · env) with
  | .error e => .error (.environment e)
  | .ok s =>
    match s.merge a.overlay with
    | (.error e, _) => .error (.arguments e)
    | (.ok (), s) => .ok s

def output (positional : Bool) (q : Sql.Select) : Except Failure Json :=
  if positional then
    match q.positional? with
    | .error e => .error (.query e)
    | .ok (sql, values) => .ok (.object [("sql", .text sql), ("params", .list values)])
  else .ok (.object [("sql", .text q.sql), ("params", .object q.params.entries)])

def compile (catalog : Catalog) (base : Collection) (request : Option Request) (s : Settings)
    (positional : Bool) (f : Filter) : Except Failure Json :=
  let r : Resolver := { scope := { catalog, base, request } }
  match f.apply (r.withSettings s) { table := base.name } with
  | (.error e, _, _) => .error (.filter e)
  | (.ok (), _, q) => output positional q

def readFile {m : Type → Type} [Monad m] (read : String → m (Option String)) (path : String) :
    ExceptT Failure m String := do
  match ← read path with
  | some text => pure text
  | none => throw (.unreadable path)

def variablesFile : String := ".env"

/-- Carries out the command. The variables that are set win over those of the file. -/
def run {m : Type → Type} [Monad m] (read : String → m (Option String)) (env : Variables)
    (words : List String) : ExceptT Failure m Json := do
  let env ← match ← read variablesFile with
    | none => pure env
    | some text =>
      match env.load? text with
      | some env => pure env
      | none => throw .unsettable
  let some a := Arguments.read words | throw .usage
  let s ← ExceptT.mk (pure (settings env a))
  let some path := s.catalogPath | throw .noCatalog
  let catalog ← match Catalog.ofFile (← read path) with
    | .ok c => pure c
    | .error e => throw (.catalog path e)
  let some base := catalog.find? a.collection | throw (.collection a.collection)
  let some f := Filter.ofText? (← readFile read a.filter) | throw .badFilter
  let request ← match a.request with
    | none => pure none
    | some path =>
      match Request.ofText? (← readFile read path) with
      | some r => pure (some r)
      | none => throw .badRequest
  ExceptT.mk (pure (compile catalog base request s a.positional f))

end Command

end RecordFilter
