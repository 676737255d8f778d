import RecordFilter.Catalog.Schema
import RecordFilter.Text.Word

/-!
# Collection definitions

`Definitions` is a catalog as an author writes it: ids may be left out, the fields that every
collection has may be left out, and a relation names its target by name or id. `check` holds the
definitions to their rules, and `toCatalog` turns them into a catalog.
-/

namespace RecordFilter

inductive FieldType
  | text
  | number
  | bool
  | url
  | email
  | date
  | autoDate
  | select
  | json
  | file
  | relation
deriving DecidableEq, Repr, Inhabited

structure FieldDefinition where
  name : String
  type : FieldType
  isHidden : Bool := false
  multiple : Bool := false
  /-- The target of a relation, by name or id. -/
  collection : Option String := none
  cascadeDelete : Bool := false
  unique : Bool := false
deriving DecidableEq, Repr, Inhabited

structure CollectionDefinition where
  id : Option String := none
  name : String
  kind : CollectionKind := .base
  fields : List FieldDefinition := []
deriving DecidableEq, Repr, Inhabited

/-- The id, which is the name where none is written. -/
def CollectionDefinition.resolvedId (d : CollectionDefinition) : String := d.id.getD d.name

structure Definitions where
  collections : List CollectionDefinition := []
deriving DecidableEq, Repr, Inhabited

namespace Definitions

/-! ## Rules -/

/-- The names of fields: each is a name, and no two are the same. -/
def checkFields (collection : String) :
    List String → List FieldDefinition → Except CatalogError Unit
  | _, [] => .ok ()
  | seen, f :: fs =>
    if !Text.isName f.name.toList then .error (.badFieldName collection f.name)
    else if f.name ∈ seen then .error (.duplicateField collection f.name)
    else checkFields collection (f.name :: seen) fs

def checkCollections :
    List String → List String → List CollectionDefinition → Except CatalogError Unit
  | _, _, [] => .ok ()
  | names, ids, d :: ds =>
    if !Text.isName d.name.toList then .error (.badCollectionName d.name)
    else if d.name ∈ names then .error (.duplicateCollection .name d.name)
    else if d.resolvedId ∈ ids then .error (.duplicateCollection .id d.resolvedId)
    else
      match checkFields d.name [] d.fields with
      | .error e => .error e
      | .ok () => checkCollections (d.name :: names) (d.resolvedId :: ids) ds

/-- Every name and id that a relation may write. -/
def targets (ds : Definitions) : List String :=
  ds.collections.flatMap fun d => [d.name, d.resolvedId]

def checkTarget (known : List String) (collection : String) (f : FieldDefinition) :
    Except CatalogError Unit :=
  if f.type = .relation then
    match f.collection with
    | none => .error (.missingTarget collection f.name)
    | some t => if t ∈ known then .ok () else .error (.unknownTarget collection f.name t)
  else .ok ()

def checkTargets (ds : Definitions) : Except CatalogError Unit :=
  ds.collections.forM fun d => d.fields.forM (checkTarget ds.targets d.name)

/-- The first rule that the definitions break. -/
def check (ds : Definitions) : Except CatalogError Unit :=
  if ds.collections.isEmpty then .error .noCollections
  else
    match checkCollections [] [] ds.collections with
    | .error e => .error e
    | .ok () => ds.checkTargets

/-! ## Conversion -/

/-- The ids that written targets stand for. Where a text is the name of one collection and the id
of another, the collection written last decides. -/
def targetIds (ds : Definitions) : List (String × String) :=
  ds.collections.flatMap fun d => [(d.name, d.resolvedId), (d.resolvedId, d.resolvedId)]

def targetId? (ds : Definitions) (target : String) : Option String :=
  (ds.targetIds.reverse.find? (·.1 == target)).map Prod.snd

def fieldKind (ds : Definitions) (collection : String) (f : FieldDefinition) :
    Except CatalogError FieldKind :=
  match f.type with
  | .text => .ok .text
  | .number => .ok .number
  | .bool => .ok .bool
  | .url => .ok .url
  | .email => .ok .email
  | .date => .ok .date
  | .autoDate => .ok .autoDate
  | .json => .ok .json
  | .select => .ok (.select f.multiple)
  | .file => .ok (.file f.multiple)
  | .relation =>
    let target := f.collection.getD ""
    match ds.targetId? target with
    | some id => .ok (.relation ⟨id, f.multiple, f.cascadeDelete, f.unique⟩)
    | none => .error (.unknownTarget collection f.name target)

def toField (ds : Definitions) (collection : String) (f : FieldDefinition) :
    Except CatalogError Field :=
  (ds.fieldKind collection f).map fun kind => ⟨f.name, kind, f.isHidden⟩

/-- The fields that every collection whose records sign in has. -/
def authFields : List Field :=
  [⟨FieldName.email, .email, false⟩, ⟨FieldName.emailVisibility, .bool, false⟩,
    ⟨FieldName.verified, .bool, false⟩, ⟨FieldName.password, .text, true⟩,
    ⟨FieldName.tokenKey, .text, true⟩]

/-- Fields with those of a list added at the end whose names are new. -/
def addMissing (fields : List Field) : List Field → List Field
  | [] => fields
  | f :: fs =>
    if fields.any (·.name == f.name) then addMissing fields fs
    else addMissing (fields ++ [f]) fs

/-- The fields of a collection: an id first unless one is written, the written fields, and the
fields for signing in last. -/
def toFields (ds : Definitions) (d : CollectionDefinition) : Except CatalogError (List Field) :=
  (d.fields.mapM (ds.toField d.name)).map fun written =>
    let own := if d.fields.any (·.name == FieldName.id) then written
      else ⟨FieldName.id, .text, false⟩ :: written
    if d.kind = .auth then addMissing own authFields else own

def toCollection (ds : Definitions) (d : CollectionDefinition) :
    Except CatalogError Collection :=
  (ds.toFields d).map fun fields => ⟨d.resolvedId, d.name, d.kind, fields⟩

def toCatalog (ds : Definitions) : Except CatalogError Catalog :=
  match ds.check with
  | .error e => .error e
  | .ok () =>
    match ds.collections.mapM ds.toCollection with
    | .error e => .error e
    | .ok collections => Catalog.ofList collections

theorem check_of_toCatalog {ds : Definitions} {c : Catalog} (h : ds.toCatalog = .ok c) :
    ds.check = .ok () := by
  unfold toCatalog at h
  split at h
  · simp at h
  · assumption

end Definitions

end RecordFilter
