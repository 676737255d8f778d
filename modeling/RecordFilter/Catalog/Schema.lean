/-!
# Collections and their fields

A `Collection` is a table of records with typed fields; a `Catalog` is a list of collections with
distinct ids and distinct names. A collection is looked up by its id first and by its name second.
-/

namespace RecordFilter

structure Reference where
  /-- The id of the collection referred to. -/
  target : String
  /-- Whether a record may refer to several others. -/
  multiple : Bool
  cascadeDelete : Bool
  /-- Whether no two records refer to the same one. -/
  unique : Bool
deriving DecidableEq, Repr, Inhabited

inductive FieldKind
  | text
  | number
  | bool
  | url
  | email
  | date
  | autoDate
  | select (multiple : Bool)
  | json
  | file (multiple : Bool)
  | relation (r : Reference)
deriving DecidableEq, Repr, Inhabited

namespace FieldKind

/-- Kinds whose column holds a JSON array, or one value that stands for an array of one. -/
def holdsItems : FieldKind → Bool
  | select _ | file _ | relation _ => true
  | _ => false

def isMultiple : FieldKind → Bool
  | select multiple | file multiple => multiple
  | relation r => r.multiple
  | _ => false

def isDate : FieldKind → Bool
  | date | autoDate => true
  | _ => false

def reference? : FieldKind → Option Reference
  | relation r => some r
  | _ => none

def label : FieldKind → String
  | text => "text"
  | number => "number"
  | bool => "bool"
  | url => "url"
  | email => "email"
  | date => "date"
  | autoDate => "autodate"
  | select _ => "select"
  | json => "json"
  | file _ => "file"
  | relation _ => "relation"

theorem holdsItems_of_isMultiple {k : FieldKind} (h : k.isMultiple = true) :
    k.holdsItems = true := by
  cases k <;> simp_all [isMultiple, holdsItems]

end FieldKind

structure Field where
  name : String
  kind : FieldKind
  /-- Whether the field is kept from the authors of filters. -/
  isHidden : Bool := false
deriving DecidableEq, Repr, Inhabited

inductive CollectionKind
  | base
  | auth
  | view
deriving DecidableEq, Repr, Inhabited

def CollectionKind.label : CollectionKind → String
  | base => "base"
  | auth => "auth"
  | view => "view"

structure Collection where
  id : String
  name : String
  kind : CollectionKind
  fields : List Field
deriving DecidableEq, Repr, Inhabited

namespace Collection

def field? (c : Collection) (name : String) : Option Field := c.fields.find? (·.name == name)

def isAuth (c : Collection) : Bool := c.kind == .auth

theorem name_of_field? {c : Collection} {name : String} {f : Field} (h : c.field? name = some f) :
    f.name = name := by
  simpa using List.find?_some h

theorem field?_name {c : Collection} {name : String} {f : Field} (h : c.field? name = some f) :
    c.field? f.name = some f := by
  rw [name_of_field? h, h]

theorem mem_of_field? {c : Collection} {name : String} {f : Field} (h : c.field? name = some f) :
    f ∈ c.fields := List.mem_of_find?_eq_some h

end Collection

/-! ## Names with a meaning -/

namespace FieldName

def id : String := "id"
def email : String := "email"
def emailVisibility : String := "emailVisibility"
def verified : String := "verified"
def password : String := "password"
def tokenKey : String := "tokenKey"
def collectionId : String := "collectionId"
def collectionName : String := "collectionName"

end FieldName

/-- Which of the two names of a collection is meant. -/
inductive CollectionKey
  | id
  | name
deriving DecidableEq, Repr

def CollectionKey.label : CollectionKey → String
  | id => "id"
  | name => "name"

inductive CatalogError
  | notFound (collection : String)
  | duplicateCollection (key : CollectionKey) (value : String)
  | duplicateField (collection field : String)
  | unknownTarget (collection field target : String)
  | missingTarget (collection field : String)
  | noCollections
  | badCollectionName (name : String)
  | badFieldName (collection field : String)
deriving DecidableEq, Repr

namespace CatalogError

def nameRule : String := "only letters, digits and underscores are allowed"

def message : CatalogError → String
  | notFound collection => "No collection found for `" ++ collection ++ "`"
  | duplicateCollection key value => "Duplicate collection " ++ key.label ++ " `" ++ value ++ "`"
  | duplicateField collection field =>
    "Duplicate field `" ++ field ++ "` in collection `" ++ collection ++ "`"
  | unknownTarget collection field target =>
    "Relation field `" ++ collection ++ "." ++ field ++ "` targets unknown collection `" ++
      target ++ "`"
  | missingTarget collection field =>
    "Relation field `" ++ collection ++ "." ++ field ++ "` has no target collection"
  | noCollections =>
    "Invalid configuration: Catalog must contain at least one collection definition"
  | badCollectionName name =>
    "Invalid configuration: Invalid collection name '" ++ name ++ "': " ++ nameRule
  | badFieldName collection field =>
    "Invalid configuration: Invalid field name '" ++ collection ++ "." ++ field ++ "': " ++
      nameRule

end CatalogError

structure Catalog where
  collections : List Collection := []
  distinctIds : (collections.map Collection.id).Nodup := by simp
  distinctNames : (collections.map Collection.name).Nodup := by simp

namespace Catalog

instance : Inhabited Catalog := ⟨{}⟩

/-- Adds a collection at the end; its id and its name must be new. -/
def add (c : Catalog) (new : Collection) : Except CatalogError Catalog :=
  if hi : new.id ∈ c.collections.map Collection.id then
    .error (.duplicateCollection .id new.id)
  else if hn : new.name ∈ c.collections.map Collection.name then
    .error (.duplicateCollection .name new.name)
  else
    .ok {
      collections := c.collections ++ [new]
      distinctIds := by
        rw [List.map_append, List.nodup_append]
        exact ⟨c.distinctIds, by simp, by rintro a ha b hb rfl; exact hi (by simp_all)⟩
      distinctNames := by
        rw [List.map_append, List.nodup_append]
        exact ⟨c.distinctNames, by simp, by rintro a ha b hb rfl; exact hn (by simp_all)⟩ }

def ofList (collections : List Collection) : Except CatalogError Catalog :=
  collections.foldlM add {}

/-- The collection with an id, or else the one with a name. -/
def find? (c : Catalog) (key : String) : Option Collection :=
  (c.collections.find? (·.id == key)).or (c.collections.find? (·.name == key))

def get (c : Catalog) (key : String) : Except CatalogError Collection :=
  match c.find? key with
  | some collection => .ok collection
  | none => .error (.notFound key)

theorem mem_of_find? {c : Catalog} {key : String} {collection : Collection}
    (h : c.find? key = some collection) : collection ∈ c.collections := by
  rw [find?, Option.or_eq_some_iff] at h
  rcases h with h | ⟨-, h⟩ <;> exact List.mem_of_find?_eq_some h

theorem key_of_find? {c : Catalog} {key : String} {collection : Collection}
    (h : c.find? key = some collection) : collection.id = key ∨ collection.name = key := by
  rw [find?, Option.or_eq_some_iff] at h
  rcases h with h | ⟨-, h⟩
  · exact .inl (by simpa using List.find?_some h)
  · exact .inr (by simpa using List.find?_some h)

end Catalog

end RecordFilter
