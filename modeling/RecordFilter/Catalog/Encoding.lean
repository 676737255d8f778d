import RecordFilter.Catalog.Definition
import RecordFilter.Request.Decode

/-!
# Catalogs from JSON

Definitions are read from objects in which everything but names and the kinds of fields may be left
out; finished collections from objects that leave nothing out. A list of the values in order stands
for an object, but not for what a kind of field holds by name, and members with other names are
skipped.
-/

namespace RecordFilter

open Json (Draft)

namespace Json.Draft

/-- A choice without a value: its name, or an object with the name as its only key and null. -/
def word? : Draft → Option String
  | .text s => s
  | .object [(key, .null)] => key
  | _ => none

def tagged? : Draft → Option (String × Draft)
  | .object [(some key, d)] => some (key, d)
  | _ => none

def each? {α : Type} (read : Draft → Option α) (d : Draft) : Option (List α) :=
  d.list?.bind fun items => items.mapM read

end Json.Draft

def FieldType.ofWord? : String → Option FieldType
  | "text" => some text
  | "number" => some number
  | "bool" => some bool
  | "url" => some url
  | "email" => some email
  | "date" => some date
  | "autodate" => some autoDate
  | "select" => some select
  | "json" => some json
  | "file" => some file
  | "relation" => some relation
  | _ => none

def CollectionKind.ofWord? : String → Option CollectionKind
  | "base" => some base
  | "auth" => some auth
  | "view" => some view
  | _ => none

def CollectionKind.decode (d : Draft) : Option CollectionKind := d.word?.bind ofWord?

/-! ## Definitions -/

def FieldDefinition.names : List String :=
  ["name", "type", "hidden", "multiple", "collection", "cascade_delete", "unique"]

def FieldDefinition.decode (d : Draft) : Option FieldDefinition :=
  (d.fields? names).bind fun fs =>
    match Draft.field? "name" Draft.text? fs,
      Draft.field? "type" (fun d => d.word?.bind FieldType.ofWord?) fs,
      Draft.fieldD "hidden" Draft.bool? false fs, Draft.fieldD "multiple" Draft.bool? false fs,
      Draft.fieldD "collection" (Draft.nullable Draft.text?) none fs,
      Draft.fieldD "cascade_delete" Draft.bool? false fs,
      Draft.fieldD "unique" Draft.bool? false fs with
    | some name, some type, some isHidden, some multiple, some collection, some cascadeDelete,
        some unique =>
      some { name, type, isHidden, multiple, collection, cascadeDelete, unique }
    | _, _, _, _, _, _, _ => none

def CollectionDefinition.names : List String := ["id", "name", "type", "fields"]

def CollectionDefinition.decode (d : Draft) : Option CollectionDefinition :=
  (d.fields? names).bind fun fs =>
    match Draft.fieldD "id" (Draft.nullable Draft.text?) none fs,
      Draft.field? "name" Draft.text? fs, Draft.fieldD "type" CollectionKind.decode .base fs,
      Draft.fieldD "fields" (Draft.each? FieldDefinition.decode) [] fs with
    | some id, some name, some kind, some fields => some { id, name, kind, fields }
    | _, _, _, _ => none

def Definitions.decode (d : Draft) : Option Definitions :=
  (d.fields? ["collections"]).bind fun fs =>
    (Draft.fieldD "collections" (Draft.each? CollectionDefinition.decode) [] fs).map
      Definitions.mk

/-! ## Finished collections -/

def Reference.decode (d : Draft) : Option Reference :=
  (d.fields? ["collection_id", "multiple", "cascade_delete", "unique"]).bind fun fs =>
    match Draft.field? "collection_id" Draft.text? fs, Draft.field? "multiple" Draft.bool? fs,
      Draft.field? "cascade_delete" Draft.bool? fs, Draft.field? "unique" Draft.bool? fs with
    | some target, some multiple, some cascadeDelete, some unique =>
      some { target, multiple, cascadeDelete, unique }
    | _, _, _, _ => none

def FieldKind.ofWord? : String → Option FieldKind
  | "Text" => some text
  | "Number" => some number
  | "Bool" => some bool
  | "Url" => some url
  | "Email" => some email
  | "Date" => some date
  | "AutoDate" => some autoDate
  | "Json" => some json
  | _ => none

def FieldKind.decode (d : Draft) : Option FieldKind :=
  let multiple : Draft → Option Bool
    | .object ms =>
      ((Draft.object ms).fields? ["multiple"]).bind (Draft.field? "multiple" Draft.bool?)
    | _ => none
  match d.tagged? with
  | some ("Select", d) => (multiple d).map select
  | some ("File", d) => (multiple d).map file
  | some ("Relation", d) => (Reference.decode d).map relation
  | _ => d.word?.bind ofWord?

def Field.decode (d : Draft) : Option Field :=
  (d.fields? ["name", "kind", "hidden"]).bind fun fs =>
    match Draft.field? "name" Draft.text? fs, Draft.field? "kind" FieldKind.decode fs,
      Draft.field? "hidden" Draft.bool? fs with
    | some name, some kind, some isHidden => some { name, kind, isHidden }
    | _, _, _ => none

def Collection.decode (d : Draft) : Option Collection :=
  (d.fields? ["id", "name", "collection_type", "fields"]).bind fun fs =>
    match Draft.field? "id" Draft.text? fs, Draft.field? "name" Draft.text? fs,
      Draft.field? "collection_type" CollectionKind.decode fs,
      Draft.field? "fields" (Draft.each? Field.decode) fs with
    | some id, some name, some kind, some fields => some { id, name, kind, fields }
    | _, _, _, _ => none

end RecordFilter
