import RecordFilter.Catalog.Encoding
import RecordFilter.Yaml.Reading

/-!
# Catalog files

Definitions as they are written in a YAML file: a mapping with the list `collections`.
-/

namespace RecordFilter

open Yaml (Document Node)

def FieldDefinition.ofNode (d : Document) (n : Node) : Yaml.Reader FieldDefinition := do
  let fs ← d.fields names n
  let name ← Yaml.field "name" d.text fs
  let type ← Yaml.field "type" (d.choice FieldType.ofWord?) fs
  let isHidden ← Yaml.fieldD "hidden" d.bool false fs
  let multiple ← Yaml.fieldD "multiple" d.bool false fs
  let collection ← Yaml.fieldD "collection" (d.nullable d.text) none fs
  let cascadeDelete ← Yaml.fieldD "cascade_delete" d.bool false fs
  let unique ← Yaml.fieldD "unique" d.bool false fs
  pure { name, type, isHidden, multiple, collection, cascadeDelete, unique }

def CollectionDefinition.ofNode (d : Document) (n : Node) : Yaml.Reader CollectionDefinition := do
  let fs ← d.fields names n
  let id ← Yaml.fieldD "id" (d.nullable d.text) none fs
  let name ← Yaml.field "name" d.text fs
  let kind ← Yaml.fieldD "type" (d.choice CollectionKind.ofWord?) .base fs
  let fields ← Yaml.fieldD "fields" (d.each (FieldDefinition.ofNode d)) [] fs
  pure { id, name, kind, fields }

namespace Definitions

def ofDocument (d : Document) : Option Definitions :=
  d.readWith fun root => do
    let fs ← d.fields ["collections"] root
    mk <$> Yaml.fieldD "collections" (d.each (CollectionDefinition.ofNode d)) [] fs

def ofYaml? (s : String) : Option Definitions := (Document.ofText? s).bind ofDocument

end Definitions

end RecordFilter
