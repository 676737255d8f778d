import RecordFilter.Settings
import RecordFilter.Yaml.Reading

/-!
# Settings files

Settings as they are written in a YAML file. What is left out keeps its default.
-/

namespace RecordFilter.Settings

open Yaml (Document)

def ofDocument (d : Document) : Option Settings :=
  d.readWith fun root => do
    let fs ← d.fields ["catalog_path", "max_relation_depth", "allow_hidden_fields"] root
    let catalogPath ← Yaml.fieldD "catalog_path" (d.nullable d.text) none fs
    let depth ← Yaml.fieldD "max_relation_depth" d.nat mostDepth fs
    let showHidden ← Yaml.fieldD "allow_hidden_fields" d.bool false fs
    pure { catalogPath, depth, showHidden }

def ofYaml (s : String) : Except SettingsError Settings :=
  match (Document.ofText? s).bind ofDocument with
  | some settings => settings.checked
  | none => .error .badFile

end RecordFilter.Settings
