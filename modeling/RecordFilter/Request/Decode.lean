import RecordFilter.Request.Basic

/-!
# Requests from JSON

A request is an object of optional members, or the list of their values in the order context,
method, query, headers, body, auth. Members with other names are skipped, whatever they hold; a
repeated member is refused. A body value is a raw document if it is an object with `raw_json` as
its only member, or a list of one text.
-/

namespace RecordFilter

namespace Json.Draft

def text? : Draft → Option String
  | .text s => s
  | _ => none

def bool? : Draft → Option Bool
  | .bool b => some b
  | _ => none

def nat? : Draft → Option Nat
  | .number (some (.int n)) => if 0 ≤ n then some n.toNat else none
  | _ => none

def nullable {α : Type} (read : Draft → Option α) : Draft → Option (Option α)
  | .null => some none
  | d => (read d).map some

def list? : Draft → Option (List Draft)
  | .list items => some items
  | _ => none

def keyed? : List (Option String × Draft) → Option (List (String × Draft))
  | [] => some []
  | (none, _) :: _ => none
  | (some k, d) :: ms => (keyed? ms).map ((k, d) :: ·)

/-- The values of a structure with named fields: those that are written, by name. An object gives
each field at most once and may have other members; a list gives the first fields in order. -/
def fields? (names : List String) : Draft → Option (List (String × Draft))
  | .object members =>
    (keyed? members).bind fun ms =>
      let own := ms.filter fun m => m.1 ∈ names
      if (own.map Prod.fst).Nodup then some own else none
  | .list items => if items.length ≤ names.length then some (names.zip items) else none
  | _ => none

def fieldD {α : Type} (name : String) (read : Draft → Option α) (default : α)
    (fields : List (String × Draft)) : Option α :=
  match find? name fields with
  | some d => read d
  | none => some default

def field? {α : Type} (name : String) (read : Draft → Option α)
    (fields : List (String × Draft)) : Option α :=
  (find? name fields).bind read

/-- An object as a map: the last value of a repeated key counts. -/
def map? {α : Type} (read : Draft → Option α) : Draft → Option (List (String × α))
  | .object members =>
    (keyed? members).bind fun ms => (ms.mapM fun m => (read m.2).map (m.1, ·)).map settle
  | _ => none

end Json.Draft

open Json (Draft)

namespace Submitted

/-- The member by which a raw document is recognised. -/
def documentKey : String := "raw_json"

def decode (limit : Nat) (d : Draft) : Option Submitted :=
  (d.value? limit).map fun v =>
    match d with
    | .object [(some key, .text (some s))] => if key = documentKey then .raw s else .plain v
    | .list [.text (some s)] => .raw s
    | _ => .plain v

end Submitted

namespace AuthRecord

def decode (limit : Nat) (d : Draft) : Option AuthRecord :=
  (d.fields? ["collectionId", "id", "data"]).bind fun fs =>
    match Draft.field? "collectionId" Draft.text? fs, Draft.field? "id" Draft.text? fs,
      Draft.fieldD "data" (Draft.map? (·.value? (limit - 1))) [] fs with
    | some collectionId, some id, some data => some ⟨collectionId, id, data⟩
    | _, _, _ => none

end AuthRecord

namespace Request

def fieldNames : List String := ["context", "method", "query", "headers", "body", "auth"]

def decode (d : Draft) : Option Request :=
  (d.fields? fieldNames).bind fun fs =>
    match Draft.fieldD "context" Draft.text? "" fs, Draft.fieldD "method" Draft.text? "" fs,
      Draft.fieldD "query" (Draft.map? Draft.text?) [] fs,
      Draft.fieldD "headers" (Draft.map? Draft.text?) [] fs,
      Draft.fieldD "body" (Draft.map? (Submitted.decode (Json.nestingLimit - 2))) [] fs,
      Draft.fieldD "auth" (Draft.nullable (AuthRecord.decode (Json.nestingLimit - 2))) none fs with
    | some context, some method, some query, some headers, some body, some auth =>
      some { context, method, query, headers, body, auth }
    | _, _, _, _, _, _ => none

def ofText? (s : String) : Option Request := (Draft.ofText s).bind decode

end Request

end RecordFilter
