import RecordFilter.Catalog.Schema
import RecordFilter.Json.Parser
import RecordFilter.Json.Printer

/-!
# Requests

A `Request` is what a rule may read of the request it is evaluated for: its context and method, its
query and headers, the submitted values, and the record that signed in. A submitted value is plain
JSON or a raw document, which is read only when something below it is asked for. `items` is a
submitted value as a list of distinct non-empty texts.
-/

namespace RecordFilter

inductive Submitted
  /-- A JSON document as text. -/
  | raw (document : String)
  | plain (value : Json)
deriving Repr, Inhabited

structure AuthRecord where
  collectionId : String
  id : String
  /-- The values of its fields. -/
  data : List (String × Json) := []
deriving Repr, Inhabited

structure Request where
  context : String := ""
  method : String := ""
  query : List (String × String) := []
  headers : List (String × String) := []
  body : List (String × Submitted) := []
  auth : Option AuthRecord := none
deriving Repr, Inhabited

/-! ## Items -/

/-- Appends a text to a list unless it is empty or in the list already. -/
def addItem (items : List String) (s : String) : List String :=
  if s = "" ∨ s ∈ items then items else items ++ [s]

/-- The distinct non-empty texts of a list, in the order in which they first come up. -/
def distinctItems (texts : List String) : List String := texts.foldl addItem []

namespace Json

def writtenList? (s : String) : Option (List Json) :=
  match parse s with
  | some (.list items) => some items
  | _ => none

/-- The texts that a value submits: those of its items, be it a list or a text that writes one;
any other value submits itself. -/
def submittedTexts : Json → List String
  | .null => []
  | .text s =>
    match writtenList? s with
    | some items => items.map plainText
    | none => [s]
  | .list values => values.map plainText
  | v => [v.plainText]

def items (v : Json) : List String := distinctItems v.submittedTexts

end Json

namespace Submitted

def document? : Submitted → Option Json
  | raw document => Json.parse document
  | plain _ => none

/-- A submitted value as distinct non-empty texts; a malformed document submits none. -/
def items : Submitted → List String
  | raw document => ((Json.parse document).map Json.items).getD []
  | plain v => v.items

end Submitted

theorem nodup_addItem {items : List String} {s : String} (h : items.Nodup) :
    (addItem items s).Nodup := by
  unfold addItem
  split
  · exact h
  · next hs =>
    simp only [not_or] at hs
    rw [List.nodup_append]
    exact ⟨h, by simp, by rintro a ha b hb rfl; exact hs.2 (by simp_all)⟩

theorem nodup_distinctItems (texts : List String) : (distinctItems texts).Nodup := by
  have : ∀ acc : List String, acc.Nodup → (texts.foldl addItem acc).Nodup := by
    induction texts with
    | nil => exact fun _ h => h
    | cons t ts ih => exact fun acc h => ih _ (nodup_addItem h)
  exact this [] (by simp)

/-! ## Values by path -/

/-- A text as the index of an item, if it writes one in 64 bits: digits, after an optional plus
sign. -/
def index? (s : String) : Option Nat :=
  let digits := match s.toList with
    | '+' :: cs => cs
    | cs => cs
  if digits.isEmpty || !digits.all Char.isDigit then none
  else
    let n := Number.ofDigits digits
    if n < UInt64.size then some n else none

namespace Json

def descend (v : Json) : List String → Option Json
  | [] => some v
  | s :: ss => (v.child? s (index? s)).bind fun w => w.descend ss

end Json

namespace AuthRecord

/-- All values of the record by name: its fields, its id and the names of its collection, which
come last unless a field has taken their names. -/
def exported (a : AuthRecord) (collection : Option Collection) : List (String × Json) :=
  let withIds := Json.put FieldName.collectionId (.text a.collectionId)
    (Json.put FieldName.id (.text a.id) a.data)
  match collection with
  | some c => Json.put FieldName.collectionName (.text c.name) withIds
  | none => withIds

end AuthRecord

namespace Request

def submittedAt (s : Submitted) (path : List String) : Option Json :=
  match s, path with
  | .plain v, path => v.descend path
  | .raw document, [] => some (.text document)
  | .raw document, path => (Json.parse document).bind (·.descend path)

/-- The value of a request path that names no record: `none` if the request has no such key. -/
def value? (r : Request) : List String → Option Json
  | ["context"] => some (.text r.context)
  | ["method"] => some (.text r.method)
  | ["query", key] => (Json.find? key r.query).map .text
  | ["headers", key] => (Json.find? key r.headers).map .text
  | "body" :: key :: path => (Json.find? key r.body).bind (submittedAt · path)
  | _ => none

def itemsOf (r : Request) (key : String) : List String :=
  ((Json.find? key r.body).map Submitted.items).getD []

end Request

end RecordFilter
