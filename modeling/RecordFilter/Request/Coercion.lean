import RecordFilter.Catalog.Schema
import RecordFilter.Json.Printer
import RecordFilter.Number.Decimal
import RecordFilter.Time.Reading

/-!
# Fitting submitted values to fields

A text meant for a number field is read as a number, one meant for a date field is put into the
stored form of moments, and lists and objects become their JSON text.
-/

namespace RecordFilter

namespace Number

def largestExact : Nat := Nat.pow 2 53 - 1

/-- A number as a bound value; a whole number is bound as one as long as it is exact. -/
def Binary64.toJson (x : Binary64) : Json :=
  if x.isWhole && x.whole.natAbs ≤ largestExact then .number (.int x.whole)
  else .number (.real x)

/-- What a number text is bound as; infinities and not-a-number have no value. -/
def Reading.toJson : Reading → Json
  | .finite x => x.toJson
  | .infinite _ => .null
  | .nan => .null

end Number

namespace Json

/-- A text as a number; what is no number text counts as zero. -/
def numberOfText (s : String) : Json :=
  ((Number.Reading.ofText (Text.trim s.toList)).map Number.Reading.toJson).getD
    (.number (.int 0))

def fitted (kind : Option FieldKind) : Json → Json
  | .text s =>
    match kind with
    | some .number => numberOfText s
    | some k => if k.isDate then .text ((Time.normalize? s).getD s) else .text s
    | none => .text s
  | .list items => .text (Json.list items).compact
  | .object members => .text (Json.object members).compact
  | v => v

end Json

end RecordFilter
