/-!
# Identifiers, literals and placeholders

How names and texts are put into SQL: `quote` writes a name between double quotes, `literal` a
text between single quotes, `placeholder` the mark of a bound parameter. Inside its quotes a quote
is written twice, so neither can end early. `wordPart` derives alias names.
-/

namespace RecordFilter.Sql

def double (mark : Char) : List Char → List Char
  | [] => []
  | c :: cs => if c = mark then mark :: mark :: double mark cs else c :: double mark cs

/-- Reads a doubled text up to the mark that ends it. -/
def undouble (mark : Char) : List Char → Option (List Char × List Char)
  | [] => none
  | [c] => if c = mark then some ([], []) else none
  | c :: d :: cs =>
    if c = mark then
      if d = mark then (undouble mark cs).map fun r => (mark :: r.1, r.2) else some ([], d :: cs)
    else (undouble mark (d :: cs)).map fun r => (c :: r.1, r.2)

def quote (name : String) : String := String.ofList ('"' :: double '"' name.toList ++ ['"'])

def literal (s : String) : String := String.ofList ('\'' :: double '\'' s.toList ++ ['\''])

def quoteColumn (table column : String) : String := quote table ++ "." ++ quote column

/-- The letters, digits and underscores of ASCII in a text. -/
def wordPart (s : String) : String :=
  String.ofList (s.toList.filter fun c => c.isAlphanum || c == '_')

def placeholder (name : String) : String := "\x7b:" ++ name ++ "\x7d"

/-- The path literal of a JSON extraction: `$`, then the steps. Steps that do not start with an
index are set off by a dot. -/
def jsonPath (steps : String) : String :=
  match steps.toList with
  | [] => "$"
  | '[' :: _ => "$" ++ steps
  | _ => "$." ++ steps

def jsonEach (expr : String) : String := "pb_json_each(" ++ expr ++ ")"

def jsonArrayLength (expr : String) : String := "pb_json_array_length(" ++ expr ++ ")"

def jsonExtract (expr steps : String) : String :=
  "pb_json_extract(" ++ expr ++ ", " ++ literal (jsonPath steps) ++ ")"

/-! ## Quoting loses nothing -/

theorem undouble_double (mark : Char) (s r : List Char) (hr : r.head? ≠ some mark) :
    undouble mark (double mark s ++ mark :: r) = some (s, r) := by
  induction s with
  | nil =>
    cases r with
    | nil => simp [double, undouble]
    | cons d ds =>
      have : d ≠ mark := by simpa using hr
      simp [double, undouble, this]
  | cons c cs ih =>
    by_cases h : c = mark
    · subst h; simp [double, undouble, ih]
    · simp only [double, h, if_false, List.cons_append]
      cases hc : double mark cs ++ mark :: r with
      | nil => simp at hc
      | cons d ds => rw [hc] at ih; simp [undouble, h, ih]

theorem double_injective {mark : Char} {s t : List Char} (h : double mark s = double mark t) :
    s = t := by
  have hs := undouble_double mark s [] (by simp)
  have ht := undouble_double mark t [] (by simp)
  rw [h] at hs
  simpa using hs.symm.trans ht

theorem quote_injective {a b : String} (h : quote a = quote b) : a = b := by
  have := congrArg String.toList h
  simp only [quote, String.toList_ofList, List.cons_append, List.cons.injEq, true_and] at this
  exact String.toList_injective (double_injective (List.append_cancel_right this))

end RecordFilter.Sql
