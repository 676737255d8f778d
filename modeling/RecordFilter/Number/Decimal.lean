import RecordFilter.Number.Binary64

/-!
# Reading numbers from text

`Reading.ofText` reads a decimal number with an optional sign, fraction and exponent, or one of the
words for infinity and not-a-number; the result is the nearest number.
-/

namespace RecordFilter.Number

inductive Reading
  | finite (x : Binary64)
  | infinite (negative : Bool)
  | nan
deriving DecidableEq, Repr

def digitValue (c : Char) : Nat := c.toNat - '0'.toNat

def ofDigits (digits : List Char) : Nat :=
  digits.foldl (fun n c => 10 * n + digitValue c) 0

@[simp] theorem ofDigits_nil : ofDigits [] = 0 := rfl

theorem ofDigits_append_singleton (digits : List Char) (c : Char) :
    ofDigits (digits ++ [c]) = 10 * ofDigits digits + digitValue c := by
  simp [ofDigits]

def takeSign : List Char → Bool × List Char
  | '-' :: cs => (true, cs)
  | '+' :: cs => (false, cs)
  | cs => (false, cs)

def takeDigits (cs : List Char) : List Char × List Char :=
  (cs.takeWhile Char.isDigit, cs.dropWhile Char.isDigit)

/-- The exponent part at the end of a number: absent, or a mark and a signed digit sequence. -/
def exponentPart : List Char → Option Int
  | [] => some 0
  | c :: cs =>
    if c = 'e' ∨ c = 'E' then
      let (negative, cs) := takeSign cs
      let (digits, rest) := takeDigits cs
      if digits.isEmpty || !rest.isEmpty then none
      else some (if negative then -(ofDigits digits : Int) else ofDigits digits)
    else none

/-- The digits, the number of them after the point, and the exponent. At least one digit stands
before or after the point. -/
def decimalParts (cs : List Char) : Option (List Char × Nat × Int) :=
  let (before, cs) := takeDigits cs
  let (after, cs) :=
    match cs with
    | '.' :: cs => takeDigits cs
    | cs => ([], cs)
  if before.isEmpty && after.isEmpty then none
  else (exponentPart cs).map fun e => (before ++ after, after.length, e)

/-- Reads a number text; letters of the words count in either case. -/
def Reading.ofText (cs : List Char) : Option Reading :=
  let (negative, body) := takeSign cs
  let word := body.map Char.toLower
  if word = "inf".toList ∨ word = "infinity".toList then some (.infinite negative)
  else if word = "nan".toList then some .nan
  else
    (decimalParts body).map fun (digits, places, e) =>
      match Binary64.ofDecimal negative (ofDigits digits) (e - places) with
      | some x => .finite x
      | none => .infinite negative

end RecordFilter.Number
