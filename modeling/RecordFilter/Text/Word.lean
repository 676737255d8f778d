import RecordFilter.Text.WordTable

/-!
# Word characters

`isWord` tells the characters that may stand in a name; `isName` asks for a whole non-empty text
of them. On ASCII they are the letters, the digits and the underscore.
-/

namespace RecordFilter.Text

/-- Letters, marks, decimal digits, connecting punctuation and joining controls. -/
def isWord (c : Char) : Bool :=
  if c.toNat < 128 then c.isAlphanum || c == '_' else inRanges wordRanges c.toNat

def isName (s : List Char) : Bool := !s.isEmpty && s.all isWord

theorem isName_iff {s : List Char} : isName s = true ↔ s ≠ [] ∧ ∀ c ∈ s, isWord c = true := by
  cases s <;> simp [isName]

theorem isWord_of_isAlphanum {c : Char} (h : c.isAlphanum = true) (hc : c.toNat < 128) :
    isWord c = true := by
  simp [isWord, hc, h]

theorem isWord_separators :
    isWord '.' = false ∧ isWord ':' = false ∧ isWord '@' = false ∧ isWord '"' = false ∧
      isWord '\x7d' = false := by decide

end RecordFilter.Text
