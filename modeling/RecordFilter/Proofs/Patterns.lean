import RecordFilter.Filter.Build
import RecordFilter.Proofs.Params

/-!
# Values made into patterns

`patternParam` changes one value in place. It keeps every name and every other value, and what it
leaves under the name is not blank.
-/

namespace RecordFilter

open Resolution (isBlankValue)

namespace Sql.Params

variable {k name : String}

/-- A blank value has no wildcard. -/
theorem isBlankValue_of_hasWildcard {v : Json}
    (h : Wildcard.hasWildcard v.plainText.toList = true) : isBlankValue (some v) = false := by
  cases v with
  | null => cases h
  | text s =>
    rw [← Bool.not_eq_true]
    show ¬ s.isEmpty = true
    rw [String.isEmpty_iff]
    rintro rfl
    cases h
  | _ => rfl

theorem isBlankValue_containing (s : List Char) :
    isBlankValue (some (.text (String.ofList (Wildcard.containing s)))) = false := by
  refine isBlankValue_of_hasWildcard ?_
  simpa [Json.plainText] using Wildcard.hasWildcard_containing s

theorem names_patternParam (ps : Params) (name : String) :
    (patternParam ps name).names = ps.names := by
  unfold patternParam
  split
  · rfl
  · simp only
    split
    · rfl
    · exact names_update

theorem find?_patternParam_of_ne {ps : Params} (h : k ≠ name) :
    (patternParam ps name).find? k = ps.find? k := by
  unfold patternParam
  split
  · rfl
  · simp only
    split
    · rfl
    · rw [find?_update, if_neg fun hk => h hk.1]

theorem last_patternParam (ps : Params) (name : String) :
    (patternParam ps name).last = ps.last := by
  unfold patternParam
  split
  · rfl
  · simp only
    split
    · rfl
    · exact last_update

/-- A value that was made a pattern is not blank, whatever it was before. -/
theorem isBlankValue_patternParam (ps : Params) (name k : String) :
    isBlankValue ((patternParam ps name).find? k) =
      if k = name ∧ name ∈ ps.names then false else isBlankValue (ps.find? k) := by
  unfold patternParam
  split
  · next hf =>
    rw [if_neg fun h => find?_eq_none_iff.1 hf h.2]
  · next v hf =>
    have hm := mem_names_of_find? hf
    simp only
    split
    · next hw =>
      split
      · next hk => rw [hk.1, hf]; exact isBlankValue_of_hasWildcard hw
      · rfl
    · rw [find?_update]
      split
      · exact isBlankValue_containing _
      · rfl

end Sql.Params

end RecordFilter
