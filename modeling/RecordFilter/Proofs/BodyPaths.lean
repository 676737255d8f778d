import RecordFilter.Proofs.Names
import RecordFilter.Proofs.Refusals

/-!
# Paths to submitted values

`bodyPath` leads below the submitted values. What stands there is a key, with a modifier or not, or
a key and a field below it: each of these is well formed and comes apart into the segments that it
was put together from.
-/

namespace RecordFilter

open Text (IsWordy)

/-- The path to what stands below the submitted values. -/
def bodyPath (tail : String) : String := "@request.body." ++ tail

/-- A key with a modifier. -/
def Modifier.after (key : String) (m : Modifier) : String := key ++ (":" ++ m.label)

variable {tail key segment : String} {m : Modifier} {cs ds : List Char}

namespace Path

theorem all_of_isWordy (h : IsWordy key) : key.toList.all isPathChar = true :=
  List.all_eq_true.2 fun c hc => isPathChar_of_isWord (h c hc)

theorem isTail_of_isWordy (h : IsWordy key) (hn : key ≠ "") : isTail key.toList = true := by
  have hlast := List.getLast?_eq_some_getLast (mt String.toList_eq_nil_iff.1 hn)
  rw [isTail, all_of_isWordy h, hlast, Option.any_some, Bool.true_and]
  exact h _ (List.getLast_mem _)

theorem isTail_append (h : cs.all isPathChar = true) (ht : isTail ds = true) :
    isTail (cs ++ ds) = true := by
  have hne : ds ≠ [] := by
    rintro rfl
    exact absurd ht (by decide)
  rw [isTail, Bool.and_eq_true] at ht
  rw [isTail, List.all_append, h, ht.1, List.getLast?_append_of_ne_nil _ hne, ht.2]
  rfl

theorem isTail_after (h : IsWordy key) : isTail (m.after key).toList = true := by
  rw [Modifier.after, String.toList_append]
  exact isTail_append (all_of_isWordy h) (by cases m <;> decide)

theorem isWellFormed_bodyPath (h : isTail tail.toList = true) :
    isWellFormed (bodyPath tail) = true := by
  have hpart : Text.after? ("@request." ++ "body" ++ ".").toList (bodyPath tail).toList =
      some tail.toList := by
    rw [Text.after?_eq_some, bodyPath, String.toList_append]
    rfl
  have hbody : isRequestPath (bodyPath tail).toList = true := by
    refine List.any_eq_true.2 ⟨"body", by decide, ?_⟩
    rw [hpart]
    exact h
  unfold isWellFormed
  simp only [hbody, Bool.or_true, Bool.true_or]

end Path

namespace Plan

theorem notMem_of_isWordy (h : IsWordy key) : '.' ∉ key.toList ∧ ':' ∉ key.toList :=
  ⟨fun hm => absurd (h _ hm) (by decide), fun hm => absurd (h _ hm) (by decide)⟩

theorem segmentsOf_of_notMem (h : '.' ∉ segment.toList) : segmentsOf segment = [segment] := by
  rw [segmentsOf, Text.pieces_of_notMem h, List.map_cons, String.ofList_toList, List.map_nil]

theorem segmentsOf_append (h : '.' ∉ segment.toList) (tail : String) :
    segmentsOf (segment ++ ("." ++ tail)) = segment :: segmentsOf tail :=
  segmentsOf_eq_cons h (by simp)

/-- The segments of a path tell the path. -/
theorem segmentsOf_injective : Function.Injective segmentsOf := by
  intro p q h
  have hpieces := List.map_injective_iff.2 (fun _ _ h => String.ofList_injective h) h
  rw [← String.toList_inj, ← Text.rejoin_pieces '.' p.toList, hpieces, Text.rejoin_pieces]

theorem segmentsOf_bodyPath (tail : String) :
    segmentsOf (bodyPath tail) = "@request" :: "body" :: segmentsOf tail := by
  have hpath : bodyPath tail = "@request" ++ ("." ++ ("body" ++ ("." ++ tail))) :=
    String.toList_injective (by simp [bodyPath])
  rw [hpath, segmentsOf_append (by decide), segmentsOf_append (by decide)]

theorem dot_notMem_of_mem {path : String} (h : segment ∈ segmentsOf path) :
    '.' ∉ segment.toList := by
  obtain ⟨p, hp, rfl⟩ := List.mem_map.1 h
  rw [String.toList_ofList]
  exact Text.notMem_of_mem_pieces hp

/-- A well-formed path to a key without a modifier is `bodyPath`, and the key is a name. -/
theorem eq_bodyPath {path : String} (hw : Path.isWellFormed path = true)
    (he : "" ∉ segmentsOf path) (hs : segmentsOf path = ["@request", "body", key])
    (hc : ':' ∉ key.toList) : path = bodyPath key ∧ Text.IsWordName key := by
  have hm : key ∈ segmentsOf path := by simp [hs]
  have hdot := dot_notMem_of_mem hm
  refine ⟨segmentsOf_injective ?_, fun hn => he (hn ▸ hm), fun c hchar => ?_⟩
  · rw [hs, segmentsOf_bodyPath, segmentsOf_of_notMem hdot]
  · have hpath := isPathChar_of_mem_later hw hs (show key ∈ ["body", key] by simp) c hchar
    simp only [Path.isPathChar, Bool.or_eq_true, beq_iff_eq] at hpath
    rcases hpath with (hword | rfl) | rfl
    · exact hword
    · exact absurd hchar hdot
    · exact absurd hchar hc

theorem segmentsOf_key (h : IsWordy key) :
    segmentsOf (bodyPath key) = ["@request", "body", key] := by
  rw [segmentsOf_bodyPath, segmentsOf_of_notMem (notMem_of_isWordy h).1]

theorem segmentsOf_after (h : IsWordy key) :
    segmentsOf (bodyPath (m.after key)) = ["@request", "body", m.after key] := by
  have hdot : '.' ∉ (m.after key).toList := by
    rw [Modifier.after, String.toList_append, List.mem_append, not_or]
    exact ⟨(notMem_of_isWordy h).1, by cases m <;> decide⟩
  rw [segmentsOf_bodyPath, segmentsOf_of_notMem hdot]

theorem splitModifier_key (h : IsWordy key) : splitModifier key = .ok (key, none) :=
  splitModifier_eq (notMem_of_isWordy h).2

theorem splitModifier_after (h : IsWordy key) :
    splitModifier (m.after key) = .ok (key, some m) := by
  have hcut : Text.cut ':' (m.after key).toList = some (key.toList, m.label.toList) := by
    rw [Modifier.after, String.toList_append, String.toList_append]
    exact Text.cut_append (notMem_of_isWordy h).2 m.label.toList
  rw [splitModifier, hcut]
  simp only [String.ofList_toList, m.ofLabel?_label]

/-- A segment without a modifier has no colon. -/
theorem eq_of_splitModifier_none {name : String} (h : splitModifier segment = .ok (name, none)) :
    ':' ∉ segment.toList ∧ name = segment := by
  unfold splitModifier at h
  split at h
  · next hc =>
    cases h
    exact ⟨Text.cut_eq_none_iff.1 hc, rfl⟩
  · split at h <;> cases h

/-- A segment with a modifier is not empty. -/
theorem ne_empty_of_modifier (h : splitModifier segment = .ok (key, some m)) : "" ≠ segment := by
  rintro rfl
  cases h

theorem empty_notMem_after (h : IsWordy key) : "" ∉ segmentsOf (bodyPath (m.after key)) := by
  rw [segmentsOf_after h]
  simpa using ne_empty_of_modifier (splitModifier_after (m := m) h)

end Plan

end RecordFilter
