import RecordFilter.Filter.Encoding

/-!
# Filters written and read

Writing a filter as JSON and reading it again gives the same filter: each operand and each sign is
read back from its own form (`Operand.decode_encode`, `Comparator.decode_sign`), a node from its
values (`ofMembers_comparison`, `ofMembers_group`), and a tree from the trees below it.
-/

namespace RecordFilter

open Json (Draft)

/-! ## Operands and signs -/

theorem Operand.decode_encode (o : Operand) : Operand.decode o.encode.draft = some o := by
  cases o <;> rfl

theorem Comparator.decode_sign (c : Comparator) :
    Comparator.decode (.text (some c.sign)) = some c :=
  ofSign?_sign c

theorem Sql.Connective.decode_word (c : Connective) :
    Connective.decode (.text (some c.word)) = some c := by
  cases c <;> rfl

namespace Filter

variable {inGroup : Bool}

/-! ## One node -/

theorem ofMembers_comparison {type left op right : Part} {l r : Operand} {c : Comparator}
    (ht : type.1 = .text (some "comparison")) (hl : Operand.decode left.1 = some l)
    (hc : Comparator.decode op.1 = some c) (hr : Operand.decode right.1 = some r) :
    ofMembers inGroup [("type", type), ("left", left), ("op", op), ("right", right)] =
      some (comparison l c r) := by
  simp [ofMembers, Kind.decode, Kind.fields, assemble, Json.find?, ht, hl, hc, hr]

theorem ofMembers_group {type join items : Part} {c : Sql.Connective} {fs : List Filter}
    (ht : type.1 = .text (some "group")) (hc : Sql.Connective.decode join.1 = some c)
    (hi : items.2 = some fs) :
    ofMembers inGroup [("type", type), ("join", join), ("items", items)] =
      some (group c fs) := by
  simp [ofMembers, Kind.decode, Kind.fields, assemble, Json.find?, ht, hc, hi]

/-! ## Trees -/

mutual

theorem read_encode (inGroup : Bool) : (f : Filter) → read inGroup f.encode.draft = some f
  | .comparison left c right => by
    simp only [encode, Json.draft, Json.memberDrafts, read, readMembers, Option.bind_some]
    exact ofMembers_comparison rfl left.decode_encode c.decode_sign right.decode_encode
  | .group connective items => by
    simp only [encode, Json.draft, Json.memberDrafts, read, readMembers, Option.bind_some]
    exact ofMembers_group rfl connective.decode_word (readAll_encodeAll items)

theorem readAll_encodeAll : (fs : List Filter) → readAll (Json.drafts (encodeAll fs)) = some fs
  | [] => rfl
  | f :: fs => by
    simp only [encodeAll, Json.drafts, readAll, read_encode true f, readAll_encodeAll fs]

end

/-- A filter is read back from the JSON value that it is written as, whatever its depth. -/
theorem decode_encode_filter (f : Filter) : Filter.decode f.encode.draft = some f :=
  read_encode false f

end Filter

end RecordFilter
