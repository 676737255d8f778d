import RecordFilter.Proofs.Spelling

/-!
# The numbered form of a query

`Matches` takes a text apart without a scanner: a placeholder wherever one begins, single
characters elsewhere. A text has one such reading, the one that `Piece.scan` finds, and nothing
else changes when its placeholders are numbered: with the names put back in the places of their
numbers the text is there again (`Select.positional_spec`).
-/

namespace RecordFilter.Sql

open Text (isName)

/-! ## Reading a text -/

/-- A placeholder stands at the front: one or more word characters after a brace and a colon, and
the closing brace. -/
def BeginsPlaceholder (cs : List Char) : Prop :=
  ∃ n rest, isName n = true ∧ cs = '\x7b' :: ':' :: (n ++ '\x7d' :: rest)

/-- A text and its pieces from left to right: a placeholder is taken where one begins. -/
inductive Matches : List Char → List Piece → Prop
  | nil : Matches [] []
  | char {c : Char} {cs : List Char} {ps : List Piece} (hc : ¬ BeginsPlaceholder (c :: cs))
      (h : Matches cs ps) : Matches (c :: cs) (.char c :: ps)
  | name {n cs : List Char} {ps : List Piece} (hn : isName n = true) (h : Matches cs ps) :
      Matches ('\x7b' :: ':' :: (n ++ '\x7d' :: cs)) (.name n :: ps)

namespace Piece

variable {cs n : List Char} {ps : List Piece}

def text : Piece → List Char
  | char c => [c]
  | name n => '\x7b' :: ':' :: (n ++ ['\x7d'])

theorem nameAt_eq_some (h : nameAt cs = some n) :
    isName n = true ∧ ∃ rest, cs = '\x7b' :: ':' :: (n ++ '\x7d' :: rest) := by
  unfold nameAt at h
  split at h
  · next cs =>
    split at h
    · next rest hd =>
      obtain ⟨hne, hn⟩ := Option.ite_none_left_eq_some.1 h
      obtain rfl := Option.some.inj hn
      refine ⟨by simp [isName, hne, List.all_takeWhile], rest, ?_⟩
      rw [← hd, List.takeWhile_append_dropWhile]
    · cases h
  · cases h

theorem scan_char_of_not_begins {c : Char} (hc : ¬ BeginsPlaceholder (c :: cs)) :
    scan (c :: cs) = char c :: scan cs := by
  cases hn : nameAt (c :: cs) with
  | none => simp [scan, scanAfter, hn]
  | some n =>
    obtain ⟨hw, rest, hcs⟩ := nameAt_eq_some hn
    exact absurd ⟨n, rest, hw, hcs⟩ hc

theorem matches_scan (cs : List Char) : Matches cs (scan cs) := by
  induction hl : cs.length using Nat.strongRecOn generalizing cs with
  | _ l ih =>
    subst hl
    by_cases hb : BeginsPlaceholder cs
    · obtain ⟨n, rest, hn, rfl⟩ := hb
      rw [scan_name hn]
      exact .name hn (ih _ (by simp; omega) rest rfl)
    · cases cs with
      | nil => exact .nil
      | cons c cs =>
        rw [scan_char_of_not_begins hb]
        exact .char hb (ih _ (by simp) cs rfl)

theorem scan_of_matches (h : Matches cs ps) : scan cs = ps := by
  induction h with
  | nil => rfl
  | char hc _ ih => rw [scan_char_of_not_begins hc, ih]
  | name hn _ ih => rw [scan_name hn, ih]

/-- The scanner finds the one reading of a text. -/
theorem matches_iff : Matches cs ps ↔ ps = scan cs :=
  ⟨fun h => (scan_of_matches h).symm, fun h => h ▸ matches_scan cs⟩

theorem text_of_matches (h : Matches cs ps) : ps.flatMap text = cs := by
  induction h with
  | nil => rfl
  | char _ _ ih => rw [List.flatMap_cons, ih]; rfl
  | name _ _ ih =>
    rw [List.flatMap_cons, ih, text, List.cons_append, List.cons_append, List.append_assoc]
    rfl

/-- The names of the placeholders, each once, in the order in which they first come up. -/
def distinctNames (ps : List Piece) : List (List Char) := (names ps).eraseDups

theorem fresh_nil (ps : List Piece) : fresh [] ps = distinctNames ps := by
  simp [fresh, distinctNames]

theorem mem_distinctNames (h : .name n ∈ ps) : n ∈ distinctNames ps := by
  have hm : n ∈ [] ++ fresh [] ps := mem_append_fresh h
  rwa [List.nil_append, fresh_nil] at hm

end Piece

/-! ## Slots -/

/-- What stands in a numbered text: a character that was there before, or a number that was put in
the place of a placeholder. -/
inductive Slot
  | char (c : Char)
  | number (i : Nat)
deriving DecidableEq, Repr

namespace Slot

/-- A placeholder becomes the number of its name, counted from one. -/
def ofPiece (names : List (List Char)) : Piece → Slot
  | .char c => .char c
  | .name n => .number (names.idxOf n + 1)

def text : Slot → List Char
  | char c => [c]
  | number i => '$' :: Nat.toDigits 10 i

def named (names : List (List Char)) : Slot → List Char
  | char c => [c]
  | number i => Piece.text (.name (names.getD (i - 1) []))

variable {names : List (List Char)} {ps : List Piece}

theorem text_ofPiece (p : Piece) : (ofPiece names p).text = p.numberedText (names.idxOf ·) := by
  cases p <;> rfl

theorem named_ofPiece {p : Piece} (h : ∀ n, p = .name n → n ∈ names) :
    (ofPiece names p).named names = p.text := by
  cases p with
  | char c => rfl
  | name n =>
    have hi : names[names.idxOf n]? = some n := List.getElem?_idxOf (h n rfl)
    simp [ofPiece, named, hi]

theorem flatMap_text (names : List (List Char)) (ps : List Piece) :
    (ps.map (ofPiece names)).flatMap text = ps.flatMap (Piece.numberedText (names.idxOf ·)) := by
  rw [List.flatMap_map]
  exact congrArg ps.flatMap (funext text_ofPiece)

theorem flatMap_named (ps : List Piece) :
    (ps.map (ofPiece (Piece.distinctNames ps))).flatMap (named (Piece.distinctNames ps)) =
      ps.flatMap Piece.text := by
  rw [List.flatMap_map]
  refine List.flatMap_congr fun p hp => named_ofPiece ?_
  rintro n rfl
  exact Piece.mem_distinctNames hp

end Slot

/-! ## Queries -/

/-- The first name in the text of a query that has no value. -/
def Select.unbound? (q : Select) : Option (List Char) :=
  (Piece.distinctNames (Piece.scan q.sql.toList)).find? fun n =>
    !q.params.contains (String.ofList n)

theorem Select.positional?_eq (q : Select) : q.positional? =
    match q.unbound? with
    | some n => .error (.unbound (String.ofList n))
    | none =>
      .ok (String.ofList ((Piece.scan q.sql.toList).flatMap
          (Piece.numberedText ((Piece.distinctNames (Piece.scan q.sql.toList)).idxOf ·))),
        (Piece.distinctNames (Piece.scan q.sql.toList)).filterMap fun n =>
          q.params.find? (String.ofList n)) := by
  have hu : (fun n => (q.params.find? (String.ofList n)).isNone) =
      fun n => !q.params.contains (String.ofList n) := by
    funext n
    simp [Params.contains]
  rw [positional?, numbered, number_eq, Piece.fresh_nil, List.nil_append, hu, ← Select.unbound?]
  cases q.unbound? <;> rfl

theorem Select.unbound?_eq_none_iff {q : Select} : q.unbound? = none ↔
    ∀ n ∈ Piece.distinctNames (Piece.scan q.sql.toList),
      q.params.contains (String.ofList n) = true := by
  simp [unbound?]

/-- The numbered form of a query is its named form. There is one if and only if every name in the
text is bound; else the first one that is not is reported. The placeholder of the name with number
`i` becomes `$i` and nothing else changes, and the values are those of the names in order. -/
theorem Select.positional_spec (q : Select) :
    ∃ ps, (∀ other, Matches q.sql.toList other ↔ other = ps) ∧
      ((∃ r, q.positional? = .ok r) ↔
        ∀ n ∈ Piece.distinctNames ps, q.params.contains (String.ofList n) = true) ∧
      (∀ e, q.positional? = .error e ↔
        ∃ n, (Piece.distinctNames ps).find? (fun n => !q.params.contains (String.ofList n)) =
          some n ∧ e = .unbound (String.ofList n)) ∧
      ∀ text values, q.positional? = .ok (text, values) →
        text.toList = (ps.map (Slot.ofPiece (Piece.distinctNames ps))).flatMap Slot.text ∧
        (ps.map (Slot.ofPiece (Piece.distinctNames ps))).flatMap
          (Slot.named (Piece.distinctNames ps)) = q.sql.toList ∧
        values.map some =
          (Piece.distinctNames ps).map fun n => q.params.find? (String.ofList n) := by
  refine ⟨Piece.scan q.sql.toList, fun other => Piece.matches_iff, ?_⟩
  rw [← Select.unbound?_eq_none_iff, ← Select.unbound?, q.positional?_eq]
  cases hu : q.unbound? with
  | some n => simp [eq_comm]
  | none =>
    refine ⟨by simp, by simp, ?_⟩
    intro text values h
    obtain ⟨rfl, rfl⟩ := Prod.mk.inj (Except.ok.inj h)
    refine ⟨?_, ?_, ?_⟩
    · rw [String.toList_ofList, Slot.flatMap_text]
    · rw [Slot.flatMap_named, Piece.text_of_matches (Piece.matches_scan _)]
    · exact map_some_filterMap (Select.unbound?_eq_none_iff.1 hu)

/-- Placeholders next to each other, one of them inside what looks like another. -/
example : Select.positional?
    { table := "t", conditions := [.verbatim "\x7b:b\x7d\x7b:a\x7d\x7b:\x7b:b\x7d"],
      params := { entries := [("a", .bool true), ("b", .bool false)] } } =
    .ok ("SELECT \"t\".* FROM \"t\" WHERE $1$2\x7b:$1", [.bool false, .bool true]) := rfl

end RecordFilter.Sql
