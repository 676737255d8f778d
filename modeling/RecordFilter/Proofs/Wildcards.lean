import Mathlib.Data.List.Infix
import RecordFilter.Proofs.Frames

/-!
# The texts that a pattern asks for

`LIKE` reads a pattern from the left: a backslash stands for the character after it, a percent sign
for any text, an underscore for any character. The pattern that is made of a bound text asks for the
texts that contain what the text spells (`Wildcard.patternParam_like`). A text with an unescaped
percent sign is a pattern already.
-/

namespace RecordFilter

open Sql (Params)

namespace Wildcard

/-! ## Patterns -/

/-- What a pattern asks for at one place. -/
inductive Mark
  | any
  | one
  | char (c : Char)
deriving DecidableEq, Repr

def Mark.ofChar (c : Char) : Mark :=
  if c = '%' then any else if c = '_' then one else char c

/-- The marks of a pattern. One that ends in a backslash without a character after it has none. -/
def marks? : List Char → Option (List Mark)
  | [] => some []
  | '\\' :: cs =>
    match cs with
    | [] => none
    | c :: rest => (marks? rest).map (.char c :: ·)
  | c :: cs => (marks? cs).map (Mark.ofChar c :: ·)

/-- Whether a text is as its marks ask. -/
def fits : List Mark → List Char → Bool
  | [], t => t.isEmpty
  | .any :: ms, t => t.tails.any (fits ms)
  | .one :: ms, t =>
    match t with
    | [] => false
    | _ :: t => fits ms t
  | .char c :: ms, t =>
    match t with
    | [] => false
    | d :: t => c == d && fits ms t

/-- Whether a text is like a pattern; a pattern without marks is refused. -/
def like? (pattern text : List Char) : Option Bool := (marks? pattern).map (fits · text)

/-- Whether a character stands in a text without a backslash that takes its meaning. -/
def Unescaped (c : Char) (s : List Char) : Prop :=
  ∃ before after, s = before ++ c :: after ∧ (marks? before).isSome = true

/-- What a text spells: a special character after a backslash is itself, and every other character
too, backslashes included. -/
def literal : List Char → List Char
  | [] => []
  | '\\' :: cs =>
    match cs with
    | [] => ['\\']
    | c :: rest => if isSpecial c then c :: literal rest else '\\' :: c :: literal rest
  | c :: cs => c :: literal cs

/-! ## Reading a text -/

section Reading

variable {c d : Char} {s t a b : List Char} {ms ms' : List Mark}

theorem marks?_cons (hc : c ≠ '\\') : marks? (c :: s) = (marks? s).map (Mark.ofChar c :: ·) := by
  rw [marks?]
  exact hc

theorem literal_cons (hc : c ≠ '\\') : literal (c :: s) = c :: literal s := by
  rw [literal]
  exact hc

/-- What is read of a text before a place decides nothing of what is read after it. -/
theorem marks?_append (ha : marks? a = some ms) : marks? (a ++ b) = (marks? b).map (ms ++ ·) := by
  fun_induction marks? a generalizing ms with
  | case1 =>
    cases ha
    simp
  | case2 => cases ha
  | case3 c rest ih =>
    obtain ⟨ms', hrest, rfl⟩ := Option.map_eq_some_iff.1 ha
    show (marks? (rest ++ b)).map (.char c :: ·) = _
    rw [ih hrest, Option.map_map]
    rfl
  | case4 c cs hc ih =>
    obtain ⟨ms', hcs, rfl⟩ := Option.map_eq_some_iff.1 ha
    rw [List.cons_append, marks?_cons hc, ih hcs, Option.map_map]
    rfl

theorem not_unescaped_nil : ¬ Unescaped c [] := by
  rintro ⟨before, after, h, -⟩
  cases before <;> cases h

theorem unescaped_cons (hd : d ≠ '\\') : Unescaped c (d :: s) ↔ d = c ∨ Unescaped c s := by
  constructor
  · rintro ⟨before, after, h, hm⟩
    cases before with
    | nil => exact .inl (List.cons.inj h).1
    | cons e before =>
      obtain ⟨rfl, rfl⟩ := List.cons.inj h
      rw [marks?_cons hd, Option.isSome_map] at hm
      exact .inr ⟨before, after, rfl, hm⟩
  · rintro (rfl | ⟨before, after, rfl, hm⟩)
    · exact ⟨[], s, rfl, rfl⟩
    · exact ⟨d :: before, after, rfl, by rwa [marks?_cons hd, Option.isSome_map]⟩

theorem unescaped_escaped (hc : c ≠ '\\') : Unescaped c ('\\' :: d :: s) ↔ Unescaped c s := by
  constructor
  · rintro ⟨before, after, h, hm⟩
    match before with
    | [] => exact absurd (List.cons.inj h).1.symm hc
    | [e] =>
      rw [← (List.cons.inj h).1] at hm
      cases hm
    | e :: e' :: before =>
      obtain ⟨he, h⟩ := List.cons.inj h
      obtain ⟨rfl, rfl⟩ := List.cons.inj h
      subst he
      refine ⟨before, after, rfl, ?_⟩
      rwa [marks?, Option.isSome_map] at hm
  · rintro ⟨before, after, rfl, hm⟩
    exact ⟨'\\' :: d :: before, after, rfl, by rwa [marks?, Option.isSome_map]⟩

theorem not_unescaped_backslash (hc : c ≠ '\\') : ¬ Unescaped c ['\\'] := by
  rintro ⟨before, after, h, -⟩
  match before with
  | [] => exact hc (List.cons.inj h).1.symm
  | _ :: before => exact List.append_ne_nil_of_right_ne_nil before (by simp) (List.cons.inj h).2.symm

theorem hasWildcard_iff : hasWildcard s = true ↔ Unescaped '%' s := by
  have hp : '%' ≠ '\\' := by decide
  fun_induction hasWildcard s with
  | case1 => simp [not_unescaped_nil]
  | case2 => simp [not_unescaped_backslash hp]
  | case3 c rest ih => exact ih.trans (unescaped_escaped hp).symm
  | case4 c cs hc ih => rw [unescaped_cons hc, Bool.or_eq_true, beq_iff_eq]; exact or_congr Iff.rfl ih

end Reading

/-! ## Texts of a pattern -/

section Fits

variable {s t cs : List Char} {ms : List Mark}

theorem fits_any : fits (.any :: ms) t = true ↔ ∃ a b, t = a ++ b ∧ fits ms b = true := by
  rw [fits, List.any_eq_true]
  simp only [List.mem_tails]
  exact ⟨fun ⟨b, ⟨a, h⟩, hb⟩ => ⟨a, b, h.symm, hb⟩, fun ⟨a, b, h, hb⟩ => ⟨b, ⟨a, h.symm⟩, hb⟩⟩

theorem fits_chars :
    fits (cs.map .char ++ ms) t = true ↔ ∃ b, t = cs ++ b ∧ fits ms b = true := by
  induction cs generalizing t with
  | nil => simp
  | cons c cs ih =>
    cases t with
    | nil => simp [fits]
    | cons d t =>
      show (c == d && fits (cs.map .char ++ ms) t) = true ↔ _
      rw [Bool.and_eq_true, beq_iff_eq, ih]
      constructor
      · rintro ⟨rfl, b, rfl, hb⟩
        exact ⟨b, rfl, hb⟩
      · rintro ⟨b, h, hb⟩
        obtain ⟨rfl, rfl⟩ := List.cons.inj h
        exact ⟨rfl, b, rfl, hb⟩

/-- Characters between two signs for any text are looked for inside a text. -/
theorem fits_containing :
    fits (.any :: (cs.map .char ++ [.any])) t = true ↔ cs <:+: t := by
  have hall (b : List Char) : fits [.any] b = true := fits_any.2 ⟨b, [], by simp, rfl⟩
  simp only [fits_any, fits_chars, hall, and_true]
  constructor
  · rintro ⟨a, _, rfl, b, rfl⟩
    exact ⟨a, b, List.append_assoc ..⟩
  · rintro ⟨a, b, h⟩
    exact ⟨a, cs ++ b, by rw [← h, List.append_assoc], b, rfl⟩

end Fits

/-! ## Texts made into patterns -/

theorem Mark.ofChar_of_not_special {c : Char} (h : isSpecial c = false) : ofChar c = char c := by
  simp only [isSpecial, Bool.or_eq_false_iff, beq_eq_false_iff_ne] at h
  rw [ofChar, if_neg h.1.2, if_neg h.2]

/-- A text with its backslashes added is read as what it spells, whatever stands in it. -/
theorem marks?_escape (s : List Char) : marks? (escape s) = some ((literal s).map .char) := by
  fun_induction escape s with
  | case1 => rfl
  | case2 => rfl
  | case3 c rest hs ih => rw [marks?, ih, literal, if_pos hs]; rfl
  | case4 c rest hs ih =>
    have hn := Bool.eq_false_iff.2 hs
    have hc : c ≠ '\\' := by rintro rfl; cases hn
    rw [marks?, marks?_cons hc, ih, literal, if_neg hs, Mark.ofChar_of_not_special hn]
    rfl
  | case5 c cs hc hs ih => rw [marks?, ih, literal_cons hc]; rfl
  | case6 c cs hc hs ih =>
    rw [marks?_cons hc, ih, literal_cons hc,
      Mark.ofChar_of_not_special (Bool.eq_false_iff.2 hs)]
    rfl

theorem marks?_containing {s : List Char} (h : hasWildcard s = false) :
    marks? (containing s) = some (.any :: ((literal s).map .char ++ [.any])) := by
  have hp : '%' ≠ '\\' := by decide
  rw [containing, if_neg (Bool.eq_false_iff.1 h), List.cons_append, marks?_cons hp,
    marks?_append (marks?_escape s), marks?_cons hp]
  rfl

theorem like?_containing {s : List Char} (h : ¬ Unescaped '%' s) (t : List Char) :
    like? (containing s) t = some (decide (literal s <:+: t)) := by
  rw [like?, marks?_containing (Bool.eq_false_iff.2 fun hw => h (hasWildcard_iff.1 hw)),
    Option.map_some, Option.some_inj, Bool.eq_iff_iff, fits_containing, decide_eq_true_iff]

end Wildcard

/-! ## Bound patterns -/

/-- What a value without an unescaped percent sign is bound as by a text comparison is the pattern
of the texts that contain what the value spells. It is left alone from then on, so a guarded
comparison, which makes the pattern again, binds the same one. -/
theorem Wildcard.patternParam_like {ps : Params} {name : String} {v : Json}
    (hv : ps.find? name = some v) (hs : ¬ Unescaped '%' v.plainText.toList) :
    ∃ p : String, (patternParam ps name).find? name = some (.text p) ∧
      (∀ t : String, like? p.toList t.toList =
        some (decide (literal v.plainText.toList <:+: t.toList))) ∧
      patternParam (patternParam ps name) name = patternParam ps name ∧
      ∀ (b : Builder) (c : Comparator) (left right : Resolution),
        b.resolver.params = ps → c.operator.isLike = true → name ∈ right.params →
        (b.comparison left c right).2.resolver.params.find? name = some (.text p) := by
  have hw : hasWildcard v.plainText.toList = false :=
    Bool.eq_false_iff.2 fun hw => hs (hasWildcard_iff.1 hw)
  have hp : v.asPattern = .text (String.ofList (containing v.plainText.toList)) :=
    if_neg (Bool.eq_false_iff.1 hw)
  have hf : (patternParam ps name).find? name = some v.asPattern := by
    rw [Params.find?_patternParam, if_pos rfl, hv, Option.map_some]
  refine ⟨_, hp ▸ hf, fun t => ?_, ?_, fun b c left right hb hc hn => ?_⟩
  · rw [String.toList_ofList, like?_containing hs]
  · rw [patternParam, hf, hp]
    simp only [Json.plainText, String.toList_ofList, hasWildcard_containing, if_true]
  · rw [Builder.find?_comparison, if_pos ⟨hc, hn⟩, hb, hv, Option.map_some, hp]

theorem Wildcard.patternParam_like_backslashes :
    let ps : Params := { entries := [("p1", .text "50\\% a_b\\")], last := 1 }
    ps.find? "p1" = some (.text "50\\% a_b\\") ∧ ¬ Unescaped '%' "50\\% a_b\\".toList ∧
      ∃ p : String, (patternParam ps "p1").find? "p1" = some (.text p) ∧
        like? p.toList "at 50% a_b\\ off".toList = some true ∧
        like? p.toList "at 50% aXb\\ off".toList = some false ∧
        patternParam (patternParam ps "p1") "p1" = patternParam ps "p1" := by
  intro ps
  have hv : ps.find? "p1" = some (.text "50\\% a_b\\") := rfl
  have hs : ¬ Unescaped '%' "50\\% a_b\\".toList := by
    rw [← hasWildcard_iff]
    decide +kernel
  obtain ⟨p, hp, hlike, hagain, -⟩ := patternParam_like hv hs
  refine ⟨hv, hs, p, hp, (hlike _).trans ?_, (hlike _).trans ?_, hagain⟩
  · decide +kernel
  · decide +kernel

end RecordFilter
