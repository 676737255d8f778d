import Mathlib.Data.List.Forall2
import Mathlib.Data.List.Infix
import RecordFilter.Proofs.Quotes
import RecordFilter.Proofs.Tokens

/-!
# Operands of connectives

A closed text in which no connective stands at depth zero is one operand wherever it stands
(`Sql.IsOperand`): texts of this kind with a connective between them are read as its parts
(`Sql.read_intercalate`). They are put together from quoted texts, texts in parentheses and words
that are not connectives.
-/

namespace RecordFilter.Sql

variable {a b : List Char} {ts us : List Token}

/-! ## Texts without connectives -/

/-- No connective stands at depth zero, and none comes about with what is written after it. -/
structure IsFree (ts : List Token) : Prop where
  absent : ∀ connective : Connective, ¬ connective.text.toList <:+: outline ts
  last : ∀ c ∈ (outline ts).getLast?, c ∉ ['A', 'N', 'O']

instance (ts : List Token) : Decidable (IsFree ts) :=
  decidable_of_iff
    ((¬ Connective.and.text.toList <:+: outline ts ∧ ¬ Connective.or.text.toList <:+: outline ts) ∧
      (outline ts).getLast?.all (decide <| · ∉ ['A', 'N', 'O']) = true) <| by
    rw [Option.all_eq_true]
    simp only [decide_eq_true_eq]
    exact ⟨fun h => ⟨fun connective => by cases connective; exacts [h.1.1, h.1.2], h.2⟩,
      fun h => ⟨⟨h.absent .and, h.absent .or⟩, h.last⟩⟩

theorem outline_append : outline (ts ++ us) = outline ts ++ outline us := List.map_append

theorem mem_of_append_connective {connective : Connective} {before after : List Char}
    (h : connective.text.toList = before ++ after) (ha : after ≠ []) :
    ∀ c ∈ before, c ∈ ['A', 'N', 'O'] := by
  have hb : before <+: connective.text.toList.dropLast := by
    rw [h, List.dropLast_append_of_ne_nil ha]
    exact List.prefix_append _ _
  have hletters : connective.text.toList.dropLast ⊆ ['A', 'N', 'O'] := by
    cases connective <;> decide
  exact fun c hc => hletters (hb.subset hc)

theorem IsFree.append (ht : IsFree ts) (hu : IsFree us) : IsFree (ts ++ us) where
  absent connective := by
    rw [outline_append, List.infix_append_iff]
    rintro (h | h | ⟨before, after, hc, hbefore, hafter⟩)
    · exact ht.absent connective h
    · exact hu.absent connective h
    · rcases List.eq_nil_or_concat before with rfl | ⟨init, c, rfl⟩
      · exact hu.absent connective (hc ▸ hafter.isInfix)
      · by_cases ha : after = []
        · rw [ha, List.append_nil] at hc
          exact ht.absent connective (hc ▸ hbefore.isInfix)
        · -- the last letter before the seam is one that no text ends in
          obtain ⟨rest, hrest⟩ := hbefore
          refine ht.last c ?_ (mem_of_append_connective hc ha c (by simp))
          rw [← hrest]
          simp
  last c hc := by
    rw [outline_append, List.getLast?_append] at hc
    cases h : (outline us).getLast? with
    | none => rw [h, Option.none_or] at hc; exact ht.last c hc
    | some d =>
      rw [h, Option.some_or] at hc
      exact hu.last c (h ▸ hc)

theorem isFree_of_notMem (h : ∀ c ∈ outline ts, c ∉ ['A', 'N', 'O']) : IsFree ts := by
  refine ⟨fun connective hi => ?_, fun c hc => h c (List.mem_of_getLast? hc)⟩
  cases connective with
  | and => exact h 'A' (hi.subset (by decide)) (by decide)
  | or => exact h 'O' (hi.subset (by decide)) (by decide)

/-! ### Cutting -/

theorem intercalate_words (ts : List Token) : [Token.char ' '].intercalate (words ts) = ts := by
  induction ts with
  | nil => rfl
  | cons t ts ih =>
    obtain ⟨w, ws, hw⟩ := List.exists_cons_of_ne_nil (List.splitOnP_ne_nil Token.isBlank ts)
    rw [words, hw] at ih
    rw [words, List.splitOnP_cons_eq_if_modifyHead, hw]
    split
    · next hb =>
      rw [List.intercalate_cons_cons, ih, Token.eq_of_isBlank hb]
      rfl
    · rw [List.modifyHead_cons]
      cases ws with
      | nil => simpa using ih
      | cons v ws =>
        rw [List.intercalate_cons_cons] at ih ⊢
        simpa using ih

theorem infix_intercalate {α : Type} (sep : List α) {l : List α} {ls : List (List α)} (h : l ∈ ls) :
    l <:+: sep.intercalate ls := by
  induction ls with
  | nil => cases h
  | cons m ls ih =>
    cases ls with
    | nil => rw [List.mem_singleton.1 h]; simp
    | cons n ls =>
      rw [List.intercalate_cons_cons, List.append_assoc]
      rcases List.mem_cons.1 h with rfl | h
      · exact (List.prefix_append _ _).isInfix
      · exact (ih h).trans ((List.suffix_append _ _).trans (List.suffix_append _ _)).isInfix

theorem infix_of_mem_words {w : List Token} (h : w ∈ words ts) : w <:+: ts := by
  have hi := infix_intercalate [Token.char ' '] h
  rwa [intercalate_words] at hi

theorem not_word_of_isFree (h : IsFree ts) (connective : Connective) :
    ∀ w ∈ words ts, (outline w == connective.text.toList) = false := by
  intro w hw
  rw [beq_eq_false_iff_ne]
  intro he
  exact h.absent connective (he ▸ (infix_of_mem_words hw).map _)

/-- A text without connectives is one part. -/
theorem cutAt_of_isFree (h : IsFree ts) (connective : Connective) : cutAt connective ts = [ts] := by
  rw [cutAt, List.splitOnP_eq_singleton (not_word_of_isFree h connective), List.map_singleton,
    intercalate_words]

def separator (connective : Connective) : List Token :=
  (" " ++ connective.text ++ " ").toList.map Token.char

def word (connective : Connective) : List Token := connective.text.toList.map Token.char

theorem words_separator (ts us : List Token) (connective : Connective) :
    words (ts ++ separator connective ++ us) = words ts ++ word connective :: words us := by
  have hs : separator connective = .char ' ' :: (word connective ++ [.char ' ']) := by
    cases connective <;> rfl
  have hw : ∀ t ∈ word connective, t.isBlank = false := by
    cases connective <;> decide
  rw [words, hs, List.append_assoc, List.cons_append, List.splitOnP_append_cons _ _ rfl,
    List.append_assoc, List.singleton_append,
    List.splitOnP_append_cons_of_forall_mem hw _ rfl]
  rfl

theorem outline_word (connective : Connective) :
    outline (word connective) = connective.text.toList := by
  cases connective <;> rfl

/-- Texts between which a connective stands are the parts under it. -/
theorem cutAt_intercalate {connective : Connective} {tss : List (List Token)} (hn : tss ≠ [])
    (h : ∀ ts ∈ tss, IsFree ts) :
    cutAt connective ((separator connective).intercalate tss) = tss := by
  have words_eq : (words ((separator connective).intercalate tss)).splitOnP
      (outline · == connective.text.toList) = tss.map words := by
    induction tss with
    | nil => exact absurd rfl hn
    | cons ts tss ih =>
      obtain ⟨hfree, hrest⟩ := List.forall_mem_cons.1 h
      have hword := not_word_of_isFree hfree connective
      cases tss with
      | nil => simpa using List.splitOnP_eq_singleton hword
      | cons us tss =>
        rw [List.intercalate_cons_cons, words_separator,
          List.splitOnP_append_cons_of_forall_mem hword _ (by simp [outline_word]),
          ih (by simp) hrest]
        rfl
  rw [cutAt, words_eq, List.map_map]
  exact (List.map_congr_left fun ts _ => intercalate_words ts).trans (List.map_id tss)

theorem cutAt_or_intercalate_and {tss : List (List Token)} (h : ∀ ts ∈ tss, IsFree ts) :
    cutAt .or ((separator .and).intercalate tss) = [(separator .and).intercalate tss] := by
  have hw : ∀ w ∈ words ((separator .and).intercalate tss),
      (outline w == Connective.or.text.toList) = false := by
    induction tss with
    | nil => decide
    | cons ts tss ih =>
      obtain ⟨hfree, hrest⟩ := List.forall_mem_cons.1 h
      have hword := not_word_of_isFree hfree .or
      cases tss with
      | nil => simpa using hword
      | cons us tss =>
        rw [List.intercalate_cons_cons, words_separator]
        intro w hm
        rcases List.mem_append.1 hm with hm | hm
        · exact hword w hm
        · rcases List.mem_cons.1 hm with rfl | hm
          · rfl
          · exact ih hrest w hm
  rw [cutAt, List.splitOnP_eq_singleton hw, List.map_singleton, intercalate_words]

/-! ### Formulas -/

theorem Formula.ofTokens_of_isFree (h : IsFree ts) : ofTokens ts = ofOperand ts := by
  rw [ofTokens, cutAt_of_isFree h, List.map_singleton, cutAt_of_isFree h]
  rfl

/-- Two or more operands with a connective between them. -/
theorem Formula.ofTokens_intercalate (connective : Connective) {tss : List (List Token)}
    (hl : 2 ≤ tss.length) (h : ∀ ts ∈ tss, IsFree ts) :
    ofTokens ((separator connective).intercalate tss) = join connective (tss.map ofTokens) := by
  have hn : tss ≠ [] := List.ne_nil_of_length_pos (by omega)
  have operands : tss.map ofOperand = tss.map ofTokens :=
    List.map_congr_left fun ts hm => (ofTokens_of_isFree (h ts hm)).symm
  cases connective with
  | and =>
    rw [ofTokens, cutAt_or_intercalate_and h, List.map_singleton, cutAt_intercalate hn h, operands]
    rfl
  | or =>
    rw [ofTokens, cutAt_intercalate hn h]
    congr 1
    refine List.map_congr_left fun ts hm => ?_
    rw [cutAt_of_isFree (h ts hm), ofTokens_of_isFree (h ts hm)]
    rfl

/-! ## Texts that are put together -/

/-- Every parenthesis and every quote of a text is closed. -/
def IsClosed (s : String) : Prop := ∃ ts, Reads s.toList ts

/-- A closed text in which no connective stands at depth zero. -/
def IsSingle (s : String) : Prop := ∃ ts, Reads s.toList ts ∧ IsFree ts

/-- A text that is one operand of any connective, and its formula. -/
def IsOperand (s : String) (φ : Formula) : Prop :=
  ∃ ts, Reads s.toList ts ∧ IsFree ts ∧ Formula.ofTokens ts = φ

/-- Words of SQL that open and close nothing and have no connective among them. -/
def AreWords (s : String) : Prop := IsFlat s.toList ∧ IsFree (s.toList.map .char)

instance (s : String) : Decidable (AreWords s) :=
  inferInstanceAs (Decidable (IsFlat s.toList ∧ IsFree (s.toList.map .char)))

section Strings

variable {s t : String} {φ : Formula}

theorem IsSingle.closed (h : IsSingle s) : IsClosed s := h.imp fun _ => And.left

theorem IsOperand.single (h : IsOperand s φ) : IsSingle s := h.imp fun _ h => ⟨h.1, h.2.1⟩

theorem IsOperand.read (h : IsOperand s φ) : Formula.read s = some φ := by
  obtain ⟨ts, hr, -, rfl⟩ := h
  rw [Formula.read, tokens_eq_some_iff.2 hr, Option.map_some]

theorem IsClosed.append (hs : IsClosed s) (ht : IsClosed t) : IsClosed (s ++ t) := by
  obtain ⟨ts, hs⟩ := hs
  obtain ⟨us, ht⟩ := ht
  exact ⟨ts ++ us, by rw [String.toList_append]; exact hs.append ht⟩

theorem IsSingle.append (hs : IsSingle s) (ht : IsSingle t) : IsSingle (s ++ t) := by
  obtain ⟨ts, hs, hfs⟩ := hs
  obtain ⟨us, ht, hft⟩ := ht
  exact ⟨ts ++ us, by rw [String.toList_append]; exact hs.append ht, hfs.append hft⟩

theorem IsClosed.group (h : IsClosed s) : IsSingle ("(" ++ s ++ ")") := by
  obtain ⟨ts, hr⟩ := h
  refine ⟨[.group s.toList (Formula.ofTokens ts)], ?_, isFree_of_notMem ?_⟩
  case refine_2 => exact List.forall_mem_singleton.2 (by decide : '(' ∉ ['A', 'N', 'O'])
  rw [String.toList_append, String.toList_append]
  exact hr.group

theorem AreWords.append (hs : AreWords s) (ht : AreWords t) : AreWords (s ++ t) := by
  rw [AreWords, String.toList_append, List.map_append]
  refine ⟨fun c hc => ?_, hs.2.append ht.2⟩
  exact (List.mem_append.1 hc).elim (hs.1 c) (ht.1 c)

theorem AreWords.single (h : AreWords s) : IsSingle s := ⟨s.toList.map .char, h.1.reads, h.2⟩

/-- A text in parentheses after words, which end in the parenthesis. -/
theorem IsClosed.call {name start : String} (h : IsClosed s) (hw : AreWords name)
    (hs : start = name ++ "(") : IsSingle (start ++ s ++ ")") := by
  have hg := hw.single.append h.group
  rwa [← String.append_assoc, ← String.append_assoc, ← hs] at hg

theorem isSingle_enclosed {mark : Char} (hm : mark = '"' ∨ mark = '\'') :
    IsSingle (enclosed mark s) := by
  obtain ⟨ts, hr, hf⟩ := reads_enclosed hm s.toList
  refine ⟨ts, by rwa [enclosed, String.toList_ofList], isFree_of_notMem fun c hc => ?_⟩
  obtain ⟨t, ht, rfl⟩ := List.mem_map.1 hc
  rw [hf t ht]
  rcases hm with rfl | rfl <;> decide

theorem isSingle_quote (s : String) : IsSingle (quote s) := isSingle_enclosed (.inl rfl)

theorem isSingle_literal (s : String) : IsSingle (literal s) := isSingle_enclosed (.inr rfl)

theorem isSingle_quoteColumn (s t : String) : IsSingle (quoteColumn s t) :=
  ((isSingle_quote s).append (AreWords.single (by decide))).append (isSingle_quote t)

/-- In parentheses a text is an operand, whatever it means. -/
theorem isOperand_group (h : Formula.read s = some φ) : IsOperand ("(" ++ s ++ ")") φ := by
  obtain ⟨ts, ht, rfl⟩ := Option.map_eq_some_iff.1 h
  have free : IsFree [.group s.toList (Formula.ofTokens ts)] :=
    isFree_of_notMem (List.forall_mem_singleton.2 (by decide : '(' ∉ ['A', 'N', 'O']))
  refine ⟨_, ?_, free, Formula.ofTokens_of_isFree free⟩
  rw [String.toList_append, String.toList_append]
  exact (tokens_eq_some_iff.1 ht).group

theorem Formula.ofOperand_of_blank {ts : List Token} (h : Token.char ' ' ∈ ts) :
    ofOperand ts = .atom (String.ofList (render ts)) := by
  unfold ofOperand
  split
  · next inner meaning => exact absurd (List.mem_singleton.1 h) (by simp)
  · rfl

/-- A text with a blank outside of its groups is not a group in parentheses. -/
theorem isOperand_atom {words whole : String} (hs : IsSingle s) (hw : AreWords words)
    (hb : ' ' ∈ words.toList) (ht : IsSingle t) (he : whole = s ++ words ++ t) :
    IsOperand whole (.atom whole) := by
  obtain ⟨ts, hrs, hfs⟩ := hs
  obtain ⟨us, hrt, hft⟩ := ht
  have reads : Reads whole.toList (ts ++ words.toList.map .char ++ us) := by
    rw [he, String.toList_append, String.toList_append]
    exact (hrs.append hw.1.reads).append hrt
  have free : IsFree (ts ++ words.toList.map .char ++ us) := (hfs.append hw.2).append hft
  refine ⟨_, reads, free, ?_⟩
  rw [Formula.ofTokens_of_isFree free, Formula.ofOperand_of_blank, reads.render,
    String.ofList_toList]
  simp [hb]

/-- Operands with a connective between them are read as its parts. -/
theorem reads_intercalate (connective : Connective) {ss : List String} {φs : List Formula}
    (h : List.Forall₂ IsOperand ss φs) :
    ∃ tss, Reads (String.intercalate (" " ++ connective.text ++ " ") ss).toList
        ((separator connective).intercalate tss) ∧
      (∀ ts ∈ tss, IsFree ts) ∧ tss.map Formula.ofTokens = φs := by
  have between : Reads (" " ++ connective.text ++ " ").toList (separator connective) :=
    IsFlat.reads (by cases connective <;> decide)
  rw [String.toList_intercalate]
  induction h with
  | nil => exact ⟨[], .nil, List.forall_mem_nil _, rfl⟩
  | @cons s φ ss φs hs hrest ih =>
    obtain ⟨ts, hr, hf, rfl⟩ := hs
    obtain ⟨tss, hrs, hfs, hφ⟩ := ih
    refine ⟨ts :: tss, ?_, List.forall_mem_cons.2 ⟨hf, hfs⟩, hφ ▸ rfl⟩
    cases hrest with
    | nil =>
      rw [List.map_eq_nil_iff.1 hφ]
      simpa using hr
    | cons =>
      obtain ⟨us, tss, rfl, -, -⟩ := List.map_eq_cons_iff.1 hφ
      simp only [List.map_cons, List.intercalate_cons_cons] at hrs ⊢
      exact (hr.append between).append hrs

theorem read_intercalate (connective : Connective) {ss : List String} {φs : List Formula}
    (hl : 2 ≤ ss.length) (h : List.Forall₂ IsOperand ss φs) :
    Formula.read (String.intercalate (" " ++ connective.text ++ " ") ss) =
      some (.join connective φs) := by
  obtain ⟨tss, hr, hf, rfl⟩ := reads_intercalate connective h
  have hlength : 2 ≤ tss.length := by rwa [h.length_eq, List.length_map] at hl
  rw [Formula.read, tokens_eq_some_iff.2 hr, Option.map_some,
    Formula.ofTokens_intercalate connective hlength hf]

theorem isOperand_join (connective : Connective) {ss : List String} {φs : List Formula}
    (hl : 2 ≤ ss.length) (h : List.Forall₂ IsOperand ss φs) :
    IsOperand ("(" ++ String.intercalate (" " ++ connective.text ++ " ") ss ++ ")")
      (.join connective φs) := isOperand_group (read_intercalate connective hl h)

/-- Two operands with a connective between them. -/
theorem IsOperand.pair {ψ : Formula} {whole : String} (hs : IsOperand s φ)
    (connective : Connective) (ht : IsOperand t ψ)
    (he : whole = "(" ++ (s ++ (" " ++ connective.text ++ " ") ++ t) ++ ")") :
    IsOperand whole (.join connective [φ, ψ]) := by
  have h := isOperand_join connective (by simp) (.cons hs (.cons ht .nil))
  rwa [String.intercalate_cons_cons, String.intercalate_singleton, ← he] at h

end Strings

end RecordFilter.Sql
