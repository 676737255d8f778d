import Mathlib.Data.List.Nodup
import RecordFilter.Proofs.Quotes
import RecordFilter.Sql.Select

/-!
# Texts and their placeholders

A text is `Spelled` with known names if each of its braces opens the placeholder of one of them.
Joins and conditions are spelled when their parts are, since names of tables and columns consist of
word characters (`Text.IsWordy`). A spelled text has a form with numbers, which takes the value of
a placeholder from under its name (`numbered_of_spelled`).
-/

namespace RecordFilter

/-! ## Word characters -/

namespace Text

/-- Only word characters. -/
def IsWordy (s : String) : Prop := ∀ c ∈ s.toList, isWord c = true

-- named, as all characters could be searched as well
instance (s : String) : Decidable (IsWordy s) :=
  List.decidableBAll (fun c => isWord c = true) s.toList

variable {a b : String}

@[simp] theorem isWordy_append : IsWordy (a ++ b) ↔ IsWordy a ∧ IsWordy b := by
  simp [IsWordy, or_imp, forall_and]

theorem isWordy_of_isName (h : isName a.toList = true) : IsWordy a := (isName_iff.1 h).2

/-- A name with word characters before it is a name. -/
theorem isName_append (ha : IsWordy a) (hb : isName b.toList = true) :
    isName (a ++ b).toList = true := by
  obtain ⟨hne, hw⟩ := isName_iff.1 hb
  rw [String.toList_append, isName_iff]
  refine ⟨by simp [hne], fun c hc => ?_⟩
  rcases List.mem_append.1 hc with hc | hc
  · exact ha c hc
  · exact hw c hc

theorem toNat_lt_of_isAlphanum {c : Char} (h : c.isAlphanum = true) : c.toNat < 128 := by
  have hcases : (c.isUpper || c.isLower || c.isDigit) = true := h
  have upper (hu : c.isUpper = true) : c.val ≤ 'Z'.val := (of_decide_eq_true hu).2
  have lower (hl : c.isLower = true) : c.val ≤ 'z'.val :=
    of_decide_eq_true (Bool.and_eq_true_iff.1 hl).2
  have digit (hd : c.isDigit = true) : c.val ≤ '9'.val :=
    of_decide_eq_true (Bool.and_eq_true_iff.1 hd).2
  have hz : c.val ≤ 'z'.val := by
    rw [Bool.or_eq_true, Bool.or_eq_true] at hcases
    rcases hcases with (hu | hl) | hd
    · exact UInt32.le_trans (upper hu) (by decide)
    · exact lower hl
    · exact UInt32.le_trans (digit hd) (by decide)
  have hn : c.toNat ≤ 'z'.val.toNat := UInt32.le_iff_toNat_le.1 hz
  exact Nat.lt_of_le_of_lt hn (by decide)

theorem isWord_of_isDigit {c : Char} (h : c.isDigit = true) : isWord c = true := by
  have halphanum : c.isAlphanum = true := by simp [Char.isAlphanum, h]
  exact isWord_of_isAlphanum halphanum (toNat_lt_of_isAlphanum halphanum)

theorem isWord_of_mem_toDigits {c : Char} {n : Nat} (h : c ∈ Nat.toDigits 10 n) :
    isWord c = true :=
  isWord_of_isDigit (Nat.isDigit_of_mem_toDigits (by decide) (by decide) h)

@[simp] theorem isWordy_toDigits (n : Nat) : IsWordy (String.ofList (Nat.toDigits 10 n)) := by
  intro c hc
  rw [String.toList_ofList] at hc
  exact isWord_of_mem_toDigits hc

@[simp] theorem isWordy_wordPart (s : String) : IsWordy (Sql.wordPart s) := by
  intro c hc
  rw [Sql.wordPart, String.toList_ofList, List.mem_filter, Bool.or_eq_true, beq_iff_eq] at hc
  rcases hc.2 with hc | rfl
  · exact isWord_of_isAlphanum hc (toNat_lt_of_isAlphanum hc)
  · decide

end Text

namespace Sql

open Text (IsWordy isName)

/-! ## Texts that are put together -/

section Closed

variable {P : String → Prop} {ss : List String} {sep : String}

/-- What holds of the empty text and of two texts one after the other holds of many. -/
theorem join_of_append (hn : P "") (hc : ∀ {a b}, P a → P b → P (a ++ b)) (h : ∀ s ∈ ss, P s) :
    P (String.join ss) := by
  induction ss with
  | nil => rwa [String.join_nil]
  | cons s ss ih =>
    rw [List.forall_mem_cons] at h
    rw [String.join_cons]
    exact hc h.1 (ih h.2)

theorem intercalate_of_append (hn : P "") (hc : ∀ {a b}, P a → P b → P (a ++ b)) (hs : P sep)
    (h : ∀ s ∈ ss, P s) : P (String.intercalate sep ss) := by
  induction ss with
  | nil => rwa [String.intercalate_nil]
  | cons s ss ih =>
    rw [List.forall_mem_cons] at h
    cases ss with
    | nil => rw [String.intercalate_singleton]; exact h.1
    | cons t ss =>
      rw [String.intercalate_cons_cons]
      exact hc (hc h.1 hs) (ih h.2)

end Closed

/-! ## Spelled texts -/

/-- Characters among which every brace opens the placeholder of a known name. -/
inductive Spells (known : List String) : List Char → Prop
  | nil : Spells known []
  | char {c : Char} {cs : List Char} (hc : c ≠ '\x7b') (h : Spells known cs) :
      Spells known (c :: cs)
  | name {n cs : List Char} (hn : isName n = true) (hk : String.ofList n ∈ known)
      (h : Spells known cs) : Spells known ('\x7b' :: ':' :: (n ++ '\x7d' :: cs))

/-- A text in which every brace opens the placeholder of a known name. -/
def Spelled (known : List String) (s : String) : Prop := Spells known s.toList

/-- A text without placeholders. -/
def IsPlain (s : String) : Prop := '\x7b' ∉ s.toList

instance (s : String) : Decidable (IsPlain s) := inferInstanceAs (Decidable ('\x7b' ∉ s.toList))

variable {known more : List String} {a b : String} {ss : List String}

theorem isPlain_of_isWordy (h : IsWordy a) : IsPlain a := by
  intro hc
  exact absurd (h _ hc) (by decide)

theorem IsPlain.append (ha : IsPlain a) (hb : IsPlain b) : IsPlain (a ++ b) := by
  unfold IsPlain
  rw [String.toList_append, List.mem_append, not_or]
  exact ⟨ha, hb⟩

theorem Spells.append {as bs : List Char} (ha : Spells known as) (hb : Spells known bs) :
    Spells known (as ++ bs) := by
  induction ha with
  | nil => exact hb
  | char hc _ ih => exact .char hc ih
  | @name n cs hn hk _ ih =>
    simp only [List.cons_append, List.append_assoc]
    exact .name hn hk ih

theorem Spelled.append (ha : Spelled known a) (hb : Spelled known b) : Spelled known (a ++ b) := by
  unfold Spelled
  rw [String.toList_append]
  exact Spells.append ha hb

theorem Spells.mono {cs : List Char} (hk : known ⊆ more) (h : Spells known cs) :
    Spells more cs := by
  induction h with
  | nil => exact .nil
  | char hc _ ih => exact .char hc ih
  | name hn hm _ ih => exact .name hn (hk hm) ih

theorem Spelled.mono (hk : known ⊆ more) (h : Spelled known a) : Spelled more a :=
  Spells.mono hk h

theorem spells_of_notMem {cs : List Char} (h : '\x7b' ∉ cs) : Spells known cs := by
  induction cs with
  | nil => exact .nil
  | cons c cs ih =>
    rw [List.mem_cons, not_or] at h
    exact .char (Ne.symm h.1) (ih h.2)

theorem IsPlain.spelled (h : IsPlain a) : Spelled known a := spells_of_notMem h

/-- A spelled text with a plain one after it, such as the words of SQL. -/
theorem Spelled.plain (ha : Spelled known a) (hb : IsPlain b) : Spelled known (a ++ b) :=
  ha.append hb.spelled

/-- A spelled text between two plain ones. -/
theorem Spelled.between {c : String} (hb : Spelled known b) (ha : IsPlain a) (hc : IsPlain c) :
    Spelled known (a ++ b ++ c) := (ha.spelled.append hb).plain hc

theorem spelled_of_isWordy (h : IsWordy a) : Spelled known a := (isPlain_of_isWordy h).spelled

theorem spelled_placeholder {name : String} (hn : isName name.toList = true) (hk : name ∈ known) :
    Spelled known (placeholder name) := by
  have hs : (placeholder name).toList = '\x7b' :: ':' :: (name.toList ++ '\x7d' :: []) := by
    simp [placeholder]
  unfold Spelled
  rw [hs]
  exact .name hn (by rwa [String.ofList_toList]) .nil

theorem spelled_intercalate (ha : Spelled known a) (h : ∀ s ∈ ss, Spelled known s) :
    Spelled known (String.intercalate a ss) :=
  intercalate_of_append (IsPlain.spelled (by decide)) Spelled.append ha h

/-! ### Quoted texts -/

theorem spelled_enclosed {mark : Char} (hm : mark ≠ '\x7b') (h : IsPlain a) :
    Spelled known (enclosed mark a) :=
  IsPlain.spelled fun hc => (mem_enclosed hc).elim (fun he => hm he.symm) h

theorem spelled_quote (h : IsPlain a) : Spelled known (quote a) := spelled_enclosed (by decide) h

theorem spelled_literal (h : IsPlain a) : Spelled known (literal a) :=
  spelled_enclosed (by decide) h

theorem spelled_quoteColumn (ha : IsWordy a) (hb : IsWordy b) :
    Spelled known (quoteColumn a b) :=
  ((spelled_quote (isPlain_of_isWordy ha)).plain (by decide)).append
    (spelled_quote (isPlain_of_isWordy hb))

/-! ## Properties of texts -/

/-- Words of SQL that open no placeholder and are none of a guard: only `EXISTS` has an X. -/
def IsOrdinary (s : String) : Prop :=
  '\x7b' ∉ s.toList ∧ 'X' ∉ s.toList ∧ s.toList.head? ≠ some 'E'

instance (s : String) : Decidable (IsOrdinary s) :=
  inferInstanceAs
    (Decidable ('\x7b' ∉ s.toList ∧ 'X' ∉ s.toList ∧ s.toList.head? ≠ some 'E'))

/-- A property that ordinary words have, and texts put together from texts that have it. -/
structure IsTextual (P : String → Prop) : Prop where
  ordinary {s : String} (h : IsOrdinary s) : P s
  append {a b : String} (ha : P a) (hb : P b) : P (a ++ b)

section Textual

variable {P : String → Prop}

theorem IsTextual.words (hP : IsTextual P) (ha : P a) (hb : IsOrdinary b) : P (a ++ b) :=
  hP.append ha (hP.ordinary hb)

/-- A text that has the property between ordinary words. -/
theorem IsTextual.between {c : String} (hP : IsTextual P) (hb : P b) (ha : IsOrdinary a)
    (hc : IsOrdinary c) : P (a ++ b ++ c) :=
  hP.words (hP.append (hP.ordinary ha) hb) hc

end Textual

theorem isTextual_spelled (known : List String) : IsTextual (Spelled known) where
  ordinary h := IsPlain.spelled h.1
  append := Spelled.append

/-! ## Joins and conditions -/

/-- Parameters of an expression are known, and its columns have names of word characters. -/
def Expr.IsSpelled (known : List String) : Expr → Prop
  | column table name => IsWordy table ∧ IsWordy name
  | param name => isName name.toList = true ∧ name ∈ known
  | extract e steps => e.IsSpelled known ∧ IsPlain steps
  | lower e | itemCount e | coalesced e => e.IsSpelled known
  | null | bool _ | numeral _ | emptyText => True

theorem isPlain_jsonPath {steps : String} (h : IsPlain steps) : IsPlain (jsonPath steps) := by
  unfold jsonPath
  split
  · decide
  · exact IsPlain.append (by decide) h
  · exact IsPlain.append (by decide) h

theorem spelled_jsonEach (h : Spelled known a) : Spelled known (jsonEach a) :=
  h.between (by decide) (by decide)

theorem Expr.spelled_text {e : Expr} (h : e.IsSpelled known) : Spelled known e.text := by
  induction e with
  | column table name => exact spelled_quoteColumn h.1 h.2
  | param name => exact spelled_placeholder h.1 h.2
  | null | emptyText => exact IsPlain.spelled (by decide)
  | bool b => cases b <;> exact IsPlain.spelled (by decide)
  | numeral n => exact spelled_of_isWordy (Text.isWordy_toDigits n)
  | lower e ih | coalesced e ih =>
    rw [text]
    exact (ih h).between (by decide) (by decide)
  | itemCount e ih =>
    show Spelled known ("pb_json_array_length(" ++ e.text ++ ")")
    exact (ih h).between (by decide) (by decide)
  | extract e steps ih =>
    have hs : Spelled known (literal (jsonPath steps)) := spelled_literal (isPlain_jsonPath h.2)
    show Spelled known
      ("pb_json_extract(" ++ e.text ++ ", " ++ literal (jsonPath steps) ++ ")")
    exact (((ih h.1).between (by decide) (by decide)).append hs).plain (by decide)

def Source.IsSpelled (known : List String) : Source → Prop
  | table name => IsWordy name
  | items array => array.IsSpelled known
  | verbatim text => Spelled known text

def On.IsSpelled (known : List String) : On → Prop
  | always => True
  | equal left right => left.IsSpelled known ∧ right.IsSpelled known
  | among value list => value.IsSpelled known ∧ ∀ e ∈ list, e.IsSpelled known
  | itemOf value inner array =>
    value.IsSpelled known ∧ IsWordy inner ∧ array.IsSpelled known
  | verbatim text => Spelled known text

structure Join.IsSpelled (known : List String) (j : Join) : Prop where
  source : j.source.IsSpelled known
  name : IsWordy j.name
  on : j.on.IsSpelled known

theorem Source.spelled_text {s : Source} (h : s.IsSpelled known) : Spelled known s.text := by
  cases s with
  | table name => exact spelled_quote (isPlain_of_isWordy h)
  | items array => exact spelled_jsonEach (Expr.spelled_text h)
  | verbatim text => exact h

theorem On.spelled_text {on : On} (h : on.IsSpelled known) :
    Spelled known (on.text?.getD "TRUE") := by
  cases on with
  | always => exact IsPlain.spelled (by decide)
  | equal left right =>
    exact ((Expr.spelled_text h.1).plain (by decide)).append (Expr.spelled_text h.2)
  | among value list =>
    have hl : Spelled known (commas (list.map Expr.text)) := by
      refine spelled_intercalate (IsPlain.spelled (by decide)) ?_
      rw [List.forall_mem_map]
      exact fun e he => Expr.spelled_text (h.2 e he)
    exact (((Expr.spelled_text h.1).plain (by decide)).append hl).plain (by decide)
  | itemOf value inner array =>
    have hc : Spelled known (quoteColumn inner itemColumn) :=
      spelled_quoteColumn h.2.1 (by decide)
    have hi : Spelled known (quote inner) := spelled_quote (isPlain_of_isWordy h.2.1)
    have ha : Spelled known (jsonEach array.text) := spelled_jsonEach (Expr.spelled_text h.2.2)
    rw [text?, Option.getD_some]
    exact (((((((Expr.spelled_text h.1).plain (by decide)).append hc).plain (by decide)).append
      ha).plain (by decide)).append hi).plain (by decide)
  | verbatim text => exact h

theorem Join.IsSpelled.sql {j : Join} (h : j.IsSpelled known) : Spelled known j.sql := by
  have hs : Spelled known j.source.text := Source.spelled_text h.source
  have hn : Spelled known (quote j.name) := spelled_quote (isPlain_of_isWordy h.name)
  exact (((hs.between (by decide) (by decide)).append hn).plain (by decide)).append
    (On.spelled_text h.on)

theorem text_joins {P : String → Prop} (hP : IsTextual P) {js : List Join}
    (h : ∀ j ∈ js, P j.sql) : P (String.join (js.map fun j => " " ++ j.sql)) := by
  refine join_of_append (hP.ordinary (by decide)) hP.append ?_
  rw [List.forall_mem_map]
  exact fun j hj => hP.append (hP.ordinary (by decide)) (h j hj)

theorem Listing.spelled_text {l : Listing} (hv : Spelled known l.value.text)
    (ht : IsWordy l.table) (ha : IsWordy l.tableAlias) (hb : IsWordy l.baseAlias)
    (hj : ∀ j ∈ l.joins, Spelled known j.sql) : Spelled known l.text := by
  have hq {a : String} (ha : IsWordy a) : Spelled known (quote a) :=
    spelled_quote (isPlain_of_isWordy ha)
  have hk {a : String} (ha : IsWordy a) : Spelled known (quoteColumn a keyColumn) :=
    spelled_quoteColumn ha (by decide)
  have hs : Spelled known ("SELECT " ++ l.value.text ++ " AS " ++ quote valueColumn) :=
    (hv.between (by decide) (by decide)).append (hq (by decide))
  have hf : Spelled known ("SELECT " ++ l.value.text ++ " AS " ++ quote valueColumn ++ " FROM " ++
      quote l.table ++ " " ++ quote l.tableAlias) :=
    ((((hs.plain (by decide)).append (hq ht)).plain (by decide)).append (hq ha))
  have hjoins := hf.append (text_joins (isTextual_spelled known) hj)
  exact (((hjoins.plain (by decide)).append (hk ha)).plain (by decide)).append (hk hb)

/-- The expressions that a test compares. -/
def Test.operands : Test → List Expr
  | relates left _ right | matchesPattern _ left right | containsText _ left right =>
    [left, right]
  | blankRight v | blankLeft v | filledRight v | filledLeft v => [v]

section Textual

variable {P : String → Prop} (hP : IsTextual P)
include hP

/-- A test has a property of texts if its operands do. -/
theorem Test.text_of_operands {t : Test} (h : ∀ e ∈ t.operands, P e.text) : P t.text := by
  have like (negated : Bool) : P (likeWord negated) := by
    cases negated <;> exact hP.ordinary (by decide)
  cases t with
  | relates left relation right =>
    have hr : P relation.text := by
      cases relation <;> exact hP.ordinary (by decide)
    simp only [operands, List.forall_mem_cons] at h
    exact hP.append (hP.words (hP.append (hP.words h.1 (by decide)) hr) (by decide)) h.2.1
  | blankRight v | filledRight v =>
    have hv : P v.text := h v List.mem_cons_self
    exact hP.words (hP.append (hP.between hv (by decide) (by decide)) hv) (by decide)
  | blankLeft v | filledLeft v =>
    have hv : P v.text := h v List.mem_cons_self
    exact hP.words (hP.append (hP.between hv (by decide) (by decide)) hv) (by decide)
  | matchesPattern negated left pattern =>
    simp only [operands, List.forall_mem_cons] at h
    have hl : P (left.text ++ "::text" ++ likeWord negated) :=
      hP.append (hP.words h.1 (by decide)) (like negated)
    exact hP.words (hP.append hl h.2.1) (by decide)
  | containsText negated left right =>
    simp only [operands, List.forall_mem_cons] at h
    have hl : P (left.text ++ "::text" ++ likeWord negated) :=
      hP.append (hP.words h.1 (by decide)) (like negated)
    exact hP.words (hP.append (hP.words hl (by decide)) h.2.1) (by decide)

theorem Expr.text_coalesced {e : Expr} (h : P e.text) : P (Expr.coalesced e).text := by
  rw [text]
  exact hP.between h (by decide) (by decide)

theorem Condition.text_visible {c : Condition} {table : String} (hc : P c.text)
    (ht : P (quoteColumn table emailVisibilityColumn)) : P (visible c table).text := by
  rw [text]
  exact hP.words (hP.append (hP.between hc (by decide) (by decide)) ht) (by decide)

end Textual

theorem Guard.spelled_one {listing : Listing} {name : String} {t : Test}
    (hl : Spelled known listing.text) (hn : IsWordy name) (ht : Spelled known t.text) :
    Spelled known (one listing name t).text := by
  have hq : Spelled known (quote name) := spelled_quote (isPlain_of_isWordy hn)
  unfold text
  exact ((((hl.between (by decide) (by decide)).append hq).plain (by decide)).append ht).plain
    (by decide)

theorem Guard.spelled_pairs {left right : Listing} {leftName rightName : String} {t : Test}
    (hl : Spelled known left.text) (hln : IsWordy leftName) (hr : Spelled known right.text)
    (hrn : IsWordy rightName) (ht : Spelled known t.text) :
    Spelled known (pairs left leftName right rightName t).text := by
  have hq {name : String} (hn : IsWordy name) : Spelled known (quote name) :=
    spelled_quote (isPlain_of_isWordy hn)
  unfold text
  exact ((((((((hl.between (by decide) (by decide)).append (hq hln)).plain (by decide)).append
    hr).plain (by decide)).append (hq hrn)).plain (by decide)).append ht).plain (by decide)

theorem Condition.texts_eq (cs : List Condition) : texts cs = cs.map text := by
  induction cs with
  | nil => rfl
  | cons c cs ih => rw [texts, ih, List.map_cons]

theorem Condition.spelled_guarded {t : Test} {guard : Guard} (ht : Spelled known t.text)
    (hg : Spelled known guard.text) : Spelled known (guarded t guard).text := by
  rw [text]
  exact ((ht.between (by decide) (by decide)).append hg).plain (by decide)

section Textual

variable {P : String → Prop} (hP : IsTextual P)
include hP

theorem text_intercalate (ha : IsOrdinary a) (h : ∀ s ∈ ss, P s) : P (String.intercalate a ss) :=
  intercalate_of_append (hP.ordinary (by decide)) hP.append (hP.ordinary ha) h

theorem Condition.text_group {cs : List Condition} {connective : Connective}
    (h : ∀ c ∈ cs, P c.text) : P (group connective cs).text := by
  rw [text, texts_eq]
  have hw : IsOrdinary (" " ++ connective.text ++ " ") := by cases connective <;> decide
  refine hP.between (text_intercalate hP hw ?_) (by decide) (by decide)
  rwa [List.forall_mem_map]

/-- The conditions of a query have a property of texts if each of them does. -/
theorem Select.text_whereText {q : Select} (hc : ∀ c ∈ q.conditions, P c.text) :
    P q.whereText := by
  unfold whereText
  split
  · exact hP.ordinary (by decide)
  · next c h => exact hP.append (hP.ordinary (by decide)) (hc c (h ▸ List.mem_cons_self))
  · refine hP.append (hP.ordinary (by decide)) (text_intercalate hP (by decide) ?_)
    rw [List.forall_mem_map]
    exact fun c hm => hP.between (hc c hm) (by decide) (by decide)

theorem Select.text_sql {q : Select} (ht : P (quote q.table)) (hj : ∀ j ∈ q.joins, P j.sql)
    (hc : ∀ c ∈ q.conditions, P c.text) : P q.sql := by
  have hd : IsOrdinary (if q.isDistinct then "DISTINCT " else "") := by split <;> decide
  have hs : P ("SELECT " ++ (if q.isDistinct then "DISTINCT " else "")) :=
    hP.words (hP.ordinary (by decide)) hd
  exact hP.append (hP.append (hP.append (hP.words (hP.append hs ht) (by decide)) ht)
    (text_joins hP hj)) (text_whereText hP hc)

end Textual

theorem Select.spelled_sql {q : Select} (ht : IsWordy q.table)
    (hj : ∀ j ∈ q.joins, Spelled known j.sql)
    (hc : ∀ c ∈ q.conditions, Spelled known c.text) : Spelled known q.sql :=
  text_sql (isTextual_spelled known) (spelled_quote (isPlain_of_isWordy ht)) hj hc

/-! ## Scanning -/

namespace Piece

/-- What scanning leaves of a spelled text: placeholders of known names and characters that are
not braces. -/
def Fits (known : List String) : Piece → Prop
  | char c => c ≠ '\x7b'
  | name n => String.ofList n ∈ known

variable {cs : List Char}

theorem scan_char {c : Char} (hc : c ≠ '\x7b') : scan (c :: cs) = char c :: scan cs := by
  have hn : nameAt (c :: cs) = none := by
    unfold nameAt
    split
    · next h => exact absurd (List.cons.inj h).1 hc
    · rfl
  simp [scan, scanAfter, hn]

/-- The characters that belong to the piece before are passed over. -/
theorem scanAfter_append (as bs : List Char) : scanAfter as.length (as ++ bs) = scan bs := by
  induction as with
  | nil => rfl
  | cons a as ih => exact ih

theorem scan_name {n : List Char} (hn : Text.isName n = true) :
    scan ('\x7b' :: ':' :: (n ++ '\x7d' :: cs)) = name n :: scan cs := by
  obtain ⟨hne, hw⟩ := Text.isName_iff.1 hn
  have hb : Text.isWord '\x7d' = false := by decide
  have ht : (n ++ '\x7d' :: cs).takeWhile Text.isWord = n := by
    rw [List.takeWhile_append_of_pos hw, List.takeWhile_cons, hb]
    simp
  have hd : (n ++ '\x7d' :: cs).dropWhile Text.isWord = '\x7d' :: cs := by
    rw [List.dropWhile_append_of_pos hw, List.dropWhile_cons, hb]
    simp
  have ha : nameAt ('\x7b' :: ':' :: (n ++ '\x7d' :: cs)) = some n := by
    simp [nameAt, ht, hd, hne]
  have hs := scanAfter_append (':' :: (n ++ ['\x7d'])) cs
  simp only [List.cons_append, List.append_assoc, List.nil_append, List.length_cons,
    List.length_append, List.length_nil] at hs
  rw [scan, scanAfter, ha]
  exact congrArg (name n :: ·) hs

/-- A spelled text is scanned into pieces that fit. -/
theorem fits_of_spells (h : Spells known cs) : ∀ p ∈ scan cs, p.Fits known := by
  induction h with
  | nil => rintro _ ⟨⟩
  | char hc _ ih =>
    rw [scan_char hc, List.forall_mem_cons]
    exact ⟨hc, ih⟩
  | name hn hk _ ih =>
    rw [scan_name hn, List.forall_mem_cons]
    exact ⟨hk, ih⟩

/-- A piece as it is written with numbered placeholders, counted from zero by `index`. -/
def numberedText (index : List Char → Nat) : Piece → List Char
  | char c => [c]
  | name n => '$' :: Nat.toDigits 10 (index n + 1)

/-- The names in the placeholders, in the order of the text. -/
def names : List Piece → List (List Char)
  | [] => []
  | char _ :: ps => names ps
  | name n :: ps => n :: names ps

/-- The names without a number yet, each once, in the order in which they first come up. -/
def fresh (numbered : List (List Char)) (ps : List Piece) : List (List Char) :=
  ((names ps).filter (· ∉ numbered)).eraseDups

section Fresh

variable {ps : List Piece} {n : List Char} {numbered : List (List Char)}

theorem mem_names : n ∈ names ps ↔ .name n ∈ ps := by
  induction ps with
  | nil => simp [names]
  | cons p ps ih => cases p <;> simp [names, ih]

@[simp] theorem fresh_char {c : Char} : fresh numbered (char c :: ps) = fresh numbered ps := rfl

theorem fresh_known (hn : n ∈ numbered) : fresh numbered (name n :: ps) = fresh numbered ps := by
  simp [fresh, names, hn]

theorem fresh_new (hn : n ∉ numbered) :
    fresh numbered (name n :: ps) = n :: fresh (numbered ++ [n]) ps := by
  have hf : ((names ps).filter (· ∉ numbered)).filter (fun k => !k == n) =
      (names ps).filter (· ∉ numbered ++ [n]) := by
    rw [List.filter_filter]
    refine List.filter_congr fun k _ => ?_
    rw [Bool.eq_iff_iff]
    simp [and_comm]
  rw [fresh, names, List.filter_cons_of_pos (by simpa using hn), List.eraseDups_cons, hf, fresh]

/-- Every name in the text has a number at the end. -/
theorem mem_append_fresh (h : .name n ∈ ps) : n ∈ numbered ++ fresh numbered ps := by
  rw [List.mem_append, fresh, List.mem_eraseDups, List.mem_filter, decide_eq_true_eq]
  by_cases hn : n ∈ numbered
  · exact .inl hn
  · exact .inr ⟨mem_names.2 h, hn⟩

end Fresh

end Piece

/-! ## Numbering -/

variable {α : Type} {value? : String → Option α}

/-- A text with numbers in the places of the placeholders: the value with the number of a
placeholder is the one under its name. -/
def Numbers (value? : String → Option α) (text out : String) (values : List α) : Prop :=
  ∃ index : List Char → Nat,
    out.toList = (Piece.scan text.toList).flatMap (Piece.numberedText index) ∧
      ∀ n, .name n ∈ Piece.scan text.toList →
        ∃ v, values[index n]? = some v ∧ value? (String.ofList n) = some v

/-- Numbering goes through up to the first name that has neither a number nor a value. The names
that come up are numbered in order after those that have a number already. -/
theorem number_eq (value? : String → Option α) (numbered : List (List Char)) (ps : List Piece) :
    number value? numbered ps =
      match (Piece.fresh numbered ps).find? fun n => (value? (String.ofList n)).isNone with
      | some n => .error (String.ofList n)
      | none =>
        .ok (ps.flatMap (Piece.numberedText ((numbered ++ Piece.fresh numbered ps).idxOf ·)),
          (Piece.fresh numbered ps).filterMap fun n => value? (String.ofList n)) := by
  induction ps generalizing numbered with
  | nil => rfl
  | cons p ps ih =>
    cases p with
    | char c =>
      rw [number, ih, Piece.fresh_char]
      cases (Piece.fresh numbered ps).find? fun n => (value? (String.ofList n)).isNone <;> rfl
    | name n =>
      by_cases hn : n ∈ numbered
      · have hf : numbered.findIdx? (· == n) = some (numbered.idxOf n) :=
          List.findIdx?_eq_some_iff_findIdx_eq.2 ⟨List.idxOf_lt_length_of_mem hn, rfl⟩
        rw [number, hf, ih numbered, Piece.fresh_known hn]
        cases (Piece.fresh numbered ps).find? fun n => (value? (String.ofList n)).isNone with
        | some k => rfl
        | none => simp [Piece.numberedText, List.idxOf_append_of_mem hn]
      · have hf : numbered.findIdx? (· == n) = none := by
          rw [List.findIdx?_eq_none_iff]
          intro k hk
          exact beq_false_of_ne (fun he => hn (he ▸ hk))
        rw [number, hf, ih (numbered ++ [n]), Piece.fresh_new hn]
        cases hv : value? (String.ofList n) with
        | none => simp [hv]
        | some v =>
          simp only [List.find?_cons, hv, Option.isNone_some]
          cases (Piece.fresh (numbered ++ [n]) ps).find? fun n =>
              (value? (String.ofList n)).isNone with
          | some k => rfl
          | none => simp [Piece.numberedText, List.idxOf_append_of_notMem hn, hv]

/-- The values in the order of the numbers, when every name has one. -/
theorem map_some_filterMap {names : List (List Char)} {f : List Char → Option α}
    (h : ∀ n ∈ names, (f n).isSome) : (names.filterMap f).map some = names.map f := by
  induction names with
  | nil => rfl
  | cons n names ih =>
    rw [List.forall_mem_cons] at h
    obtain ⟨v, hv⟩ := Option.isSome_iff_exists.1 h.1
    rw [List.filterMap_cons_some hv, List.map_cons, List.map_cons, hv, ih h.2]

theorem brace_notMem_numberedText {index : List Char → Nat} {p : Piece} (hp : p.Fits known) :
    '\x7b' ∉ p.numberedText index := by
  cases p with
  | char c => simpa [Piece.numberedText] using Ne.symm hp
  | name n =>
    intro hc
    rcases List.mem_cons.1 hc with hc | hc
    · exact absurd hc (by decide)
    · exact absurd (Text.isWord_of_mem_toDigits hc) (by decide)

/-- A spelled text whose names have values has a form with numbers, and no brace is left in it. -/
theorem numbered_of_spelled {text : String} (h : Spelled known text)
    (hv : ∀ k ∈ known, (value? k).isSome) :
    ∃ out values, numbered value? text = .ok (out, values) ∧ Numbers value? text out values ∧
      IsPlain out := by
  have hfits := Piece.fits_of_spells h
  have hsome : ∀ n ∈ Piece.fresh [] (Piece.scan text.toList),
      (value? (String.ofList n)).isSome := by
    intro n hn
    rw [Piece.fresh, List.mem_eraseDups, List.mem_filter, Piece.mem_names] at hn
    exact hv _ (hfits _ hn.1)
  have hnone : ((Piece.fresh [] (Piece.scan text.toList)).find? fun n =>
      (value? (String.ofList n)).isNone) = none := by
    rw [List.find?_eq_none]
    intro n hn
    simpa [Option.isSome_iff_ne_none] using hsome n hn
  refine ⟨_, _, by rw [numbered, number_eq, hnone], ⟨_, String.toList_ofList, ?_⟩, ?_⟩
  · intro n hn
    have hm : n ∈ [] ++ Piece.fresh [] (Piece.scan text.toList) := Piece.mem_append_fresh hn
    have hi := List.getElem?_idxOf hm
    rw [List.nil_append] at hi ⊢
    have hx := congrArg (·[(Piece.fresh [] (Piece.scan text.toList)).idxOf n]?)
      (map_some_filterMap hsome)
    simp only [List.getElem?_map, hi, Option.map_some] at hx
    obtain ⟨v, hg, hx⟩ := Option.map_eq_some_iff.1 hx
    exact ⟨v, hg, hx.symm⟩
  · unfold IsPlain
    rw [String.toList_ofList, List.mem_flatMap]
    rintro ⟨p, hp, hc⟩
    exact brace_notMem_numberedText (hfits p hp) hc

/-- Only the values of known names matter. -/
theorem Numbers.congr {other? : String → Option α} {text out : String} {values : List α}
    (h : Numbers value? text out values) (ht : Spelled known text)
    (hv : ∀ k ∈ known, value? k = other? k) : Numbers other? text out values := by
  obtain ⟨index, ho, hi⟩ := h
  refine ⟨index, ho, fun n hn => ?_⟩
  obtain ⟨v, hx, hf⟩ := hi n hn
  exact ⟨v, hx, hv _ (Piece.fits_of_spells ht _ hn) ▸ hf⟩

end Sql

end RecordFilter
