import RecordFilter.Proofs.Comparisons
import RecordFilter.Proofs.Connectives
import RecordFilter.Proofs.Placeholders

/-!
# Formulas of filters

What a filter is built into is read as the formula that it stands for. Its groups are connectives
over their items, its comparisons are texts without connectives, and guards and shown emails are
conjunctions (`Sql.Condition.formula`). The text of a condition has no connective at depth zero, so
it means the same alone, in a group and beside the other conditions of a query
(`Filter.condition_read`).
-/

namespace RecordFilter

open Text (IsWordy)
open Sql (Expr Join Listing Test Guard Connective Condition Select Formula IsClosed IsSingle
  IsOperand AreWords)

namespace Sql

/-! ## What conditions mean -/

def Test.formula : Test → Formula
  | blankRight v => .any [.atom ("'' = " ++ v.text), .atom (v.text ++ " IS NULL")]
  | blankLeft v => .any [.atom (v.text ++ " = ''"), .atom (v.text ++ " IS NULL")]
  | filledRight v =>
    .all [.atom ("'' IS DISTINCT FROM " ++ v.text), .atom (v.text ++ " IS NOT NULL")]
  | filledLeft v =>
    .all [.atom (v.text ++ " IS DISTINCT FROM ''"), .atom (v.text ++ " IS NOT NULL")]
  | t => .atom t.text

namespace Condition

mutual

def formula : Condition → Formula
  | test t => t.formula
  | guarded t guard => .all [t.formula, .atom guard.text]
  | visible inner table =>
    .all [inner.formula, .atom (quoteColumn table emailVisibilityColumn ++ " = TRUE")]
  | group connective items => .join connective (formulas items)
  | verbatim text => .atom text

def formulas : List Condition → List Formula
  | [] => []
  | c :: cs => formula c :: formulas cs

end

end Condition

/-! ## Expressions -/

/-- Parameters are named by word characters. -/
def Expr.IsNamed (e : Expr) : Prop := ∀ name ∈ e.params, IsWordy name

theorem isFlat_of_isWordy {s : String} (h : IsWordy s) : IsFlat s.toList := by
  intro c hc hm
  simp only [List.mem_cons, List.not_mem_nil, or_false] at hm
  rcases hm with rfl | rfl | rfl | rfl <;> exact absurd (h _ hc) (by decide)

theorem isFlat_placeholder {name : String} (h : IsWordy name) :
    IsFlat (placeholder name).toList := by
  intro c hc
  simp only [placeholder, String.toList_append, List.mem_append] at hc
  rcases hc with (hc | hc) | hc
  · exact (by decide : IsFlat "\x7b:".toList) c hc
  · exact isFlat_of_isWordy h c hc
  · exact (by decide : IsFlat "\x7d".toList) c hc

theorem isClosed_placeholder {name : String} (h : IsWordy name) : IsClosed (placeholder name) :=
  ⟨_, (isFlat_placeholder h).reads⟩

theorem isSingle_of_chars {s : String} (hf : IsFlat s.toList)
    (h : ∀ c ∈ s.toList, c.toUpper ∉ ['A', 'N', 'O']) : IsSingle s := by
  refine AreWords.single ⟨hf, isFree_of_notMem fun c hc => ?_⟩
  rw [outline, List.map_map] at hc
  obtain ⟨d, hd, rfl⟩ := List.mem_map.1 hc
  exact h d hd

theorem toUpper_of_isDigit {c : Char} (h : c.isDigit = true) : c.toUpper = c := by
  unfold Char.toUpper
  rw [dif_neg]
  rintro ⟨hl, -⟩
  simp only [Char.isDigit, Bool.and_eq_true, decide_eq_true_eq] at h
  exact absurd (UInt32.le_trans hl h.2) (by decide)

theorem not_letter_of_mem_toDigits {n : Nat} {c : Char} (h : c ∈ Nat.toDigits 10 n) :
    c.toUpper ∉ ['A', 'N', 'O'] := by
  have hd := Nat.isDigit_of_mem_toDigits (by decide) (by decide) h
  rw [toUpper_of_isDigit hd]
  intro hm
  simp only [List.mem_cons, List.not_mem_nil, or_false] at hm
  rcases hm with rfl | rfl | rfl <;> exact absurd hd (by decide)

theorem isSingle_toDigits (n : Nat) : IsSingle (String.ofList (Nat.toDigits 10 n)) := by
  refine isSingle_of_chars (isFlat_of_isWordy (Text.isWordy_toDigits n)) fun c hc => ?_
  rw [String.toList_ofList] at hc
  exact not_letter_of_mem_toDigits hc

/-- A generated parameter has one letter, and no connective has it. -/
theorem isSingle_generated (n : Nat) : IsSingle (placeholder (Params.generated n)) := by
  have hw : IsWordy (Params.generated n) := (Text.isName_iff.1 (Resolver.isName_generated n)).2
  have noLetter {s : String} (h : s.toList.all (decide <| ·.toUpper ∉ ['A', 'N', 'O']) = true)
      {c : Char} (hc : c ∈ s.toList) : c.toUpper ∉ ['A', 'N', 'O'] :=
    of_decide_eq_true (List.all_eq_true.1 h c hc)
  refine isSingle_of_chars (isFlat_placeholder hw) fun c hc => ?_
  simp only [placeholder, Params.generated, String.toList_append, String.toList_ofList,
    List.mem_append, List.mem_cons] at hc
  rcases hc with (hc | rfl | hc) | hc
  · exact noLetter (by decide) hc
  · decide
  · exact not_letter_of_mem_toDigits hc
  · exact noLetter (by decide) hc

theorem isClosed_comma : IsClosed ", " := (AreWords.single (by decide)).closed

theorem Expr.isSingle_coalesced {e : Expr} (h : IsClosed e.text) :
    IsSingle (coalesced e).text := by
  have inner := (h.append isClosed_comma).append (isSingle_literal "").closed
  have call := inner.call (by decide : AreWords "COALESCE") rfl
  have hend : ", '')" = ", " ++ (literal "" ++ ")") := rfl
  simp only [String.append_assoc] at call
  simp only [text, hend, String.append_assoc]
  exact call

/-- The expressions besides parameters have no connective at depth zero. -/
theorem Expr.single_or_param {e : Expr} (h : e.IsNamed) :
    IsSingle e.text ∨ ∃ name, e = .param name := by
  have closed {e : Expr} (hn : e.IsNamed) (h : IsSingle e.text ∨ ∃ name, e = .param name) :
      IsClosed e.text := by
    rcases h with h | ⟨name, rfl⟩
    · exact h.closed
    · exact isClosed_placeholder (hn name List.mem_cons_self)
  induction e with
  | column table name => exact .inl (isSingle_quoteColumn table name)
  | param name => exact .inr ⟨name, rfl⟩
  | null => exact .inl (AreWords.single (by decide))
  | bool b => cases b <;> exact .inl (AreWords.single (by decide))
  | numeral n => exact .inl (isSingle_toDigits n)
  | emptyText => exact .inl (isSingle_literal "")
  | lower e ih => exact .inl ((closed (e := e) h (ih h)).call (by decide : AreWords "LOWER") rfl)
  | itemCount e ih =>
    exact .inl ((closed (e := e) h (ih h)).call (by decide : AreWords "pb_json_array_length") rfl)
  | extract e steps ih =>
    have inner := ((closed (e := e) h (ih h)).append isClosed_comma).append
      (isSingle_literal (jsonPath steps)).closed
    have call := inner.call (by decide : AreWords "pb_json_extract") rfl
    rw [← String.append_assoc, ← String.append_assoc] at call
    exact .inl call
  | coalesced e ih => exact .inl (isSingle_coalesced (closed (e := e) h (ih h)))

theorem Expr.isClosed_text {e : Expr} (h : e.IsNamed) : IsClosed e.text := by
  rcases single_or_param h with h | ⟨name, rfl⟩
  · exact h.closed
  · exact isClosed_placeholder (h name List.mem_cons_self)

/-- An expression without parameters has no connective at depth zero. -/
theorem Expr.isSingle_text {e : Expr} (h : e.params = []) : IsSingle e.text := by
  have hn : e.IsNamed := by
    rw [IsNamed, h]
    exact List.forall_mem_nil _
  rcases single_or_param hn with h | ⟨name, rfl⟩
  · exact h
  · cases h

/-! ## Joins and listings -/

def Source.IsNamed : Source → Prop
  | table _ => True
  | items array => array.IsNamed
  | verbatim _ => False

def On.IsNamed : On → Prop
  | always => True
  | equal left right => left.IsNamed ∧ right.IsNamed
  | among value list => value.IsNamed ∧ ∀ e ∈ list, e.IsNamed
  | itemOf value _ array => value.IsNamed ∧ array.IsNamed
  | verbatim _ => False

structure Join.IsNamed (j : Join) : Prop where
  source : j.source.IsNamed
  on : j.on.IsNamed

theorem isClosed_jsonEach {s : String} (h : IsClosed s) : IsClosed (jsonEach s) :=
  (h.call (by decide : AreWords "pb_json_each") rfl).closed

theorem Source.isClosed_text {s : Source} (h : s.IsNamed) : IsClosed s.text := by
  cases s with
  | table name => exact (isSingle_quote name).closed
  | items array => exact isClosed_jsonEach (Expr.isClosed_text h)
  | verbatim => exact h.elim

theorem isClosed_words {s : String} (h : AreWords s) : IsClosed s := h.single.closed

theorem isClosed_empty : IsClosed "" := isClosed_words (by decide)

theorem isSingle_empty : IsSingle "" := AreWords.single (by decide)

theorem On.isClosed_text {on : On} (h : on.IsNamed) : IsClosed (on.text?.getD "TRUE") := by
  cases on with
  | always => exact isClosed_words (by decide)
  | equal left right =>
    exact ((Expr.isClosed_text h.1).append (isClosed_words (by decide))).append
      (Expr.isClosed_text h.2)
  | among value list =>
    have hl : IsClosed (commas (list.map Expr.text)) :=
      intercalate_of_append isClosed_empty IsClosed.append (isClosed_words (by decide))
        (List.forall_mem_map.2 fun e he => Expr.isClosed_text (h.2 e he))
    have hg := (Expr.isClosed_text h.1).append (hl.call (by decide : AreWords " IN ") rfl).closed
    rwa [← String.append_assoc, ← String.append_assoc] at hg
  | itemOf value inner array =>
    have hs := ((((isClosed_words (by decide : AreWords "SELECT ")).append
      (isSingle_quoteColumn inner itemColumn).closed).append
      (isClosed_words (by decide : AreWords " FROM "))).append
      (isClosed_jsonEach (Expr.isClosed_text h.2))).append
      ((isClosed_words (by decide : AreWords " ")).append (isSingle_quote inner).closed)
    have hg := (Expr.isClosed_text h.1).append (hs.call (by decide : AreWords " IN ") rfl).closed
    have hstart : " IN (SELECT " = " IN (" ++ "SELECT " := rfl
    simp only [String.append_assoc] at hg
    simp only [text?, Option.getD_some, hstart, String.append_assoc]
    exact hg
  | verbatim => exact h.elim

theorem Join.IsNamed.sql {j : Join} (h : j.IsNamed) : IsClosed j.sql :=
  (((((isClosed_words (by decide : AreWords "LEFT JOIN ")).append
    (Source.isClosed_text h.source)).append (isClosed_words (by decide : AreWords " "))).append
    (isSingle_quote j.name).closed).append (isClosed_words (by decide : AreWords " ON "))).append
    (On.isClosed_text h.on)

theorem Listing.isClosed_text {l : Listing} (hv : IsClosed l.value.text)
    (hj : ∀ j ∈ l.joins, j.IsNamed) : IsClosed l.text := by
  have words {s : String} (h : AreWords s) := isClosed_words h
  have joins : IsClosed (String.join (l.joins.map fun j => " " ++ j.sql)) :=
    join_of_append isClosed_empty IsClosed.append (List.forall_mem_map.2 fun j hm =>
      (words (by decide)).append (hj j hm).sql)
  have quoted (name : String) := (isSingle_quote name).closed
  have column (table name : String) := (isSingle_quoteColumn table name).closed
  unfold text
  exact ((((((((((((words (by decide)).append hv).append (words (by decide))).append
    (quoted _)).append (words (by decide))).append (quoted _)).append (words (by decide))).append
    (quoted _)).append joins).append (words (by decide))).append (column _ _)).append
    (words (by decide))).append (column _ _)

end Sql

/-! ## Values of paths -/

namespace Link

theorem isNamed_joins (l : Link) (parent : String) : ∀ j ∈ l.joins parent, j.IsNamed := by
  have column (table name : String) : (Expr.column table name).IsNamed := List.forall_mem_nil _
  have one {j : Join} (hs : j.source.IsNamed) (ho : j.on.IsNamed) : j.IsNamed := ⟨hs, ho⟩
  intro j hj
  cases l <;> simp only [joins, List.mem_cons, List.not_mem_nil, or_false] at hj
  · exact hj ▸ one trivial ⟨column _ _, column _ _⟩
  · rcases hj with rfl | rfl
    · exact one (column _ _) trivial
    · exact one trivial ⟨column _ _, column _ _⟩
  · exact hj ▸ one trivial ⟨column _ _, column _ _⟩
  · exact hj ▸ one trivial ⟨column _ _, column _ _⟩

theorem isNamed_joinsAlong (parent : String) (links : List Link) :
    ∀ j ∈ joinsAlong parent links, j.IsNamed := by
  induction links generalizing parent with
  | nil => rintro _ ⟨⟩
  | cons l links ih =>
    intro j hj
    rcases List.mem_append.1 hj with hj | hj
    · exact l.isNamed_joins parent j hj
    · exact ih _ j hj

end Link

theorem Root.isNamed_joinsAt (r : Root) (name : String) : ∀ j ∈ r.joinsAt name, j.IsNamed := by
  have column (table name : String) : (Expr.column table name).IsNamed := List.forall_mem_nil _
  have param {name : String} (h : Text.isName name.toList = true) : (Expr.param name).IsNamed :=
    List.forall_mem_singleton.2 (Text.isWordy_of_isName h)
  have first := r.isWordy_firstAlias
  intro j hj
  cases r with
  | base => cases hj
  | anyOf => exact List.mem_singleton.1 hj ▸ ⟨trivial, trivial⟩
  | auth c id =>
    exact List.mem_singleton.1 hj ▸ ⟨trivial, column _ _, param (isName_authParam first)⟩
  | submitted c key ids multiple =>
    have params : ∀ e ∈ ids.mapIdx fun i _ =>
        Expr.param (submittedParam (submitted c key ids multiple).firstAlias i), e.IsNamed := by
      intro e he
      obtain ⟨i, hi, rfl⟩ := List.mem_mapIdx.1 he
      exact param (isName_submittedParam first i)
    rw [List.mem_singleton.1 hj]
    refine ⟨trivial, ?_⟩
    show (idAmong _ _).IsNamed
    unfold idAmong
    split
    · next p hp => exact ⟨column _ _, params p (hp ▸ List.mem_singleton.2 rfl)⟩
    · exact ⟨column _ _, params⟩

/-- What a side resolves to: its value has no connective at depth zero, its listing is closed. -/
structure Resolution.IsSingle (res : Resolution) : Prop where
  value : Sql.IsSingle res.value.text
  listing : ∀ l, res.listing = some l → IsClosed l.text

theorem Resolution.isSingle_value {e : Expr} (h : Sql.IsSingle e.text) (params : List String) :
    Resolution.IsSingle { value := e, params } := ⟨h, by rintro _ ⟨⟩⟩

namespace Plan

variable {s : Scope} {path : String} {res : Resolution}

theorem Reading.params_value (how : Reading) (f : Field) (table : String) :
    (how.value f table).params = [] := by
  cases how with
  | column lower | document _ lower => cases lower <;> rfl
  | count | items => rfl

theorem Reading.isNamed_joins (how : Reading) (f : Field) (table : String) :
    ∀ j ∈ how.joins f table, j.IsNamed := by
  intro j hj
  cases how with
  | column | document | count => cases hj
  | items => exact List.mem_singleton.1 hj ▸ ⟨List.forall_mem_nil _, trivial⟩

theorem Reading.isSingle_resolution (how : Reading) (s : Scope) (r : Route) (f : Field)
    (visibleIn : Option String) : (how.resolution s r f visibleIn).IsSingle := by
  have value (table : String) : Sql.IsSingle (how.value f table).text :=
    Expr.isSingle_text (how.params_value f table)
  refine ⟨value _, fun l hl => ?_⟩
  simp only [resolution, finish] at hl
  split at hl
  · cases hl
    refine Listing.isClosed_text (value _).closed fun j hj => ?_
    rcases List.mem_append.1 hj with hj | hj
    · rcases List.mem_append.1 hj with hj | hj
      · exact r.root.isNamed_joinsAt _ j hj
      · exact Link.isNamed_joinsAlong _ _ j hj
    · exact how.isNamed_joins f _ j hj
  · cases hl

theorem isSingle_ofPath (ho : (ofPath s path).outcome = .ok (.fixed res)) : res.IsSingle := by
  have hk := kind_ofPath s path
  generalize ofPath s path = p at hk ho
  cases hk with
  | fail | bound => cases ho
  | @constant v hv =>
    cases ho
    have hp : v.params = [] := by cases hv <;> rfl
    exact Resolution.isSingle_value (Expr.isSingle_text hp) []
  | @below root rest h =>
    obtain ⟨r, rest', -, -, he⟩ := ends_below s path root rest
    generalize below s path root rest = p at he ho
    cases he with
    | fails e => cases ho
    | nothing => cases ho; exact Resolution.isSingle_value (Expr.isSingle_text rfl) []
    | reads how visibleIn => cases ho; exact how.isSingle_resolution s r _ visibleIn
  | @items request key f =>
    cases ho
    have hp : Text.IsWordy (itemsParam (Root.itemsName key)) := by
      simp only [itemsParam, Text.isWordy_append]
      exact ⟨Root.isWordy_itemsName key, by decide⟩
    refine ⟨Expr.isSingle_text rfl, fun l hl => ?_⟩
    simp only at hl
    split at hl
    · cases hl
      refine Listing.isClosed_text (Expr.isSingle_text rfl).closed fun j hj => ?_
      exact List.mem_singleton.1 hj ▸ ⟨List.forall_mem_singleton.2 hp, trivial⟩
    · cases hl

end Plan

namespace Resolver

variable {r : Resolver} {path : String} {res : Resolution}

theorem isSingle_boundResolution (n : Nat) (lower : Bool) :
    (boundResolution (Sql.Params.generated n) lower).IsSingle := by
  have hw : IsWordy (Sql.Params.generated n) := Text.isWordy_of_isName (isName_generated n)
  have hn : (Expr.lower (.param (Sql.Params.generated n))).IsNamed :=
    List.forall_mem_singleton.2 hw
  cases lower with
  | false => exact Resolution.isSingle_value (e := .param _) (Sql.isSingle_generated n) _
  | true =>
    refine Resolution.isSingle_value ((Expr.single_or_param hn).resolve_right ?_) _
    rintro ⟨name, h⟩
    cases h

theorem isSingle_of_resolve (h : (r.resolve path).1 = .ok res) : res.IsSingle := by
  rcases resolve_outcomes r path with ⟨e, ps, he, -⟩ | ⟨joins, res', -, ho, he⟩ |
    ⟨joins, v, lower, -, -, he⟩
  · rw [he] at h; cases h
  · rw [he] at h
    cases h
    exact Plan.isSingle_ofPath ho
  · rw [he] at h
    cases h
    exact isSingle_boundResolution _ lower

end Resolver

/-! ## Tests and guards -/

namespace Sql

theorem isSingle_blank : IsSingle "''" := isSingle_literal ""

/-- The pattern of a text comparison. -/
theorem isOperand_like {left pattern whole : String} (negated : Bool) (hl : IsSingle left)
    (hp : IsSingle pattern)
    (he : whole = left ++ "::text" ++ Test.likeWord negated ++ (pattern ++ " ESCAPE '\\'")) :
    IsOperand whole (.atom whole) := by
  have hw : AreWords (Test.likeWord negated) := by cases negated <;> decide
  have hb : ' ' ∈ (Test.likeWord negated).toList := by cases negated <;> decide
  have cast : IsSingle "::text" := AreWords.single (by decide)
  have escape : IsSingle " ESCAPE '\\'" := by
    have h := (AreWords.single (by decide : AreWords " ESCAPE ")).append (isSingle_literal "\\")
    exact h
  exact isOperand_atom (hl.append cast) hw hb (hp.append escape) he

/-- An expression beside the empty text, or before words. -/
theorem isOperand_blank {v words : String} (hv : IsSingle v) (hw : AreWords words)
    (hb : ' ' ∈ words.toList) :
    IsOperand ("''" ++ words ++ v) (.atom ("''" ++ words ++ v)) ∧
      IsOperand (v ++ words ++ "''") (.atom (v ++ words ++ "''")) ∧
      IsOperand (v ++ words) (.atom (v ++ words)) :=
  ⟨isOperand_atom isSingle_blank hw hb hv rfl, isOperand_atom hv hw hb isSingle_blank rfl,
    isOperand_atom hv hw hb isSingle_empty (String.append_empty).symm⟩

theorem Test.isOperand_text {t : Test} (h : ∀ e ∈ t.operands, IsSingle e.text) :
    IsOperand t.text t.formula := by
  have operands {left right : Expr} (h : ∀ e ∈ [left, right], IsSingle e.text) :
      IsSingle left.text ∧ IsSingle right.text := by
    rwa [List.forall_mem_cons, List.forall_mem_singleton] at h
  cases t with
  | relates left relation right =>
    obtain ⟨hl, hr⟩ := operands h
    have blank : AreWords " " := by decide
    have sign : AreWords relation.text := by cases relation <;> decide
    have hb : ' ' ∈ (" " ++ relation.text ++ " ").toList := by simp
    have ht : left.text ++ " " ++ relation.text ++ " " ++ right.text =
        left.text ++ (" " ++ relation.text ++ " ") ++ right.text := by
      simp only [String.append_assoc]
    exact isOperand_atom hl ((blank.append sign).append blank) hb hr ht
  | blankRight v =>
    have hv : IsSingle v.text := h v List.mem_cons_self
    have equal := (isOperand_blank hv (by decide : AreWords " = ") (by decide)).1
    have null := (isOperand_blank hv (by decide : AreWords " IS NULL") (by decide)).2.2
    have hs : "''" ++ " = " = "'' = " := rfl
    rw [hs] at equal
    refine equal.pair .or null (String.toList_injective ?_)
    show ("('' = " ++ v.text ++ " OR " ++ v.text ++ " IS NULL)").toList = _
    simp [Connective.text]
  | blankLeft v =>
    have hv : IsSingle v.text := h v List.mem_cons_self
    have equal := (isOperand_blank hv (by decide : AreWords " = ") (by decide)).2.1
    have null := (isOperand_blank hv (by decide : AreWords " IS NULL") (by decide)).2.2
    have hs : " = " ++ "''" = " = ''" := rfl
    rw [String.append_assoc, hs] at equal
    refine equal.pair .or null (String.toList_injective ?_)
    show ("(" ++ v.text ++ " = '' OR " ++ v.text ++ " IS NULL)").toList = _
    simp [Connective.text]
  | filledRight v =>
    have hv : IsSingle v.text := h v List.mem_cons_self
    have distinct := (isOperand_blank hv (by decide : AreWords " IS DISTINCT FROM ") (by decide)).1
    have null := (isOperand_blank hv (by decide : AreWords " IS NOT NULL") (by decide)).2.2
    have hs : "''" ++ " IS DISTINCT FROM " = "'' IS DISTINCT FROM " := rfl
    rw [hs] at distinct
    refine distinct.pair .and null (String.toList_injective ?_)
    show ("('' IS DISTINCT FROM " ++ v.text ++ " AND " ++ v.text ++ " IS NOT NULL)").toList = _
    simp [Connective.text]
  | filledLeft v =>
    have hv : IsSingle v.text := h v List.mem_cons_self
    have distinct :=
      (isOperand_blank hv (by decide : AreWords " IS DISTINCT FROM ") (by decide)).2.1
    have null := (isOperand_blank hv (by decide : AreWords " IS NOT NULL") (by decide)).2.2
    have hs : " IS DISTINCT FROM " ++ "''" = " IS DISTINCT FROM ''" := rfl
    rw [String.append_assoc, hs] at distinct
    refine distinct.pair .and null (String.toList_injective ?_)
    show ("(" ++ v.text ++ " IS DISTINCT FROM '' AND " ++ v.text ++ " IS NOT NULL)").toList = _
    simp [Connective.text]
  | matchesPattern negated left pattern =>
    obtain ⟨hl, hr⟩ := operands h
    have ht : left.text ++ "::text" ++ likeWord negated ++ pattern.text ++ " ESCAPE '\\'" =
        left.text ++ "::text" ++ likeWord negated ++ (pattern.text ++ " ESCAPE '\\'") := by
      simp only [String.append_assoc]
    exact isOperand_like negated hl hr ht
  | containsText negated left right =>
    obtain ⟨hl, hr⟩ := operands h
    have percent : IsClosed "'%'" := (isSingle_literal "%").closed
    have bars : IsClosed " || " := isClosed_words (by decide)
    have inner := ((((percent.append bars).append hr.closed).append bars).append percent).group
    refine isOperand_like negated hl inner (String.toList_injective ?_)
    show (left.text ++ "::text" ++ likeWord negated ++ "('%' || " ++ right.text ++
      " || '%') ESCAPE '\\'").toList = _
    simp

/-- What a guard lists and the test that it makes of it are closed. -/
def Guard.IsClosed (guard : Guard) : Prop :=
  (∀ l ∈ guard.listings.map Prod.fst, Sql.IsClosed l.text) ∧ Sql.IsClosed guard.test.text

theorem Guard.isOperand_text {guard : Guard} (h : guard.IsClosed) :
    IsOperand guard.text (.atom guard.text) := by
  obtain ⟨hl, ht⟩ := h
  have words {s : String} (h : AreWords s) := isClosed_words h
  have quoted (name : String) := (isSingle_quote name).closed
  -- what stands between the parentheses after the words
  have guarded {inner whole : String} (hi : Sql.IsClosed inner)
      (he : whole = "NOT" ++ " EXISTS " ++ ("(" ++ inner ++ ")")) :
      IsOperand whole (.atom whole) :=
    isOperand_atom (AreWords.single (by decide : AreWords "NOT"))
      (by decide : AreWords " EXISTS ") (by decide) hi.group he
  cases guard with
  | one listing name test =>
    have hlisting := hl listing List.mem_cons_self
    have inner := ((((words (by decide : AreWords "SELECT 1 FROM ")).append
      hlisting.group.closed).append (words (by decide : AreWords " "))).append (quoted name)).append
      ((words (by decide : AreWords " WHERE NOT ")).append ht.group.closed)
    refine guarded inner (String.toList_injective ?_)
    show ("NOT EXISTS (SELECT 1 FROM (" ++ listing.text ++ ") " ++ quote name ++ " WHERE NOT (" ++
      test.text ++ "))").toList = _
    simp [Guard.test]
  | pairs left leftName right rightName test =>
    have hleft := hl left List.mem_cons_self
    have hright := hl right (List.mem_cons_of_mem _ List.mem_cons_self)
    have first := (((words (by decide : AreWords "SELECT 1 FROM ")).append
      hleft.group.closed).append (words (by decide : AreWords " "))).append (quoted leftName)
    have second := (((first.append (words (by decide : AreWords " LEFT JOIN "))).append
      hright.group.closed).append (words (by decide : AreWords " "))).append (quoted rightName)
    have inner := second.append
      ((words (by decide : AreWords " ON TRUE WHERE NOT ")).append ht.group.closed)
    refine guarded inner (String.toList_injective ?_)
    show ("NOT EXISTS (SELECT 1 FROM (" ++ left.text ++ ") " ++ quote leftName ++ " LEFT JOIN (" ++
      right.text ++ ") " ++ quote rightName ++ " ON TRUE WHERE NOT (" ++ test.text ++ "))").toList =
      _
    simp [Guard.test]

/-! ## Conditions -/

/-- The text of a condition is one operand, with the formula of the condition. -/
def Condition.IsOperand (c : Condition) : Prop := Sql.IsOperand c.text c.formula

namespace Condition

theorem isOperand_test {t : Test} (h : Sql.IsOperand t.text t.formula) : (test t).IsOperand := by
  unfold IsOperand
  rwa [text, formula]

theorem isOperand_guarded {t : Test} {guard : Guard} (ht : Sql.IsOperand t.text t.formula)
    (hg : guard.IsClosed) : (guarded t guard).IsOperand := by
  unfold IsOperand
  rw [text, formula]
  refine (isOperand_group ht.read).pair .and (isOperand_group (Guard.isOperand_text hg).read) ?_
  refine String.toList_injective ?_
  simp [Connective.text]

theorem isOperand_visible {c : Condition} (hc : c.IsOperand) (table : String) :
    (visible c table).IsOperand := by
  have shown : Sql.IsOperand (quoteColumn table emailVisibilityColumn ++ " = TRUE")
      (.atom (quoteColumn table emailVisibilityColumn ++ " = TRUE")) :=
    (isOperand_blank (isSingle_quoteColumn table emailVisibilityColumn)
      (by decide : AreWords " = TRUE") (by decide)).2.2
  unfold IsOperand at hc ⊢
  rw [text, formula]
  refine (isOperand_group hc.read).pair .and (isOperand_group shown.read) ?_
  refine String.toList_injective ?_
  simp [requireVisible, Connective.text]

/-- A closed text without connectives at depth zero, which is read as the formula. -/
structure IsIndivisible (c : Condition) : Prop where
  apart : ∃ ts, tokens c.text = some ts ∧
    ∀ connective : Connective, ¬ connective.text.toList <:+: outline ts
  read : Formula.read c.text = some c.formula

theorem IsOperand.indivisible {c : Condition} (h : c.IsOperand) : c.IsIndivisible := by
  obtain ⟨ts, hr, hf, -⟩ := id h
  exact ⟨⟨ts, tokens_eq_some_iff.2 hr, hf.absent⟩, Sql.IsOperand.read h⟩

/-- The conditions of comparisons. -/
inductive IsComparison : Condition → Prop
  | test (t : Test) : IsComparison (.test t)
  | guarded (t : Test) (guard : Guard) : IsComparison (.guarded t guard)
  | visible {c : Condition} (h : IsComparison c) (table : String) : IsComparison (.visible c table)

theorem isOperand_items {cs : List Condition} (h : ∀ c ∈ cs, c.IsOperand) :
    List.Forall₂ Sql.IsOperand (texts cs) (formulas cs) := by
  induction cs with
  | nil =>
    rw [texts, formulas]
    exact .nil
  | cons c cs ih =>
    rw [List.forall_mem_cons] at h
    rw [texts, formulas]
    exact .cons h.1 (ih h.2)

theorem isOperand_items_group {connective : Connective} {cs : List Condition}
    (hl : 2 ≤ cs.length) (h : ∀ c ∈ cs, c.IsOperand) : (group connective cs).IsOperand := by
  unfold IsOperand
  rw [text, formula]
  refine isOperand_join connective ?_ (isOperand_items h)
  rwa [texts_eq, List.length_map]

end Condition

end Sql

/-! ## Building -/

namespace Filter

mutual

/-- A condition has the groups of a filter, and it and every item of them is indivisible. -/
def Renders : Filter → Condition → Prop
  | .comparison .., c => c.IsIndivisible ∧ c.IsComparison
  | .group connective items, c =>
    c.IsIndivisible ∧ ∃ cs, RendersAll items cs ∧ Builder.grouped connective cs = .ok c

def RendersAll : List Filter → List Condition → Prop
  | [], cs => cs = []
  | f :: fs, cs => ∃ c rest, cs = c :: rest ∧ Renders f c ∧ RendersAll fs rest

end

end Filter

section Comparisons

variable {left right : Resolution}

theorem isOperand_comparisonTest (hl : left.IsSingle) (hr : right.IsSingle) (op : Operator)
    (params : Sql.Params) :
    IsOperand (comparisonTest op left right params).text
      (comparisonTest op left right params).formula := by
  refine Test.isOperand_text fun e he => ?_
  have hm := operands_comparisonTest op left right params e he
  simp only [List.mem_cons, List.not_mem_nil, or_false] at hm
  rcases hm with rfl | rfl | rfl | rfl | rfl
  · exact hl.value
  · exact hr.value
  · exact Sql.isSingle_blank
  · exact Expr.isSingle_coalesced hl.value.closed
  · exact Expr.isSingle_coalesced hr.value.closed

/-- The sides inside a guard are listed columns or the sides themselves. -/
theorem Resolution.IsSingle.inside (h : left.IsSingle) (name : String) :
    (left.inside name).IsSingle := by
  unfold Resolution.inside
  split
  · exact ⟨Sql.isSingle_quoteColumn _ _, by rintro _ ⟨⟩⟩
  · exact ⟨h.value, by rintro _ ⟨⟩⟩

end Comparisons

namespace Builder

variable {b b₁ : Builder} {l r res : Resolution}

theorem isSingle_of_operand {o : Operand} (h : b.operand o = (.ok res, b₁)) : res.IsSingle := by
  cases o with
  | field path => exact Resolver.isSingle_of_resolve (resolve_of_operand h).1
  | text | number =>
    cases h
    exact Resolver.isSingle_boundResolution _ false
  | bool v =>
    cases h
    exact Resolution.isSingle_value (Expr.isSingle_text (e := .bool v) rfl) []
  | null =>
    cases h
    exact Resolution.isSingle_value (Expr.isSingle_text (e := .null) rfl) []

theorem isOperand_requireVisible {c : Condition} (hc : c.IsOperand)
    (tables : List (Option String)) : (requireVisible c tables).IsOperand := by
  induction tables generalizing c with
  | nil => exact hc
  | cons table tables ih =>
    cases table with
    | none => exact ih hc
    | some table => exact ih (Condition.isOperand_visible hc table)

/-- The condition of a comparison is an operand. -/
theorem isOperand_comparison (b : Builder) (hl : l.IsSingle) (c : Comparator) (hr : r.IsSingle) :
    (b.comparison l c r).1.IsOperand := by
  have ht := isOperand_comparisonTest hl hr c.operator b.resolver.params
  unfold comparison
  simp only
  refine isOperand_requireVisible ?_ _
  split
  · next insideLeft insideRight guardWith ha hg =>
    obtain ⟨leftName, rightName, rfl, rfl, hlist⟩ := guardOf_eq_some hg
    refine Condition.isOperand_guarded ht ⟨fun listing hlisting => ?_, ?_⟩
    · have side (o : Option Listing) (name : String) :
          (o.map (·, name)).toList.map Prod.fst = o.toList := by cases o <;> rfl
      rw [(hlist _).2, List.map_append, side, side, List.mem_append, Option.mem_toList,
        Option.mem_toList] at hlisting
      exact hlisting.elim (hl.listing listing) (hr.listing listing)
    · rw [(hlist _).1]
      exact (isOperand_comparisonTest (hl.inside _) (hr.inside _)
        _ _).single.closed
  · exact Condition.isOperand_test ht

theorem isComparison_requireVisible {c : Condition} (hc : c.IsComparison)
    (tables : List (Option String)) : (requireVisible c tables).IsComparison := by
  induction tables generalizing c with
  | nil => exact hc
  | cons table tables ih =>
    cases table with
    | none => exact ih hc
    | some table => exact ih (.visible hc table)

theorem isComparison_comparison (b : Builder) (l : Resolution) (c : Comparator) (r : Resolution) :
    (b.comparison l c r).1.IsComparison := by
  obtain ⟨inner, hshape, heq⟩ := comparison_shape b l c r
  rw [heq]
  refine isComparison_requireVisible ?_ _
  cases hshape with
  | plain => exact .test _
  | guarded guard => exact .guarded _ guard

theorem isOperand_grouped {connective : Connective} {cs : List Condition} {c : Condition}
    (h : grouped connective cs = .ok c) (hcs : ∀ k ∈ cs, k.IsOperand) : c.IsOperand := by
  rcases cs with _ | ⟨d, _ | ⟨e, cs⟩⟩ <;> cases h
  · exact hcs _ List.mem_cons_self
  · exact Condition.isOperand_items_group (by simp) hcs

mutual

/-- The condition of a filter is an operand, and so are its items. -/
theorem renders_build {b b' : Builder} {c : Condition} :
    (f : Filter) → b.build f = (.ok c, b') → f.Renders c ∧ c.IsOperand
  | .comparison left comparator right, h => by
    unfold build at h
    split at h
    · cases h
    · next l b₁ hl =>
      split at h
      · cases h
      · next r b₂ hr =>
        simp only [Prod.mk.injEq, Except.ok.injEq] at h
        obtain ⟨rfl, -⟩ := h
        have hc := isOperand_comparison b₂ (isSingle_of_operand hl) comparator
          (isSingle_of_operand hr)
        rw [Filter.Renders]
        exact ⟨⟨hc.indivisible, isComparison_comparison b₂ l comparator r⟩, hc⟩
  | .group connective items, h => by
    unfold build at h
    split at h
    · cases h
    · next cs b₁ hs =>
      obtain ⟨hg, -⟩ := Prod.mk.inj h
      obtain ⟨hr, hcs⟩ := renders_buildAll items hs
      have hc := isOperand_grouped hg hcs
      rw [Filter.Renders]
      exact ⟨⟨hc.indivisible, cs, hr, hg⟩, hc⟩

theorem renders_buildAll {b b' : Builder} {cs : List Condition} :
    (fs : List Filter) → b.buildAll fs = (.ok cs, b') →
      Filter.RendersAll fs cs ∧ ∀ c ∈ cs, c.IsOperand
  | [], h => by
    cases h
    rw [Filter.RendersAll]
    exact ⟨rfl, List.forall_mem_nil _⟩
  | f :: fs, h => by
    unfold buildAll at h
    split at h
    · cases h
    · next c b₁ hf =>
      split at h
      · cases h
      · next cs' b₂ hs =>
        cases h
        obtain ⟨hr, hc⟩ := renders_build f hf
        obtain ⟨hrs, hcs⟩ := renders_buildAll fs hs
        rw [Filter.RendersAll]
        exact ⟨⟨c, cs', rfl, hr, hrs⟩, List.forall_mem_cons.2 ⟨hc, hcs⟩⟩

end

end Builder

/-! ## Queries -/

/-- The conditions of a query are the parts of a conjunction. -/
theorem Sql.Select.read_whereText {q : Select} {φs : List Formula} (hn : q.conditions ≠ [])
    (h : List.Forall₂ (fun c φ => Formula.read c.text = some φ) q.conditions φs) :
    ∃ text, q.whereText = " WHERE " ++ text ∧ Formula.read text = some (.join .and φs) := by
  unfold whereText
  split
  · next he => exact absurd he hn
  · next c he =>
    rw [he] at h
    cases h with
    | cons hc hrest =>
      cases hrest
      exact ⟨c.text, rfl, hc⟩
  · next hne =>
    refine ⟨_, rfl, ?_⟩
    have operands : List.Forall₂ IsOperand (q.conditions.map fun c => "(" ++ c.text ++ ")") φs :=
      List.forall₂_map_left_iff.2 (h.imp fun c φ => Sql.isOperand_group)
    have hl : 2 ≤ (q.conditions.map fun c => "(" ++ c.text ++ ")").length := by
      rw [List.length_map]
      rcases hq : q.conditions with _ | ⟨c, _ | ⟨d, cs⟩⟩
      · exact absurd hq hn
      · exact absurd hq (hne c)
      · simp
    exact Sql.read_intercalate .and hl operands

namespace Filter

/-- The condition of a filter keeps its structure. It and every item of its groups is closed and
has no connective at depth zero, its text is read as its formula, and in a query it is one of the
conditions that must all hold, whatever the others are. -/
theorem condition_read (f : Filter) (r : Resolver) {c : Condition}
    (h : (f.condition r).1 = .ok c) :
    f.Renders c ∧ ∀ (q : Select) (before after : List Condition) (φs ψs : List Formula),
      q.conditions = before ++ c :: after →
      List.Forall₂ (fun c φ => Formula.read c.text = some φ) before φs →
      List.Forall₂ (fun c φ => Formula.read c.text = some φ) after ψs →
      ∃ text, q.whereText = " WHERE " ++ text ∧
        Formula.read text = some (.join .and (φs ++ c.formula :: ψs)) := by
  obtain ⟨hr, hc⟩ := Builder.renders_build f (Prod.ext h rfl : Builder.build { resolver := r } f =
    (.ok c, (Builder.build { resolver := r } f).2))
  refine ⟨hr, fun q before after φs ψs hq hb ha => ?_⟩
  have parts : List.Forall₂ (fun c φ => Formula.read c.text = some φ) q.conditions
      (φs ++ c.formula :: ψs) := hq ▸ List.rel_append hb (.cons hc.read ha)
  exact Select.read_whereText (by simp [hq]) parts

/-- The title is a draft, or it is a submitted tag and contains one. -/
def draftOrTagged : Filter := .group .or [titleIsDraft, .group .and [tagIsTitle, titleHasTag]]

/-- Beside a disjunction without parentheses the filter is one part of a conjunction. -/
theorem condition_read_drafts :
    ∃ c, (draftOrTagged.condition taggedResolver).1 = .ok c ∧ draftOrTagged.Renders c ∧
      ∃ text, Select.whereText
          { table := "posts", conditions := [.verbatim "TRUE OR FALSE", c] } = " WHERE " ++ text ∧
        Formula.read text = some (.all [.any [.atom "TRUE", .atom "FALSE"], c.formula]) := by
  have hok : (draftOrTagged.condition taggedResolver).1.isOk = true := by decide +kernel
  cases h : (draftOrTagged.condition taggedResolver).1 with
  | error e => rw [h] at hok; cases hok
  | ok c =>
    obtain ⟨renders, beside⟩ := condition_read draftOrTagged taggedResolver h
    have disjunction : Formula.read (Condition.verbatim "TRUE OR FALSE").text =
        some (.any [.atom "TRUE", .atom "FALSE"]) := by
      rw [Condition.text]
      rfl
    exact ⟨c, rfl, renders,
      beside _ [.verbatim "TRUE OR FALSE"] [] [_] [] rfl (.cons disjunction .nil) .nil⟩

end Filter

end RecordFilter
