import RecordFilter.Proofs.Comparisons
import RecordFilter.Proofs.Placeholders

/-!
# Guards in texts

A guard starts with the words `NOT EXISTS`, and nothing else in the text of a comparison has them:
names have no blanks, and the words between them are others (`Sql.Unmarked`). So the text itself
tells whether a comparison has a guard (`Builder.hasGuard_comparison_iff`).
-/

namespace RecordFilter

open Text (IsWordy isName)
open Sql (Expr Test Guard Condition)

namespace Sql

/-! ## Texts without the mark of a guard -/

/-- A blank and the first letters of `EXISTS`, which only guards have. -/
def guardMark : List Char := " EX".toList

/-- A text without the mark of a guard that does not begin with the rest of one either. -/
def Unmarked (s : String) : Prop :=
  ¬ guardMark <:+: s.toList ∧ ∀ c ∈ s.toList.head?, c ∉ guardMark.tail

variable {a b : String}

theorem Unmarked.append (ha : Unmarked a) (hb : Unmarked b) : Unmarked (a ++ b) := by
  unfold Unmarked
  rw [String.toList_append]
  constructor
  · rw [List.infix_append_iff]
    rintro (h | h | ⟨before, after, hm, hbefore, hafter⟩)
    · exact ha.1 h
    · exact hb.1 h
    · -- a mark across the two texts leaves its rest at the beginning of the second
      rcases before with _ | ⟨d, before⟩
      · exact hb.1 (hm ▸ hafter.isInfix)
      · rcases after with _ | ⟨e, after⟩
        · rw [List.append_nil] at hm
          exact ha.1 (hm ▸ hbefore.isInfix)
        · obtain ⟨rest, hrest⟩ := hafter
          refine hb.2 e ?_ ?_
          · rw [← hrest]; rfl
          · rw [hm]; simp
  · intro e he
    rw [List.head?_append] at he
    cases h : a.toList.head? with
    | none => rw [h, Option.none_or] at he; exact hb.2 e he
    | some d =>
      rw [h, Option.some_or] at he
      exact ha.2 e (h ▸ he)

theorem unmarked_of_notMem {e : Char} (he : e ∈ guardMark) (h : e ∉ a.toList)
    (hh : ∀ d ∈ a.toList.head?, d ∉ guardMark.tail) : Unmarked a :=
  ⟨fun hi => h (hi.subset he), hh⟩

theorem eq_of_mem_tail {d : Char} (h : d ∈ guardMark.tail) : d = 'E' ∨ d = 'X' := by
  simpa [guardMark] using h

theorem IsOrdinary.unmarked (h : IsOrdinary a) : Unmarked a := by
  obtain ⟨-, hx, he⟩ := h
  refine unmarked_of_notMem (by decide) hx fun d hd hm => ?_
  rcases eq_of_mem_tail hm with rfl | rfl
  · exact he hd
  · exact hx (List.mem_of_mem_head? hd)

theorem isTextual_unmarked : IsTextual Unmarked where
  ordinary := IsOrdinary.unmarked
  append := Unmarked.append

theorem blank_notMem_of_isWordy (h : IsWordy a) : ' ' ∉ a.toList := fun hm =>
  absurd (h ' ' hm) (by decide)

/-- A text without blanks between marks. -/
theorem unmarked_enclosed {mark : Char} (hb : mark ≠ ' ') (hm : mark ∉ guardMark.tail)
    (h : ' ' ∉ a.toList) : Unmarked (enclosed mark a) := by
  refine unmarked_of_notMem (by decide : ' ' ∈ guardMark) (fun hc => ?_) ?_
  · exact (mem_enclosed hc).elim (fun he => hb he.symm) h
  · rintro e he
    rw [enclosed, String.toList_ofList] at he
    cases he
    exact hm

theorem unmarked_quote (h : ' ' ∉ a.toList) : Unmarked (quote a) :=
  unmarked_enclosed (by decide) (by decide) h

theorem unmarked_literal (h : ' ' ∉ a.toList) : Unmarked (literal a) :=
  unmarked_enclosed (by decide) (by decide) h

theorem unmarked_quoteColumn (ha : IsWordy a) (hb : IsWordy b) : Unmarked (quoteColumn a b) :=
  (isTextual_unmarked.words (unmarked_quote (blank_notMem_of_isWordy ha)) (by decide)).append
    (unmarked_quote (blank_notMem_of_isWordy hb))

theorem unmarked_placeholder (h : IsWordy a) : Unmarked (placeholder a) := by
  refine unmarked_of_notMem (by decide : ' ' ∈ guardMark) (fun hc => ?_) ?_
  · simp only [placeholder, String.toList_append, List.mem_append] at hc
    rcases hc with (hc | hc) | hc
    · exact absurd hc (by decide)
    · exact blank_notMem_of_isWordy h hc
    · exact absurd hc (by decide)
  · simp [placeholder, guardMark]

/-! ### Expressions -/

/-- The steps along which an expression looks into documents. -/
def Expr.steps : Expr → List String
  | extract e steps => steps :: e.steps
  | lower e | itemCount e | coalesced e => e.steps
  | column _ _ | param _ | null | bool _ | numeral _ | emptyText => []

theorem unmarked_jsonPath (h : ' ' ∉ a.toList) : Unmarked (literal (jsonPath a)) := by
  refine unmarked_literal fun hc => ?_
  unfold jsonPath at hc
  split at hc
  · exact absurd hc (by decide)
  · rw [String.toList_append, List.mem_append] at hc
    exact hc.elim (by decide) h
  · rw [String.toList_append, List.mem_append] at hc
    exact hc.elim (by decide) h

theorem Expr.unmarked_text {e : Expr} (known : List String) (h : e.IsSpelled known)
    (hs : ∀ steps ∈ e.steps, ' ' ∉ steps.toList) : Unmarked e.text := by
  induction e with
  | column table name => exact unmarked_quoteColumn h.1 h.2
  | param name => exact unmarked_placeholder (Text.isWordy_of_isName h.1)
  | null | emptyText => exact IsOrdinary.unmarked (by decide)
  | bool b => cases b <;> exact IsOrdinary.unmarked (by decide)
  | numeral n =>
    refine unmarked_of_notMem (by decide : ' ' ∈ guardMark)
      (blank_notMem_of_isWordy (Text.isWordy_toDigits n)) fun d hd hm => ?_
    rw [text, String.toList_ofList] at hd
    have hdigit := Nat.isDigit_of_mem_toDigits (by decide) (by decide) (List.mem_of_mem_head? hd)
    rcases eq_of_mem_tail hm with rfl | rfl <;> exact absurd hdigit (by decide)
  | lower e ih =>
    rw [text]
    exact isTextual_unmarked.between (ih h hs) (by decide) (by decide)
  | coalesced e ih => exact text_coalesced isTextual_unmarked (ih h hs)
  | itemCount e ih =>
    show Unmarked ("pb_json_array_length(" ++ e.text ++ ")")
    exact isTextual_unmarked.between (ih h hs) (by decide) (by decide)
  | extract e steps ih =>
    rw [Expr.steps, List.forall_mem_cons] at hs
    have he : Unmarked ("pb_json_extract(" ++ e.text ++ ", ") :=
      isTextual_unmarked.between (ih h.1 hs.2) (by decide) (by decide)
    have hl : Unmarked (literal (jsonPath steps)) := unmarked_jsonPath hs.1
    show Unmarked ("pb_json_extract(" ++ e.text ++ ", " ++ literal (jsonPath steps) ++ ")")
    exact isTextual_unmarked.words (he.append hl) (by decide)

end Sql

open Sql (Unmarked)

/-! ## Values of paths -/

namespace Path

theorem blank_notMem_of_isWellFormed {path : String} (h : isWellFormed path = true) :
    ' ' ∉ path.toList := by
  intro hc
  rcases isPathText_of_isWellFormed h _ hc with hc | hc
  · exact absurd hc (by decide)
  · exact absurd hc (by decide)

end Path

namespace Plan

variable {s : Scope} {path : String} {res : Resolution}

theorem blank_notMem_jsonSteps {names : List String} (hn : ∀ n ∈ names, ' ' ∉ n.toList) :
    ' ' ∉ (jsonSteps names).toList := by
  intro hc
  rcases mem_jsonSteps hc with hc | ⟨n, hm, hc⟩
  · exact absurd hc (by decide)
  · exact hn n hm hc

theorem Reading.unmarked_value {how : Reading} {f : Field} {table : String} (hf : IsWordy f.name)
    (ht : IsWordy table) (hp : ∀ n ∈ how.names, Sql.IsPlain n)
    (hn : ∀ n ∈ how.names, ' ' ∉ n.toList) : Unmarked (how.value f table).text := by
  refine Expr.unmarked_text [] (Reading.isSpelled_value hf hp ht) ?_
  cases how with
  | column lower => cases lower <;> exact List.forall_mem_nil _
  | document names lower =>
    have hd : ∀ steps ∈ [jsonSteps names], ' ' ∉ steps.toList :=
      List.forall_mem_singleton.2 (blank_notMem_jsonSteps hn)
    cases lower <;> exact hd
  | count | items => exact List.forall_mem_nil _

/-- The value of a path has no mark of a guard. -/
theorem unmarked_ofPath (hs : s.IsWellNamed) (hp : Path.isWellFormed path = true)
    (ho : (ofPath s path).outcome = .ok (.fixed res)) : Unmarked res.value.text := by
  have hplain : ∀ n ∈ segmentsOf path, Sql.IsPlain n := fun n hn =>
    isPlain_of_mem_segmentsOf (Path.isPlain_of_isWellFormed hp) hn
  have hblank : ∀ n ∈ segmentsOf path, ' ' ∉ n.toList := fun n hn hc =>
    Path.blank_notMem_of_isWellFormed hp (mem_of_mem_segmentsOf hn hc)
  have hk := kind_ofPath s path
  generalize ofPath s path = p at hk ho
  generalize segmentsOf path = segments at hk hplain hblank
  cases hk with
  | fail | bound => cases ho
  | @constant v hv =>
    cases ho
    have hsteps : ∀ steps ∈ v.steps, ' ' ∉ steps.toList := by
      cases hv <;> exact List.forall_mem_nil _
    exact Expr.unmarked_text [] (isSpelled_of_isConstant hv) hsteps
  | @below root rest h =>
    obtain ⟨r, rest', hr, hsuffix, he⟩ := ends_below s path root rest
    obtain ⟨hc, -⟩ := isWellNamed_walked hs (isWellNamed_of_rootOf hs h) hr
    have hlast : IsWordy r.lastAlias := Link.isWordy_aliasAfter _ (Root.isWordy_firstAlias _)
    generalize below s path root rest = p at he ho
    cases he with
    | fails e => cases ho
    | nothing => cases ho; exact Sql.IsOrdinary.unmarked (by decide)
    | @reads f how visibleIn hf hw hn hv =>
      cases ho
      have hfrom (n : String) (hm : n ∈ how.names) :
          ∃ segment ∈ segments, n.toList <+: segment.toList := by
        obtain ⟨segment, hseg, hpre⟩ := hn n hm
        exact ⟨segment, h.suffix.subset (hsuffix.subset hseg), hpre⟩
      refine Reading.unmarked_value (hc.fields f (Collection.mem_of_field? hf)) hlast ?_ ?_
      · intro n hm hb
        obtain ⟨segment, hseg, hpre⟩ := hfrom n hm
        exact hplain segment hseg (hpre.subset hb)
      · intro n hm hb
        obtain ⟨segment, hseg, hpre⟩ := hfrom n hm
        exact hblank segment hseg (hpre.subset hb)
  | items =>
    cases ho
    exact Expr.unmarked_text [] (isSpelled_itemOf (Root.isWordy_itemsName _))
      (List.forall_mem_nil _)

end Plan

/-- What a side resolves to brings no mark of a guard into a text. -/
structure Resolution.IsUnmarked (res : Resolution) : Prop where
  value : Unmarked res.value.text
  visibleIn : ∀ table, res.visibleIn = some table → IsWordy table

theorem Resolution.isUnmarked_value (known : List String) {e : Expr} (h : e.IsSpelled known)
    (hs : e.steps = []) (params : List String) : Resolution.IsUnmarked { value := e, params } := by
  refine ⟨Expr.unmarked_text known h ?_, by rintro _ ⟨⟩⟩
  rw [hs]
  exact List.forall_mem_nil _

namespace Resolver

variable {r : Resolver} {path : String} {res : Resolution}

theorem isUnmarked_boundResolution {name : String} (h : isName name.toList = true) (lower : Bool) :
    (boundResolution name lower).IsUnmarked := by
  have hp : (Expr.param name).IsSpelled [name] := ⟨h, List.mem_singleton.2 rfl⟩
  have hl : (Expr.lower (.param name)).IsSpelled [name] := hp
  cases lower
  · exact Resolution.isUnmarked_value [name] hp rfl [name]
  · exact Resolution.isUnmarked_value [name] hl rfl [name]

theorem isUnmarked_of_resolve (hs : r.scope.IsWellNamed) (h : (r.resolve path).1 = .ok res) :
    res.IsUnmarked := by
  have hplain := isPlain_of_resolve h
  rcases resolve_cases r path with ⟨⟨e, he⟩, -⟩ | ⟨hw, -, -⟩
  · rw [he] at h; cases h
  · rcases resolve_outcomes r path with ⟨e, ps, he, -⟩ | ⟨joins, res', -, ho, he⟩ |
      ⟨joins, v, lower, -, -, he⟩
    · rw [he] at h; cases h
    · rw [he] at h
      cases h
      have hspelled := (Plan.isSpelled_ofPath hs hplain).resolution res ho
      exact ⟨Plan.unmarked_ofPath hs hw ho, hspelled.visibleIn⟩
    · rw [he] at h
      cases h
      exact isUnmarked_boundResolution (isName_generated _) lower

end Resolver

/-! ## Comparisons -/

/-- A text with the words by which a guard starts. -/
def Sql.HasGuard (s : String) : Prop := "NOT EXISTS".toList <:+: s.toList

open Sql (HasGuard)

theorem Sql.Unmarked.not_hasGuard {s : String} (h : Unmarked s) : ¬ HasGuard s := by
  have hmark : Sql.guardMark <:+: "NOT EXISTS".toList := ⟨"NOT".toList, "ISTS".toList, rfl⟩
  exact fun hg => h.1 (hmark.trans hg)

theorem Sql.HasGuard.append {a : String} (h : HasGuard a) (b : String) : HasGuard (a ++ b) := by
  rw [HasGuard, String.toList_append]
  exact h.trans (List.prefix_append _ _).isInfix

theorem Sql.HasGuard.after {b : String} (h : HasGuard b) (a : String) : HasGuard (a ++ b) := by
  rw [HasGuard, String.toList_append]
  exact h.trans (List.suffix_append _ _).isInfix

theorem Sql.Guard.hasGuard_text (guard : Guard) : HasGuard guard.text := by
  have start : HasGuard "NOT EXISTS (SELECT 1 FROM (" := ⟨[], " (SELECT 1 FROM (".toList, rfl⟩
  cases guard with
  | one => exact (((((start.append _).append _).append _).append _).append _).append _
  | pairs =>
    exact (((((((((start.append _).append _).append _).append _).append _).append _).append
      _).append _).append _).append _

namespace Builder

variable {b b₁ : Builder} {l r res : Resolution}

theorem isUnmarked_of_operand (hs : b.resolver.scope.IsWellNamed) {o : Operand}
    (h : b.operand o = (.ok res, b₁)) : res.IsUnmarked := by
  cases o with
  | field path => exact Resolver.isUnmarked_of_resolve hs (resolve_of_operand h).1
  | text | number =>
    cases h
    exact Resolver.isUnmarked_boundResolution (Resolver.isName_generated _) false
  | bool v =>
    cases h
    exact Resolution.isUnmarked_value [] (Plan.isSpelled_of_isConstant (.bool v)) rfl []
  | null =>
    cases h
    exact Resolution.isUnmarked_value [] (Plan.isSpelled_of_isConstant .null) rfl []

theorem hasGuard_requireVisible {c : Condition} (h : HasGuard c.text)
    (tables : List (Option String)) : HasGuard (requireVisible c tables).text := by
  induction tables generalizing c with
  | nil => exact h
  | cons table tables ih =>
    cases table with
    | none => exact ih h
    | some table =>
      refine ih ?_
      rw [Condition.text, Condition.requireVisible]
      exact (((h.after _).append _).append _).append _

/-- A comparison without a guard has no mark of one in its text. -/
theorem unmarked_comparison (b : Builder) (hl : l.IsUnmarked) (c : Comparator) (hr : r.IsUnmarked)
    (h : c.isAny = true ∨ (l.listing = none ∧ r.listing = none)) :
    Unmarked (b.comparison l c r).1.text := by
  obtain ⟨inner, hshape, heq⟩ := comparison_shape b l c r
  rw [heq]
  have ht := text_comparisonTest Sql.isTextual_unmarked hl.value hr.value c.operator
    b.resolver.params
  generalize comparisonTest c.operator l r b.resolver.params = t at ht hshape
  cases hshape with
  | plain =>
    refine text_requireVisible Sql.isTextual_unmarked (c := .test t) ht fun table hm => ?_
    refine Sql.unmarked_quoteColumn ?_ (by decide)
    simp only [List.mem_cons, List.not_mem_nil, or_false] at hm
    rcases hm with hm | hm
    · exact hl.visibleIn table hm.symm
    · exact hr.visibleIn table hm.symm
  | guarded guard hs hm hg =>
    rcases h with h | ⟨hnl, hnr⟩
    · rw [hs] at h
      cases h
    · rw [hnl, hnr] at hm
      exact (hm.elim Bool.false_ne_true Bool.false_ne_true).elim

/-- The text of a comparison has a guard if and only if the comparison is strict and one of its
sides is listed. -/
theorem hasGuard_comparison_iff (b : Builder) (hl : l.IsUnmarked) (c : Comparator)
    (hr : r.IsUnmarked) :
    HasGuard (b.comparison l c r).1.text ↔
      c.isAny = false ∧ (l.listing.isSome = true ∨ r.listing.isSome = true) := by
  obtain ⟨inner, hshape, heq⟩ := comparison_shape b l c r
  cases hshape with
  | plain h =>
    refine iff_of_false (unmarked_comparison b hl c hr h).not_hasGuard ?_
    rintro ⟨hs, hm⟩
    rcases h with h | ⟨hnl, hnr⟩
    · rw [hs] at h
      cases h
    · rw [hnl, hnr] at hm
      exact hm.elim Bool.false_ne_true Bool.false_ne_true
  | guarded guard hs hm hg =>
    rw [heq]
    refine iff_of_true (hasGuard_requireVisible ?_ _) ⟨hs, hm⟩
    rw [Condition.text]
    exact (guard.hasGuard_text.after _).append _

end Builder

end RecordFilter
