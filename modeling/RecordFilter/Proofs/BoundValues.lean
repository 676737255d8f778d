import RecordFilter.Proofs.Reachable
import RecordFilter.Proofs.Rebinding
import RecordFilter.Proofs.RequestValues

/-!
# Bound values

What is bound is a text, a number or a truth value, but for one case: a text submitted for a number
field is read as a number, and what reads as an infinity or as not-a-number is bound as null. All
bound values are scalar if and only if no such text can be asked for
(`Resolver.bound_values_scalar_iff`).
-/

namespace RecordFilter

open Sql (Params)

/-! ## Scalar values -/

namespace Json

def IsScalar : Json → Prop
  | bool _ | number _ | text _ => True
  | null | list _ | object _ => False

/-- A text that reads as a finite number or as no number at all. -/
def ReadsFinite (t : String) : Prop :=
  ∀ x, Number.Reading.ofText (Text.trim t.toList) = some x → ∃ y, x = .finite y

variable {t : String} {v : Json} {kind : Option FieldKind}

theorem isScalar_toJson (x : Number.Binary64) : ∃ n, x.toJson = .number n := by
  unfold Number.Binary64.toJson
  split <;> exact ⟨_, rfl⟩

/-- A text is read as a number, or as null if its number is not finite. -/
theorem numberOfText_cases (t : String) :
    (ReadsFinite t ∧ ∃ n, numberOfText t = .number n) ∨
      (¬ ReadsFinite t ∧ numberOfText t = .null) := by
  unfold ReadsFinite numberOfText
  cases Number.Reading.ofText (Text.trim t.toList) with
  | none => exact .inl ⟨by simp, _, rfl⟩
  | some x =>
    cases x with
    | finite x => exact .inl ⟨by simp, isScalar_toJson x⟩
    | infinite | nan => exact .inr ⟨by simp, rfl⟩

/-- A number that is too large for a finite one is no number at all. -/
example : numberOfText "1e400" = .null := rfl

/-- Only a text is fitted to what is not scalar, for a number field. -/
theorem isScalar_fitted (hn : v ≠ .null)
    (ht : ∀ t, v = .text t → kind = some .number → ReadsFinite t) :
    (v.fitted kind).IsScalar := by
  cases v with
  | null => exact hn rfl
  | bool | number => trivial
  | list | object => trivial
  | text t =>
    cases kind with
    | none => trivial
    | some k =>
      cases k with
      | number =>
        obtain ⟨-, n, h⟩ := (numberOfText_cases t).resolve_right fun h => h.1 (ht t rfl rfl)
        show (numberOfText t).IsScalar
        rw [h]
        trivial
      | _ => exact True.intro

theorem mem_put {α : Type} {key : String} {value : α} {ms : List (String × α)} {m : String × α}
    (h : m ∈ put key value ms) : m ∈ ms ∨ m = (key, value) := by
  induction ms with
  | nil => exact .inr (List.mem_singleton.1 h)
  | cons first rest ih =>
    unfold put at h
    split at h
    · next hk =>
      rcases List.mem_cons.1 h with rfl | h
      · exact .inr (by rw [hk])
      · exact .inl (List.mem_cons_of_mem _ h)
    · rcases List.mem_cons.1 h with rfl | h
      · exact .inl List.mem_cons_self
      · exact (ih h).imp_left (List.mem_cons_of_mem _)

end Json

/-! ## Parameters that are scalar -/

namespace Sql.Params

def AllScalar (ps : Params) : Prop := ∀ b ∈ ps.entries, b.2.IsScalar

variable {ps : Params} {name : String} {v : Json}

theorem AllScalar.bind (h : ps.AllScalar) (hv : v.IsScalar) : (ps.bind v).2.AllScalar := by
  intro b hb
  rcases List.mem_append.1 hb with hb | hb
  · exact h b hb
  · rw [List.mem_singleton.1 hb]
    exact hv

theorem AllScalar.set (h : ps.AllScalar) (hv : v.IsScalar) : (ps.set name v).AllScalar := by
  intro b hb
  rcases Json.mem_put hb with hb | rfl
  · exact h b hb
  · exact hv

theorem AllScalar.rollback (h : ps.AllScalar) (m : Mark) : (ps.rollback m).AllScalar :=
  fun b hb => h b (List.mem_of_mem_take hb)

theorem AllScalar.pattern (h : ps.AllScalar) : (patternParam ps name).AllScalar := by
  unfold patternParam
  split
  · exact h
  · simp only
    split
    · exact h
    · unfold update
      split
      · exact h.set trivial
      · exact h

theorem AllScalar.setAll {bindings : List (String × Json)} (h : ps.AllScalar)
    (hb : ∀ b ∈ bindings, b.2.IsScalar) : (Resolver.setAll ps bindings).AllScalar := by
  induction bindings generalizing ps with
  | nil => exact h
  | cons b bindings ih =>
    rw [List.forall_mem_cons] at hb
    exact ih (h.set hb.1) hb.2

end Sql.Params

/-! ## Values that paths bind -/

/-- A text that a request submits for a number field of the base, and that may be asked for. -/
structure Scope.Aims (s : Scope) (allowed : AllowedPaths) (f : Field) (t : String) : Prop where
  field : s.base.field? f.name = some f
  kind : f.kind = .number
  named : Text.IsWordName f.name
  admitted : allowed.admits (bodyPath f.name) = true
  submitted : ∃ q, s.request = some q ∧ q.Holds s.catalog ["body", f.name] (.text t)

namespace Plan

open Json (ReadsFinite)

/-- A value that is bound is scalar, unless there is a reason why it is not. -/
def BindsScalar (reason : Prop) (p : Plan) : Prop :=
  ∀ v lower, p.outcome = .ok (.bound v lower) → v.IsScalar ∨ reason

variable {reason : Prop} {s : Scope} {q : Request} {path : String} {segments : List String}
  {modifier : Option Modifier} {kind : Option FieldKind}

theorem bindsScalar_of_fixed {p : Plan} (h : ∀ o, p.outcome = .ok o → ∃ res, o = .fixed res) :
    BindsScalar reason p := by
  intro v lower ho
  obtain ⟨res, hr⟩ := h _ ho
  cases hr

theorem bindsScalar_fail (e : PathError) : BindsScalar reason (fail e) := by
  rintro v lower ⟨⟩

theorem bindsScalar_direct (res : Resolution) : BindsScalar reason (direct (.fixed res)) := by
  rintro v lower ⟨⟩

theorem bindsScalar_submittedValue {value : Option Json}
    (h : ∀ t, kind = some .number → modifier = none → value = some (.text t) →
      ¬ ReadsFinite t → reason) :
    BindsScalar reason (submittedValue path value modifier kind) := by
  intro v lower ho
  by_cases hr : reason
  · exact .inr hr
  left
  have hread (t : String) (hk : kind = some .number) (hm : modifier = none)
      (hv : value = some (.text t)) : ReadsFinite t :=
    by_contra fun hf => hr (h t hk hm hv hf)
  have bound (lowered : Bool) (hm : modifier = loweredBy lowered) : v.IsScalar := by
    rw [hm] at ho
    by_cases hn : ∀ w, value = some w → w = .null
    · rw [submittedValue_absent lowered kind hn] at ho
      cases ho
    · obtain ⟨w, rfl, hw⟩ : ∃ w, value = some w ∧ w ≠ .null := by simpa using hn
      rw [submittedValue_present lowered kind hw] at ho
      cases ho
      cases lower with
      | true => exact True.intro
      | false => exact Json.isScalar_fitted hw fun t ht hk => hread t hk hm (by rw [ht])
  rcases modifier with _ | _ | _ | _ | _
  · exact bound false rfl
  · exact bound true rfl
  · cases ho
  · cases ho
  · cases ho

theorem bindsScalar_readRequest
    (h : ∀ names t, withoutModifier segments = .ok names → kind = some .number →
      modifier = none → q.value? names = some (.text t) → ¬ ReadsFinite t → reason) :
    BindsScalar reason (readRequest path q segments modifier kind) := by
  unfold readRequest
  split
  · exact bindsScalar_fail _
  · next names hn => exact bindsScalar_submittedValue fun t => h names t hn

theorem bindsScalar_below (root : Root) : BindsScalar reason (below s path root segments) := by
  obtain ⟨r, extra, outcome, -, hp, hf⟩ := below_laid s path root segments
  rw [hp]
  exact bindsScalar_of_fixed fun o ho => (hf o ho).imp fun _ h => h.1

theorem bindsScalar_absent : BindsScalar reason (absent modifier) := by
  unfold absent
  split <;> exact bindsScalar_direct _

theorem bindsScalar_ofAuth : BindsScalar reason (ofAuth s path q segments modifier) := by
  unfold ofAuth
  split
  · exact bindsScalar_fail _
  · exact bindsScalar_absent
  · split
    · exact bindsScalar_fail _
    · simp only
      split
      · split
        · exact bindsScalar_fail _
        · exact bindsScalar_submittedValue fun _ hk => by cases hk
      · split
        · exact bindsScalar_direct _
        · exact bindsScalar_below _

theorem bindsScalar_ofBody (hm : requestModifier ("body" :: segments) = .ok modifier)
    (h : ∀ f t, segments = [f.name] → ':' ∉ f.name.toList → s.base.field? f.name = some f →
      f.kind = .number → q.value? ["body", f.name] = some (.text t) → ¬ ReadsFinite t → reason) :
    BindsScalar reason (ofBody s path q segments modifier) := by
  have unfitted (names : List String) :
      BindsScalar reason (readRequest path q names modifier none) :=
    bindsScalar_readRequest fun _ _ _ hk => by cases hk
  unfold ofBody
  split
  · exact bindsScalar_fail _
  · next last =>
    split
    · exact bindsScalar_fail _
    · next key own ho =>
      obtain rfl : own = modifier := by simpa [requestModifier, ho, Except.map] using hm
      split
      · exact unfitted _
      · next f hf =>
        split
        · exact bindsScalar_of_fixed fun o h => ⟨_, (Except.ok.inj h).symm⟩
        · exact bindsScalar_direct _
        · refine bindsScalar_readRequest fun names t hn hk hm' hv ht => ?_
          rw [hm'] at ho
          obtain ⟨hcolon, rfl⟩ := eq_of_splitModifier_none ho
          rw [← List.singleton_append, withoutModifier_concat _ ho] at hn
          cases hn
          obtain rfl := Collection.name_of_field? hf
          exact h f t rfl hcolon hf (Option.some.inj hk) hv ht
  · split
    · exact unfitted _
    · exact unfitted _
    · split
      · exact bindsScalar_direct _
      · simp only
        split
        · exact bindsScalar_direct _
        · exact bindsScalar_below _

theorem bindsScalar_ofRequest (hb : ∀ q f t, s.request = some q → segments = ["body", f.name] →
      ':' ∉ f.name.toList → s.base.field? f.name = some f → f.kind = .number →
      q.value? ["body", f.name] = some (.text t) → ¬ ReadsFinite t → reason) :
    BindsScalar reason (ofRequest s path segments) := by
  unfold ofRequest
  split
  · exact bindsScalar_fail _
  · next name modifier hm =>
    have hm' : requestModifier segments = .ok modifier := by simp [requestModifier, hm, Except.map]
    split
    · exact bindsScalar_absent
    · exact bindsScalar_ofAuth
    · next q rest hq =>
      exact bindsScalar_ofBody hm' fun f t hs => hb q f t hq (by rw [hs])
    · split
      · exact bindsScalar_readRequest fun _ _ _ hk => by cases hk
      · exact bindsScalar_fail _
    · exact bindsScalar_fail _

theorem bindsScalar_ofCollection (segments : List String) :
    BindsScalar reason (ofCollection s path segments) := by
  rcases segments with _ | ⟨first, _ | ⟨second, rest⟩⟩
  · exact bindsScalar_fail _
  · exact bindsScalar_fail _
  · rw [ofCollection_cons]
    split
    · exact bindsScalar_fail _
    · exact bindsScalar_below _

/-- A path that may be used binds a scalar value, or a text for a number field that is not
finite. -/
theorem bindsScalar_ofPath {allowed : AllowedPaths} (hw : Path.isWellFormed path = true)
    (ha : allowed.admits path = true) :
    BindsScalar (∃ f t, s.Aims allowed f t ∧ ¬ ReadsFinite t) (ofPath s path) := by
  by_cases he : "" ∈ segmentsOf path
  · rw [ofPath_of_emptySegment he]
    exact bindsScalar_fail _
  unfold ofPath
  simp only
  split
  · exact bindsScalar_fail _
  · split
    · next rest hs =>
      refine bindsScalar_ofRequest fun q f t hq hr hc hf hk hv ht => ?_
      rw [hr] at hs
      obtain ⟨rfl, hn⟩ := eq_bodyPath hw he hs hc
      exact ⟨f, t, ⟨hf, hk, hn, ha, q, hq, Request.holds_body.1 hv⟩, ht⟩
    · exact bindsScalar_ofCollection _
    · exact bindsScalar_below _

end Plan

/-! ## All values that are bound -/

namespace Resolver

open Json (ReadsFinite)

variable {s : Scope} {allowed : AllowedPaths} {r : Resolver} {f : Field} {t : String}

theorem isScalar_bindings (s : Scope) (path : String) :
    ∀ b ∈ (Plan.ofPath s path).bindings, b.2.IsScalar := by
  rintro ⟨name, v⟩ hb
  cases Plan.binds_of_mem hb <;> trivial

/-- A path keeps all values scalar if the texts that may be asked for read as finite. -/
theorem allScalar_resolve (hf : ∀ f t, r.scope.Aims r.allowed f t → ReadsFinite t)
    (h : r.params.AllScalar) (path : String) : (r.resolve path).2.params.AllScalar := by
  have hset := h.setAll (isScalar_bindings r.scope path)
  rcases resolve_cases r path with ⟨⟨e, he⟩, -⟩ | ⟨hw, ha, hr⟩
  · rwa [he]
  · rw [hr]
    rcases commit_cases r (Plan.ofPath r.scope path) with ⟨e, hc, -⟩ | ⟨joins, res, -, -, hc⟩ |
      ⟨joins, v, lower, -, ho, hc⟩
    · rw [hc]
      exact hset.rollback _
    · rw [hc]
      exact hset
    · rw [hc]
      refine hset.bind ((Plan.bindsScalar_ofPath hw ha v lower ho).resolve_right ?_)
      rintro ⟨f, t, hs, ht⟩
      exact ht (hf f t hs)

theorem isKept_allScalar (hf : ∀ f t, s.Aims allowed f t → ReadsFinite t) :
    IsKept fun r => (r.scope = s ∧ r.allowed = allowed) ∧ r.params.AllScalar where
  path path h := by
    obtain ⟨⟨rfl, rfl⟩, h⟩ := h
    exact ⟨⟨scope_resolve _ path, allowed_resolve _ path⟩, allScalar_resolve hf h path⟩
  text s h := ⟨h.1, h.2.bind trivial⟩
  number x h := by
    obtain ⟨n, hn⟩ := Json.isScalar_toJson x
    exact ⟨h.1, h.2.bind (hn ▸ trivial)⟩
  pattern _ h := ⟨h.1, h.2.pattern⟩

theorem readsStatic_key {key : String} (hn : Text.IsWordName key)
    (ha : r.allowed.admits (bodyPath key) = true) :
    ReadsStatic r ["body", key] none (bodyPath key) where
  wellFormed := Path.isWellFormed_bodyPath (Path.isTail_of_isWordy hn.2 hn.1)
  admitted := ha
  asks := by
    have hs := Plan.segmentsOf_key hn.2
    refine ⟨?_, ["body"], key, key, hs, Plan.splitModifier_key hn.2, rfl⟩
    rw [hs]
    simpa using hn.1.symm
  isStatic := .body (.inl rfl)

theorem readsStatic_after {key : String} {m : Modifier} (hw : Text.IsWordy key)
    (ha : r.allowed.admits (bodyPath (m.after key)) = true) :
    ReadsStatic r ["body", key] (some m) (bodyPath (m.after key)) where
  wellFormed := Path.isWellFormed_bodyPath (Path.isTail_after hw)
  admitted := ha
  asks := ⟨Plan.empty_notMem_after hw, ["body"], m.after key, key, Plan.segmentsOf_after hw,
    Plan.splitModifier_after hw, rfl⟩
  isStatic := .body (.inl rfl)

/-- A text for a number field is bound as its number, whose text is bound if letters are lowered. -/
theorem resolve_of_aims (lower : Bool) {path : String} (h : r.scope.Aims r.allowed f t)
    (hp : ReadsStatic r ["body", f.name] (Plan.loweredBy lower) path) :
    ∃ name params, r.resolve path = (.ok (boundResolution name lower), { r with params }) ∧
      name ∉ r.params.names ∧ params.entries = r.params.entries ++
        [(name, if lower then .text (Json.numberOfText t).plainText else Json.numberOfText t)] := by
  obtain ⟨q, hq, hh⟩ := h.submitted
  obtain ⟨value, hv, hr⟩ := resolve_of_readsStatic hq (Plan.isReading_loweredBy lower) hp
  have hkind : Plan.kindAt r.scope ["body", f.name] = some .number := by
    rw [Plan.kindAt, h.field, Option.map_some, h.kind]
  rw [hr, (hv _).2 hh, hkind, Plan.submittedValue_present lower _ (by simp)]
  exact commit_bound r _ lower

/-- Every bound value is a text, a number or a truth value if and only if the texts that are
submitted for number fields and may be asked for do not read as an infinity or as not-a-number. Each
of them is bound under a new name: as a number if it reads as a finite number or as none, and as
null otherwise. With `:lower` it is bound as the text of that number. -/
theorem bound_values_scalar_iff (s : Scope) (allowed : AllowedPaths) :
    ((∀ r, Reachable s allowed r → ∀ b ∈ r.params.entries, b.2.IsScalar) ↔
      ∀ f t, s.Aims allowed f t → ReadsFinite t) ∧
    ∀ f t, s.Aims allowed f t → ∀ r : Resolver, r.scope = s → r.allowed = allowed →
      (∃ name w params, r.resolve (bodyPath f.name) =
          (.ok (boundResolution name false), { r with params }) ∧
        name ∉ r.params.names ∧ params.entries = r.params.entries ++ [(name, w)] ∧
        ((∃ n, w = .number n) ↔ ReadsFinite t) ∧ (w = .null ↔ ¬ ReadsFinite t)) ∧
      (allowed.admits (bodyPath (Modifier.lower.after f.name)) = true →
        ∃ name params, r.resolve (bodyPath (Modifier.lower.after f.name)) =
            (.ok (boundResolution name true), { r with params }) ∧
          name ∉ r.params.names ∧ params.entries = r.params.entries ++
            [(name, .text (Json.numberOfText t).plainText)]) := by
  constructor
  · constructor
    · intro hall f t h
      obtain ⟨name, params, hr, -, he⟩ := resolve_of_aims false
        (r := { scope := s, allowed := allowed }) h (readsStatic_key h.named h.admitted)
      have hscalar := hall _ (.resolve .fresh (bodyPath f.name)) (name, Json.numberOfText t)
        (by rw [hr, he]; exact List.mem_singleton_self _)
      refine ((Json.numberOfText_cases t).resolve_right fun hn => ?_).1
      rwa [hn.2] at hscalar
    · intro hf r hr
      exact (hr.kept (isKept_allScalar hf) ⟨⟨rfl, rfl⟩, by rintro _ ⟨⟩⟩).2
  · rintro f t h r rfl rfl
    refine ⟨?_, fun ha => resolve_of_aims true h (readsStatic_after h.named.2 ha)⟩
    obtain ⟨name, params, hr, hn, he⟩ := resolve_of_aims false h (readsStatic_key h.named h.admitted)
    refine ⟨name, _, params, hr, hn, he, ?_⟩
    rcases Json.numberOfText_cases t with ⟨ht, n, hw⟩ | ⟨ht, hw⟩
    · rw [hw]
      exact ⟨iff_of_true ⟨n, rfl⟩ ht, iff_of_false (by simp) (not_not_intro ht)⟩
    · rw [hw]
      exact ⟨iff_of_false (by simp) ht, iff_of_true rfl ht⟩

/-! ### An infinite score -/

def scored : Definitions :=
  { collections := [{ name := "posts", fields := [{ name := "score", type := .number }] }] }

def scoredCatalog : Catalog := scored.toCatalog.toOption.getD default

def scoredScope (score : String) : Scope :=
  { catalog := scoredCatalog
    base := (scoredCatalog.find? "posts").getD default
    request := some { body := [("score", .plain (.text score))] } }

/-- A score of `inf` is bound as null. -/
theorem bound_values_null :
    scored.toCatalog = .ok scoredCatalog ∧
      (scoredScope "inf").base ∈ scoredCatalog.collections ∧
      (∃ f ∈ (scoredScope "inf").base.fields, f.name = "score" ∧ f.kind = .number) ∧
      ∃ r, Reachable (scoredScope "inf") .wellFormed r ∧
        resolve { scope := scoredScope "inf" } "@request.body.score" =
          (.ok (boundResolution "p1" false), r) ∧
        r.params.entries = [("p1", .null)] :=
  ⟨rfl, by decide, ⟨⟨"score", .number, false⟩, by decide, rfl, rfl⟩, _,
    .resolve .fresh "@request.body.score", rfl, rfl⟩

end Resolver

end RecordFilter
