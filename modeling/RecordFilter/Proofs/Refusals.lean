import RecordFilter.Proofs.Start

/-!
# Why plans fail

A plan fails for reasons of its own only: they name the path as it was written, the most links that
it may cross or a modifier (`Plan.refuses_ofPath`). That an alias is ambiguous turns out when the
joins are registered. Each function is said to fail only for reasons that are to be blamed for: a
colon in a segment, a field that is missing below a root that is not lenient, a link too many.
-/

namespace RecordFilter

namespace Plan

/-- The reasons for which the plan of a path can fail. -/
inductive Refusal (s : Scope) (path : String) : PathError → Prop
  | unknownField : Refusal s path (.unknownField path)
  | invalidFormat : Refusal s path (.invalidFormat path)
  | tooDeep : Refusal s path (.tooDeep path s.maxHops)
  | invalidModifier (modifier field : String) : Refusal s path (.invalidModifier modifier field)

/-- What comes to nothing is refused for one of the reasons. -/
def Refuses {α : Type} (s : Scope) (path : String) (x : Except PathError α) : Prop :=
  ∀ e, x = .error e → Refusal s path e

/-- What comes to nothing does so for reasons of a kind. -/
def FailsFor {α : Type} (P : PathError → Prop) (x : Except PathError α) : Prop :=
  ∀ e, x = .error e → P e

/-- How a path is written is among the reasons, provided that it is `marked`. -/
structure BlamesForm (P : PathError → Prop) (path : String) (marked : Prop) : Prop where
  format (h : marked) : P (.invalidFormat path)
  modifier (h : marked) (modifier field : String) : P (.invalidModifier modifier field)

/-- The parts of a request whose values stand in the request itself. -/
def plainParts : List String := ["context", "method", "query", "headers"]

/-- One of the segments has a colon. -/
def IsMarked (segments : List String) : Prop := ∃ segment ∈ segments, ':' ∈ segment.toList

variable {α : Type} {P : PathError → Prop} {s : Scope} {path : String} {marked : Prop} {r : Route}
  {root : Root} {segments rest : List String} {modifier : Option Modifier}

theorem IsMarked.mono {part whole : List String} (h : IsMarked part) (hs : part ⊆ whole) :
    IsMarked whole := by
  obtain ⟨segment, hm, hc⟩ := h
  exact ⟨segment, hs hm, hc⟩

theorem IsMarked.cons {first : String} (h : IsMarked rest) : IsMarked (first :: rest) :=
  h.mono (List.subset_cons_self _ _)

theorem isMarked_of_last (h : ':' ∈ (segments.getLast?.getD "").toList) : IsMarked segments := by
  cases hl : segments.getLast? with
  | none => rw [hl] at h; exact absurd h (by decide)
  | some last => rw [hl] at h; exact ⟨last, List.mem_of_getLast? hl, h⟩

theorem isMarked_of_any (h : segments.any hasColon = true) : IsMarked segments := by
  obtain ⟨segment, hs, hc⟩ := List.any_eq_true.1 h
  exact ⟨segment, hs, by simpa [hasColon] using hc⟩

theorem failsFor_ok (a : α) : FailsFor P (.ok a) := by
  rintro e ⟨⟩

theorem failsFor_error {e : PathError} (h : P e) :
    FailsFor P (.error e : Except PathError α) := by
  rintro _ ⟨⟩
  exact h

/-! ## Modifiers -/

/-- Only a segment with a colon has a modifier or fails to have one. -/
theorem splitModifier_eq {segment : String} (h : ':' ∉ segment.toList) :
    splitModifier segment = .ok (segment, none) := by
  rw [splitModifier, Text.cut_eq_none_iff.2 h]

theorem colon_of_splitModifier {segment name : String}
    (h : splitModifier segment = .ok (name, modifier)) (hm : modifier ≠ none) :
    ':' ∈ segment.toList := by
  refine Decidable.byContradiction fun hc => hm ?_
  rw [splitModifier_eq hc] at h
  cases h
  rfl

section Form

variable (hP : BlamesForm P path marked)
include hP

theorem failsFor_splitModifier {segment : String} (h : ':' ∈ segment.toList → marked) :
    FailsFor P (splitModifier segment) := by
  by_cases hc : ':' ∈ segment.toList
  · unfold splitModifier
    split
    · exact failsFor_ok _
    · split
      · exact failsFor_ok _
      · exact failsFor_error (hP.modifier (h hc) _ _)
  · rw [splitModifier_eq hc]
    exact failsFor_ok _

theorem failsFor_withoutModifier (hm : IsMarked segments → marked) :
    FailsFor P (withoutModifier segments) := by
  unfold withoutModifier
  split
  · exact failsFor_ok _
  · next last hl =>
    cases h : splitModifier last with
    | error e =>
      refine failsFor_error (failsFor_splitModifier hP (fun hc => hm ?_) e h)
      exact ⟨last, List.mem_of_getLast? hl, hc⟩
    | ok nm => exact failsFor_ok _

/-! ## Below a root -/

theorem failsFor_belowJson {f : Field} (hne : segments = [] → marked)
    (hm : IsMarked segments → marked) : FailsFor P (belowJson s path r f segments) := by
  unfold belowJson
  split
  · next hl => exact failsFor_error (hP.format (hne (List.getLast?_eq_none_iff.1 hl)))
  · next last hl =>
    have hcolon : ':' ∈ last.toList → marked :=
      fun hc => hm ⟨last, List.mem_of_getLast? hl, hc⟩
    cases h : splitModifier last with
    | error e => exact failsFor_error (failsFor_splitModifier hP hcolon e h)
    | ok nm =>
      obtain ⟨name, modifier⟩ := nm
      have hmarked (hn : modifier ≠ none) : marked := hcolon (colon_of_splitModifier h hn)
      rcases modifier with _ | _ | _ | _ | _
      · exact failsFor_ok _
      · exact failsFor_ok _
      · exact failsFor_error (hP.modifier (hmarked (by simp)) _ _)
      · exact failsFor_error (hP.modifier (hmarked (by simp)) _ _)
      · exact failsFor_error (hP.modifier (hmarked (by simp)) _ _)

theorem failsFor_atField {f : Field} (hm : modifier ≠ none → marked) :
    FailsFor P (atField s path r f modifier).outcome := by
  unfold atField
  rcases modifier with _ | _ | _ | _ | _
  · exact failsFor_ok _
  · exact failsFor_ok _
  · simp only
    split
    · exact failsFor_ok _
    · exact failsFor_error (hP.modifier (hm (by simp)) _ _)
  · simp only
    split
    · exact failsFor_ok _
    · exact failsFor_error (hP.modifier (hm (by simp)) _ _)
  · exact failsFor_error (hP.modifier (hm (by simp)) _ _)

end Form

/-- Below a lenient root nothing is withheld. -/
theorem isWithheld_of_isLenient (hl : r.root.isLenient = true) (f : Field) :
    isWithheld s r f = false := by
  have ht : r.root.isTrusted = true := by
    cases h : r.root <;> rw [h] at hl <;> first | rfl | cases hl
  simp [isWithheld, ht]

theorem isWithheld_of_turn {segment : String} {after : List String}
    (h : turn s r segment after = .withheld) : ∃ f, isWithheld s r f = true := by
  unfold turn at h
  split at h
  · cases hb : backLink? s r segment <;> rw [hb] at h <;> cases h
  · next f hf =>
    split at h
    · next hw => exact ⟨f, hw⟩
    · split at h
      · cases h
      · next ref hk =>
        split at h
        · cases h
        · cases hl : fieldLink? s f ref <;> rw [hl] at h <;> cases h
      · cases h

section Below

variable (hP : BlamesForm P path marked) (hu : r.root.isLenient = true ∨ P (.unknownField path))
include hu

theorem failsFor_missing : FailsFor P (missing path r).outcome := by
  unfold missing
  split
  · exact failsFor_ok _
  · next hl => exact failsFor_error (hu.resolve_left hl)

theorem unknownField_of_isWithheld {f : Field} (h : isWithheld s r f = true) :
    P (.unknownField path) := by
  refine hu.resolve_left fun hl => ?_
  rw [isWithheld_of_isLenient hl] at h
  cases h

include hP

theorem failsFor_atLast {segment : String} (hm : ':' ∈ segment.toList → marked) :
    FailsFor P (atLast s path r segment).outcome := by
  unfold atLast
  split
  · next e h => exact failsFor_error (failsFor_splitModifier hP hm e h)
  · next h =>
    split
    · exact failsFor_missing hu
    · split
      · next hw => exact failsFor_error (unknownField_of_isWithheld hu hw)
      · exact failsFor_atField hP fun hn => hm (colon_of_splitModifier h hn)

/-- A walk is too deep only if its segments cross more links than are allowed. -/
theorem failsFor_walk (hne : segments = [] → marked) (hm : IsMarked segments → marked)
    (ht : ∀ route left, Crosses s r segments route left → s.maxHops < route.hops →
      P (.tooDeep path s.maxHops)) : FailsFor P (walk s path r segments).outcome := by
  fun_induction walk s path r segments with
  | case1 => exact failsFor_error (hP.format (hne rfl))
  | case2 r last => exact failsFor_atLast hP hu fun hc => hm ⟨last, List.mem_cons_self, hc⟩
  | case3 => exact failsFor_missing hu
  | case4 r segment next rest hw =>
    obtain ⟨f, hw⟩ := isWithheld_of_turn hw
    exact failsFor_error (unknownField_of_isWithheld hu hw)
  | case5 r segment next rest f =>
    exact failsFor_belowJson hP (by simp) fun h => hm h.cons
  | case6 => exact failsFor_ok _
  | case7 r segment next rest l hl hd =>
    refine failsFor_error (ht _ _ (.cross (turn_eq_link_iff.1 hl) (.refl _ _)) ?_)
    rw [Route.hops_cross]
    omega
  | case8 r segment next rest l hl hd ih =>
    refine ih hu (by simp) (fun h => hm h.cons) fun route left hc hd => ht route left ?_ hd
    exact .cross (turn_eq_link_iff.1 hl) hc

theorem failsFor_below (hne : segments = [] → marked) (hm : IsMarked segments → marked)
    (ht : ∀ route left, Crosses s r segments route left → s.maxHops < route.hops →
      P (.tooDeep path s.maxHops)) (hr : r = ⟨root, []⟩) :
    FailsFor P (below s path root segments).outcome := by
  subst hr
  unfold below
  split
  · next h =>
    refine failsFor_error (hP.format ?_)
    rcases Bool.or_eq_true_iff.1 h with h | h
    · exact hne (List.isEmpty_iff.1 h)
    · exact hm ((isMarked_of_any h).mono (List.dropLast_subset _))
  · exact failsFor_walk hP hu hne hm ht

end Below

/-! ## Values of the request -/

theorem failsFor_absent : FailsFor P (absent modifier).outcome := by
  unfold absent
  split <;> exact failsFor_ok _

/-- Where the values of a request path lead below a root, it crosses no more links than are
allowed, or that it is too deep is among the reasons. -/
def BlamesDepth (P : PathError → Prop) (s : Scope) (path : String) (segments : List String) :
    Prop :=
  ∀ root rest route left, RootOf s segments root rest → Crosses s ⟨root, []⟩ rest route left →
    s.maxHops < route.hops → P (.tooDeep path s.maxHops)

section Request

variable {request : Request} (hP : BlamesForm P path marked)
include hP

theorem failsFor_submittedValue {value : Option Json} {kind : Option FieldKind}
    (hm : modifier ≠ none → marked) :
    FailsFor P (submittedValue path value modifier kind).outcome := by
  unfold submittedValue
  rcases modifier with _ | _ | _ | _ | _
  · rcases value with _ | v
    · exact failsFor_ok _
    · cases v <;> exact failsFor_ok _
  · rcases value with _ | v
    · exact failsFor_ok _
    · cases v <;> exact failsFor_ok _
  · exact failsFor_error (hP.modifier (hm (by simp)) _ _)
  · exact failsFor_error (hP.modifier (hm (by simp)) _ _)
  · exact failsFor_ok _

theorem failsFor_readRequest {kind : Option FieldKind} (hs : IsMarked segments → marked)
    (hm : modifier ≠ none → marked) :
    FailsFor P (readRequest path request segments modifier kind).outcome := by
  unfold readRequest
  split
  · next e h => exact failsFor_error (failsFor_withoutModifier hP hs e h)
  · exact failsFor_submittedValue hP hm

theorem failsFor_ofAuth (hq : s.request = some request)
    (hr : requestModifier ("auth" :: segments) = .ok modifier) (hne : segments = [] → marked)
    (hs : IsMarked segments → marked) (hm : modifier ≠ none → marked)
    (ht : BlamesDepth P s path ("@request" :: "auth" :: segments)) :
    FailsFor P (ofAuth s path request segments modifier).outcome := by
  unfold ofAuth
  split
  · exact failsFor_error (hP.format (hne rfl))
  · exact failsFor_absent
  · next first rest a ha =>
    split
    · next e h =>
      refine failsFor_error (failsFor_splitModifier hP (fun hc => hs ?_) e h)
      exact ⟨first, List.mem_cons_self, hc⟩
    · next name own ho =>
      simp only
      split
      · split
        · next e h => exact failsFor_error (failsFor_withoutModifier hP hs e h)
        · exact failsFor_submittedValue hP hm
      · next hd =>
        split
        · exact failsFor_ok _
        · next c hc =>
          have hroot : RootOf s ("@request" :: "auth" :: first :: rest) (.auth c a.id)
              (first :: rest) := .auth hq ha hr ho (Bool.eq_false_iff.2 hd) hc
          exact failsFor_below hP (.inl rfl) (by simp) hs
            (fun route left => ht _ _ route left hroot) rfl

theorem failsFor_ofBody (hq : s.request = some request)
    (hr : requestModifier ("body" :: segments) = .ok modifier) (hne : segments = [] → marked)
    (hs : IsMarked segments → marked) (hm : modifier ≠ none → marked)
    (ht : BlamesDepth P s path ("@request" :: "body" :: segments)) :
    FailsFor P (ofBody s path request segments modifier).outcome := by
  have hbody : IsMarked ("body" :: segments) → marked := by
    rintro ⟨segment, h, hc⟩
    rcases List.mem_cons.1 h with rfl | h
    · exact absurd hc (by decide)
    · exact hs ⟨segment, h, hc⟩
  unfold ofBody
  split
  · exact failsFor_error (hP.format (hne rfl))
  · next last =>
    split
    · next e h =>
      refine failsFor_error (failsFor_splitModifier hP (fun hc => hs ?_) e h)
      exact ⟨last, List.mem_cons_self, hc⟩
    · split
      · exact failsFor_readRequest hP hbody hm
      · split
        · exact failsFor_ok _
        · exact failsFor_ok _
        · exact failsFor_readRequest hP hbody hm
  · next key rest hne' =>
    split
    · exact failsFor_readRequest hP hbody hm
    · exact failsFor_readRequest hP hbody hm
    · next ref hf hi =>
      split
      · exact failsFor_ok _
      · next target hc =>
        simp only
        split
        · exact failsFor_ok _
        · next hn =>
          obtain ⟨f, hf, hk⟩ := Option.bind_eq_some_iff.1 hf
          cases rest with
          | nil => exact absurd rfl hne'
          | cons next rest =>
            have hroot := RootOf.submitted hq hr hi hf hk hc (by simpa using hn)
            exact failsFor_below hP (.inl rfl) (by simp) (fun h => hs h.cons)
              (fun route left => ht _ _ route left hroot) rfl

/-- What may stand after `@request`: a part whose values stand in the request itself, or one that
is read by key. -/
inductive IsRequestForm : List String → Prop
  | plain {part : String} {rest : List String} (h : part ∈ plainParts) :
      IsRequestForm (part :: rest)
  | keyed {part first : String} {rest : List String} (h : part = "auth" ∨ part = "body") :
      IsRequestForm (part :: first :: rest)

theorem failsFor_ofRequest (hf : ¬ IsRequestForm segments → marked)
    (hs : IsMarked segments → marked) (ht : BlamesDepth P s path ("@request" :: segments)) :
    FailsFor P (ofRequest s path segments).outcome := by
  have hlast : ':' ∈ (segments.getLast?.getD "").toList → marked :=
    fun hc => hs (isMarked_of_last hc)
  unfold ofRequest
  split
  · next e h => exact failsFor_error (failsFor_splitModifier hP hlast e h)
  · next name modifier h =>
    have hr : requestModifier segments = .ok modifier := by
      rw [requestModifier, h]
      rfl
    have hm (hn : modifier ≠ none) : marked := hlast (colon_of_splitModifier h hn)
    have keyless {part : String} (hp : part ∉ plainParts) : ¬ IsRequestForm [part] := by
      rintro ⟨h⟩
      exact hp h
    split
    · exact failsFor_absent
    · next request rest hq =>
      refine failsFor_ofAuth hP hq hr (fun h => hf ?_) (fun h => hs h.cons) hm ht
      exact h ▸ keyless (by decide)
    · next request rest hq =>
      refine failsFor_ofBody hP hq hr (fun h => hf ?_) (fun h => hs h.cons) hm ht
      exact h ▸ keyless (by decide)
    · next request part rest hauth hbody hq =>
      split
      · exact failsFor_readRequest hP hs hm
      · next hp =>
        refine failsFor_error (hP.format (hf ?_))
        rintro (h | h | h)
        · exact hp (by simpa [plainParts] using h)
        · exact hauth h
        · exact hbody h
    · exact failsFor_error (hP.format (hf (by rintro ⟨⟩)))

end Request

/-! ## Paths -/

theorem blamesForm_refusal (s : Scope) (path : String) :
    BlamesForm (Refusal s path) path True where
  format _ := .invalidFormat
  modifier _ := .invalidModifier

theorem refuses_below : Refuses s path (below s path root segments).outcome :=
  failsFor_below (blamesForm_refusal s path) (.inr .unknownField) (fun _ => trivial)
    (fun _ => trivial) (fun _ _ _ _ => .tooDeep) rfl

theorem refuses_ofCollection : Refuses s path (ofCollection s path segments).outcome := by
  rcases segments with _ | ⟨first, _ | ⟨second, rest⟩⟩
  · exact failsFor_error .invalidFormat
  · exact failsFor_error .invalidFormat
  · rw [ofCollection_cons]
    split
    · exact failsFor_error .unknownField
    · exact refuses_below

/-- The plan of a path fails for one of the reasons or not at all. -/
theorem refuses_ofPath (s : Scope) (path : String) : Refuses s path (ofPath s path).outcome := by
  unfold ofPath
  simp only
  split
  · exact failsFor_error .invalidFormat
  · split
    · exact failsFor_ofRequest (blamesForm_refusal s path) (fun _ => trivial) (fun _ => trivial)
        (fun _ _ _ _ _ _ _ => .tooDeep)
    · exact refuses_ofCollection
    · exact refuses_below

end Plan

end RecordFilter
