import RecordFilter.Proofs.Walk

/-!
# Where paths start

`Starts s path root segments` says that a path leads to a root and what it reads below. A path
that leads to no root fails, stands for a constant, for one value of the request or for the
submitted items of a field: `Plan.kind_ofPath` lists the kinds of plans, and `Plan.below_laid`
says what all plans below a root have in common.
-/

namespace RecordFilter

open Sql (Expr Join)

namespace Plan

/-- The collection that a segment after `@collection` names, and the alias chosen for it. -/
def collectionKey (first : String) : String × Option String :=
  match Text.cut ':' first.toList with
  | some (name, chosen) => (String.ofList name, some (String.ofList chosen))
  | none => (first, none)

/-- The modifier at the end of a path that starts with `@request`. -/
def requestModifier (rest : List String) : Except PathError (Option Modifier) :=
  (splitModifier (rest.getLast?.getD "")).map Prod.snd

/-- The root that segments lead to, and the segments below it. -/
inductive RootOf (s : Scope) : List String → Root → List String → Prop
  | base {first : String} {rest : List String} (hr : first ≠ "@request")
      (hc : first ≠ "@collection") : RootOf s (first :: rest) (.base s.base) (first :: rest)
  | anyOf {first second : String} {rest : List String} {c : Collection}
      (hc : s.catalog.find? (collectionKey first).1 = some c) :
      RootOf s ("@collection" :: first :: second :: rest) (.anyOf c (collectionKey first).2)
        (second :: rest)
  | auth {request : Request} {a : AuthRecord} {c : Collection} {first name : String}
      {rest : List String} {own modifier : Option Modifier}
      (hq : s.request = some request) (ha : request.auth = some a)
      (hm : requestModifier ("auth" :: first :: rest) = .ok modifier)
      (ho : splitModifier first = .ok (name, own))
      (hd : (modifier = some .isset || (rest.isEmpty && carriedFields.contains name)) = false)
      (hc : s.catalog.find? a.collectionId = some c) :
      RootOf s ("@request" :: "auth" :: first :: rest) (.auth c a.id) (first :: rest)
  | submitted {request : Request} {f : Field} {ref : Reference} {target : Collection}
      {key next : String} {rest : List String} {modifier : Option Modifier}
      (hq : s.request = some request)
      (hm : requestModifier ("body" :: key :: next :: rest) = .ok modifier)
      (hi : modifier ≠ some .isset)
      (hf : s.base.field? key = some f) (hr : f.kind.reference? = some ref)
      (hc : s.catalog.find? ref.target = some target) (hn : request.itemsOf key ≠ []) :
      RootOf s ("@request" :: "body" :: key :: next :: rest)
        (.submitted target key (request.itemsOf key) ref.multiple) (next :: rest)

theorem RootOf.suffix {s : Scope} {segments rest : List String} {root : Root}
    (h : RootOf s segments root rest) : rest <:+ segments := by
  cases h with
  | base => exact List.suffix_rfl
  | anyOf => exact ⟨[_, _], rfl⟩
  | submitted => exact ⟨[_, _, _], rfl⟩
  | auth => exact ⟨[_, _], rfl⟩

theorem RootOf.ne_nil {s : Scope} {segments rest : List String} {root : Root}
    (h : RootOf s segments root rest) : rest ≠ [] := by
  cases h <;> exact List.cons_ne_nil _ _

def Starts (s : Scope) (path : String) (root : Root) (rest : List String) : Prop :=
  "" ∉ segmentsOf path ∧ RootOf s (segmentsOf path) root rest

/-- Values that do not depend on the row: NULL, a truth value or a count. -/
inductive IsConstant : Expr → Prop
  | null : IsConstant .null
  | bool (b : Bool) : IsConstant (.bool b)
  | numeral (n : Nat) : IsConstant (.numeral n)

/-- The kinds of plans. -/
inductive Kind (s : Scope) (path : String) (segments : List String) : Plan → Prop
  | fail (e : PathError) : Kind s path segments (fail e)
  | constant {v : Expr} (hv : IsConstant v) :
      Kind s path segments (direct (.fixed { value := v }))
  | bound (v : Json) (lower : Bool) : Kind s path segments (direct (.bound v lower))
  | below {root : Root} {rest : List String} (h : RootOf s segments root rest) :
      Kind s path segments (below s path root rest)
  | items {request : Request} {key : String} {f : Field} {last : String}
      (hq : s.request = some request) (hf : s.base.field? key = some f)
      (hk : f.kind.holdsItems = true) (hs : segments = ["@request", "body", last])
      (hm : splitModifier last = .ok (key, some .each)) :
      Kind s path segments (submittedItems s request key f)

variable {s : Scope} {path : String} {segments : List String}

theorem kind_null : Kind s path segments null := .constant .null

theorem kind_absent (modifier : Option Modifier) : Kind s path segments (absent modifier) := by
  unfold absent
  split
  · exact .constant (.bool _)
  · exact kind_null

theorem kind_submittedValue (value : Option Json) (modifier : Option Modifier)
    (kind : Option FieldKind) : Kind s path segments (submittedValue path value modifier kind) := by
  unfold submittedValue
  rcases modifier with _ | _ | _ | _ | _
  · rcases value with _ | v
    · exact kind_null
    · cases v <;> first | exact kind_null | exact .bound _ _
  · rcases value with _ | v
    · exact kind_null
    · cases v <;> first | exact kind_null | exact .bound _ _
  · exact .fail _
  · exact .fail _
  · exact .constant (.bool _)

theorem kind_readRequest (request : Request) (below : List String)
    (modifier : Option Modifier) (kind : Option FieldKind) :
    Kind s path segments (readRequest path request below modifier kind) := by
  unfold readRequest
  split
  · exact .fail _
  · exact kind_submittedValue _ _ _

theorem kind_ofAuth {request : Request} {rest : List String} {modifier : Option Modifier}
    (hq : s.request = some request)
    (hm : requestModifier ("auth" :: rest) = .ok modifier) :
    Kind s path ("@request" :: "auth" :: rest) (ofAuth s path request rest modifier) := by
  unfold ofAuth
  split
  · exact .fail _
  · exact kind_absent _
  · next first rest a ha =>
    split
    · exact .fail _
    · next name own ho =>
      simp only
      split
      · split
        · exact .fail _
        · exact kind_submittedValue _ _ _
      · next hd =>
        split
        · exact kind_null
        · next c hc => exact .below (.auth hq ha hm ho (Bool.eq_false_iff.2 hd) hc)

theorem kind_ofBody {request : Request} {rest : List String} {modifier : Option Modifier}
    (hq : s.request = some request)
    (hm : requestModifier ("body" :: rest) = .ok modifier) :
    Kind s path ("@request" :: "body" :: rest) (ofBody s path request rest modifier) := by
  unfold ofBody
  split
  · exact .fail _
  · next last =>
    split
    · exact .fail _
    · next key own ho =>
      split
      · exact kind_readRequest _ _ _ _
      · next f hf =>
        split
        · next hk =>
          have hown : some Modifier.each = own := by
            simpa [requestModifier, ho, Except.map] using hm.symm
          exact .items hq hf hk rfl (hown ▸ ho)
        · exact .constant (.numeral _)
        · exact kind_readRequest _ _ _ _
  · next key rest hne =>
    split
    · exact kind_readRequest _ _ _ _
    · exact kind_readRequest _ _ _ _
    · next ref hr hi =>
      split
      · exact kind_null
      · next target hc =>
        simp only
        split
        · exact kind_null
        · next hn =>
          obtain ⟨f, hf, hr⟩ := Option.bind_eq_some_iff.1 hr
          cases rest with
          | nil => exact absurd rfl hne
          | cons next rest =>
            exact .below (.submitted hq hm hi hf hr hc (by simpa using hn))

theorem kind_ofRequest (rest : List String) :
    Kind s path ("@request" :: rest) (ofRequest s path rest) := by
  unfold ofRequest
  split
  · exact .fail _
  · next name modifier hm =>
    have hm' : requestModifier rest = .ok modifier := by simp [requestModifier, hm, Except.map]
    split
    · exact kind_absent _
    · next request rest hq => exact kind_ofAuth hq hm'
    · next request rest hq => exact kind_ofBody hq hm'
    · split
      · exact kind_readRequest _ _ _ _
      · exact .fail _
    · exact .fail _

theorem ofCollection_cons (s : Scope) (path first second : String) (rest : List String) :
    ofCollection s path (first :: second :: rest) =
      match s.catalog.find? (collectionKey first).1 with
      | none => fail (.unknownField path)
      | some c => below s path (.anyOf c (collectionKey first).2) (second :: rest) := rfl

theorem kind_ofCollection (rest : List String) :
    Kind s path ("@collection" :: rest) (ofCollection s path rest) := by
  rcases rest with _ | ⟨first, _ | ⟨second, rest⟩⟩
  · exact .fail _
  · exact .fail _
  · rw [ofCollection_cons]
    split
    · exact .fail _
    · next c hc => exact .below (.anyOf hc)

/-- Every plan is of one of the kinds. -/
theorem kind_ofPath (s : Scope) (path : String) :
    Kind s path (segmentsOf path) (ofPath s path) := by
  unfold ofPath
  simp only
  split
  · exact .fail _
  · split
    · next rest hp => rw [hp]; exact kind_ofRequest rest
    · next rest hp => rw [hp]; exact kind_ofCollection rest
    · next hr hc =>
      cases hp : segmentsOf path with
      | nil => exact absurd hp (by simp [segmentsOf, Text.pieces_ne_nil])
      | cons first rest =>
        exact .below (.base (fun h => hr rest (h ▸ hp)) fun h => hc rest (h ▸ hp))

theorem ofPath_of_emptySegment (h : "" ∈ segmentsOf path) :
    ofPath s path = fail (.invalidFormat path) := by
  have hc : (segmentsOf path).contains "" = true := by simpa using h
  unfold ofPath
  simp only [hc, if_true]

/-- Only a path without empty segments comes to something. -/
theorem nonempty_of_outcome {o : Outcome} (h : (ofPath s path).outcome = .ok o) :
    "" ∉ segmentsOf path := by
  intro hm
  rw [ofPath_of_emptySegment hm] at h
  cases h

theorem ofPath_of_request {rest : List String} (h : "" ∉ segmentsOf path)
    (hs : segmentsOf path = "@request" :: rest) : ofPath s path = ofRequest s path rest := by
  have hc : ("@request" :: rest).contains "" = false := by
    rw [← hs]
    simpa using h
  unfold ofPath
  simp only [hs, hc, Bool.false_eq_true, if_false]

theorem ofPath_of_collection {rest : List String} (h : "" ∉ segmentsOf path)
    (hs : segmentsOf path = "@collection" :: rest) :
    ofPath s path = ofCollection s path rest := by
  have hc : ("@collection" :: rest).contains "" = false := by
    rw [← hs]
    simpa using h
  unfold ofPath
  simp only [hs, hc, Bool.false_eq_true, if_false]

theorem splitModifier_of_requestModifier {rest : List String} {modifier : Option Modifier}
    (h : requestModifier rest = .ok modifier) :
    ∃ name, splitModifier (rest.getLast?.getD "") = .ok (name, modifier) := by
  unfold requestModifier at h
  cases hm : splitModifier (rest.getLast?.getD "") with
  | error e => simp [hm, Except.map] at h
  | ok nm =>
    obtain ⟨name, m⟩ := nm
    simp only [hm, Except.map, Except.ok.injEq] at h
    exact ⟨name, by rw [← h]⟩

theorem ofPath_of_starts {root : Root} {rest : List String} (h : Starts s path root rest) :
    ofPath s path = below s path root rest := by
  obtain ⟨he, h⟩ := h
  have hn : (segmentsOf path).contains "" = false := by simpa using he
  unfold ofPath
  simp only [hn, Bool.false_eq_true, if_false]
  generalize segmentsOf path = segments at h
  cases h with
  | base hr hc =>
    split
    · next h => exact absurd (List.cons.inj h).1 hr
    · next h => exact absurd (List.cons.inj h).1 hc
    · rfl
  | anyOf hc =>
    simp only [ofCollection_cons, hc]
  | auth hq ha hm ho hd hc =>
    obtain ⟨name, hm⟩ := splitModifier_of_requestModifier hm
    simp only [ofRequest, hm, hq]
    simp only [ofAuth, ha, ho, hd, hc, Bool.false_eq_true, if_false]
  | @submitted request f ref target key next rest modifier hq hm hi hf hr hc hn =>
    obtain ⟨name, hm⟩ := splitModifier_of_requestModifier hm
    have href : ((s.base.field? key).bind fun f => f.kind.reference?) = some ref := by
      rw [hf]; exact hr
    have hne : (request.itemsOf key).isEmpty = false := by simpa using hn
    simp only [ofRequest, hm, hq]
    unfold ofBody
    simp only [href, hc, hne, Bool.false_eq_true, if_false]

theorem ofPath_of_items {last key : String} {request : Request} {f : Field}
    (hs : segmentsOf path = ["@request", "body", last])
    (hm : splitModifier last = .ok (key, some .each)) (hq : s.request = some request)
    (hf : s.base.field? key = some f) (hk : f.kind.holdsItems = true) :
    ofPath s path = submittedItems s request key f := by
  have hne : "" ∉ segmentsOf path := by
    rw [hs]
    have hlast : "" ≠ last := by
      rintro rfl
      cases hm
    simpa using hlast
  rw [ofPath_of_request hne hs]
  simp only [ofRequest, List.getLast?_cons_cons, List.getLast?_singleton, Option.getD_some, hm, hq]
  simp only [ofBody, hm, hf, hk]

/-- A path starts at the base: its first segment is no name for another root. -/
def IsOwn (path : String) : Prop :=
  (segmentsOf path).head? ≠ some "@request" ∧ (segmentsOf path).head? ≠ some "@collection"

instance (path : String) : Decidable (IsOwn path) :=
  inferInstanceAs (Decidable (_ ∧ _))

theorem starts_of_isOwn (h : IsOwn path) (he : "" ∉ segmentsOf path) :
    Starts s path (.base s.base) (segmentsOf path) := by
  refine ⟨he, ?_⟩
  obtain ⟨hr, hc⟩ := h
  cases hp : segmentsOf path with
  | nil => exact absurd hp (by simp [segmentsOf, Text.pieces_ne_nil])
  | cons first rest =>
    rw [hp] at hr hc
    exact .base (fun h => hr (congrArg some h)) fun h => hc (congrArg some h)

theorem ofPath_of_isOwn (h : IsOwn path) :
    ofPath s path = fail (.invalidFormat path) ∨
      ofPath s path = below s path (.base s.base) (segmentsOf path) := by
  by_cases he : "" ∈ segmentsOf path
  · exact .inl (ofPath_of_emptySegment he)
  · exact .inr (ofPath_of_starts (starts_of_isOwn h he))

/-! ## Plans below a root -/

/-- A plan along some route from a root. What it resolves to has no parameters of its own. -/
def LaidFrom (root : Root) (p : Plan) : Prop :=
  ∃ (r : Route) (extra : List Join) (outcome : Except PathError Outcome),
    r.root = root ∧ p = along r extra outcome ∧
      ∀ o, outcome = .ok o → ∃ res : Resolution, o = .fixed res ∧ res.params = []

theorem below_laid (s : Scope) (path : String) (root : Root) (segments : List String) :
    LaidFrom root (below s path root segments) := by
  obtain ⟨r, rest, hr, -, he⟩ := ends_below s path root segments
  generalize below s path root segments = p at he
  cases he with
  | fails e => exact ⟨r, _, _, hr.root_eq, rfl, by simp⟩
  | nothing => exact ⟨r, _, _, hr.root_eq, rfl, by rintro _ ⟨⟩; exact ⟨_, rfl, rfl⟩⟩
  | reads how visibleIn =>
    exact ⟨r, _, _, hr.root_eq, rfl, by rintro _ ⟨⟩; exact ⟨_, rfl, rfl⟩⟩

/-- The bindings of a plan below a root are those of the root. -/
theorem bindings_below (s : Scope) (path : String) (root : Root) (segments : List String) :
    (below s path root segments).bindings = root.bindings := by
  obtain ⟨r, extra, outcome, hr, hp, -⟩ := below_laid s path root segments
  rw [hp, ← hr]
  rfl

end Plan

end RecordFilter
