import RecordFilter.Filter.Build

/-!
# Requests that differ in what they say

Two requests are `Alike` if they differ only in the texts of the context, the method, the query
and the headers, and where one text is empty so is the other. A path then has the same plan for
both, up to a bound value: `Plan.alike_ofPath`.
-/

namespace RecordFilter

def SameEmptiness (s t : String) : Prop := s = "" ↔ t = ""

instance (s t : String) : Decidable (SameEmptiness s t) :=
  inferInstanceAs (Decidable (s = "" ↔ t = ""))

theorem isBlankValue_text {s t : String} (h : SameEmptiness s t) :
    Resolution.isBlankValue (some (.text s)) = Resolution.isBlankValue (some (.text t)) := by
  rw [Bool.eq_iff_iff]
  show s.isEmpty = true ↔ t.isEmpty = true
  rw [String.isEmpty_iff, String.isEmpty_iff]
  exact h

/-! ## Values -/

namespace Request

structure Alike (q q' : Request) : Prop where
  context : SameEmptiness q.context q'.context
  method : SameEmptiness q.method q'.method
  query : ∀ key, Option.Rel SameEmptiness (Json.find? key q.query) (Json.find? key q'.query)
  headers : ∀ key,
    Option.Rel SameEmptiness (Json.find? key q.headers) (Json.find? key q'.headers)
  body : q.body = q'.body
  auth : q.auth = q'.auth

/-- The same value, or two texts of the same emptiness. -/
inductive AlikeValues : Option Json → Option Json → Prop
  | same (v : Option Json) : AlikeValues v v
  | text {s t : String} (h : SameEmptiness s t) : AlikeValues (some (.text s)) (some (.text t))

theorem alikeValues_map {v w : Option String} (h : Option.Rel SameEmptiness v w) :
    AlikeValues (v.map .text) (w.map .text) := by
  cases h with
  | some h => exact .text h
  | none => exact .same none

variable {q q' : Request}

theorem itemsOf_eq_of_body (h : q.body = q'.body) (key : String) :
    q.itemsOf key = q'.itemsOf key := by
  unfold itemsOf; rw [h]

theorem value?_body (q : Request) (key : String) (rest : List String) :
    q.value? ("body" :: key :: rest) = (Json.find? key q.body).bind (submittedAt · rest) := rfl

theorem Alike.value? (h : q.Alike q') (segments : List String) :
    AlikeValues (q.value? segments) (q'.value? segments) := by
  unfold Request.value?
  split
  · exact .text h.context
  · exact .text h.method
  · exact alikeValues_map (h.query _)
  · exact alikeValues_map (h.headers _)
  · rw [h.body]; exact .same _
  · exact .same none

end Request

/-! ## Plans -/

def Scope.withRequest (s : Scope) (q : Option Request) : Scope := { s with request := q }

@[simp] theorem Scope.request_withRequest (s : Scope) (q : Option Request) :
    (s.withRequest q).request = q := rfl

namespace Plan

open Request (AlikeValues)

/-- The same plan, or two that bind values of which both are blank or neither is. -/
inductive Alike : Plan → Plan → Prop
  | same (p : Plan) : Alike p p
  | bound {v w : Json} (lower : Bool)
      (h : Resolution.isBlankValue (some v) = Resolution.isBlankValue (some w)) :
      Alike (direct (.bound v lower)) (direct (.bound w lower))

theorem Alike.of_eq {p p' : Plan} (h : p = p') : Alike p p' := h ▸ .same p

variable {s : Scope} {path : String} {q q' : Request} {modifier : Option Modifier}

/-! ### Below a root -/

theorem walk_withRequest (o : Option Request) (r : Route) (segments : List String) :
    walk (s.withRequest o) path r segments = walk s path r segments := by
  induction segments generalizing r with
  | nil => rfl
  | cons segment rest ih =>
    cases rest with
    | nil => rfl
    | cons next rest =>
      have ht : turn (s.withRequest o) r segment (next :: rest) =
          turn s r segment (next :: rest) := rfl
      unfold walk
      rw [ht]
      split
      · rfl
      · rfl
      · rfl
      · rfl
      · next l hl =>
        rw [ih]
        rfl

theorem below_withRequest (o : Option Request) (root : Root) (segments : List String) :
    below (s.withRequest o) path root segments = below s path root segments := by
  unfold below
  rw [walk_withRequest]

/-! ### Values of requests -/

theorem alike_submittedValue {v w : Option Json} (h : AlikeValues v w) :
    Alike (submittedValue path v modifier none) (submittedValue path w modifier none) := by
  cases h with
  | same v => exact .same _
  | @text a b h =>
    have hb := isBlankValue_text h
    rcases modifier with _ | _ | _ | _ | _
    · exact .bound false hb
    · exact .bound true hb
    · exact .same _
    · exact .same _
    · exact .same _

theorem alike_readRequest (h : q.Alike q') (segments : List String) :
    Alike (readRequest path q segments modifier none)
      (readRequest path q' segments modifier none) := by
  unfold readRequest
  split
  · exact .same _
  · exact alike_submittedValue (h.value? _)

/-- Taking the modifier away leaves the first of several segments alone. -/
theorem withoutModifier_cons {first next : String} {rest segments : List String}
    (h : withoutModifier (first :: next :: rest) = .ok segments) :
    ∃ below, segments = first :: below := by
  unfold withoutModifier at h
  split at h
  · next hl => simp at hl
  · next last hl =>
    cases hm : splitModifier last with
    | error e => rw [hm] at h; cases h
    | ok nm => rw [hm] at h; cases h; exact ⟨_, rfl⟩

theorem readRequest_body (h : q.body = q'.body) (key : String) (rest : List String)
    (kind : Option FieldKind) :
    readRequest path q ("body" :: key :: rest) modifier kind =
      readRequest path q' ("body" :: key :: rest) modifier kind := by
  unfold readRequest
  cases hw : withoutModifier ("body" :: key :: rest) with
  | error e => rfl
  | ok segments =>
    obtain ⟨below, rfl⟩ := withoutModifier_cons hw
    cases below with
    | nil => rfl
    | cons key rest =>
      simp only
      rw [Request.value?_body, Request.value?_body, h]

section Parts

variable (o o' : Option Request) (segments : List String)

theorem ofAuth_withRequest (h : q.auth = q'.auth) :
    ofAuth (s.withRequest o) path q segments modifier =
      ofAuth (s.withRequest o') path q' segments modifier := by
  unfold ofAuth
  rw [h]
  simp only [below_withRequest]
  rfl

theorem submittedItems_withRequest (h : q.body = q'.body) (key : String) (f : Field) :
    submittedItems (s.withRequest o) q key f = submittedItems (s.withRequest o') q' key f := by
  unfold submittedItems
  rw [Request.itemsOf_eq_of_body h]
  rfl

theorem ofBody_withRequest (h : q.body = q'.body) :
    ofBody (s.withRequest o) path q segments modifier =
      ofBody (s.withRequest o') path q' segments modifier := by
  unfold ofBody
  simp only [below_withRequest, submittedItems_withRequest o o' h,
    Request.itemsOf_eq_of_body h]
  cases segments with
  | nil => rfl
  | cons key rest =>
    simp only [readRequest_body h]
    rfl

end Parts

/-! ### Paths -/

theorem ofCollection_withRequest (o : Option Request) (rest : List String) :
    ofCollection (s.withRequest o) path rest = ofCollection s path rest := by
  unfold ofCollection
  simp only [below_withRequest]
  rfl

theorem alike_ofRequest {o o' : Option Request} (h : Option.Rel Request.Alike o o')
    (segments : List String) :
    Alike (ofRequest (s.withRequest o) path segments)
      (ofRequest (s.withRequest o') path segments) := by
  unfold ofRequest
  split
  · exact .same _
  · next name modifier hm =>
    cases h with
    | none => exact .same _
    | @some q q' h =>
      simp only [Scope.request_withRequest]
      split
      · next hq => cases hq
      · next request rest hq =>
        cases hq
        exact .of_eq (ofAuth_withRequest _ _ _ h.auth)
      · next request rest hq =>
        cases hq
        exact .of_eq (ofBody_withRequest _ _ _ h.body)
      · next request part rest hna hnb hq =>
        cases hq
        split
        · exact alike_readRequest h _
        · exact .same _
      · exact .same _

/-- A path has alike plans for alike requests. -/
theorem alike_ofPath {o o' : Option Request} (h : Option.Rel Request.Alike o o') (path : String) :
    Alike (ofPath (s.withRequest o) path) (ofPath (s.withRequest o') path) := by
  unfold ofPath
  simp only
  split
  · exact .same _
  · split
    · exact alike_ofRequest h _
    · rw [ofCollection_withRequest, ofCollection_withRequest]; exact .same _
    · rw [below_withRequest, below_withRequest]; exact .same _

end Plan

end RecordFilter
