import RecordFilter.Proofs.AlikeRequests
import RecordFilter.Proofs.BodyPaths
import RecordFilter.Proofs.Params
import RecordFilter.Proofs.Refusals
import RecordFilter.Proofs.Resolve

/-!
# Values of the request

`Request.Holds` says where a request has a value: under a key of its query or its headers, below a
submitted value or in the record that signed in. A path that reads such a value and joins nothing
(`Plan.IsStatic`) looks for what the request holds there (`Plan.ofPath_of_isStatic`). So a value
that is absent and one that is null come to NULL and bind nothing, any other one is bound, the empty
text too, and whether there is one at all is told by `:isset` (`Resolver.resolve_static`).
-/

namespace RecordFilter

open Sql (Params)

/-! ## Where values are -/

namespace Json

/-- Keys and indexes lead from a value to one below it. -/
inductive Reaches : Json → List String → Json → Prop
  | here (v : Json) : Reaches v [] v
  | member {members : List (String × Json)} {key : String} {v w : Json} {keys : List String}
      (hk : find? key members = some v) (h : Reaches v keys w) :
      Reaches (.object members) (key :: keys) w
  | item {values : List Json} {key : String} {i : Nat} {v w : Json} {keys : List String}
      (hi : index? key = some i) (hv : values[i]? = some v) (h : Reaches v keys w) :
      Reaches (.list values) (key :: keys) w

theorem descend_eq_some_iff {v w : Json} {keys : List String} :
    v.descend keys = some w ↔ v.Reaches keys w := by
  constructor
  · intro h
    induction keys generalizing v with
    | nil =>
      cases h
      exact .here _
    | cons key keys ih =>
      obtain ⟨c, hc, hd⟩ := Option.bind_eq_some_iff.1 h
      cases v with
      | object members => exact .member hc (ih hd)
      | list values =>
        obtain ⟨i, hi, hv⟩ := Option.bind_eq_some_iff.1 hc
        exact .item hi hv (ih hd)
      | null | bool | number | text => cases hc
  · intro h
    induction h with
    | here => rfl
    | member hk _ ih => rw [descend, child?, hk, Option.bind_some, ih]
    | item hi hv _ ih => rw [descend, child?, hi, Option.bind_some, hv, Option.bind_some, ih]

end Json

/-- A request has a value where keys lead. A document that is submitted is the text that was
submitted for it, and what stands below it is read from the value that it writes. -/
inductive Request.Holds (catalog : Catalog) (q : Request) : List String → Json → Prop
  | query {key t : String} (h : Json.find? key q.query = some t) :
      Holds catalog q ["query", key] (.text t)
  | headers {key t : String} (h : Json.find? key q.headers = some t) :
      Holds catalog q ["headers", key] (.text t)
  | plain {key : String} {v w : Json} {keys : List String}
      (h : Json.find? key q.body = some (.plain v)) (hr : v.Reaches keys w) :
      Holds catalog q ("body" :: key :: keys) w
  | document {key t : String} (h : Json.find? key q.body = some (.raw t)) :
      Holds catalog q ["body", key] (.text t)
  | below {key t next : String} {v w : Json} {keys : List String}
      (h : Json.find? key q.body = some (.raw t)) (hp : Json.parse t = some v)
      (hr : v.Reaches (next :: keys) w) : Holds catalog q ("body" :: key :: next :: keys) w
  | auth {a : AuthRecord} {w : Json} {keys : List String} (ha : q.auth = some a)
      (hr : (Json.object (a.exported (catalog.find? a.collectionId))).Reaches keys w) :
      Holds catalog q ("auth" :: keys) w

namespace Request

variable {catalog : Catalog} {q : Request} {key : String} {keys : List String} {v : Json}

theorem holds_query : (Json.find? key q.query).map Json.text = some v ↔
    q.Holds catalog ["query", key] v := by
  rw [Option.map_eq_some_iff]
  constructor
  · rintro ⟨t, h, rfl⟩
    exact .query h
  · intro h
    generalize hk : ["query", key] = path at h
    cases h with
    | query h =>
      cases hk
      exact ⟨_, h, rfl⟩
    | _ => simp at hk

theorem holds_headers : (Json.find? key q.headers).map Json.text = some v ↔
    q.Holds catalog ["headers", key] v := by
  rw [Option.map_eq_some_iff]
  constructor
  · rintro ⟨t, h, rfl⟩
    exact .headers h
  · intro h
    generalize hk : ["headers", key] = path at h
    cases h with
    | headers h =>
      cases hk
      exact ⟨_, h, rfl⟩
    | _ => simp at hk

theorem holds_body : (Json.find? key q.body).bind (submittedAt · keys) = some v ↔
    q.Holds catalog ("body" :: key :: keys) v := by
  rw [Option.bind_eq_some_iff]
  constructor
  · rintro ⟨s, hs, h⟩
    cases s with
    | plain w => exact .plain hs (Json.descend_eq_some_iff.1 h)
    | raw t =>
      cases keys with
      | nil =>
        cases h
        exact .document hs
      | cons next keys =>
        obtain ⟨w, hp, hd⟩ := Option.bind_eq_some_iff.1 h
        exact .below hs hp (Json.descend_eq_some_iff.1 hd)
  · intro h
    generalize hk : "body" :: key :: keys = path at h
    cases h with
    | plain hs hr =>
      cases hk
      exact ⟨_, hs, Json.descend_eq_some_iff.2 hr⟩
    | document hs =>
      cases hk
      exact ⟨_, hs, rfl⟩
    | below hs hp hr =>
      cases hk
      exact ⟨_, hs, Option.bind_eq_some_iff.2 ⟨_, hp, Json.descend_eq_some_iff.2 hr⟩⟩
    | _ => simp at hk

theorem holds_auth : q.Holds catalog ("auth" :: keys) v ↔ ∃ a, q.auth = some a ∧
    (Json.object (a.exported (catalog.find? a.collectionId))).descend keys = some v := by
  constructor
  · intro h
    generalize hk : "auth" :: keys = path at h
    cases h with
    | auth ha hr =>
      cases hk
      exact ⟨_, ha, Json.descend_eq_some_iff.2 hr⟩
    | _ => simp at hk
  · rintro ⟨a, ha, hd⟩
    exact .auth ha (Json.descend_eq_some_iff.1 hd)

end Request

/-! ## Paths to values -/

namespace Plan

open Request (Holds)

/-- A path below the request that has the keys as its segments, with a modifier at its end. -/
def Asks (path : String) (keys : List String) (modifier : Option Modifier) : Prop :=
  "" ∉ segmentsOf path ∧ ∃ front last name, segmentsOf path = "@request" :: (front ++ [last]) ∧
    splitModifier last = .ok (name, modifier) ∧ keys = front ++ [name]

/-- Keys whose value stands in the request itself: no relation field is read through and no record
has to be joined. Whether there is a value is looked up in the request in any case. -/
inductive IsStatic (s : Scope) (modifier : Option Modifier) : List String → Prop
  | query (key : String) : IsStatic s modifier ["query", key]
  | headers (key : String) : IsStatic s modifier ["headers", key]
  | body {key : String} {keys : List String}
      (h : keys = [] ∨ (s.base.field? key).bind (·.kind.reference?) = none ∨
        modifier = some .isset) : IsStatic s modifier ("body" :: key :: keys)
  | auth {key : String} {keys : List String}
      (h : keys = [] ∧ key ∈ carriedFields ∨
        modifier = some .isset ∧ (keys = [] ∨ ':' ∉ key.toList)) :
      IsStatic s modifier ("auth" :: key :: keys)

def kindAt (s : Scope) : List String → Option FieldKind
  | ["body", key] => (s.base.field? key).map (·.kind)
  | _ => none

variable {s : Scope} {q : Request} {path last name : String} {keys front : List String}
  {modifier : Option Modifier}

theorem withoutModifier_concat (front : List String)
    (h : splitModifier last = .ok (name, modifier)) :
    withoutModifier (front ++ [last]) = .ok (front ++ [name]) := by
  rw [withoutModifier, List.getLast?_concat]
  simp only [h, List.dropLast_concat]
  rfl

theorem readRequest_concat (path : String) (q : Request) (front : List String)
    (h : splitModifier last = .ok (name, modifier)) (kind : Option FieldKind) :
    readRequest path q (front ++ [last]) modifier kind =
      submittedValue path (q.value? (front ++ [name])) modifier kind := by
  rw [readRequest, withoutModifier_concat front h]

/-- The modifier of a path that reads a value, with its letters in lower case if asked for. -/
def loweredBy (lower : Bool) : Option Modifier := if lower then some .lower else none

/-- A value that is absent or null comes to NULL. -/
theorem submittedValue_absent {value : Option Json} (lower : Bool) (kind : Option FieldKind)
    (h : ∀ v, value = some v → v = .null) :
    submittedValue path value (loweredBy lower) kind = null := by
  cases value with
  | none => cases lower <;> rfl
  | some v =>
    rw [h v rfl]
    cases lower <;> rfl

theorem submittedValue_present {v : Json} (lower : Bool) (kind : Option FieldKind)
    (h : v ≠ .null) :
    submittedValue path (some v) (loweredBy lower) kind =
      direct (.bound (if lower then .text (v.fitted kind).plainText else v.fitted kind) lower) := by
  cases lower <;> cases v <;> first | exact absurd rfl h | rfl

def IsReading (modifier : Option Modifier) : Prop :=
  modifier = none ∨ modifier = some .lower ∨ modifier = some .isset

theorem isReading_loweredBy (lower : Bool) : IsReading (loweredBy lower) := by
  cases lower
  · exact .inl rfl
  · exact .inr (.inl rfl)

theorem isStatic_body {key : String} : IsStatic s modifier ("body" :: key :: keys) ↔
    keys = [] ∨ (s.base.field? key).bind (·.kind.reference?) = none ∨ modifier = some .isset := by
  refine ⟨fun h => ?_, .body⟩
  generalize hk : "body" :: key :: keys = path at h
  cases h with
  | body h =>
    cases hk
    exact h
  | _ => simp at hk

theorem ofBody_of_isStatic (path : String) (q : Request)
    (h : splitModifier last = .ok (name, modifier))
    (hm : IsReading modifier) (hs : IsStatic s modifier ("body" :: (front ++ [name]))) :
    ofBody s path q (front ++ [last]) modifier =
      submittedValue path (q.value? ("body" :: (front ++ [name]))) modifier
        (kindAt s ("body" :: (front ++ [name]))) := by
  have hread := readRequest_concat path q ("body" :: front) h
  rw [List.cons_append, List.cons_append] at hread
  cases front with
  | nil =>
    rw [List.nil_append] at hread ⊢
    rw [List.nil_append, ofBody]
    simp only [h]
    cases hf : s.base.field? name with
    | none =>
      simp only [kindAt, hf]
      exact hread none
    | some f =>
      simp only [kindAt, hf]
      rcases hm with rfl | rfl | rfl <;> exact hread (some f.kind)
  | cons key rest =>
    obtain ⟨next, below, hb⟩ := List.exists_cons_of_ne_nil (List.concat_ne_nil last rest)
    obtain ⟨other, after, ha⟩ := List.exists_cons_of_ne_nil (List.concat_ne_nil name rest)
    rw [List.cons_append, List.cons_append, hb, ha] at hread
    rw [List.cons_append, ha, isStatic_body] at hs
    rw [List.cons_append, List.cons_append, hb, ha]
    unfold ofBody
    rcases hs.resolve_left (List.cons_ne_nil _ _) with hr | rfl
    · simp only [hr]
      exact hread none
    · cases hr : (s.base.field? key).bind fun f => f.kind.reference? with
      | none =>
        simp only [hr]
        exact hread none
      | some ref =>
        simp only [hr]
        exact hread none

theorem isStatic_auth {key : String} : IsStatic s modifier ("auth" :: key :: keys) ↔
    keys = [] ∧ key ∈ carriedFields ∨
      modifier = some .isset ∧ (keys = [] ∨ ':' ∉ key.toList) := by
  refine ⟨fun h => ?_, .auth⟩
  generalize hk : "auth" :: key :: keys = path at h
  cases h with
  | auth h =>
    cases hk
    exact h
  | _ => simp at hk

theorem absent_eq (hm : IsReading modifier) (kind : Option FieldKind) :
    absent modifier = submittedValue path none modifier kind := by
  rcases hm with rfl | rfl | rfl <;> rfl

/-- The first segment below the record that signed in comes apart, and the record is not joined. -/
theorem first_of_isStatic {first : String} {rest : List String}
    (h : splitModifier last = .ok (name, modifier)) (hf : front ++ [last] = first :: rest)
    (hs : IsStatic s modifier ("auth" :: (front ++ [name]))) :
    ∃ key own, splitModifier first = .ok (key, own) ∧
      (modifier = some .isset || (rest.isEmpty && carriedFields.contains key)) = true := by
  cases front with
  | nil =>
    cases hf
    rw [List.nil_append, isStatic_auth] at hs
    refine ⟨name, modifier, h, ?_⟩
    rcases hs with ⟨-, hc⟩ | ⟨rfl, -⟩
    · simp [hc]
    · rfl
  | cons key front =>
    cases hf
    rw [List.cons_append, isStatic_auth] at hs
    obtain ⟨rfl, hk⟩ := hs.resolve_left fun h => absurd h.1 (by simp)
    exact ⟨first, none, splitModifier_eq (hk.resolve_left (by simp)), rfl⟩

theorem ofAuth_of_isStatic (path : String) (q : Request)
    (h : splitModifier last = .ok (name, modifier))
    (hm : IsReading modifier) (hs : IsStatic s modifier ("auth" :: (front ++ [name]))) :
    ofAuth s path q (front ++ [last]) modifier =
      submittedValue path (q.auth.bind fun a =>
        (Json.object (a.exported (s.catalog.find? a.collectionId))).descend (front ++ [name]))
        modifier none := by
  obtain ⟨first, rest, hf⟩ := List.exists_cons_of_ne_nil (List.concat_ne_nil last front)
  obtain ⟨key, own, hk, hread⟩ := first_of_isStatic h hf hs
  have hw := withoutModifier_concat front h
  rw [hf] at hw ⊢
  unfold ofAuth
  cases ha : q.auth with
  | none => exact absent_eq hm none
  | some a => simp only [hk, hread, hw, if_true, Option.bind_some]

theorem front_of_concat {part key : String} (h : front ++ [name] = part :: key :: keys) :
    ∃ rest, front = part :: rest ∧ rest ++ [name] = key :: keys := by
  cases front with
  | nil => simp at h
  | cons first rest =>
    obtain ⟨rfl, hr⟩ := List.cons.inj h
    exact ⟨rest, rfl, hr⟩

theorem eq_of_concat {part key : String} (h : front ++ [name] = [part, key]) :
    front = [part] ∧ name = key := by
  obtain ⟨rest, rfl, hr⟩ := front_of_concat h
  cases rest with
  | nil => exact ⟨rfl, List.singleton_inj.1 hr⟩
  | cons => simp at hr

theorem last_segment (part : String) (front : List String) (last : String) :
    (part :: (front ++ [last])).getLast?.getD "" = last := by
  rw [← List.cons_append, List.getLast?_concat, Option.getD_some]

section Parts

variable (hq : s.request = some q) (h : splitModifier last = .ok (name, modifier))
include hq h

theorem ofRequest_auth (front : List String) : ofRequest s path ("auth" :: (front ++ [last])) =
    ofAuth s path q (front ++ [last]) modifier := by
  unfold ofRequest
  rw [last_segment]
  simp only [h, hq]

theorem ofRequest_body (front : List String) : ofRequest s path ("body" :: (front ++ [last])) =
    ofBody s path q (front ++ [last]) modifier := by
  unfold ofRequest
  rw [last_segment]
  simp only [h, hq]

theorem ofRequest_pair {part : String} (hp : part = "query" ∨ part = "headers") :
    ofRequest s path [part, last] =
      submittedValue path (q.value? [part, name]) modifier none := by
  have hread := readRequest_concat path q [part] h none
  rw [ofRequest, List.getLast?_cons_cons, List.getLast?_singleton, Option.getD_some]
  simp only [h, hq]
  rcases hp with rfl | rfl <;> exact hread

end Parts

/-- A path to a static value looks for what the request holds where its keys lead. -/
theorem ofPath_of_isStatic (hq : s.request = some q) (ha : Asks path keys modifier)
    (hm : IsReading modifier) (hs : IsStatic s modifier keys) :
    ∃ value, (∀ v, value = some v ↔ q.Holds s.catalog keys v) ∧
      ofPath s path = submittedValue path value modifier (kindAt s keys) := by
  obtain ⟨he, front, last, name, hsegments, h, hk⟩ := ha
  rw [ofPath_of_request he hsegments]
  cases hs with
  | query key =>
    obtain ⟨rfl, rfl⟩ := eq_of_concat hk.symm
    exact ⟨_, fun v => Request.holds_query, ofRequest_pair hq h (.inl rfl)⟩
  | headers key =>
    obtain ⟨rfl, rfl⟩ := eq_of_concat hk.symm
    exact ⟨_, fun v => Request.holds_headers, ofRequest_pair hq h (.inr rfl)⟩
  | @body key keys hs =>
    obtain ⟨rest, rfl, hr⟩ := front_of_concat hk.symm
    have hbody := ofBody_of_isStatic path q h hm
      (show IsStatic s modifier ("body" :: (rest ++ [name])) by rw [hr]; exact .body hs)
    rw [hr] at hbody
    exact ⟨_, fun v => Request.holds_body, (ofRequest_body hq h rest).trans hbody⟩
  | @auth key keys hs =>
    obtain ⟨rest, rfl, hr⟩ := front_of_concat hk.symm
    have hauth := ofAuth_of_isStatic path q h hm
      (show IsStatic s modifier ("auth" :: (rest ++ [name])) by rw [hr]; exact .auth hs)
    rw [hr] at hauth
    refine ⟨_, fun v => ?_, (ofRequest_auth hq h rest).trans hauth⟩
    rw [Request.holds_auth, Option.bind_eq_some_iff]

end Plan

/-! ## What is told apart -/

namespace Resolver

open Plan (Asks IsStatic IsReading loweredBy submittedValue kindAt)

variable {r : Resolver} {q : Request} {path : String} {keys : List String}
  {modifier : Option Modifier}

/-- A path that may be used reads the static value to which keys lead. -/
structure ReadsStatic (r : Resolver) (keys : List String) (modifier : Option Modifier)
    (path : String) : Prop where
  wellFormed : Path.isWellFormed path = true
  admitted : r.allowed.admits path = true
  asks : Asks path keys modifier
  isStatic : IsStatic r.scope modifier keys

theorem commit_bound (r : Resolver) (v : Json) (lower : Bool) :
    ∃ name params, r.commit (.direct (.bound v lower)) =
        (.ok (boundResolution name lower), { r with params }) ∧
      name ∉ r.params.names ∧ params.entries = r.params.entries ++ [(name, v)] :=
  ⟨_, _, rfl, Params.generated_nextNumber _, rfl⟩

theorem resolve_of_readsStatic (hq : r.scope.request = some q) (hm : IsReading modifier)
    (h : ReadsStatic r keys modifier path) :
    ∃ value, (∀ v, value = some v ↔ q.Holds r.scope.catalog keys v) ∧
      r.resolve path = r.commit (submittedValue path value modifier (kindAt r.scope keys)) := by
  obtain ⟨value, hv, hp⟩ := Plan.ofPath_of_isStatic hq h.asks hm h.isStatic
  refine ⟨value, hv, ?_⟩
  rw [((resolve_cases r path).resolve_left fun hn => hn.2 ⟨h.wellFormed, h.admitted⟩).2.2, hp]

/-- A path to a static value resolves. It comes to NULL and leaves the resolver as it was exactly
if there is no value or the value is null; any other value is bound under a new name. With `:isset`
it leaves the resolver as it was and tells whether there is a value. -/
theorem static_values_apart (hq : r.scope.request = some q) :
    (∀ path lower, ReadsStatic r keys (loweredBy lower) path →
      (r.resolve path = (.ok { value := .null }, r) ↔
        ∀ v, q.Holds r.scope.catalog keys v → v = .null) ∧
      ∀ v, q.Holds r.scope.catalog keys v → v ≠ .null →
        ∃ name w params, r.resolve path = (.ok (boundResolution name lower), { r with params }) ∧
          name ∉ r.params.names ∧ params.entries = r.params.entries ++ [(name, w)]) ∧
      ∀ path, ReadsStatic r keys (some .isset) path →
        ∃ b, r.resolve path = (.ok { value := .bool b }, r) ∧
          (b = true ↔ ∃ v, q.Holds r.scope.catalog keys v) := by
  constructor
  · intro path lower h
    obtain ⟨value, hv, hr⟩ := resolve_of_readsStatic hq (Plan.isReading_loweredBy lower) h
    have bound {v : Json} (hh : q.Holds r.scope.catalog keys v) (hn : v ≠ .null) :
        ∃ name w params, r.resolve path = (.ok (boundResolution name lower), { r with params }) ∧
          name ∉ r.params.names ∧ params.entries = r.params.entries ++ [(name, w)] := by
      rw [hr, (hv v).2 hh, Plan.submittedValue_present lower _ hn]
      obtain ⟨name, params, hb⟩ := commit_bound r _ lower
      exact ⟨name, _, params, hb⟩
    refine ⟨⟨fun hnull v hh => ?_, fun hn => ?_⟩, fun v => bound⟩
    · by_contra hne
      obtain ⟨name, w, params, hb, -⟩ := bound hh hne
      rw [hb] at hnull
      cases lower <;> cases hnull
    · rw [hr, Plan.submittedValue_absent lower _ fun v h => hn v ((hv v).1 h)]
      rfl
  · intro path h
    obtain ⟨value, hv, hr⟩ := resolve_of_readsStatic hq (.inr (.inr rfl)) h
    refine ⟨value.isSome, hr, ?_⟩
    rw [Option.isSome_iff_exists]
    exact exists_congr hv

/-! ### A value that is null and one that is empty -/

def notedScope : Scope :=
  { catalog := default
    base := ⟨"posts", "posts", .base, [⟨"title", .text, false⟩]⟩
    request := some
      { body := [("title", .plain (.text "")), ("meta", .plain (.object [("note", .null)]))] } }

/-- The note comes to NULL although it is there, and the title is bound although it is empty. -/
theorem static_values_apart_note :
    resolve { scope := notedScope } "@request.body.meta.note" =
        (.ok { value := .null }, { scope := notedScope }) ∧
      resolve { scope := notedScope } "@request.body.meta.note:isset" =
        (.ok { value := .bool true }, { scope := notedScope }) ∧
      ∃ name w params, resolve { scope := notedScope } "@request.body.title" =
        (.ok (boundResolution name false), { scope := notedScope, params }) ∧
        params.entries = [(name, w)] := by
  have apart (keys : List String) := @static_values_apart { scope := notedScope } _ keys rfl
  obtain ⟨hvalue, hisset⟩ := apart ["body", "meta", "note"]
  obtain ⟨htitle, -⟩ := apart ["body", "title"]
  have note : Request.Holds notedScope.catalog (notedScope.request.getD {})
      ["body", "meta", "note"] .null := .plain rfl (.member rfl (.here _))
  have hnull : ∀ v, Request.Holds notedScope.catalog (notedScope.request.getD {})
      ["body", "meta", "note"] v → v = .null := by
    intro v hv
    rw [← Request.holds_body] at hv
    exact (Option.some.inj hv).symm
  refine ⟨(hvalue _ false ⟨by decide, rfl, ?_, .body (.inr (.inl rfl))⟩).1.2 hnull, ?_, ?_⟩
  · exact ⟨by decide, ["body", "meta"], "note", "note", by decide, rfl, rfl⟩
  · obtain ⟨b, hb, hh⟩ := hisset "@request.body.meta.note:isset"
      ⟨by decide, rfl,
        ⟨by decide, ["body", "meta"], "note:isset", "note", by decide, by decide, rfl⟩,
        .body (.inr (.inl rfl))⟩
    rwa [hh.2 ⟨_, note⟩] at hb
  · obtain ⟨name, w, params, hb, -, he⟩ := (htitle "@request.body.title" false
      ⟨by decide, rfl, ⟨by decide, ["body"], "title", "title", by decide, rfl, rfl⟩,
        .body (.inl rfl)⟩).2 (.text "") (.plain rfl (.here _)) (by simp)
    exact ⟨name, w, params, hb, he⟩

end Resolver

end RecordFilter
