import RecordFilter.Proofs.RequestPaths
import RecordFilter.Proofs.RequestValues
import RecordFilter.Proofs.Rollback

/-!
# Modifiers before the end of a path

A modifier belongs to the last segment. Below a root a colon in a segment before it is refused
(`Plan.below_of_marked`), but some paths below the request never come to a root: what they
read is absent, or it is a value of the request that is looked up by its keys
(`Plan.IsUnchecked`). These paths resolve whatever their inner segments are, and they are the only
ones with such a colon that do (`Resolver.refuses_iff`).
-/

namespace RecordFilter

namespace Plan

/-- A segment before the last one has a colon. After `@collection` the next segment may have one,
for an alias. -/
def MarkedInside : List String → Prop
  | "@collection" :: _ :: rest => IsMarked rest.dropLast
  | segments => IsMarked segments.dropLast

/-- A key of the submitted values that has a colon is the name of a relation field itself. The key
is looked up whole, so its colon is no modifier: the path goes on below the submitted records
(`RootOf.submitted`) as it does for any other key, and only the segments after it are checked. No
accepted catalog has such a field (`not_hasMarkedKey`). -/
def HasMarkedKey (s : Scope) (segments : List String) : Prop :=
  ∃ key rest ref, segments = "@request" :: "body" :: key :: rest ∧ ':' ∈ key.toList ∧
    (s.base.field? key).bind (·.kind.reference?) = some ref

/-- A path below the request comes to something before its inner segments are looked at. -/
inductive IsUnchecked (s : Scope) : List String → Prop
  /-- There is no request. -/
  | noRequest {rest : List String} {m : Option Modifier} (hq : s.request = none)
      (hm : requestModifier rest = .ok m) : IsUnchecked s ("@request" :: rest)
  /-- The value stands in the request itself. -/
  | plain {q : Request} {part : String} {rest : List String} {m : Option Modifier}
      (hq : s.request = some q) (hp : part ∈ plainParts)
      (hm : requestModifier (part :: rest) = .ok m) (hr : IsReading m) :
      IsUnchecked s ("@request" :: part :: rest)
  /-- Nobody signed in. -/
  | nobody {q : Request} {first : String} {rest : List String} {m : Option Modifier}
      (hq : s.request = some q) (ha : q.auth = none)
      (hm : requestModifier ("auth" :: first :: rest) = .ok m) :
      IsUnchecked s ("@request" :: "auth" :: first :: rest)
  /-- The record that signed in is asked whether it has a value, or its collection is not in the
  catalog. The first segment may have the name of a modifier only after its colon. -/
  | signedIn {q : Request} {a : AuthRecord} {first name next : String} {rest : List String}
      {own m : Option Modifier} (hq : s.request = some q) (ha : q.auth = some a)
      (hm : requestModifier ("auth" :: first :: next :: rest) = .ok m)
      (ho : splitModifier first = .ok (name, own))
      (hc : m = some .isset ∨ s.catalog.find? a.collectionId = none) :
      IsUnchecked s ("@request" :: "auth" :: first :: next :: rest)
  /-- A submitted value is read by its keys: the first is no relation field, or the value is only
  asked for whether it is there. -/
  | submitted {q : Request} {key next : String} {rest : List String} {m : Option Modifier}
      (hq : s.request = some q) (hm : requestModifier ("body" :: key :: next :: rest) = .ok m)
      (hf : (s.base.field? key).bind (·.kind.reference?) = none ∧ IsReading m ∨ m = some .isset) :
      IsUnchecked s ("@request" :: "body" :: key :: next :: rest)
  /-- No record is submitted for a relation field, or there are no records that could be. -/
  | unrelated {q : Request} {key next : String} {rest : List String} {m : Option Modifier}
      {ref : Reference} (hq : s.request = some q)
      (hm : requestModifier ("body" :: key :: next :: rest) = .ok m)
      (hf : (s.base.field? key).bind (·.kind.reference?) = some ref)
      (hi : s.catalog.find? ref.target = none ∨ q.itemsOf key = []) :
      IsUnchecked s ("@request" :: "body" :: key :: next :: rest)

variable {s : Scope} {q : Request} {path first key next : String} {root : Root}
  {segments rest : List String} {m : Option Modifier}

/-! ## Colons before the end -/

theorem isMarked_dropLast_of_cons (hc : ':' ∉ first.toList)
    (h : IsMarked (first :: rest).dropLast) : IsMarked rest.dropLast := by
  obtain ⟨segment, hm, hcolon⟩ := h
  cases rest with
  | nil => cases hm
  | cons next rest =>
    rw [List.dropLast_cons_cons] at hm
    rcases List.mem_cons.1 hm with rfl | hm
    · exact absurd hcolon hc
    · exact ⟨segment, hm, hcolon⟩

theorem exists_cons_cons_of_isMarked (h : IsMarked segments.dropLast) :
    ∃ first next rest, segments = first :: next :: rest := by
  obtain ⟨segment, hm, -⟩ := h
  match segments, hm with
  | first :: next :: rest, _ => exact ⟨first, next, rest, rfl⟩

theorem markedInside_iff (hf : first ≠ "@collection") :
    MarkedInside (first :: rest) ↔ IsMarked (first :: rest).dropLast := by
  unfold MarkedInside
  split
  · next h => exact absurd (List.cons.inj h).1 hf
  · exact Iff.rfl

theorem isMarked_of_markedInside_request (h : MarkedInside ("@request" :: rest)) :
    IsMarked rest.dropLast :=
  isMarked_dropLast_of_cons (by decide) ((markedInside_iff (by decide)).1 h)

theorem below_of_marked (path : String) (root : Root) (h : IsMarked segments.dropLast) :
    below s path root segments = along ⟨root, []⟩ [] (.error (.invalidFormat path)) := by
  obtain ⟨segment, hm, hc⟩ := h
  have hany : segments.dropLast.any hasColon = true :=
    List.any_eq_true.2 ⟨segment, hm, by simpa [hasColon] using hc⟩
  unfold below
  rw [hany, Bool.or_true, if_pos rfl]

/-- What is marked inside is marked inside below its root. -/
theorem RootOf.isMarked (h : RootOf s segments root rest) (hm : MarkedInside segments)
    (hk : ¬ HasMarkedKey s segments) : IsMarked rest.dropLast := by
  cases h with
  | base _ hc => exact (markedInside_iff hc).1 hm
  | anyOf => exact hm
  | auth => exact isMarked_dropLast_of_cons (by decide) (isMarked_of_markedInside_request hm)
  | @submitted q f ref target key next rest m hq _ _ hf hr =>
    have hkey : ':' ∉ key.toList := fun hc =>
      hk ⟨key, _, ref, rfl, hc, by rw [hf, Option.bind_some, hr]⟩
    exact isMarked_dropLast_of_cons hkey
      (isMarked_dropLast_of_cons (by decide) (isMarked_of_markedInside_request hm))

/-- A path that comes to something although a segment before its last one has a colon leads to no
root. -/
theorem not_starts_of_markedInside {o : Outcome} (hm : MarkedInside (segmentsOf path))
    (hk : ¬ HasMarkedKey s (segmentsOf path)) (ho : (ofPath s path).outcome = .ok o) :
    ¬ Starts s path root rest := by
  intro h
  rw [ofPath_of_starts h, below_of_marked path root (h.2.isMarked hm hk)] at ho
  cases ho

theorem not_hasMarkedKey {ds : Definitions} (hds : ds.toCatalog = .ok s.catalog)
    (hb : s.base ∈ s.catalog.collections) : ¬ HasMarkedKey s segments := by
  rintro ⟨key, rest, ref, -, hc, hr⟩
  obtain ⟨f, hf, -⟩ := Option.bind_eq_some_iff.1 hr
  have hword := Definitions.isWordName_of_mem hds hb (Collection.mem_of_field? hf)
  rw [Collection.name_of_field? hf] at hword
  exact (notMem_of_isWordy hword.2).2 hc

/-! ## What is not checked -/

theorem exists_absent_eq (m : Option Modifier) : ∃ o, absent m = direct o := by
  unfold absent
  split
  · exact ⟨_, rfl⟩
  · exact ⟨_, rfl⟩

theorem exists_submittedValue_eq (path : String) (value : Option Json) (kind : Option FieldKind)
    (hr : IsReading m) : ∃ o, submittedValue path value m kind = direct o := by
  have hnull : ∃ o, null = direct o := ⟨_, rfl⟩
  rcases hr with rfl | rfl | rfl
  · rcases value with _ | v
    · exact hnull
    · cases v <;> first | exact hnull | exact ⟨_, rfl⟩
  · rcases value with _ | v
    · exact hnull
    · cases v <;> first | exact hnull | exact ⟨_, rfl⟩
  · exact ⟨_, rfl⟩

theorem isReading_of_submittedValue {value : Option Json} {kind : Option FieldKind} {o : Outcome}
    (ho : (submittedValue path value m kind).outcome = .ok o) : IsReading m := by
  rcases m with _ | _ | _ | _ | _
  · exact .inl rfl
  · exact .inr (.inl rfl)
  · cases ho
  · cases ho
  · exact .inr (.inr rfl)

theorem isReading_of_readRequest {kind : Option FieldKind} {o : Outcome}
    (ho : (readRequest path q segments m kind).outcome = .ok o) : IsReading m := by
  unfold readRequest at ho
  split at ho
  · cases ho
  · exact isReading_of_submittedValue ho

theorem requestModifier_cons_cons (first next : String) (rest : List String) :
    requestModifier (first :: next :: rest) = requestModifier (next :: rest) := by
  rw [requestModifier, List.getLast?_cons_cons]
  rfl

theorem exists_withoutModifier_eq (hm : requestModifier segments = .ok m) :
    ∃ keys, withoutModifier segments = .ok keys := by
  obtain ⟨name, hs⟩ := splitModifier_of_requestModifier hm
  unfold withoutModifier
  cases hl : segments.getLast? with
  | none => exact ⟨[], rfl⟩
  | some last =>
    rw [hl, Option.getD_some] at hs
    simp only [hs]
    exact ⟨_, rfl⟩

theorem exists_readRequest_eq (path : String) (q : Request) (kind : Option FieldKind)
    (hm : requestModifier segments = .ok m) (hr : IsReading m) :
    ∃ o, readRequest path q segments m kind = direct o := by
  obtain ⟨keys, hk⟩ := exists_withoutModifier_eq hm
  unfold readRequest
  rw [hk]
  exact exists_submittedValue_eq path _ kind hr

theorem isUnchecked_of_ofAuth {o : Outcome} (hq : s.request = some q)
    (hm : requestModifier ("auth" :: first :: next :: rest) = .ok m)
    (hn : ∀ root below, ¬ RootOf s ("@request" :: "auth" :: first :: next :: rest) root below)
    (ho : (ofAuth s path q (first :: next :: rest) m).outcome = .ok o) :
    IsUnchecked s ("@request" :: "auth" :: first :: next :: rest) := by
  cases ha : q.auth with
  | none => exact .nobody hq ha hm
  | some a =>
    simp only [ofAuth, ha] at ho
    cases hs : splitModifier first with
    | error e =>
      rw [hs] at ho
      cases ho
    | ok key =>
      by_cases hi : m = some .isset
      · exact .signedIn hq ha hm hs (.inl hi)
      · cases hc : s.catalog.find? a.collectionId with
        | none => exact .signedIn hq ha hm hs (.inr hc)
        | some c => exact absurd (.auth hq ha hm hs (by simp [hi]) hc) (hn _ _)

theorem isUnchecked_of_ofBody {o : Outcome} (hq : s.request = some q)
    (hm : requestModifier ("body" :: key :: next :: rest) = .ok m)
    (hn : ∀ root below, ¬ RootOf s ("@request" :: "body" :: key :: next :: rest) root below)
    (ho : (ofBody s path q (key :: next :: rest) m).outcome = .ok o) :
    IsUnchecked s ("@request" :: "body" :: key :: next :: rest) := by
  unfold ofBody at ho
  by_cases hi : m = some .isset
  · exact .submitted hq hm (.inr hi)
  · cases hf : (s.base.field? key).bind fun f => f.kind.reference? with
    | none =>
      simp only [hf] at ho
      exact .submitted hq hm (.inl ⟨hf, isReading_of_readRequest ho⟩)
    | some ref =>
      by_cases hu : s.catalog.find? ref.target = none ∨ q.itemsOf key = []
      · exact .unrelated hq hm hf hu
      · obtain ⟨f, hf, hr⟩ := Option.bind_eq_some_iff.1 hf
        obtain ⟨hc, hne⟩ := not_or.1 hu
        obtain ⟨target, hc⟩ := Option.ne_none_iff_exists'.1 hc
        exact absurd (.submitted hq hm hi hf hr hc hne) (hn _ _)

theorem isUnchecked_of_ofRequest {o : Outcome} (hin : IsMarked rest.dropLast)
    (hn : ∀ root below, ¬ RootOf s ("@request" :: rest) root below)
    (ho : (ofRequest s path rest).outcome = .ok o) : IsUnchecked s ("@request" :: rest) := by
  unfold ofRequest at ho
  split at ho
  · cases ho
  · next name m hs =>
    have hm : requestModifier rest = .ok m := by simp [requestModifier, hs, Except.map]
    split at ho
    · next hq => exact .noRequest hq hm
    · next q rest hq =>
      obtain ⟨first, next, rest, rfl⟩ :=
        exists_cons_cons_of_isMarked (isMarked_dropLast_of_cons (by decide) hin)
      exact isUnchecked_of_ofAuth hq hm hn ho
    · next q rest hq =>
      obtain ⟨key, next, rest, rfl⟩ :=
        exists_cons_cons_of_isMarked (isMarked_dropLast_of_cons (by decide) hin)
      exact isUnchecked_of_ofBody hq hm hn ho
    · next hq =>
      split at ho
      · next hp => exact .plain hq (List.contains_iff_mem.1 hp) hm (isReading_of_readRequest ho)
      · cases ho
    · cases ho

/-- A path that leads to no root and has a colon before its last segment comes to something only if
it is not checked. -/
theorem isUnchecked_of_outcome {o : Outcome} (hin : MarkedInside (segmentsOf path))
    (hn : ∀ root below, ¬ Starts s path root below) (ho : (ofPath s path).outcome = .ok o) :
    IsUnchecked s (segmentsOf path) := by
  have he := nonempty_of_outcome ho
  have hroot (root : Root) (below : List String) : ¬ RootOf s (segmentsOf path) root below :=
    fun h => hn root below ⟨he, h⟩
  by_cases hown : IsOwn path
  · exact absurd (starts_of_isOwn hown he) (hn _ _)
  · cases hs : segmentsOf path with
    | nil => exact absurd hs (by simp [segmentsOf, Text.pieces_ne_nil])
    | cons first rest =>
      rw [IsOwn, hs, List.head?_cons] at hown
      by_cases hr : first = "@request"
      · subst hr
        rw [ofPath_of_request he hs] at ho
        rw [hs] at hin hroot
        exact isUnchecked_of_ofRequest (isMarked_of_markedInside_request hin) hroot ho
      · obtain rfl : first = "@collection" := by
          by_contra hc
          exact hown ⟨fun h => hr (Option.some.inj h), fun h => hc (Option.some.inj h)⟩
        rw [ofPath_of_collection he hs] at ho
        rcases rest with _ | ⟨first, _ | ⟨second, rest⟩⟩
        · cases ho
        · cases ho
        · rw [ofCollection_cons] at ho
          cases hc : s.catalog.find? (collectionKey first).1 with
          | none =>
            rw [hc] at ho
            cases ho
          | some c =>
            rw [hs] at hroot
            exact absurd (.anyOf hc) (hroot _ _)

theorem exists_ofAuth_eq {a : AuthRecord} {name : String} {own : Option Modifier}
    (ha : q.auth = some a) (hm : requestModifier (first :: next :: rest) = .ok m)
    (ho : splitModifier first = .ok (name, own))
    (hc : m = some .isset ∨ s.catalog.find? a.collectionId = none) :
    ∃ o, ofAuth s path q (first :: next :: rest) m = direct o := by
  obtain ⟨keys, hk⟩ := exists_withoutModifier_eq hm
  simp only [ofAuth, ha, ho, hk]
  split
  · next hi =>
    have hm : m = some .isset := by simpa using hi
    exact exists_submittedValue_eq path _ _ (.inr (.inr hm))
  · next hi =>
    rw [hc.resolve_left fun hm => hi (by simp [hm])]
    exact ⟨_, rfl⟩

theorem exists_ofBody_eq (hm : requestModifier (key :: next :: rest) = .ok m)
    (hf : (s.base.field? key).bind (·.kind.reference?) = none ∧ IsReading m ∨ m = some .isset) :
    ∃ o, ofBody s path q (key :: next :: rest) m = direct o := by
  have hread (hr : IsReading m) :
      ∃ o, readRequest path q ("body" :: key :: next :: rest) m none = direct o :=
    exists_readRequest_eq path q none (by rwa [requestModifier_cons_cons]) hr
  unfold ofBody
  cases hr : (s.base.field? key).bind fun f => f.kind.reference? with
  | none =>
    simp only [hr]
    rcases hf with ⟨-, hreading⟩ | rfl
    · exact hread hreading
    · exact hread (.inr (.inr rfl))
  | some ref =>
    obtain rfl := hf.resolve_left fun h => by rw [hr] at h; cases h.1
    simp only [hr]
    exact hread (.inr (.inr rfl))

theorem exists_ofBody_unrelated_eq {ref : Reference}
    (hm : requestModifier (key :: next :: rest) = .ok m)
    (hf : (s.base.field? key).bind (·.kind.reference?) = some ref)
    (hi : s.catalog.find? ref.target = none ∨ q.itemsOf key = []) :
    ∃ o, ofBody s path q (key :: next :: rest) m = direct o := by
  by_cases hset : m = some .isset
  · exact exists_ofBody_eq hm (.inr hset)
  · unfold ofBody
    simp only [hf]
    cases hc : s.catalog.find? ref.target with
    | none => exact ⟨_, rfl⟩
    | some target =>
      rw [hc] at hi
      simp [hi.resolve_left (by simp), null]

theorem exists_ofRequest_eq (h : IsUnchecked s ("@request" :: rest)) :
    ∃ o, ofRequest s path rest = direct o := by
  cases h with
  | @noRequest rest m hq hm =>
    obtain ⟨name, hl⟩ := splitModifier_of_requestModifier hm
    simp only [ofRequest, hl, hq]
    exact exists_absent_eq m
  | @plain q part rest m hq hp hm hr =>
    obtain ⟨name, hl⟩ := splitModifier_of_requestModifier hm
    have hread := exists_readRequest_eq path q none hm hr
    simp only [plainParts, List.mem_cons, List.not_mem_nil, or_false] at hp
    simp only [ofRequest, hl, hq]
    rcases hp with rfl | rfl | rfl | rfl <;> exact hread
  | @nobody q first rest m hq ha hm =>
    obtain ⟨name, hl⟩ := splitModifier_of_requestModifier hm
    simp only [ofRequest, hl, hq, ofAuth, ha]
    exact exists_absent_eq m
  | signedIn hq ha hm ho hc =>
    obtain ⟨name, hl⟩ := splitModifier_of_requestModifier hm
    simp only [ofRequest, hl, hq]
    rw [requestModifier_cons_cons] at hm
    exact exists_ofAuth_eq ha hm ho hc
  | submitted hq hm hf =>
    obtain ⟨name, hl⟩ := splitModifier_of_requestModifier hm
    simp only [ofRequest, hl, hq]
    rw [requestModifier_cons_cons] at hm
    exact exists_ofBody_eq hm hf
  | unrelated hq hm hf hi =>
    obtain ⟨name, hl⟩ := splitModifier_of_requestModifier hm
    simp only [ofRequest, hl, hq]
    rw [requestModifier_cons_cons] at hm
    exact exists_ofBody_unrelated_eq hm hf hi

theorem IsUnchecked.eq_request (h : IsUnchecked s segments) :
    ∃ rest, segments = "@request" :: rest := by
  cases h <;> exact ⟨_, rfl⟩

/-- A path that is not checked joins nothing and binds nothing under a name of its own. -/
theorem exists_ofPath_eq (he : "" ∉ segmentsOf path) (h : IsUnchecked s (segmentsOf path)) :
    ∃ o, ofPath s path = direct o := by
  obtain ⟨rest, hs⟩ := h.eq_request
  rw [ofPath_of_request he hs]
  exact exists_ofRequest_eq (hs ▸ h)

end Plan

namespace Resolver

open Plan (MarkedInside HasMarkedKey IsUnchecked segmentsOf)

variable {r : Resolver} {path : String}

/-- A path fails and adds no join, no parameter and takes no number. -/
def Refuses (r : Resolver) (path : String) : Prop :=
  (∃ e, (r.resolve path).1 = .error e) ∧ (r.resolve path).2.joins = r.joins ∧
    (r.resolve path).2.params.names = r.params.names ∧
      (r.resolve path).2.params.last = r.params.last

theorem refuses_of_not_resolved (h : ¬ ∃ res, (r.resolve path).1 = .ok res) : r.Refuses path := by
  cases he : (r.resolve path).1 with
  | ok res => exact absurd ⟨res, he⟩ h
  | error e =>
    refine ⟨⟨e, he⟩, ?_⟩
    rcases resolve_cases r path with ⟨⟨e', hr⟩, -⟩ | ⟨-, -, hr⟩
    · rw [hr]
      exact ⟨rfl, rfl, rfl⟩
    · rw [hr] at he ⊢
      rw [(failed_of_commit he).1]
      exact ⟨rfl, names_rollback_setAll _ _, rfl⟩

/-- A path with a colon in a segment before its last one is refused and adds nothing, unless it is
well formed and allowed and its inner segments are never looked at: then it resolves. -/
theorem refuses_iff (hm : MarkedInside (segmentsOf path))
    (hk : ¬ HasMarkedKey r.scope (segmentsOf path)) :
    r.Refuses path ↔ ¬ (Path.isWellFormed path = true ∧ r.allowed.admits path = true ∧
      "" ∉ segmentsOf path ∧ IsUnchecked r.scope (segmentsOf path)) := by
  constructor
  · rintro ⟨⟨e, he⟩, -⟩ ⟨hw, ha, hempty, hu⟩
    obtain ⟨o, ho⟩ := Plan.exists_ofPath_eq hempty hu
    obtain ⟨res, hr⟩ := resolves_iff.2 ⟨⟨hw, ha⟩, ⟨r.joins, by rw [ho]; rfl⟩, o, by rw [ho]; rfl⟩
    cases hr.symm.trans he
  · intro hn
    refine refuses_of_not_resolved fun hr => hn ?_
    obtain ⟨⟨hw, ha⟩, -, o, ho⟩ := resolves_iff.1 hr
    have hroot (root : Root) (below : List String) : ¬ Plan.Starts r.scope path root below :=
      Plan.not_starts_of_markedInside hm hk ho
    exact ⟨hw, ha, Plan.nonempty_of_outcome ho, Plan.isUnchecked_of_outcome hm hroot ho⟩

def markedEmployer : String := "@request.auth.employer:lower.name"

theorem segmentsOf_markedEmployer :
    segmentsOf markedEmployer = ["@request", "auth", "employer:lower", "name"] := by decide

theorem markedInside_markedEmployer : MarkedInside (segmentsOf markedEmployer) := by
  rw [segmentsOf_markedEmployer]
  exact ⟨"employer:lower", by decide, by decide⟩

theorem refuses_markedEmployer : employed.toCatalog = .ok employedCatalog ∧
    MarkedInside (segmentsOf markedEmployer) ∧
      ¬ HasMarkedKey employedScope (segmentsOf markedEmployer) ∧
        Refuses { scope := employedScope } markedEmployer := by
  have hm := markedInside_markedEmployer
  have hds : employed.toCatalog = .ok employedScope.catalog := rfl
  have hk : ¬ HasMarkedKey employedScope (segmentsOf markedEmployer) :=
    Plan.not_hasMarkedKey hds (List.mem_of_getElem? (i := 1) rfl)
  refine ⟨rfl, hm, hk, (refuses_iff hm hk).2 ?_⟩
  rintro ⟨-, -, -, hu⟩
  rw [segmentsOf_markedEmployer] at hu
  generalize hs : ["@request", "auth", "employer:lower", "name"] = segments at hu
  cases hu with
  | noRequest hq => cases hq
  | plain _ hp =>
    cases hs
    exact absurd hp (by decide)
  | nobody hq ha =>
    cases hq
    cases ha
  | signedIn hq ha hm _ hc =>
    cases hs
    cases hq
    cases ha
    cases hm
    rcases hc with hc | hc <;> cases hc
  | submitted | unrelated => simp at hs

/-- The same path stands for NULL where nobody signed in and where there is no request. -/
theorem resolve_markedEmployer : employed.toCatalog = .ok employedCatalog ∧
    MarkedInside (segmentsOf markedEmployer) ∧
      (resolve { scope := employedScope } markedEmployer).1 =
        .error (.invalidFormat markedEmployer) ∧
      (resolve { scope := { employedScope with request := some {} } } markedEmployer).1 =
        .ok { value := .null } ∧
      (resolve { scope := { employedScope with request := none } } markedEmployer).1 =
        .ok { value := .null } :=
  ⟨rfl, markedInside_markedEmployer, rfl, rfl, rfl⟩

end Resolver

end RecordFilter
