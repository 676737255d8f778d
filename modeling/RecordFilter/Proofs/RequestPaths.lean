import RecordFilter.Proofs.Crossings
import RecordFilter.Proofs.Depth
import RecordFilter.Proofs.Names
import RecordFilter.Proofs.Refusals

/-!
# Paths below the request

A path below the request fails for its form, its depth or its joins only. Where there is nothing for
it to read it stands for NULL: without a request, without a record that signed in or its collection,
without submitted records, and at a segment that is of no use where the path has come to
(`Plan.IsAbsent`). The last is a matter of the root: below a lenient one a walk that finds nothing
ends in NULL (`Plan.walk_of_not_usable`), and below another one it fails.
-/

namespace RecordFilter

namespace Plan

variable {s : Scope} {path segment : String} {r : Route} {rest segments after : List String}

/-! ## The form of a request path -/

theorem prefix_of_segmentsOf {first : String} (h : segmentsOf path = first :: rest) :
    first.toList <+: path.toList := by
  obtain ⟨p, ps, hp, rfl, -⟩ := List.map_eq_cons_iff.1 h
  rw [← Text.rejoin_pieces '.' path.toList, hp, String.toList_ofList]
  cases ps with
  | nil => exact List.prefix_rfl
  | cons q ps => exact List.prefix_append _ _

theorem isRequestForm_of_isRequestPath (h : Path.isRequestPath path.toList = true) :
    ∃ rest, segmentsOf path = "@request" :: rest ∧ IsRequestForm rest := by
  obtain ⟨part, hp, h⟩ := List.any_eq_true.1 h
  cases ha : Text.after? ("@request." ++ part ++ ".").toList path.toList with
  | none => rw [ha] at h; cases h
  | some tail =>
    have hdot : ∀ part ∈ Path.requestParts, '.' ∉ part.toList := by decide
    have hpath : path.toList = "@request".toList ++ '.' :: (part.toList ++ '.' :: tail) := by
      rw [Text.after?_eq_some.1 ha]
      simp
    have hs := segmentsOf_eq_cons (by decide) hpath
    rw [Text.pieces_append (hdot part hp), List.map_cons, String.ofList_toList] at hs
    refine ⟨_, hs, ?_⟩
    cases ht : (Text.pieces '.' tail).map String.ofList with
    | nil => exact absurd (List.map_eq_nil_iff.1 ht) (Text.pieces_ne_nil _ _)
    | cons first rest =>
      have hparts : ∀ part ∈ Path.requestParts,
          (part = "auth" ∨ part = "body") ∨ part ∈ plainParts := by decide
      rcases hparts part hp with hp | hp
      · exact .keyed hp
      · exact .plain hp

theorem isRequestForm_of_isWellFormed (hw : Path.isWellFormed path = true)
    (h : segmentsOf path = "@request" :: rest) : IsRequestForm rest := by
  have hprefix := prefix_of_segmentsOf h
  unfold Path.isWellFormed at hw
  simp only [Bool.or_eq_true, beq_iff_eq] at hw
  rcases hw with (((hw | rfl) | rfl) | hw) | hw
  · obtain ⟨cs, hc⟩ := hprefix
    rw [← hc] at hw
    exact absurd hw (by simp [Path.isFieldPath, Text.isWord_separators])
  · have hs : segmentsOf "@request.context" = ["@request", "context"] := by decide
    cases hs.symm.trans h
    exact .plain (by decide)
  · have hs : segmentsOf "@request.method" = ["@request", "method"] := by decide
    cases hs.symm.trans h
    exact .plain (by decide)
  · obtain ⟨rest', hs, hf⟩ := isRequestForm_of_isRequestPath hw
    cases hs.symm.trans h
    exact hf
  · obtain ⟨cs, hc, -⟩ := Path.below_of_isCollectionPath hw
    have hs := segmentsOf_eq_cons (by decide) hc
    exact absurd (List.cons.inj (hs.symm.trans h)).1 (by decide)

/-! ## What comes to nothing -/

/-- A segment is of use at a collection, with those after it: it names a field at the end, a
document or the id of one record, or it crosses to a collection. -/
inductive IsUsable (s : Scope) (c : Collection) (segment : String) : List String → Prop
  | field {f : Field} (hf : c.field? segment = some f) : IsUsable s c segment []
  | document {f : Field} {next : String} {rest : List String} (hf : c.field? segment = some f)
      (hk : f.kind = .json) : IsUsable s c segment (next :: rest)
  | recordId {f : Field} {ref : Reference} (hf : c.field? segment = some f)
      (hk : f.kind = .relation ref) (hm : ref.multiple = false) :
      IsUsable s c segment [FieldName.id]
  | crosses {d : Collection} {m : Bool} {next : String} {rest : List String}
      (h : Crossing s c segment d m) : IsUsable s c segment (next :: rest)

/-- Below a lenient root a walk stops at a segment that is of no use. -/
theorem walk_of_not_usable (hl : r.root.isLenient = true) (hc : ':' ∉ segment.toList)
    (hu : ¬ IsUsable s r.collection segment after) :
    walk s path r (segment :: after) = missing path r := by
  cases after with
  | nil =>
    rw [walk, atLast, splitModifier_eq hc]
    simp only
    split
    · rfl
    · next f hf => exact absurd (.field hf) hu
  | cons next rest =>
    rw [walk]
    have hfound := found_turn s r segment (next :: rest)
    cases ht : turn s r segment (next :: rest) with
    | missing => rfl
    | withheld =>
      obtain ⟨f, hw⟩ := isWithheld_of_turn ht
      rw [isWithheld_of_isLenient hl] at hw
      cases hw
    | json f =>
      rw [ht] at hfound
      exact absurd (.document hfound.1 hfound.2.2) hu
    | idColumn f =>
      rw [ht] at hfound
      obtain ⟨hf, -, hid, ref, hk, hm⟩ := hfound
      rw [hid] at hu
      exact absurd (.recordId hf hk hm) hu
    | link l => exact absurd (.crosses (crossing_of_turn ht).1) hu

/-- A request path leads to nothing. -/
inductive IsAbsent (s : Scope) (path : String) : Prop
  /-- There is no request. -/
  | request (h : s.request = none)
  /-- Nobody signed in. -/
  | auth {request : Request} {rest : List String} (hq : s.request = some request)
      (h : segmentsOf path = "@request" :: "auth" :: rest) (ha : request.auth = none)
  /-- The record that signed in has to be joined, and its collection is not in the catalog. -/
  | authCollection {request : Request} {a : AuthRecord} {first : String} {rest : List String}
      (hq : s.request = some request) (ha : request.auth = some a)
      (h : segmentsOf path = "@request" :: "auth" :: first :: rest)
      (hj : rest ≠ [] ∨ first ∉ carriedFields) (hc : s.catalog.find? a.collectionId = none)
  /-- A relation field is read through, and no record is submitted for it, or there are no records
  that could be. -/
  | submitted {request : Request} {key next : String} {rest : List String} {f : Field}
      {ref : Reference} (hq : s.request = some request)
      (h : segmentsOf path = "@request" :: "body" :: key :: next :: rest)
      (hf : s.base.field? key = some f) (hk : f.kind = .relation ref)
      (hi : request.itemsOf key = [] ∨ s.catalog.find? ref.target = none)
  /-- Below its root the path comes to a segment that is of no use. -/
  | deadEnd {root : Root} {rest : List String} {route : Route} {segment : String}
      {after : List String} (h : Starts s path root rest)
      (hc : Crosses s ⟨root, []⟩ rest route (segment :: after))
      (hu : ¬ IsUsable s route.collection segment after)

theorem RootOf.isLenient {root : Root} {sign : String} (h : RootOf s (sign :: segments) root rest)
    (hs : sign = "@request") : root.isLenient = true := by
  cases h with
  | base hr => exact absurd hs hr
  | anyOf => exact absurd hs (by decide)
  | auth | submitted => rfl

theorem Crosses.suffix {r' : Route} {left : List String} (h : Crosses s r segments r' left) :
    left <:+ segments := by
  induction h with
  | refl => exact List.suffix_rfl
  | cross _ _ ih => exact ih.trans (List.suffix_cons _ _)

theorem Crosses.hops_add_length {r' : Route} {left : List String}
    (h : Crosses s r segments r' left) : r'.hops + left.length = r.hops + segments.length := by
  induction h with
  | refl => rfl
  | cross _ _ ih =>
    rw [ih, Route.hops_cross]
    simp only [List.length_cons]
    omega

/-- A path crosses no more links than it has segments. -/
theorem Starts.hops_le {root : Root} {left : List String} (h : Starts s path root rest)
    (hc : Crosses s ⟨root, []⟩ rest r left) : r.hops ≤ (segmentsOf path).length := by
  have hrest := h.2.suffix.length_le
  have hhops : r.hops + left.length = 0 + rest.length := hc.hops_add_length
  omega

theorem below_of_unmarked {root : Root} (hne : segments ≠ []) (hm : ¬ IsMarked segments) :
    below s path root segments = walk s path ⟨root, []⟩ segments := by
  have hcolon : segments.dropLast.any hasColon = false :=
    Bool.eq_false_iff.2 fun h => hm ((isMarked_of_any h).mono (List.dropLast_subset _))
  have hempty : segments.isEmpty = false := by simpa using hne
  unfold below
  rw [hempty, hcolon]
  rfl

theorem outcome_missing (hl : r.root.isLenient = true) :
    (missing path r).outcome = .ok (.fixed { value := .null }) := by
  unfold missing
  rw [if_pos hl]
  rfl

theorem splitModifier_last (hm : ¬ IsMarked segments) :
    ∃ name, splitModifier (segments.getLast?.getD "") = .ok (name, none) :=
  ⟨_, splitModifier_eq fun hc => hm (isMarked_of_last hc)⟩

/-- A request path that leads to nothing stands for NULL. -/
theorem outcome_of_isAbsent (he : "" ∉ segmentsOf path)
    (hr : segmentsOf path = "@request" :: rest) (hf : IsRequestForm rest) (hm : ¬ IsMarked rest)
    (hd : ∀ root rest route left, Starts s path root rest → Crosses s ⟨root, []⟩ rest route left →
      route.hops ≤ s.maxHops) (h : IsAbsent s path) :
    (ofPath s path).outcome = .ok (.fixed { value := .null }) := by
  obtain ⟨name, hlast⟩ := splitModifier_last hm
  cases h with
  | request hq =>
    rw [ofPath_of_request he hr]
    simp only [ofRequest, hlast, hq]
    rfl
  | @auth request below hq hs ha =>
    rw [ofPath_of_request he hr]
    obtain ⟨-, rfl⟩ := List.cons.inj (hr.symm.trans hs)
    cases hf with
    | plain hp => exact absurd hp (by decide)
    | keyed =>
      simp only [ofRequest, hlast, hq, ofAuth, ha]
      rfl
  | @authCollection request a first below hq ha hs hj hc =>
    rw [ofPath_of_request he hr]
    obtain ⟨-, rfl⟩ := List.cons.inj (hr.symm.trans hs)
    have hfirst : splitModifier first = .ok (first, none) :=
      splitModifier_eq fun hc => hm ⟨first, by simp, hc⟩
    have hjoined : (below.isEmpty && carriedFields.contains first) = false := by
      rcases hj with hj | hj
      · simp [hj]
      · simp [hj]
    simp only [ofRequest, hlast, hq, ofAuth, ha, hfirst, hjoined, hc]
    rfl
  | @submitted request key next below f ref hq hs hb hk hi =>
    rw [ofPath_of_request he hr]
    obtain ⟨-, rfl⟩ := List.cons.inj (hr.symm.trans hs)
    have href : ((s.base.field? key).bind fun f => f.kind.reference?) = some ref := by
      rw [hb, Option.bind_some, hk]
      rfl
    simp only [ofRequest, hlast, hq, ofBody, href]
    cases hc : s.catalog.find? ref.target with
    | none => rfl
    | some target =>
      rw [hc] at hi
      simp [hi.resolve_right (by simp), null, direct]
  | @deadEnd root below route segment after hs hc hu =>
    have hroot := hs.2
    rw [hr] at hroot
    have hbelow : below <:+ rest := hroot.suffix_tail (.inl rfl)
    have hunmarked : ¬ IsMarked below := fun h => hm (h.mono hbelow.subset)
    have hl : route.root.isLenient = true := by
      rw [(hc.walked .start).root_eq]
      exact hroot.isLenient rfl
    rw [ofPath_of_starts hs, below_of_unmarked hs.2.ne_nil hunmarked,
      hc.walk_eq (hd _ _ _ _ hs hc), walk_of_not_usable hl ?_ hu, outcome_missing hl]
    exact fun hcolon => hunmarked ⟨segment, hc.suffix.subset List.mem_cons_self, hcolon⟩

end Plan

namespace Resolver

open Plan (Starts Crosses IsAbsent IsMarked segmentsOf)

variable {r : Resolver} {path : String}

theorem ne_unknownField_of_request {rest : List String}
    (hp : Path.isWellFormed path = true ∧ r.allowed.admits path = true)
    (hs : segmentsOf path = "@request" :: rest) (field : String) :
    (r.resolve path).1 ≠ .error (.unknownField field) := by
  intro h
  obtain ⟨-, -, hr⟩ := (resolve_cases r path).resolve_left fun hn => hn.2 hp
  rw [hr] at h
  rcases error_of_commit h with ⟨name, hn, -⟩ | ho
  · cases hn
  · have hblames : Plan.BlamesForm (fun e => e ≠ .unknownField field) path True :=
      ⟨fun _ => by simp, fun _ => by simp⟩
    by_cases he : "" ∈ segmentsOf path
    · rw [Plan.ofPath_of_emptySegment he] at ho
      cases ho
    · rw [Plan.ofPath_of_request he hs] at ho
      exact Plan.failsFor_ofRequest hblames (fun _ => trivial) (fun _ => trivial)
        (fun _ _ _ _ _ _ _ => by simp) _ ho rfl

/-- The plan of a request path comes to something if it is well formed, has no colon and no empty
segment, and crosses no more links than are allowed. -/
theorem outcome_of_request {s : Scope} {rest : List String} (he : "" ∉ segmentsOf path)
    (hr : segmentsOf path = "@request" :: rest) (hf : Plan.IsRequestForm rest)
    (hm : ¬ IsMarked rest)
    (hd : ∀ root rest route left, Starts s path root rest → Crosses s ⟨root, []⟩ rest route left →
      route.hops ≤ s.maxHops) : ∃ o, (Plan.ofPath s path).outcome = .ok o := by
  have hblames : Plan.BlamesForm (fun _ => False) path False := ⟨id, fun h _ _ => h⟩
  have hdepth : Plan.BlamesDepth (fun _ => False) s path ("@request" :: rest) :=
    fun root below route left hroot hc hlt =>
      Nat.not_lt.2 (hd root below route left ⟨he, hr ▸ hroot⟩ hc) hlt
  rw [Plan.ofPath_of_request he hr]
  cases ho : (Plan.ofRequest s path rest).outcome with
  | error e => exact (Plan.failsFor_ofRequest hblames (fun h => h hf) hm hdepth e ho).elim
  | ok o => exact ⟨o, rfl⟩

/-- With the default paths allowed, a well-formed path below the request is never refused for an
unknown field. If it has no empty segment and no colon, crosses no more links than are allowed and
its joins register, it resolves, and where it leads to nothing it resolves to NULL. -/
theorem resolve_request (ha : r.allowed = .wellFormed) (hw : Path.isWellFormed path = true)
    (hr : (segmentsOf path).head? = some "@request") :
    (∀ field, (r.resolve path).1 ≠ .error (.unknownField field)) ∧
      ("" ∉ segmentsOf path → ':' ∉ path.toList →
        (∀ root rest route left, Starts r.scope path root rest →
          Crosses r.scope ⟨root, []⟩ rest route left → route.hops ≤ r.scope.maxHops) →
        (∃ joins, r.joins.registerAll (Plan.ofPath r.scope path).joins = .ok joins) →
        ∃ res, (r.resolve path).1 = .ok res ∧
          (IsAbsent r.scope path → res = { value := .null })) := by
  obtain ⟨rest, hs⟩ : ∃ rest, segmentsOf path = "@request" :: rest := by
    cases hs : segmentsOf path with
    | nil => rw [hs] at hr; cases hr
    | cons first rest =>
      rw [hs] at hr
      exact ⟨rest, congrArg (· :: rest) (Option.some.inj hr)⟩
  have hp : Path.isWellFormed path = true ∧ r.allowed.admits path = true := ⟨hw, by rw [ha]; rfl⟩
  refine ⟨ne_unknownField_of_request hp hs, fun he hc hd hj => ?_⟩
  have hform := Plan.isRequestForm_of_isWellFormed hw hs
  have hmarked : ¬ IsMarked rest := by
    rintro ⟨segment, hm, hcolon⟩
    exact hc (Plan.mem_of_mem_segmentsOf (hs ▸ List.mem_cons_of_mem _ hm) hcolon)
  obtain ⟨res, hres⟩ := resolves_iff.2 ⟨hp, hj, outcome_of_request he hs hform hmarked hd⟩
  refine ⟨res, hres, fun habsent => ?_⟩
  obtain ⟨-, -, o, ho, hyields, -⟩ := resolved_cases hres
  rw [Plan.outcome_of_isAbsent he hs hform hmarked hd habsent] at ho
  cases ho
  cases hyields
  rfl

/-! ### A field that the records reached do not have -/

def employed : Definitions :=
  { collections :=
      [{ name := "users", kind := .auth, fields := [
          { name := "employer", type := .relation, collection := some "companies" }] },
        { name := "companies", fields := [{ name := "name", type := .text }] }] }

def employedCatalog : Catalog := employed.toCatalog.toOption.getD default

def employees : Collection := (employedCatalog.find? "users").getD default

def companies : Collection := (employedCatalog.find? "companies").getD default

def employee : AuthRecord := { collectionId := employees.id, id := "u1" }

def employedScope : Scope :=
  { catalog := employedCatalog, base := companies, request := some { auth := some employee } }

set_option maxRecDepth 4000 in
/-- Companies have no rank, so that of an employer is NULL; the name is not. -/
theorem resolve_request_rank :
    employed.toCatalog = .ok employedCatalog ∧
      (resolve { scope := employedScope } "@request.auth.employer.rank").1 =
        .ok { value := .null } ∧
      (resolve { scope := employedScope } "@request.auth.employer.name").1 ≠
        .ok { value := .null } := by
  have hsegments : segmentsOf "@request.auth.employer.rank" =
      ["@request", "auth", "employer", "rank"] := by decide
  have hroot : Starts employedScope "@request.auth.employer.rank" (.auth employees "u1")
      ["employer", "rank"] := by
    refine ⟨by decide, ?_⟩
    rw [hsegments]
    exact .auth (a := employee) rfl rfl rfl rfl rfl rfl
  have habsent : IsAbsent employedScope "@request.auth.employer.rank" := by
    refine .deadEnd hroot (.cross (Plan.turn_eq_link_iff.1 rfl) (.refl _ _)) ?_
    rintro ⟨hf⟩
    cases hf
  have hdepth : (segmentsOf "@request.auth.employer.rank").length ≤ employedScope.maxHops := by
    decide
  obtain ⟨-, htotal⟩ := resolve_request (r := { scope := employedScope }) rfl
    (show Path.isWellFormed "@request.auth.employer.rank" = true by decide)
    (congrArg List.head? hsegments)
  obtain ⟨res, hres, hnull⟩ := htotal (by decide) (by decide)
    (fun _ _ _ _ hs hc => (hs.hops_le hc).trans hdepth) ⟨_, rfl⟩
  rw [hnull habsent] at hres
  exact ⟨rfl, hres, by rintro ⟨⟩⟩

end Resolver

end RecordFilter
