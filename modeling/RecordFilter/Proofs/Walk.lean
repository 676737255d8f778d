import RecordFilter.Path.Plan

/-!
# Routes that paths walk

Below its root a path walks a route of links and ends there: it fails, it finds nothing and stands
for NULL, or it reads a field. `Walked` says which routes there are and `Reading` in which ways a
field is read. A segment that is followed by others may lead along a link (`Leads`), and a path
crosses the links along which its segments lead (`Crosses`), no more than are allowed. Every plan
below a root is one of the `Ends` of a walked route (`Plan.ends_below`, `Plan.crosses_below`).
-/

namespace RecordFilter

open Sql (Expr Join)

theorem FieldKind.eq_of_reference? {k : FieldKind} {ref : Reference}
    (h : k.reference? = some ref) : k = .relation ref := by
  cases k <;> cases h
  rfl

namespace Plan

/-! ## Reading a field -/

/-- How the field at the end of a path is read. -/
inductive Reading
  /-- As its column. -/
  | column (lower : Bool)
  /-- As the part of a JSON document below names. -/
  | document (names : List String) (lower : Bool)
  /-- As the number of its items. -/
  | count
  /-- Item by item. -/
  | items
deriving DecidableEq

namespace Reading

def lowered (lower : Bool) (e : Expr) : Expr := if lower then .lower e else e

def value : Reading → Field → String → Expr
  | column lower, f, table => lowered lower (.column table f.name)
  | document names lower, f, table =>
    lowered lower (.extract (.column table f.name) (jsonSteps names))
  | count, f, table => .itemCount (.column table f.name)
  | items, f, table => itemOf (itemsAlias (fieldAlias table f.name))

def joins : Reading → Field → String → List Join
  | items, f, table => eachItems f table
  | _, _, _ => []

def isMany : Reading → Field → Bool
  | items, f => f.kind.isMultiple
  | _, _ => false

def isExact : Reading → Bool
  | document _ _ => true
  | _ => false

def names : Reading → List String
  | document names _ => names
  | _ => []

/-- What a field at the end of a route resolves to. -/
def resolution (s : Scope) (r : Route) (f : Field) (visibleIn : Option String) (how : Reading) :
    Resolution :=
  { finish s r (r.isMany || how.isMany f) (how.joins f) (how.value f) with
    isExact := how.isExact, visibleIn }

end Reading

/-! ## Routes and their ends -/

/-- The routes that segments can lead along from a root. -/
inductive Walked (s : Scope) (root : Root) : Route → Prop
  | start : Walked s root ⟨root, []⟩
  | cross {r : Route} {segment : String} {after : List String} {l : Link} (h : Walked s root r)
      (ht : turn s r segment after = .link l) : Walked s root (r.cross l)

/-- The ends of a path at a route, with the segments that are left. -/
inductive Ends (s : Scope) (r : Route) (rest : List String) : Plan → Prop
  | fails (e : PathError) : Ends s r rest (along r [] (.error e))
  | nothing (hl : r.root.isLenient = true) :
      Ends s r rest (along r [] (.ok (.fixed { value := .null })))
  | reads {f : Field} (how : Reading) (visibleIn : Option String)
      (hf : r.collection.field? f.name = some f) (hw : isWithheld s r f = false)
      (hn : ∀ name ∈ how.names, ∃ segment ∈ rest, name.toList <+: segment.toList)
      (hv : visibleIn = none ∨ visibleIn = emailOwner s r f) :
      Ends s r rest
        (along r (how.joins f r.lastAlias) (.ok (.fixed (how.resolution s r f visibleIn))))

variable {s : Scope} {path : String} {root : Root} {r : Route} {rest : List String}

/-- The table that has to show a value is the one at the end of the route. -/
theorem eq_lastAlias_of_visibleIn {f : Field} {visibleIn : Option String} {table : String}
    (hv : visibleIn = none ∨ visibleIn = emailOwner s r f) (ht : visibleIn = some table) :
    table = r.lastAlias := by
  rcases hv with rfl | rfl
  · cases ht
  · unfold emailOwner at ht
    split at ht
    · exact (Option.some.inj ht).symm
    · cases ht

theorem Walked.root_eq (h : Walked s root r) : r.root = root := by
  induction h with
  | start => rfl
  | cross _ _ ih => exact ih

/-- What a segment is known to have led to, with the segments after it. -/
def Turn.Found (s : Scope) (r : Route) (segment : String) (after : List String) : Turn → Prop
  | .missing | .withheld => True
  | .json f =>
    r.collection.field? segment = some f ∧ isWithheld s r f = false ∧ f.kind = .json
  | .idColumn f =>
    r.collection.field? segment = some f ∧ isWithheld s r f = false ∧ after = [FieldName.id] ∧
      ∃ ref, f.kind = .relation ref ∧ ref.multiple = false
  | .link l =>
    (∃ f ref, r.collection.field? segment = some f ∧ isWithheld s r f = false ∧
        f.kind = .relation ref ∧ fieldLink? s f ref = some l) ∨
      (r.collection.field? segment = none ∧ backLink? s r segment = some l)

theorem found_turn (s : Scope) (r : Route) (segment : String) (after : List String) :
    (turn s r segment after).Found s r segment after := by
  unfold turn
  split
  · next hf =>
    cases hb : backLink? s r segment with
    | none => trivial
    | some l => exact .inr ⟨hf, hb⟩
  · next f hf =>
    split
    · trivial
    · next hw =>
      rw [Bool.not_eq_true] at hw
      split
      · next hk => exact ⟨hf, hw, hk⟩
      · next ref hk =>
        split
        · next hid =>
          rw [Bool.and_eq_true, Bool.not_eq_true', beq_iff_eq] at hid
          exact ⟨hf, hw, hid.2, ref, hk, hid.1⟩
        · cases hl : fieldLink? s f ref with
          | none => trivial
          | some l => exact .inl ⟨f, ref, hf, hw, hk, hl⟩
      · trivial

/-! ## Crossing links -/

/-- A segment, with those after it, leads along a link from the end of a route: the link exists,
its field is not withheld, and it is not only the id of a record that is asked for. -/
inductive Leads (s : Scope) (r : Route) (segment : String) (after : List String) : Link → Prop
  | forward {f : Field} {ref : Reference} {target : Collection}
      (hf : r.collection.field? segment = some f) (hk : f.kind = .relation ref)
      (hw : isWithheld s r f = false)
      (hid : ¬ (ref.multiple = false ∧ after = [FieldName.id]))
      (ht : s.catalog.find? ref.target = some target) :
      Leads s r segment after
        (if ref.multiple then .multiple target f.name else .single target f.name)
  | back {collection field : String} {source : Collection} {f : Field} {ref : Reference}
      (hn : r.collection.field? segment = none)
      (hp : backParts segment = some (collection, field))
      (hc : s.catalog.find? collection = some source) (hf : source.field? field = some f)
      (hk : f.kind = .relation ref) (ht : ref.target = r.collection.id)
      (hw : isWithheld s r f = false) :
      Leads s r segment after
        (if ref.unique && !ref.multiple then .backSingle source segment f.name
          else .backMultiple source segment f.name)

theorem turn_eq_link_iff {segment : String} {after : List String} {l : Link} :
    turn s r segment after = .link l ↔ Leads s r segment after l := by
  constructor
  · intro h
    unfold turn at h
    split at h
    · next hn =>
      cases hb : backLink? s r segment with
      | none => rw [hb] at h; cases h
      | some l' =>
        rw [hb] at h
        cases h
        obtain ⟨⟨collection, field⟩, hp, hb⟩ := Option.bind_eq_some_iff.1 hb
        obtain ⟨source, hc, hb⟩ := Option.bind_eq_some_iff.1 hb
        obtain ⟨f, hf, hb⟩ := Option.bind_eq_some_iff.1 hb
        obtain ⟨ref, hk, hb⟩ := Option.bind_eq_some_iff.1 hb
        split at hb
        · next ht =>
          rw [Bool.and_eq_true, decide_eq_true_eq, Bool.not_eq_true'] at ht
          cases hb
          exact .back hn hp hc hf (FieldKind.eq_of_reference? hk) ht.1 ht.2
        · cases hb
    · next f hf =>
      split at h
      · cases h
      · next hw =>
        split at h
        · cases h
        · next ref hk =>
          split at h
          · cases h
          · next hid =>
            cases hl : fieldLink? s f ref with
            | none => rw [hl] at h; cases h
            | some l' =>
              rw [hl] at h
              cases h
              obtain ⟨target, ht, rfl⟩ := Option.map_eq_some_iff.1 hl
              exact .forward hf hk (Bool.eq_false_iff.2 hw) (by simpa using hid) ht
        · cases h
  · intro h
    cases h with
    | @forward f ref target hf hk hw hid ht =>
      have hid' : ¬ (!ref.multiple && after == [FieldName.id]) = true := by simpa using hid
      simp [turn, hf, hk, hw, hid', fieldLink?, ht]
    | back hn hp hc hf hk ht hw =>
      simp [turn, hn, backLink?, hp, hc, hf, hk, FieldKind.reference?, ht, hw]

/-- Segments cross links from a route to one further on, where some of them are left. -/
inductive Crosses (s : Scope) : Route → List String → Route → List String → Prop
  | refl (r : Route) (segments : List String) : Crosses s r segments r segments
  | cross {r r' : Route} {segment next : String} {rest left : List String} {l : Link}
      (hl : Leads s r segment (next :: rest) l)
      (h : Crosses s (r.cross l) (next :: rest) r' left) :
      Crosses s r (segment :: next :: rest) r' left

theorem Crosses.walked {r' : Route} {segments left : List String} (h : Crosses s r segments r' left)
    (hr : Walked s root r) : Walked s root r' := by
  induction h with
  | refl => exact hr
  | cross hl _ ih => exact ih (hr.cross (turn_eq_link_iff.2 hl))

/-! ## How paths end -/

theorem ends_missing : Ends s r rest (missing path r) := by
  unfold missing
  split
  · next hl => exact .nothing hl
  · exact .fails _

theorem splitModifier_prefix {segment name : String} {modifier : Option Modifier}
    (h : splitModifier segment = .ok (name, modifier)) : name.toList <+: segment.toList := by
  unfold splitModifier at h
  split at h
  · cases h; exact List.prefix_rfl
  · next before after hc =>
    split at h
    · cases h
      obtain ⟨hs, -⟩ := Text.cut_eq_some hc
      rw [hs, String.toList_ofList]
      exact List.prefix_append _ _
    · cases h

def Reading.ofField (f : Field) (lower : Bool) : Reading :=
  if f.kind = .json then .document [] lower else .column lower

theorem resolution_ofField (f : Field) (lower : Bool) (visibleIn : Option String) :
    (Reading.ofField f lower).resolution s r f visibleIn =
      { finish s r r.isMany (fun _ => []) (fun table => Reading.lowered lower (fieldValue f table))
        with isExact := f.kind == .json, visibleIn } := by
  by_cases hk : f.kind = .json <;>
    simp [Reading.ofField, Reading.resolution, Reading.isMany, Reading.isExact, Reading.value,
      Reading.joins, fieldValue, finish, jsonSteps, hk]

/-- A field is read as its modifier asks, or the modifier is refused. -/
theorem atField_cases (s : Scope) (path : String) (r : Route) (f : Field)
    (modifier : Option Modifier) :
    (∃ e, atField s path r f modifier = along r [] (.error e)) ∨
      modifier ≠ some .isset ∧ ∃ how : Reading, how.names = [] ∧
        (how = .items ↔ modifier = some .each) ∧
        atField s path r f modifier = along r (how.joins f r.lastAlias)
          (.ok (.fixed (how.resolution s r f (emailOwner s r f)))) := by
  have field (lower : Bool) :
      (Reading.ofField f lower).names = [] ∧ Reading.ofField f lower ≠ .items ∧
        (Reading.ofField f lower).joins f r.lastAlias = [] := by
    by_cases hk : f.kind = .json <;> simp [Reading.ofField, hk, Reading.names, Reading.joins]
  unfold atField
  rcases modifier with _ | _ | _ | _ | _
  · obtain ⟨hn, hi, hj⟩ := field false
    refine .inr ⟨by simp, .ofField f false, hn, by simp [hi], ?_⟩
    rw [hj, resolution_ofField]
    rfl
  · obtain ⟨hn, hi, hj⟩ := field true
    refine .inr ⟨by simp, .ofField f true, hn, by simp [hi], ?_⟩
    rw [hj, resolution_ofField]
    rfl
  · simp only
    split
    · exact .inr ⟨by simp, .items, rfl, by simp, rfl⟩
    · exact .inl ⟨_, rfl⟩
  · simp only
    split
    · refine .inr ⟨by simp, .count, rfl, by simp, ?_⟩
      simp only [Reading.resolution, Reading.isMany, Bool.or_false]
      rfl
    · exact .inl ⟨_, rfl⟩
  · exact .inl ⟨_, rfl⟩

theorem ends_atField {f : Field} (hf : r.collection.field? f.name = some f)
    (hw : isWithheld s r f = false) (modifier : Option Modifier) :
    Ends s r rest (atField s path r f modifier) := by
  rcases atField_cases s path r f modifier with ⟨e, he⟩ | ⟨-, how, hn, -, he⟩
  · exact he ▸ .fails e
  · exact he ▸ .reads how _ hf hw (by simp [hn]) (.inr rfl)

theorem ends_atLast (segment : String) : Ends s r rest (atLast s path r segment) := by
  unfold atLast
  split
  · exact .fails _
  · split
    · exact ends_missing
    · next f hf =>
      split
      · exact .fails _
      · next hw => exact ends_atField (Collection.field?_name hf) (Bool.eq_false_iff.2 hw) _

theorem ends_belowJson {f : Field} (hf : r.collection.field? f.name = some f)
    (hw : isWithheld s r f = false) :
    Ends s r rest (along r [] (belowJson s path r f rest)) := by
  unfold belowJson
  split
  · exact .fails _
  · next last hl =>
    cases hm : splitModifier last with
    | error e => exact .fails _
    | ok nm =>
      obtain ⟨name, modifier⟩ := nm
      have document (lower : Bool) : Ends s r rest (along r [] (.ok (.fixed
          ((Reading.document (rest.dropLast ++ [name]) lower).resolution s r f none)))) := by
        refine .reads (.document _ lower) _ hf hw ?_ (.inl rfl)
        intro n hn
        rcases List.mem_append.1 hn with hn | hn
        · exact ⟨n, List.dropLast_subset _ hn, List.prefix_rfl⟩
        · rw [List.mem_singleton] at hn
          exact ⟨last, List.mem_of_getLast? hl, hn ▸ splitModifier_prefix hm⟩
      simp only [Reading.resolution, Reading.isMany, Bool.or_false] at document
      rcases modifier with _ | _ | _ | _ | _
      · exact document false
      · exact document true
      · exact .fails _
      · exact .fails _
      · exact .fails _

/-- Segments cross links from a route, up to the number that is allowed, and the plan is one of the
ends of the route that they come to. -/
theorem ends_walk (s : Scope) (path : String) (r : Route) (segments : List String) :
    ∃ r' left rest, Crosses s r segments r' left ∧ r'.hops ≤ max r.hops s.maxHops ∧
      rest <:+ segments ∧ Ends s r' rest (walk s path r segments) := by
  have here {r : Route} {segments rest : List String} {p : Plan} (hs : rest <:+ segments)
      (he : Ends s r rest p) :
      ∃ r' left rest, Crosses s r segments r' left ∧ r'.hops ≤ max r.hops s.maxHops ∧
        rest <:+ segments ∧ Ends s r' rest p :=
    ⟨r, segments, rest, .refl _ _, Nat.le_max_left _ _, hs, he⟩
  fun_induction walk s path r segments with
  | case1 r => exact here List.suffix_rfl (.fails _)
  | case2 r last => exact here List.suffix_rfl (ends_atLast _)
  | case3 r => exact here List.suffix_rfl ends_missing
  | case4 r => exact here List.suffix_rfl (.fails _)
  | case5 r segment next rest f ht =>
    have hf := found_turn s r segment (next :: rest)
    rw [ht] at hf
    obtain ⟨hf, hw, -⟩ := hf
    exact here (List.suffix_cons _ _) (ends_belowJson (Collection.field?_name hf) hw)
  | case6 r segment next rest f ht =>
    have hf := found_turn s r segment (next :: rest)
    rw [ht] at hf
    obtain ⟨hf, hw, -⟩ := hf
    have h : Ends s r (segment :: next :: rest) (along r [] (.ok (.fixed
        ((Reading.column false).resolution s r f none)))) :=
      .reads (.column false) _ (Collection.field?_name hf) hw (by simp [Reading.names]) (.inl rfl)
    simp only [Reading.resolution, Reading.isMany, Bool.or_false] at h
    exact here List.suffix_rfl h
  | case7 r => exact here List.suffix_rfl (.fails _)
  | case8 r segment next rest l ht hh ih =>
    obtain ⟨r', left, rest', hc, hd, hs, he⟩ := ih
    rw [Route.hops_cross] at hd
    exact ⟨r', left, rest', .cross (turn_eq_link_iff.1 ht) hc, by omega,
      hs.trans (List.suffix_cons _ _), he⟩

theorem crosses_below (s : Scope) (path : String) (root : Root) (segments : List String) :
    ∃ r left rest, Crosses s ⟨root, []⟩ segments r left ∧ r.hops ≤ s.maxHops ∧
      rest <:+ segments ∧ Ends s r rest (below s path root segments) := by
  unfold below
  split
  · exact ⟨_, _, segments, .refl _ _, Nat.zero_le _, List.suffix_rfl, .fails _⟩
  · obtain ⟨r, left, rest, hc, hd, h⟩ := ends_walk s path ⟨root, []⟩ segments
    exact ⟨r, left, rest, hc, Nat.le_trans hd (Nat.max_le.2 ⟨Nat.zero_le _, Nat.le_refl _⟩), h⟩

theorem ends_below (s : Scope) (path : String) (root : Root) (segments : List String) :
    ∃ r rest, Walked s root r ∧ rest <:+ segments ∧ Ends s r rest (below s path root segments) := by
  obtain ⟨r, left, rest, hc, -, hs, he⟩ := crosses_below s path root segments
  exact ⟨r, rest, hc.walked .start, hs, he⟩

end Plan

end RecordFilter
