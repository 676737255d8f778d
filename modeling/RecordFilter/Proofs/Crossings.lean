import RecordFilter.Proofs.Start

/-!
# Crossing from one collection to another

A segment that is followed by others crosses to a collection: forward through a relation field, or
back through a field of another collection that refers here. `Crossing` tells where it leads and
whether it leads to many records, from the catalog alone. A walk crosses exactly what its segments
name, so a path has several values for one record if and only if its root does or the segments say
so (`listed_walk_iff`).
-/

namespace RecordFilter

open Sql (Expr Join)

namespace Plan

/-! ## Crossings -/

/-- A segment crosses from a collection to another one, to one record of it or to many. -/
inductive Crossing (s : Scope) (c : Collection) (segment : String) : Collection → Bool → Prop
  /-- Through a relation field. -/
  | forward {f : Field} {ref : Reference} {target : Collection}
      (hf : c.field? segment = some f) (hk : f.kind = .relation ref)
      (ht : s.catalog.find? ref.target = some target) :
      Crossing s c segment target ref.multiple
  /-- Back through a field that refers to the collection. -/
  | back {collection field : String} {source : Collection} {f : Field} {ref : Reference}
      (hn : c.field? segment = none) (hp : backParts segment = some (collection, field))
      (hc : s.catalog.find? collection = some source) (hf : source.field? field = some f)
      (hk : f.kind = .relation ref) (ht : ref.target = c.id) :
      Crossing s c segment source (!(ref.unique && !ref.multiple))

variable {s : Scope} {path : String} {c d e : Collection} {segment next last : String}
  {rest segments : List String} {m : Bool} {r : Route}

/-- A segment crosses in one way at most. -/
theorem Crossing.unique {d' : Collection} {m' : Bool} (h : Crossing s c segment d m)
    (h' : Crossing s c segment d' m') : d = d' ∧ m = m' := by
  cases h with
  | forward hf hk ht =>
    cases h' with
    | forward hf' hk' ht' =>
      obtain rfl := Option.some.inj (hf.symm.trans hf')
      obtain rfl := FieldKind.relation.inj (hk.symm.trans hk')
      exact ⟨Option.some.inj (ht.symm.trans ht'), rfl⟩
    | back hn => rw [hf] at hn; cases hn
  | back hn hp hc hf hk =>
    cases h' with
    | forward hf' => rw [hn] at hf'; cases hf'
    | back _ hp' hc' hf' hk' =>
      obtain ⟨rfl, rfl⟩ := Prod.mk.inj (Option.some.inj (hp.symm.trans hp'))
      obtain rfl := Option.some.inj (hc.symm.trans hc')
      obtain rfl := Option.some.inj (hf.symm.trans hf')
      obtain rfl := FieldKind.relation.inj (hk.symm.trans hk')
      exact ⟨rfl, rfl⟩

theorem Crossing.kind_of_field {f : Field} (h : Crossing s c segment d m)
    (hf : c.field? segment = some f) : ∃ ref, f.kind = .relation ref ∧ ref.multiple = m := by
  cases h with
  | @forward _ ref _ hf' hk ht =>
    obtain rfl := Option.some.inj (hf.symm.trans hf')
    exact ⟨ref, hk, rfl⟩
  | back hn => rw [hf] at hn; cases hn

theorem crossing_of_turn {after : List String} {l : Link}
    (h : turn s r segment after = .link l) :
    Crossing s r.collection segment l.target l.isMany ∧ l.segment = segment := by
  have hfound := found_turn s r segment after
  rw [h] at hfound
  rcases hfound with ⟨f, ref, hf, -, hk, hl⟩ | ⟨hn, hl⟩
  · obtain ⟨target, ht, rfl⟩ := Option.map_eq_some_iff.1 hl
    have hc := Crossing.forward hf hk ht
    have hname := Collection.name_of_field? hf
    cases hm : ref.multiple with
    | true => rw [hm] at hc; exact ⟨hc, hname⟩
    | false => rw [hm] at hc; exact ⟨hc, hname⟩
  · obtain ⟨⟨collection, field⟩, hp, hl⟩ := Option.bind_eq_some_iff.1 hl
    obtain ⟨source, hc, hl⟩ := Option.bind_eq_some_iff.1 hl
    obtain ⟨f, hf, hl⟩ := Option.bind_eq_some_iff.1 hl
    obtain ⟨ref, hk, hl⟩ := Option.bind_eq_some_iff.1 hl
    split at hl
    · next ht =>
      rw [Bool.and_eq_true, decide_eq_true_eq] at ht
      have hcross := Crossing.back hn hp hc hf (FieldKind.eq_of_reference? hk) ht.1
      cases hone : ref.unique && !ref.multiple with
      | true =>
        rw [hone] at hcross hl
        cases hl
        exact ⟨hcross, rfl⟩
      | false =>
        rw [hone] at hcross hl
        cases hl
        exact ⟨hcross, rfl⟩
    · cases hl

/-! ## Segments that cross -/

/-- One of the segments crosses to many records. -/
inductive CrossesMany (s : Scope) : Collection → List String → Prop
  | here {c d : Collection} {segment next : String} {rest : List String}
      (h : Crossing s c segment d true) : CrossesMany s c (segment :: next :: rest)
  | later {c d : Collection} {segment next : String} {rest : List String} {m : Bool}
      (h : Crossing s c segment d m) (hs : CrossesMany s d (next :: rest)) :
      CrossesMany s c (segment :: next :: rest)

/-- Segments cross to a collection, where the last of them is read. -/
inductive EndsAt (s : Scope) : Collection → List String → Collection → String → Prop
  | last (c : Collection) (last : String) : EndsAt s c [last] c last
  | cross {c d e : Collection} {segment next last : String} {rest : List String} {m : Bool}
      (h : Crossing s c segment d m) (hs : EndsAt s d (next :: rest) e last) :
      EndsAt s c (segment :: next :: rest) e last

def EndsInEach (s : Scope) (c : Collection) (segments : List String) : Prop :=
  ∃ d last key f, EndsAt s c segments d last ∧ splitModifier last = .ok (key, some .each) ∧
    d.field? key = some f ∧ f.kind.isMultiple = true

/-- Segments below a collection stand for several values of one record. -/
def SeveralBelow (s : Scope) (c : Collection) (segments : List String) : Prop :=
  CrossesMany s c segments ∨ EndsInEach s c segments

theorem crossesMany_cons (h : Crossing s c segment d m) :
    CrossesMany s c (segment :: next :: rest) ↔ m = true ∨ CrossesMany s d (next :: rest) := by
  constructor
  · rintro (h' | ⟨h', hs⟩)
    · exact .inl (h.unique h').2
    · obtain ⟨rfl, -⟩ := h.unique h'
      exact .inr hs
  · rintro (rfl | hs)
    · exact .here h
    · exact .later h hs

theorem endsAt_cons (h : Crossing s c segment d m) :
    EndsAt s c (segment :: next :: rest) e last ↔ EndsAt s d (next :: rest) e last := by
  constructor
  · rintro (_ | ⟨h', hs⟩)
    obtain ⟨rfl, -⟩ := h.unique h'
    exact hs
  · exact .cross h

theorem severalBelow_cons (h : Crossing s c segment d m) :
    SeveralBelow s c (segment :: next :: rest) ↔
      m = true ∨ SeveralBelow s d (next :: rest) := by
  unfold SeveralBelow EndsInEach
  simp only [crossesMany_cons h, endsAt_cons h, or_assoc]

theorem exists_crossing_of_several (h : SeveralBelow s c (segment :: next :: rest)) :
    ∃ d m, Crossing s c segment d m := by
  rcases h with (h | h) | ⟨d, last, key, f, (_ | h), -⟩
  · exact ⟨_, _, h⟩
  · exact ⟨_, _, h⟩
  · exact ⟨_, _, h⟩

theorem not_crossesMany_singleton : ¬ CrossesMany s c [last] := by
  rintro ⟨⟩

/-- A last segment stands for several values only if it asks for each item of its field. -/
theorem severalBelow_singleton {key : String} {modifier : Option Modifier} {f : Field}
    (hm : splitModifier last = .ok (key, modifier)) (hf : c.field? key = some f) :
    SeveralBelow s c [last] ↔ modifier = some .each ∧ f.kind.isMultiple = true := by
  constructor
  · rintro (h | ⟨d, last', key', f', ⟨⟩, hm', hf', hk⟩)
    · exact absurd h not_crossesMany_singleton
    · obtain ⟨rfl, rfl⟩ := Prod.mk.inj (Except.ok.inj (hm.symm.trans hm'))
      obtain rfl := Option.some.inj (hf.symm.trans hf')
      exact ⟨rfl, hk⟩
  · rintro ⟨rfl, hk⟩
    exact .inr ⟨c, last, key, f, .last c last, hm, hf, hk⟩

/-! ## What walks are listed -/

theorem isSome_listing_finish (s : Scope) (r : Route) (isMany : Bool)
    (items : String → List Join) (value : String → Expr) :
    (finish s r isMany items value).listing.isSome = isMany := by
  cases isMany <;> rfl

theorem Reading.isSome_listing (how : Reading) (s : Scope) (r : Route) (f : Field)
    (visibleIn : Option String) :
    (how.resolution s r f visibleIn).listing.isSome = (r.isMany || how.isMany f) :=
  isSome_listing_finish s r _ _ _

theorem Reading.value_ne_null (how : Reading) (f : Field) (table : String) :
    how.value f table ≠ .null := by
  rcases how with (_ | _) | ⟨names, _ | _⟩ | _ | _ <;> rintro ⟨⟩

theorem value_ne_null_of_listing {root : Root} {res : Resolution}
    (h : (below s path root segments).outcome = .ok (.fixed res))
    (hl : res.listing.isSome = true) : res.value ≠ .null := by
  obtain ⟨r, rest, -, -, he⟩ := ends_below s path root segments
  generalize below s path root segments = p at h he
  cases he with
  | fails e => cases h
  | nothing =>
    cases h
    cases hl
  | @reads f how =>
    cases h
    exact how.value_ne_null f _

theorem isSome_listing_belowJson {f : Field} {res : Resolution}
    (h : belowJson s path r f segments = .ok (.fixed res)) : res.listing.isSome = r.isMany := by
  unfold belowJson at h
  split at h
  · cases h
  · next last hl =>
    cases hm : splitModifier last with
    | error e => rw [hm] at h; cases h
    | ok nm =>
      obtain ⟨name, modifier⟩ := nm
      rw [hm] at h
      rcases modifier with _ | _ | _ | _ | _ <;> cases h
      · simp only [isSome_listing_finish]
      · simp only [isSome_listing_finish]

theorem listed_atLast_iff {res : Resolution}
    (h : (atLast s path r last).outcome = .ok (.fixed res)) (hv : res.value ≠ .null) :
    res.listing.isSome = true ↔ r.isMany = true ∨ SeveralBelow s r.collection [last] := by
  unfold atLast at h
  split at h
  · cases h
  · next key modifier hm =>
    split at h
    · unfold missing at h
      split at h <;> cases h
      exact absurd rfl hv
    · next f hf =>
      split at h
      · cases h
      · rw [severalBelow_singleton hm hf]
        rcases atField_cases s path r f modifier with ⟨e, he⟩ | ⟨-, how, -, hi, he⟩
        · rw [he] at h; cases h
        · rw [he] at h
          cases h
          rw [how.isSome_listing, Bool.or_eq_true, ← hi]
          cases how <;> simp [Reading.isMany]

/-- A walk is listed if and only if its route comes to many records already or what is left of the
path stands for several values. -/
theorem listed_walk_iff {res : Resolution}
    (h : (walk s path r segments).outcome = .ok (.fixed res)) (hv : res.value ≠ .null) :
    res.listing.isSome = true ↔ r.isMany = true ∨ SeveralBelow s r.collection segments := by
  fun_induction walk s path r segments with
  | case1 r => cases h
  | case2 r last => exact listed_atLast_iff h hv
  | case3 r =>
    unfold missing at h
    split at h <;> cases h
    exact absurd rfl hv
  | case4 r => cases h
  | case5 r segment next rest f ht =>
    have hf := found_turn s r segment (next :: rest)
    rw [ht] at hf
    obtain ⟨hf, -, hk⟩ := hf
    have hjson : belowJson s path r f (next :: rest) = .ok (.fixed res) := h
    rw [isSome_listing_belowJson hjson, iff_self_or]
    intro hs
    obtain ⟨d, m, hc⟩ := exists_crossing_of_several hs
    obtain ⟨ref, hr, -⟩ := hc.kind_of_field hf
    rw [hk] at hr
    cases hr
  | case6 r segment next rest f ht =>
    have hf := found_turn s r segment (next :: rest)
    rw [ht] at hf
    obtain ⟨hf, -, hid, ref, hk, hone⟩ := hf
    cases h
    rw [isSome_listing_finish, iff_self_or]
    intro hs
    obtain ⟨d, m, hc⟩ := exists_crossing_of_several hs
    obtain ⟨ref', hr, rfl⟩ := hc.kind_of_field hf
    obtain rfl := FieldKind.relation.inj (hk.symm.trans hr)
    rw [severalBelow_cons hc, hone, hid] at hs
    rcases hs.resolve_left Bool.false_ne_true with hs | ⟨e, last, key, g, hs, hm, -⟩
    · exact absurd hs not_crossesMany_singleton
    · -- the id that is left has no modifier
      cases hs
      cases hm
  | case7 r => cases h
  | case8 r segment next rest l ht hh ih =>
    obtain ⟨hc, -⟩ := crossing_of_turn ht
    rw [ih h, severalBelow_cons hc, Route.isMany_cross, Route.collection_cross, Bool.or_eq_true,
      or_assoc]

theorem listed_below_iff {root : Root} {res : Resolution}
    (h : (below s path root segments).outcome = .ok (.fixed res)) (hv : res.value ≠ .null) :
    res.listing.isSome = true ↔ root.isMany = true ∨ SeveralBelow s root.collection segments := by
  unfold below at h
  split at h
  · cases h
  · have hi := listed_walk_iff h hv
    rwa [show (⟨root, []⟩ : Route).isMany = root.isMany from Bool.or_false _] at hi

/-! ## Walks to a known end -/

/-- A walk along segments that end at a collection fails, or comes there by the links that they
name. -/
theorem walk_of_endsAt {root : Root} (hr : Walked s root r)
    (h : EndsAt s r.collection segments d last) (hid : last ≠ FieldName.id)
    (hl : root.isLenient = false) :
    (∃ e, (walk s path r segments).outcome = .error e) ∨
      ∃ r', walk s path r segments = atLast s path r' last ∧ Walked s root r' ∧
        r'.collection = d ∧ r'.lastAlias = segments.dropLast.foldl fieldAlias r.lastAlias := by
  generalize hc : r.collection = c at h
  induction h generalizing r with
  | last c last => exact .inr ⟨r, by rw [walk], hr, hc, rfl⟩
  | @cross c d e segment next last rest m hcross hs ih =>
    subst hc
    have hfound := found_turn s r segment (next :: rest)
    cases ht : turn s r segment (next :: rest) with
    | missing =>
      rw [← hr.root_eq] at hl
      exact .inl ⟨.unknownField path, by simp [walk, ht, missing, along, hl]⟩
    | withheld => exact .inl ⟨_, by rw [walk, ht]; rfl⟩
    | json f =>
      rw [ht] at hfound
      obtain ⟨ref, hk, -⟩ := hcross.kind_of_field hfound.1
      rw [hfound.2.2] at hk
      cases hk
    | idColumn f =>
      rw [ht] at hfound
      obtain ⟨-, -, hafter, -⟩ := hfound
      rw [hafter] at hs
      cases hs
      exact absurd rfl hid
    | link l =>
      obtain ⟨hturn, rfl⟩ := crossing_of_turn ht
      obtain ⟨rfl, rfl⟩ := hturn.unique hcross
      by_cases hh : s.maxHops ≤ r.hops
      · exact .inl ⟨_, by rw [walk, ht]; simp only [hh, if_true]; rfl⟩
      · have hwalk : walk s path r (l.segment :: next :: rest) =
            walk s path (r.cross l) (next :: rest) := by
          rw [walk, ht]
          simp only [hh, if_false]
        rw [hwalk]
        have hnext := ih (hr.cross ht) hid (r.collection_cross l)
        rwa [Route.lastAlias_cross] at hnext

end Plan

end RecordFilter
