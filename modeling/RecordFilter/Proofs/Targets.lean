import Mathlib.Data.List.Perm.Lattice
import RecordFilter.Proofs.Conversion

/-!
# Targets of relations

A relation is written with the name or the id of its target. The catalog finds a collection for
such a text by its id first. The relation refers to the collection that is written last among those
that have the text as their name or id, so the two differ where a text is the id of one collection
and the name of a later one (`Definitions.refersTo_found_iff`).
-/

namespace RecordFilter

def Catalog.refersTo? (c : Catalog) (collection field : String) : Option Collection := do
  let k ← c.collections.find? (·.id == collection)
  let f ← k.field? field
  let r ← f.kind.reference?
  c.collections.find? (·.id == r.target)

def CollectionDefinition.answersTo (d : CollectionDefinition) (t : String) : Bool :=
  d.resolvedId == t || d.name == t

namespace Definitions

/-- No collection with a text as its name is written after one with the text as its id. -/
def NamedFirst (ds : Definitions) (t : String) : Prop :=
  ds.collections.Pairwise fun d e => d.resolvedId = t → e.name ≠ t

/-- A text is not the id of one collection and the name of another one. -/
def NamesOne (ds : Definitions) (t : String) : Prop :=
  ∀ d ∈ ds.collections, ∀ e ∈ ds.collections, d.resolvedId = t → e.name = t → d = e

variable {ds ds' : Definitions} {c c' : Catalog} {d : CollectionDefinition} {f : FieldDefinition}
  {t : String} {k : Collection} {ε α β : Type}

/-! ## The collection that is written last -/

/-- A target is the id of the last collection with the text as its name or id. -/
theorem targetId?_eq (ds : Definitions) (t : String) :
    ds.targetId? t =
      (ds.collections.reverse.find? (·.answersTo t)).map CollectionDefinition.resolvedId := by
  obtain ⟨cs⟩ := ds
  have own (d : CollectionDefinition) :
      ([(d.name, d.resolvedId), (d.resolvedId, d.resolvedId)].reverse.find? (·.1 == t)).map
          Prod.snd = ([d].find? (·.answersTo t)).map CollectionDefinition.resolvedId := by
    by_cases hi : d.resolvedId = t <;> by_cases hn : d.name = t <;>
      simp [CollectionDefinition.answersTo, hi, hn]
  show ((cs.flatMap _).reverse.find? _).map _ = (cs.reverse.find? _).map _
  induction cs with
  | nil => rfl
  | cons d cs ih =>
    rw [List.flatMap_cons, List.reverse_append, List.find?_append, Option.map_or, ih, own,
      List.reverse_cons, List.find?_append, Option.map_or]

theorem targetId?_eq_some {id : String} (h : ds.targetId? t = some id) :
    ∃ before last after, ds.collections = before ++ last :: after ∧ last.resolvedId = id ∧
      (last.resolvedId = t ∨ last.name = t) ∧
      ∀ e ∈ after, e.resolvedId ≠ t ∧ e.name ≠ t := by
  rw [targetId?_eq] at h
  obtain ⟨last, hl, rfl⟩ := Option.map_eq_some_iff.1 h
  obtain ⟨ht, after, before, hs, ha⟩ := List.find?_eq_some_iff_append.1 hl
  refine ⟨before.reverse, last, after.reverse, ?_, rfl, ?_, fun e he => ?_⟩
  · simpa using congrArg List.reverse hs
  · simpa [CollectionDefinition.answersTo] using ht
  · simpa [CollectionDefinition.answersTo] using ha e (List.mem_reverse.1 he)

theorem IsValid.eq_of_resolvedId (hv : ds.IsValid) {e : CollectionDefinition}
    (hd : d ∈ ds.collections) (he : e ∈ ds.collections) (h : d.resolvedId = e.resolvedId) :
    d = e :=
  List.inj_on_of_nodup_map hv.distinctIds hd he h

/-- A text that is an id stands for that id unless a later collection has it as its name. -/
theorem targetId?_eq_self_iff (hv : ds.IsValid) (hd : d ∈ ds.collections) (ht : d.resolvedId = t)
    {id : String} (h : ds.targetId? t = some id) : id = t ↔ ds.NamedFirst t := by
  obtain ⟨before, last, after, hs, rfl, hlast, hafter⟩ := targetId?_eq_some h
  have hlm : last ∈ ds.collections := by simp [hs]
  rw [NamedFirst, hs, List.pairwise_append, List.pairwise_cons]
  constructor
  · intro hi
    -- the last collection has the id, so none before it does
    have hbefore : ∀ a ∈ before, a.resolvedId ≠ t := by
      rintro a ha hat
      obtain rfl := hv.eq_of_resolvedId (by simp [hs, ha]) hlm (hat.trans hi.symm)
      have hn := hs ▸ hv.distinctIds.of_map _
      exact (List.nodup_append.1 hn).2.2 a ha a List.mem_cons_self rfl
    exact ⟨List.pairwise_of_forall_mem_list fun a ha _ _ hat => absurd hat (hbefore a ha),
      ⟨fun e he _ => (hafter e he).2,
        List.pairwise_of_forall_mem_list fun a ha _ _ hat => absurd hat (hafter a ha).1⟩,
      fun a ha _ _ hat => absurd hat (hbefore a ha)⟩
  · rintro ⟨-, -, hcross⟩
    by_contra hi
    have hname := hlast.resolve_left hi
    -- the collection with the id is not after the last one, so it is before
    have hd' : d ∈ before := by
      rw [hs, List.mem_append, List.mem_cons] at hd
      rcases hd with hd | rfl | hd
      · exact hd
      · exact absurd ht hi
      · exact absurd ht (hafter d hd).1
    exact hcross d hd' last List.mem_cons_self ht hname

/-! ## Fields of the catalog -/

theorem forall₂_of_mapM {f : α → Except ε β} {as : List α} {bs : List β}
    (h : as.mapM f = .ok bs) : List.Forall₂ (fun a b => f a = .ok b) as bs := by
  induction as generalizing bs with
  | nil =>
    cases h
    exact .nil
  | cons a as ih =>
    rw [List.mapM_cons] at h
    cases ha : f a with
    | error e => rw [ha] at h; cases h
    | ok b =>
      cases hs : as.mapM f with
      | error e => rw [ha, hs] at h; cases h
      | ok rest =>
        rw [ha, hs] at h
        cases h
        exact .cons ha (ih hs)

theorem collections_foldlM {cs : List Collection} (h : cs.foldlM Catalog.add c = .ok c') :
    c'.collections = c.collections ++ cs := by
  induction cs generalizing c with
  | nil =>
    cases h
    rw [List.append_nil]
  | cons new cs ih =>
    rw [List.foldlM_cons] at h
    cases ha : c.add new with
    | error e => rw [ha] at h; cases h
    | ok mid =>
      rw [ha] at h
      have hm : mid.collections = c.collections ++ [new] := by
        unfold Catalog.add at ha
        split_ifs at ha
        cases ha
        rfl
      rw [ih h, hm, List.append_assoc, List.singleton_append]

theorem converted_toCatalog (h : ds.toCatalog = .ok c) :
    List.Forall₂ (fun d k => ds.toCollection d = .ok k) ds.collections c.collections := by
  rw [toCatalog, check_of_toCatalog h] at h
  cases hm : ds.collections.mapM ds.toCollection with
  | error e => rw [hm] at h; cases h
  | ok cs =>
    rw [hm] at h
    rw [collections_foldlM h]
    exact forall₂_of_mapM hm

theorem relation_of_toCollection (h : ds.toCollection d = .ok k) (hf : f ∈ d.fields)
    (hr : f.type = .relation) (ht : f.collection = some t) :
    ∃ g ∈ k.fields, g.name = f.name ∧
      ∃ r, g.kind = .relation r ∧ ds.targetId? t = some r.target := by
  unfold toCollection toFields at h
  cases hm : d.fields.mapM (ds.toField d.name) with
  | error e => rw [hm] at h; cases h
  | ok written =>
    rw [hm] at h
    cases h
    obtain ⟨g, hg, hfg⟩ := exists_right (forall₂_of_mapM hm) hf
    refine ⟨g, ?_, ?_⟩
    · have hown : g ∈ ownFields d written := sublist_ownFields.subset hg
      show g ∈ if d.kind = .auth then addMissing (ownFields d written) authFields
        else ownFields d written
      split_ifs
      · exact (prefix_addMissing _ _).subset hown
      · exact hown
    · rw [toField, fieldKind, hr, ht] at hfg
      cases hi : ds.targetId? t with
      | none => simp [hi, Except.map] at hfg
      | some id =>
        simp only [Option.getD_some, hi, Except.map, Except.ok.injEq] at hfg
        subst hfg
        exact ⟨rfl, _, rfl, rfl⟩

theorem refersTo?_eq (h : ds.toCatalog = .ok c) (hd : d ∈ ds.collections) (hf : f ∈ d.fields)
    (hr : f.type = .relation) (ht : f.collection = some t) :
    ∃ stored ∈ c.collections, c.refersTo? d.resolvedId f.name = some stored ∧
      ds.targetId? t = some stored.id := by
  obtain ⟨k, hk, hdk⟩ := exists_right (converted_toCatalog h) hd
  obtain ⟨g, hg, hn, r, hkind, hid⟩ := relation_of_toCollection hdk hf hr ht
  obtain ⟨e, he, -, heid⟩ := targetId?_spec hid
  obtain ⟨stored, hs, hes⟩ := exists_right (describes_toCatalog h) he
  have hkid : k.id = d.resolvedId := by
    unfold toCollection at hdk
    cases hfields : ds.toFields d with
    | error e => rw [hfields] at hdk; cases hdk
    | ok fields => rw [hfields] at hdk; cases hdk; rfl
  have hsid : stored.id = r.target := by rw [hes.id, heid]
  refine ⟨stored, hs, ?_, by rw [hsid, hid]⟩
  have hfound := field?_of_mem h hk hg
  simp [Catalog.refersTo?, ← hkid, find?_of_nodup c.distinctIds hk, ← hn, hfound, hkind,
    FieldKind.reference?, ← hsid, find?_of_nodup c.distinctIds hs]

/-- A text that is the id of a collection finds that collection, and any other target finds the
one with the name. -/
theorem find?_answering (h : ds.toCatalog = .ok c) (hd : d ∈ ds.collections)
    (ht : d.resolvedId = t ∨ d.name = t) :
    ∃ found ∈ c.collections, c.find? t = some found ∧
      (found.id = t ∨ (∀ e ∈ ds.collections, e.resolvedId ≠ t) ∧ found.name = t) := by
  have hds := describes_toCatalog h
  by_cases hid : ∃ e ∈ ds.collections, e.resolvedId = t
  · obtain ⟨e, he, rfl⟩ := hid
    obtain ⟨k, hk, hek⟩ := exists_right hds he
    exact ⟨k, hk, hek.id ▸ find?_id hk, .inl hek.id⟩
  · have hno : ∀ e ∈ ds.collections, e.resolvedId ≠ t := fun e he hi => hid ⟨e, he, hi⟩
    obtain ⟨k, hk, hdk⟩ := exists_right hds hd
    have hname : k.name = t := hdk.name.trans (ht.resolve_left (hno d hd))
    have hnone : c.collections.find? (·.id == t) = none := by
      refine List.find?_eq_none.2 fun k hk => ?_
      obtain ⟨e, he, hek⟩ := exists_left hds hk
      simpa [hek.id] using hno e he
    refine ⟨k, hk, ?_, .inr ⟨hno, hname⟩⟩
    rw [Catalog.find?, hnone, Option.none_or, ← hname, find?_of_nodup c.distinctNames hk]

/-- A relation refers to the collection that its target finds exactly if no collection with the
target as its name is written after one with the target as its id. -/
theorem refersTo?_eq_find?_iff (h : ds.toCatalog = .ok c) (hd : d ∈ ds.collections)
    (hf : f ∈ d.fields) (hr : f.type = .relation) (ht : f.collection = some t) :
    ∃ stored found, c.refersTo? d.resolvedId f.name = some stored ∧ c.find? t = some found ∧
      (stored = found ↔ ds.NamedFirst t) := by
  have hv := isValid_of_toCatalog h
  obtain ⟨stored, hs, hrefers, hid⟩ := refersTo?_eq h hd hf hr ht
  obtain ⟨e, he, hte, heid⟩ := targetId?_spec hid
  obtain ⟨found, hfc, hfound, hcase⟩ := find?_answering h he (hte.symm.imp Eq.symm Eq.symm)
  refine ⟨stored, found, hrefers, hfound, ?_⟩
  have hbyId : stored = found ↔ stored.id = found.id :=
    ⟨congrArg _, List.inj_on_of_nodup_map c.distinctIds hs hfc⟩
  obtain ⟨a, ha, haf⟩ := exists_left (describes_toCatalog h) hfc
  rcases hcase with hfid | ⟨hno, hname⟩
  · -- the text is an id
    rw [hbyId, hfid]
    exact targetId?_eq_self_iff hv ha (haf.id.symm.trans hfid) hid
  · -- the text is a name only, so that the last collection is the only one
    have hae : a = e := List.inj_on_of_nodup_map hv.distinctNames ha he <|
      (haf.name.symm.trans hname).trans (hte.resolve_right (Ne.symm (hno e he)))
    exact iff_of_true (hbyId.2 (by rw [heid, haf.id, hae]))
      (List.pairwise_of_forall_mem_list fun b hb _ _ hbt => absurd hbt (hno b hb))

/-! ## Other orders -/

theorem IsValid.perm (hv : ds.IsValid) (hp : ds'.collections.Perm ds.collections) :
    ds'.IsValid where
  nonempty he := hv.nonempty (List.perm_nil.1 (he ▸ hp.symm))
  named d hd := hv.named d (hp.subset hd)
  distinctNames := (hp.map _).nodup_iff.2 hv.distinctNames
  distinctIds := (hp.map _).nodup_iff.2 hv.distinctIds
  targets d hd f hf hr :=
    (hv.targets d (hp.subset hd) f hf hr).imp fun _ he => he.imp_left (hp.mem_iff.2 ·)

theorem namesOne_iff (hv : ds.IsValid) :
    (∀ ds' : Definitions, ds'.collections.Perm ds.collections → ds'.NamedFirst t) ↔
      ds.NamesOne t := by
  constructor
  · intro h d hd e he hdt het
    by_contra hne
    have hmem : e ∈ ds.collections.erase d :=
      (List.mem_erase_of_ne (Ne.symm hne)).2 he
    have hp : (d :: e :: (ds.collections.erase d).erase e).Perm ds.collections :=
      ((List.perm_cons_erase hmem).symm.cons d).trans (List.perm_cons_erase hd).symm
    exact List.rel_of_pairwise_cons (h ⟨_⟩ hp) List.mem_cons_self hdt het
  · intro h ds' hp
    refine List.Nodup.pairwise_of_forall_ne (hv.perm hp).distinctIds.of_map ?_
    exact fun d hd e he hne hdt het => hne (h d (hp.subset hd) e (hp.subset he) hdt het)

/-- The collection that a relation refers to is the one that its target finds exactly if no
collection with the target as its name is written after one with the target as its id. It is so
for every order of the collections exactly if the target is not the id of one collection and the
name of another. -/
theorem refersTo_found_iff (h : ds.toCatalog = .ok c) (hd : d ∈ ds.collections)
    (hf : f ∈ d.fields) (hr : f.type = .relation) (ht : f.collection = some t) :
    (∃ stored found, c.refersTo? d.resolvedId f.name = some stored ∧ c.find? t = some found ∧
      (stored = found ↔ ds.NamedFirst t)) ∧
    ((∀ ds' : Definitions, ds'.collections.Perm ds.collections → ∃ c' : Catalog,
      ds'.toCatalog = .ok c' ∧ c'.refersTo? d.resolvedId f.name = c'.find? t) ↔
        ds.NamesOne t) := by
  have hv := isValid_of_toCatalog h
  have hall : ∀ ds' : Definitions, ds'.collections.Perm ds.collections →
      ((∃ c' : Catalog, ds'.toCatalog = .ok c' ∧
      c'.refersTo? d.resolvedId f.name = c'.find? t) ↔ ds'.NamedFirst t) := by
    intro ds' hp
    obtain ⟨c', h', -⟩ := toCatalog_of_isValid (hv.perm hp)
    obtain ⟨stored, found, hs, hfd, hiff⟩ :=
      refersTo?_eq_find?_iff h' (hp.mem_iff.2 hd) hf hr ht
    rw [← hiff, ← Option.some_inj, ← hs, ← hfd]
    constructor
    · rintro ⟨k, hk, he⟩
      rw [h', Except.ok.injEq] at hk
      rwa [hk]
    · exact fun he => ⟨c', h', he⟩
  exact ⟨refersTo?_eq_find?_iff h hd hf hr ht, by
    rw [← namesOne_iff hv]; exact forall₂_congr hall⟩

def authored (people places : CollectionDefinition) : Definitions :=
  { collections := [people, places,
      { name := "posts",
        fields := [{ name := "author", type := .relation, collection := some "x" }] }] }

def people : CollectionDefinition := { id := some "x", name := "people" }

def places : CollectionDefinition := { id := some "y", name := "x" }

set_option maxRecDepth 4000 in
/-- With the places written first the people are meant, and so it is not for every order. -/
theorem refersTo_found_people :
    ∃ c found, (authored places people).toCatalog = .ok c ∧
      c.refersTo? "posts" "author" = some found ∧ c.find? "x" = some found ∧
      found.name = "people" ∧ ¬ ∀ ds : Definitions,
        ds.collections.Perm (authored places people).collections → ∃ c' : Catalog,
          ds.toCatalog = .ok c' ∧ c'.refersTo? "posts" "author" = c'.find? "x" := by
  have h : (authored places people).toCatalog =
      .ok ((authored places people).toCatalog.toOption.getD default) := rfl
  have hd : (authored places people).collections[2] ∈ (authored places people).collections :=
    List.getElem_mem _
  obtain ⟨⟨stored, found, hs, hf, hiff⟩, horder⟩ :=
    refersTo_found_iff h hd List.mem_cons_self rfl rfl
  have hfirst : (authored places people).NamedFirst "x" := by unfold NamedFirst; decide
  obtain rfl := hiff.2 hfirst
  refine ⟨_, stored, h, hs, hf, ?_, fun hall => ?_⟩
  · cases hf
    rfl
  · have hone := horder.1 hall people (by decide) places (by decide) rfl rfl
    exact absurd hone (by decide)

set_option maxRecDepth 4000 in
theorem refersTo_other_places :
    ∃ c stored found, (authored people places).toCatalog = .ok c ∧
      c.refersTo? "posts" "author" = some stored ∧ c.find? "x" = some found ∧
      stored.name = "x" ∧ found.name = "people" :=
  ⟨_, _, _, rfl, rfl, rfl, rfl, rfl⟩

end Definitions

end RecordFilter
