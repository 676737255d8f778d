import Mathlib.Data.List.Forall2
import Mathlib.Data.List.Nodup
import RecordFilter.Catalog.Definition

/-!
# What definitions describe

Definitions are checked four times on their way to a catalog: their names and ids, the targets of
their relations, the kinds of their fields, and the collections that are made of them. The checks
agree. Definitions are refused exactly when they break one of the rules of `Definitions.IsValid`,
and otherwise the catalog lists what they declare (`Definitions.toCatalog_spec`).
-/

namespace RecordFilter

/-! ## The rules -/

def Text.IsWordName (s : String) : Prop := s ≠ "" ∧ ∀ c ∈ s.toList, Text.isWord c = true

theorem Text.isName_iff_isWordName {s : String} :
    Text.isName s.toList = true ↔ Text.IsWordName s := by
  rw [isName_iff, IsWordName, Ne, String.toList_eq_nil_iff]

/-- The names of a collection and its fields are names, and no two fields have the same one. -/
structure CollectionDefinition.IsNamed (d : CollectionDefinition) : Prop where
  name : Text.IsWordName d.name
  fields : ∀ f ∈ d.fields, Text.IsWordName f.name
  distinct : (d.fields.map FieldDefinition.name).Nodup

/-- A relation refers to one of the collections that are defined, by its name or its id. -/
def FieldDefinition.HasTarget (f : FieldDefinition) (ds : Definitions) : Prop :=
  f.type = .relation →
    ∃ d ∈ ds.collections, f.collection = some d.name ∨ f.collection = some d.resolvedId

/-- The rules that definitions keep. -/
structure Definitions.IsValid (ds : Definitions) : Prop where
  nonempty : ds.collections ≠ []
  named : ∀ d ∈ ds.collections, d.IsNamed
  distinctNames : (ds.collections.map CollectionDefinition.name).Nodup
  distinctIds : (ds.collections.map CollectionDefinition.resolvedId).Nodup
  targets : ∀ d ∈ ds.collections, ∀ f ∈ d.fields, f.HasTarget ds

/-! ## What is described -/

def FieldDefinition.kindFor (f : FieldDefinition) (target : String) : FieldKind :=
  match f.type with
  | .text => .text
  | .number => .number
  | .bool => .bool
  | .url => .url
  | .email => .email
  | .date => .date
  | .autoDate => .autoDate
  | .json => .json
  | .select => .select f.multiple
  | .file => .file f.multiple
  | .relation => .relation ⟨target, f.multiple, f.cascadeDelete, f.unique⟩

/-- A field has the name and the settings of its definition; the id that it refers to, if it is a
relation, is that of a collection with the written name or id. -/
structure Definitions.Declares (ds : Definitions) (f : FieldDefinition) (g : Field) : Prop where
  name : g.name = f.name
  hidden : g.isHidden = f.isHidden
  kind : ∃ target, g.kind = f.kindFor target ∧ (f.type = .relation →
    ∃ d ∈ ds.collections, (f.collection = some d.name ∨ f.collection = some d.resolvedId) ∧
      d.resolvedId = target)

def idField : Field := ⟨FieldName.id, .text, false⟩

/-- A collection as its definition describes it. -/
structure Definitions.Describes (ds : Definitions) (d : CollectionDefinition) (c : Collection) :
    Prop where
  id : c.id = d.resolvedId
  name : c.name = d.name
  kind : c.kind = d.kind
  distinct : (c.fields.map Field.name).Nodup
  /-- The declared fields stand in their order. -/
  declared : ∃ own, own.Sublist c.fields ∧ List.Forall₂ ds.Declares d.fields own
  hasId : ∃ f ∈ c.fields, f.name = FieldName.id
  signsIn : d.kind = .auth → ∀ a ∈ Definitions.authFields, ∃ f ∈ c.fields, f.name = a.name
  /-- There are no other fields. -/
  known : ∀ f ∈ c.fields, (∃ g ∈ d.fields, ds.Declares g f) ∨ f = idField ∨
    d.kind = .auth ∧ f ∈ Definitions.authFields

/-! ## The checks -/

/-- Distinct, and none of those that are taken. -/
def AreNew (taken names : List String) : Prop := names.Nodup ∧ ∀ n ∈ names, n ∉ taken

theorem areNew_nil {names : List String} : AreNew [] names ↔ names.Nodup := by
  simp [AreNew]

theorem areNew_cons {taken names : List String} {n : String} :
    AreNew taken (n :: names) ↔ n ∉ taken ∧ AreNew (n :: taken) names := by
  rw [AreNew, AreNew, List.nodup_cons, List.forall_mem_cons]
  simp only [List.mem_cons, not_or]
  constructor
  · rintro ⟨⟨hn, hd⟩, ht, hs⟩
    exact ⟨ht, hd, fun m hm => ⟨fun h => hn (h ▸ hm), hs m hm⟩⟩
  · rintro ⟨ht, hd, hs⟩
    exact ⟨⟨fun hn => (hs n hn).1 rfl, hd⟩, ht, fun m hm => (hs m hm).2⟩

namespace Definitions

variable {ds : Definitions} {ε α β : Type}

theorem checkFields_iff {collection : String} {seen : List String} {fs : List FieldDefinition} :
    checkFields collection seen fs = .ok () ↔
      (∀ f ∈ fs, Text.IsWordName f.name) ∧ AreNew seen (fs.map FieldDefinition.name) := by
  induction fs generalizing seen with
  | nil => simp [checkFields, AreNew]
  | cons f fs ih =>
    rw [List.forall_mem_cons, List.map_cons, areNew_cons, ← Text.isName_iff_isWordName]
    unfold checkFields
    split
    · next hn => simp_all
    · next hn =>
      split
      · next hs => simp [hs]
      · next hs => simp_all

theorem checkCollections_iff {names ids : List String} {cs : List CollectionDefinition} :
    checkCollections names ids cs = .ok () ↔
      (∀ d ∈ cs, d.IsNamed) ∧ AreNew names (cs.map CollectionDefinition.name) ∧
        AreNew ids (cs.map CollectionDefinition.resolvedId) := by
  induction cs generalizing names ids with
  | nil => simp [checkCollections, AreNew]
  | cons d cs ih =>
    have named : d.IsNamed ↔
        Text.isName d.name.toList = true ∧ checkFields d.name [] d.fields = .ok () := by
      rw [checkFields_iff, areNew_nil, Text.isName_iff_isWordName]
      exact ⟨fun h => ⟨h.name, h.fields, h.distinct⟩, fun h => ⟨h.1, h.2.1, h.2.2⟩⟩
    rw [List.forall_mem_cons, List.map_cons, List.map_cons, areNew_cons, areNew_cons, named]
    unfold checkCollections
    split
    · next hn => simp_all
    · split
      · next hs => simp [hs]
      · split
        · next hs => simp [hs]
        · split
          · next hf => simp [hf]
          · next hf => simp_all

theorem forM_iff {f : α → Except ε Unit} {as : List α} :
    as.forM f = .ok () ↔ ∀ a ∈ as, f a = .ok () := by
  induction as with
  | nil => exact ⟨fun _ => by rintro _ ⟨⟩, fun _ => rfl⟩
  | cons a as ih =>
    have step : (a :: as).forM f = f a >>= fun _ => as.forM f := rfl
    rw [step, List.forall_mem_cons, ← ih]
    cases f a with
    | error e => exact ⟨(fun h => by cases h), (fun h => by cases h.1)⟩
    | ok u => exact ⟨fun h => ⟨rfl, h⟩, fun h => h.2⟩

theorem mem_targets {t : String} :
    t ∈ ds.targets ↔ ∃ d ∈ ds.collections, t = d.name ∨ t = d.resolvedId := by
  simp [targets]

theorem checkTarget_iff {collection : String} {f : FieldDefinition} :
    checkTarget ds.targets collection f = .ok () ↔ f.HasTarget ds := by
  unfold checkTarget FieldDefinition.HasTarget
  split
  · next hr =>
    cases hc : f.collection with
    | none => simp [hr]
    | some t =>
      by_cases ht : t ∈ ds.targets
      · simpa [hr, ht] using mem_targets.1 ht
      · simpa [hr, ht] using mt mem_targets.2 ht
  · next hr => simp [hr]

/-- The checks before the conversion are the rules. -/
theorem check_iff : ds.check = .ok () ↔ ds.IsValid := by
  have targets : ds.checkTargets = .ok () ↔
      ∀ d ∈ ds.collections, ∀ f ∈ d.fields, f.HasTarget ds := by
    simp only [checkTargets, forM_iff, checkTarget_iff]
  have collections := @checkCollections_iff [] [] ds.collections
  rw [areNew_nil, areNew_nil] at collections
  unfold check
  split
  · next he =>
    exact ⟨(fun h => by cases h), fun h => absurd (List.isEmpty_iff.1 he) h.nonempty⟩
  · next hn =>
    split
    · next e hc =>
      refine ⟨(fun h => by cases h), fun h => ?_⟩
      rw [collections.2 ⟨h.named, h.distinctNames, h.distinctIds⟩] at hc
      cases hc
    · next hc =>
      obtain ⟨named, names, ids⟩ := collections.1 hc
      refine ⟨fun h => ⟨fun he => hn (List.isEmpty_iff.2 he), named, names, ids, targets.1 h⟩,
        fun h => targets.2 h.targets⟩

/-! ## Targets -/

/-- A text stands for the id of a collection that has it as its name or id. -/
theorem targetId?_spec {t id : String} (h : ds.targetId? t = some id) :
    ∃ d ∈ ds.collections, (t = d.name ∨ t = d.resolvedId) ∧ id = d.resolvedId := by
  obtain ⟨⟨key, i⟩, hf, rfl⟩ := Option.map_eq_some_iff.1 h
  have hk : key = t := by simpa using List.find?_some hf
  have hm := List.mem_reverse.1 (List.mem_of_find?_eq_some hf)
  obtain ⟨d, hd, hp⟩ := List.mem_flatMap.1 hm
  simp only [List.mem_cons, Prod.mk.injEq, List.not_mem_nil, or_false] at hp
  exact ⟨d, hd, hk ▸ hp.imp And.left And.left, hp.elim And.right And.right⟩

theorem targetId?_of_mem {t : String} (h : t ∈ ds.targets) : ∃ id, ds.targetId? t = some id := by
  obtain ⟨d, hd, ht⟩ := mem_targets.1 h
  have hm : (t, d.resolvedId) ∈ ds.targetIds :=
    List.mem_flatMap.2 ⟨d, hd, by rcases ht with rfl | rfl <;> simp⟩
  have hs : (ds.targetIds.reverse.find? (·.1 == t)).isSome :=
    List.find?_isSome.2 ⟨_, List.mem_reverse.2 hm, by simp⟩
  obtain ⟨p, hp⟩ := Option.isSome_iff_exists.1 hs
  exact ⟨p.2, by rw [targetId?, hp]; rfl⟩

/-! ## Conversion -/

section Related

variable {R : α → β → Prop} {as : List α} {bs : List β}

theorem mapM_spec {f : α → Except ε β}
    (h : ∀ a ∈ as, ∃ b, f a = .ok b ∧ R a b) :
    ∃ bs, as.mapM f = .ok bs ∧ List.Forall₂ R as bs := by
  induction as with
  | nil => exact ⟨[], rfl, .nil⟩
  | cons a as ih =>
    obtain ⟨⟨b, hb, hr⟩, hs⟩ := List.forall_mem_cons.1 h
    obtain ⟨bs, hbs, hrs⟩ := ih hs
    exact ⟨b :: bs, by rw [List.mapM_cons, hb, hbs]; rfl, .cons hr hrs⟩

theorem map_eq_of_forall₂ {γ : Type} {f : α → γ} {g : β → γ} (h : List.Forall₂ R as bs)
    (he : ∀ {a b}, R a b → g b = f a) : bs.map g = as.map f := by
  induction h with
  | nil => rfl
  | cons hr _ ih => rw [List.map_cons, List.map_cons, he hr, ih]

theorem exists_right {a : α} (h : List.Forall₂ R as bs) (ha : a ∈ as) : ∃ b ∈ bs, R a b := by
  induction h with
  | nil => cases ha
  | cons hr _ ih =>
    rcases List.mem_cons.1 ha with rfl | ha
    · exact ⟨_, List.mem_cons_self, hr⟩
    · exact (ih ha).imp fun _ hb => ⟨List.mem_cons_of_mem _ hb.1, hb.2⟩

theorem exists_left {b : β} (h : List.Forall₂ R as bs) (hb : b ∈ bs) : ∃ a ∈ as, R a b :=
  exists_right h.flip hb

end Related

theorem fieldKind_spec (collection : String) {f : FieldDefinition} (h : f.HasTarget ds) :
    ∃ target, ds.fieldKind collection f = .ok (f.kindFor target) ∧ (f.type = .relation →
      ∃ d ∈ ds.collections, (f.collection = some d.name ∨ f.collection = some d.resolvedId) ∧
        d.resolvedId = target) := by
  by_cases hr : f.type = .relation
  · obtain ⟨d, hd, ht⟩ := h hr
    obtain ⟨t, hc⟩ : ∃ t, f.collection = some t := by rcases ht with ht | ht <;> exact ⟨_, ht⟩
    simp only [hc, Option.some.injEq] at ht ⊢
    obtain ⟨id, hi⟩ := targetId?_of_mem (mem_targets.2 ⟨d, hd, ht⟩)
    obtain ⟨e, he, hte, rfl⟩ := targetId?_spec hi
    refine ⟨e.resolvedId, ?_, fun _ => ⟨e, he, hte, rfl⟩⟩
    simp [fieldKind, FieldDefinition.kindFor, hr, hc, hi]
  · refine ⟨"", ?_, fun h => absurd h hr⟩
    cases ht : f.type <;> simp_all [fieldKind, FieldDefinition.kindFor]

theorem toField_spec (collection : String) {f : FieldDefinition} (h : f.HasTarget ds) :
    ∃ g, ds.toField collection f = .ok g ∧ ds.Declares f g := by
  obtain ⟨target, hk, ht⟩ := fieldKind_spec collection h
  exact ⟨⟨f.name, f.kindFor target, f.isHidden⟩, by rw [toField, hk]; rfl, rfl, rfl, target, rfl, ht⟩

/-! ### Fields -/

theorem prefix_addMissing (fields more : List Field) : fields <+: addMissing fields more := by
  induction more generalizing fields with
  | nil => exact List.prefix_rfl
  | cons m more ih =>
    unfold addMissing
    split
    · exact ih fields
    · exact (List.prefix_append _ _).trans (ih _)

theorem nodup_addMissing {fields more : List Field} (h : (fields.map Field.name).Nodup) :
    ((addMissing fields more).map Field.name).Nodup := by
  induction more generalizing fields with
  | nil => exact h
  | cons m more ih =>
    unfold addMissing
    split
    · exact ih h
    · next hn =>
      refine ih ?_
      rw [List.map_append, List.nodup_append]
      exact ⟨h, by simp, by simpa using hn⟩

/-- A field of each name is there. -/
theorem mem_names_addMissing {fields more : List Field} {m : Field} (h : m ∈ more) :
    ∃ f ∈ addMissing fields more, f.name = m.name := by
  induction more generalizing fields with
  | nil => cases h
  | cons k more ih =>
    unfold addMissing
    rcases List.mem_cons.1 h with rfl | h
    · split
      · next ha =>
        obtain ⟨f, hf, hn⟩ := List.any_eq_true.1 ha
        exact ⟨f, (prefix_addMissing _ _).subset hf, by simpa using hn⟩
      · exact ⟨m, (prefix_addMissing _ _).subset (by simp), rfl⟩
    · split
      · exact ih h
      · exact ih h

theorem mem_addMissing {fields more : List Field} {f : Field} (h : f ∈ addMissing fields more) :
    f ∈ fields ∨ f ∈ more := by
  induction more generalizing fields with
  | nil => exact .inl h
  | cons m more ih =>
    unfold addMissing at h
    split at h
    · exact (ih h).imp_right (List.mem_cons_of_mem _)
    · rcases ih h with h | h
      · rcases List.mem_append.1 h with h | h
        · exact .inl h
        · exact .inr (List.mem_singleton.1 h ▸ List.mem_cons_self)
      · exact .inr (List.mem_cons_of_mem _ h)

/-- The written fields, after an id unless one of them is the id. -/
def ownFields (d : CollectionDefinition) (written : List Field) : List Field :=
  if d.fields.any (·.name == FieldName.id) then written else idField :: written

section Own

variable {d : CollectionDefinition} {written : List Field}

theorem sublist_ownFields : written.Sublist (ownFields d written) := by
  unfold ownFields
  split
  · exact .refl _
  · exact List.sublist_cons_self _ _

theorem mem_ownFields {f : Field} (h : f ∈ ownFields d written) : f ∈ written ∨ f = idField := by
  unfold ownFields at h
  split at h
  · exact .inl h
  · exact (List.mem_cons.1 h).symm

theorem hasId_ownFields (h : written.map Field.name = d.fields.map FieldDefinition.name) :
    ∃ f ∈ ownFields d written, f.name = FieldName.id := by
  unfold ownFields
  split
  · next ha =>
    obtain ⟨g, hg, hi⟩ := List.any_eq_true.1 ha
    have hm : FieldName.id ∈ written.map Field.name := by
      rw [h, List.mem_map]
      exact ⟨g, hg, by simpa using hi⟩
    exact List.mem_map.1 hm
  · exact ⟨idField, List.mem_cons_self, rfl⟩

theorem nodup_ownFields (h : written.map Field.name = d.fields.map FieldDefinition.name)
    (hd : (d.fields.map FieldDefinition.name).Nodup) :
    ((ownFields d written).map Field.name).Nodup := by
  unfold ownFields
  split
  · exact h ▸ hd
  · next ha =>
    rw [List.map_cons, h, List.nodup_cons]
    exact ⟨by simpa [idField] using ha, hd⟩

end Own

theorem toCollection_spec {d : CollectionDefinition}
    (hd : (d.fields.map FieldDefinition.name).Nodup) (ht : ∀ f ∈ d.fields, f.HasTarget ds) :
    ∃ c, ds.toCollection d = .ok c ∧ ds.Describes d c := by
  obtain ⟨written, hw, hr⟩ := mapM_spec fun f hf => toField_spec d.name (ht f hf)
  have hn := map_eq_of_forall₂ hr Declares.name
  have hown : ∀ f ∈ ownFields d written, (∃ g ∈ d.fields, ds.Declares g f) ∨ f = idField :=
    fun f hf => (mem_ownFields hf).imp_left (exists_left hr)
  have he : ds.toCollection d = .ok ⟨d.resolvedId, d.name, d.kind,
      if d.kind = .auth then addMissing (ownFields d written) authFields
      else ownFields d written⟩ := by
    rw [toCollection, toFields, hw]
    rfl
  refine ⟨_, he, ?_⟩
  by_cases ha : d.kind = .auth
  · simp only [ha, if_true]
    have hp := prefix_addMissing (ownFields d written) authFields
    obtain ⟨f, hf, hi⟩ := hasId_ownFields hn
    exact {
      id := rfl
      name := rfl
      kind := ha.symm
      distinct := nodup_addMissing (nodup_ownFields hn hd)
      declared := ⟨written, sublist_ownFields.trans hp.sublist, hr⟩
      hasId := ⟨f, hp.subset hf, hi⟩
      signsIn := fun _ _ hm => mem_names_addMissing hm
      known := fun f hf => (mem_addMissing hf).elim
        (fun hf => (hown f hf).imp_right .inl) (fun hf => .inr (.inr ⟨ha, hf⟩)) }
  · simp only [ha, if_false]
    exact {
      id := rfl
      name := rfl
      kind := rfl
      distinct := nodup_ownFields hn hd
      declared := ⟨written, sublist_ownFields, hr⟩
      hasId := hasId_ownFields hn
      signsIn := fun h => absurd h ha
      known := fun f hf => (hown f hf).imp_right .inl }

/-! ### Collections -/

theorem add_spec {c : Catalog} {new : Collection}
    (hi : new.id ∉ c.collections.map Collection.id)
    (hn : new.name ∉ c.collections.map Collection.name) :
    ∃ d, c.add new = .ok d ∧ d.collections = c.collections ++ [new] := by
  rw [Catalog.add, dif_neg hi, dif_neg hn]
  exact ⟨_, rfl, rfl⟩

theorem foldlM_add_spec {cs : List Collection} {c : Catalog}
    (hi : ((c.collections ++ cs).map Collection.id).Nodup)
    (hn : ((c.collections ++ cs).map Collection.name).Nodup) :
    ∃ d, cs.foldlM Catalog.add c = .ok d ∧ d.collections = c.collections ++ cs := by
  induction cs generalizing c with
  | nil => exact ⟨c, rfl, (List.append_nil _).symm⟩
  | cons new cs ih =>
    have fresh {f : Collection → String} (h : ((c.collections ++ new :: cs).map f).Nodup) :
        f new ∉ c.collections.map f := by
      rw [List.map_append, List.map_cons] at h
      exact fun hm => (List.nodup_append.1 h).2.2 _ hm _ List.mem_cons_self rfl
    obtain ⟨mid, ha, hm⟩ := add_spec (fresh hi) (fresh hn)
    rw [List.append_cons, ← hm] at hi hn ⊢
    obtain ⟨d, hd, hc⟩ := ih hi hn
    exact ⟨d, by rw [List.foldlM_cons, ha]; exact hd, hc⟩

theorem find?_of_nodup {key : α → String} {as : List α} (hn : (as.map key).Nodup) {a : α}
    (h : a ∈ as) : as.find? (key · == key a) = some a := by
  have hs : (as.find? (key · == key a)).isSome :=
    List.find?_isSome.2 ⟨a, h, beq_self_eq_true _⟩
  obtain ⟨b, hb⟩ := Option.isSome_iff_exists.1 hs
  have hkey : key b = key a := by simpa using List.find?_some hb
  rw [hb, List.inj_on_of_nodup_map hn (List.mem_of_find?_eq_some hb) h hkey]

/-- An id of a collection finds that collection, whatever the others are named. -/
theorem find?_id {c : Catalog} {k : Collection} (h : k ∈ c.collections) :
    c.find? k.id = some k := by
  rw [Catalog.find?, find?_of_nodup c.distinctIds h, Option.some_or]

/-! ## Acceptance -/

/-- Definitions that keep the rules have a catalog, and it is as they describe it. -/
theorem toCatalog_of_isValid (h : ds.IsValid) :
    ∃ c, ds.toCatalog = .ok c ∧ List.Forall₂ ds.Describes ds.collections c.collections := by
  obtain ⟨cs, hm, hr⟩ := mapM_spec fun d hd =>
    toCollection_spec (h.named d hd).distinct (h.targets d hd)
  have hi := map_eq_of_forall₂ hr Describes.id
  have hn := map_eq_of_forall₂ hr Describes.name
  obtain ⟨c, hc, hcs⟩ := @foldlM_add_spec cs {}
    (by rw [List.nil_append, hi]; exact h.distinctIds)
    (by rw [List.nil_append, hn]; exact h.distinctNames)
  refine ⟨c, ?_, by rw [hcs]; exact hr⟩
  rw [toCatalog, check_iff.2 h]
  simp only [hm]
  exact hc

theorem isValid_of_toCatalog {c : Catalog} (h : ds.toCatalog = .ok c) : ds.IsValid :=
  check_iff.1 (check_of_toCatalog h)

/-- The catalog of definitions lists what they describe. -/
theorem describes_toCatalog {c : Catalog} (h : ds.toCatalog = .ok c) :
    List.Forall₂ ds.Describes ds.collections c.collections := by
  obtain ⟨d, hd, hr⟩ := toCatalog_of_isValid (isValid_of_toCatalog h)
  rw [h, Except.ok.injEq] at hd
  exact hd ▸ hr

theorem field?_of_mem {c : Catalog} (h : ds.toCatalog = .ok c) {k : Collection}
    (hk : k ∈ c.collections) {f : Field} (hf : f ∈ k.fields) : k.field? f.name = some f := by
  obtain ⟨d, -, hd⟩ := exists_left (describes_toCatalog h) hk
  exact find?_of_nodup hd.distinct hf

theorem find?_target {c : Catalog} (h : ds.toCatalog = .ok c) {k : Collection}
    (hk : k ∈ c.collections) {f : Field} (hf : f ∈ k.fields) {r : Reference}
    (hr : f.kind = .relation r) :
    ∃ t ∈ c.collections, t.id = r.target ∧ c.find? r.target = some t := by
  have hds := describes_toCatalog h
  obtain ⟨d, hd, hdk⟩ := exists_left hds hk
  rcases hdk.known f hf with ⟨g, hg, hgf⟩ | rfl | ⟨-, ha⟩
  · obtain ⟨target, hkind, ht⟩ := hgf.kind
    have hrel : g.type = .relation ∧ r.target = target := by
      rw [hr, FieldDefinition.kindFor] at hkind
      cases hgt : g.type <;> simp_all
    obtain ⟨e, he, -, rfl⟩ := ht hrel.1
    obtain ⟨t, htc, het⟩ := exists_right hds he
    have hid : t.id = r.target := by rw [het.id, hrel.2]
    exact ⟨t, htc, hid, hid ▸ find?_id htc⟩
  · cases hr
  · have hplain : ∀ f ∈ authFields, f.kind.reference? = none := by decide
    have hn := hplain f ha
    rw [hr] at hn
    cases hn

/-- Definitions have a catalog exactly when they keep the rules. It then lists the collections as
they describe them, and every relation refers to one of these by its id. -/
theorem toCatalog_spec (ds : Definitions) :
    ((∃ c, ds.toCatalog = .ok c) ↔ ds.IsValid) ∧
      ∀ c, ds.toCatalog = .ok c →
        List.Forall₂ ds.Describes ds.collections c.collections ∧
        ∀ k ∈ c.collections, ∀ f ∈ k.fields, ∀ r, f.kind = .relation r →
          ∃ t ∈ c.collections, t.id = r.target ∧ c.find? r.target = some t :=
  ⟨⟨fun ⟨_, h⟩ => isValid_of_toCatalog h, fun h => (toCatalog_of_isValid h).imp fun _ => And.left⟩,
    fun _ h => ⟨describes_toCatalog h, fun _ hk _ hf _ hr => find?_target h hk hf hr⟩⟩

def teams : Definitions :=
  { collections :=
      [{ id := some "m1", name := "members", kind := .auth,
          fields := [{ name := "team", type := .relation, collection := some "teams" }] },
        { id := some "t1", name := "teams",
          fields := [{ name := "lead", type := .relation, collection := some "m1" }] }] }

def teamsCatalog : Catalog := teams.toCatalog.toOption.getD default

set_option maxRecDepth 4000 in
/-- A target that is written as a name is the id of the collection with that name. -/
theorem toCatalog_spec_teams :
    teams.toCatalog = .ok teamsCatalog ∧ teams.IsValid ∧
      List.Forall₂ teams.Describes teams.collections teamsCatalog.collections ∧
      ∃ t ∈ teamsCatalog.collections, t.id = "t1" ∧ teamsCatalog.find? "t1" = some t := by
  have h : teams.toCatalog = .ok teamsCatalog := rfl
  obtain ⟨describes, found⟩ := (toCatalog_spec teams).2 _ h
  exact ⟨h, (toCatalog_spec teams).1.1 ⟨_, h⟩, describes,
    found _ List.mem_cons_self ⟨"team", _, false⟩ (List.mem_cons_of_mem _ List.mem_cons_self) _ rfl⟩

end Definitions

end RecordFilter
