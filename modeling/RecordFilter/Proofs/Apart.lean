import RecordFilter.Proofs.Depth

/-!
# Names that can be told apart

An alias is made of names with underscores between them, and a name may have underscores too. So
one alias may come from two rows of names, `a`, `b` and `a_b`. Two names are `Confusable` if the
second one reads as the first with one of the names that may come after it. Where no two names of
one collection are (`Scope.IsClear`), an alias tells which of them it goes on with, and so which
join it stands for (`Plan.Laid.unique`).
-/

namespace RecordFilter

open Sql (Expr Join)

/-! ## Rows of names -/

section Names

variable {a b p z : String} {after after' as bs : List String}

theorem extends_iff : Extends a b ↔ (a ++ "_").toList <+: b.toList := by
  constructor
  · rintro ⟨t, rfl⟩
    have ht : (a ++ "_" ++ t).toList = (a ++ "_").toList ++ t.toList := String.toList_append
    rw [ht]
    exact List.prefix_append _ _
  · rintro ⟨t, ht⟩
    refine ⟨String.ofList t, String.toList_injective ?_⟩
    rw [String.toList_append, String.toList_ofList, ht]

instance (a b : String) : Decidable (Extends a b) := decidable_of_iff _ extends_iff.symm

theorem extends_append : Extends (p ++ a) (p ++ b) ↔ Extends a b := by
  simp only [extends_iff, String.toList_append, List.append_assoc, List.prefix_append_right_inj]

/-- One name is the other, or goes on after it with an underscore. -/
def Comparable (a b : String) : Prop := a = b ∨ Extends a b ∨ Extends b a

instance (a b : String) : Decidable (Comparable a b) := inferInstanceAs (Decidable (_ ∨ _ ∨ _))

theorem Comparable.symm (h : Comparable a b) : Comparable b a := by
  rcases h with h | h | h
  · exact .inl h.symm
  · exact .inr (.inr h)
  · exact .inr (.inl h)

theorem comparable_append : Comparable (p ++ a) (p ++ b) ↔ Comparable a b := by
  unfold Comparable
  rw [extends_append, extends_append]
  simp

theorem comparable_of_grows (ha : z = a ∨ Extends a z) (hb : z = b ∨ Extends b z) :
    Comparable a b := by
  have shorter {a b : String} (h : (a ++ "_").toList <+: (b ++ "_").toList) :
      a = b ∨ Extends a b := by
    have hb : (b ++ "_").toList = b.toList ++ ['_'] := String.toList_append
    rw [extends_iff]
    rw [hb] at h
    refine (List.prefix_concat_iff.1 h).imp_left fun h => String.toList_injective ?_
    rw [String.toList_append] at h
    exact List.append_cancel_right h
  rcases ha with rfl | ha
  · exact hb.imp_right .inr
  · rcases hb with rfl | hb
    · exact .inr (.inl ha)
    · rcases List.prefix_or_prefix_of_prefix (extends_iff.1 ha) (extends_iff.1 hb) with h | h
      · exact (shorter h).imp_right .inl
      · exact (shorter h).imp Eq.symm .inr

/-- The alias under which a row of names leads on. -/
def spelled (parent : String) (names : List String) : String := names.foldl fieldAlias parent

theorem spelled_cons : spelled p (a :: as) = spelled (fieldAlias p a) as := rfl

theorem fieldAlias_append : fieldAlias (p ++ a) b = p ++ fieldAlias a b := by
  simp [fieldAlias, String.append_assoc]

theorem spelled_grows (p : String) (names : List String) :
    spelled p names = p ∨ Extends p (spelled p names) := by
  induction names generalizing p with
  | nil => exact .inl rfl
  | cons a as ih =>
    rcases ih (fieldAlias p a) with h | h
    · exact .inr (spelled_cons ▸ h ▸ extends_fieldAlias p a)
    · exact .inr ((extends_fieldAlias p a).trans h)

/-- A name reads as another one, or as that with one of the names after it, as far as the shorter
of the two goes. -/
def Confusable (a : String) (after : List String) (b : String) : Prop :=
  a = b ∨ Extends a b ∧ ∃ x ∈ after, Comparable (fieldAlias a x) b

instance (a : String) (after : List String) (b : String) : Decidable (Confusable a after b) :=
  inferInstanceAs (Decidable (_ ∨ _))

theorem confusable_append : Confusable (p ++ a) after (p ++ b) ↔ Confusable a after b := by
  unfold Confusable
  simp only [extends_append, fieldAlias_append, comparable_append]
  simp

/-- Names that are not confusable lead to different aliases. -/
theorem spelled_ne (has : ∀ x ∈ as.head?, x ∈ after) (hbs : ∀ x ∈ bs.head?, x ∈ after')
    (hab : ¬ Confusable a after b) (hba : ¬ Confusable b after' a) :
    spelled a as ≠ spelled b bs := by
  -- the shorter name goes on with the longer one, so it goes on with a name after it
  have longer {a b : String} {after as bs : List String} (has : ∀ x ∈ as.head?, x ∈ after)
      (hab : ¬ Confusable a after b) (hx : Extends a b) : spelled a as ≠ spelled b bs := by
    intro h
    cases as with
    | nil =>
      have ha : a = spelled b bs := h
      rcases spelled_grows b bs with hb | hb
      · rw [hb] at ha
        exact hx.ne ha.symm
      · rw [← ha] at hb
        exact (hx.trans hb).ne rfl
    | cons x as =>
      refine hab (.inr ⟨hx, x, has x rfl, ?_⟩)
      rw [spelled_cons] at h
      exact comparable_of_grows (h ▸ spelled_grows (fieldAlias a x) as) (spelled_grows b bs)
  intro h
  rcases comparable_of_grows (h ▸ spelled_grows a as) (spelled_grows b bs) with hc | hc | hc
  · exact hab (.inl hc)
  · exact longer has hab hc h
  · exact longer hbs hba hc h.symm

end Names

/-! ## Names in a catalog -/

def itemsWord : String := "je"

theorem itemsAlias_eq (name : String) : itemsAlias name = fieldAlias name itemsWord := by
  have hw : Sql.wordPart itemsWord = "je" := by decide
  rw [itemsAlias, fieldAlias, hw, String.append_assoc]
  rfl

theorem itemsAlias_ne (name : String) : itemsAlias name ≠ name := by
  rw [itemsAlias_eq]
  exact (extends_fieldAlias name itemsWord).ne

namespace Scope

variable {s : Scope} {c : Collection} {a b p : String} {as bs : List String}

def collections (s : Scope) : List Collection := s.base :: s.catalog.collections

/-- The names that may come after a collection in a path: those of its fields and those of the
fields that refer back to it, after the id or the name of their collection. -/
def namesAt (s : Scope) (c : Collection) : List String :=
  c.fields.map Field.name ++ s.catalog.collections.flatMap fun d =>
    d.fields.flatMap fun f =>
      if f.kind.reference?.map Reference.target = some c.id then
        [d.id ++ "_via_" ++ f.name, d.name ++ "_via_" ++ f.name]
      else []

def crossed? (s : Scope) (c : Collection) (name : String) : Option Collection :=
  match c.field? name with
  | some f => f.kind.reference?.bind fun ref => s.catalog.find? ref.target
  | none => (Plan.backParts name).bind fun parts => s.catalog.find? parts.1

/-- The names that may come after a name of a collection in an alias. -/
def namesAfter (s : Scope) (c : Collection) (name : String) : List String :=
  itemsWord :: ((s.crossed? c name).map s.namesAt).getD []

/-- The names of a catalog can be told apart in aliases. -/
structure IsClear (s : Scope) : Prop where
  /-- The alias of the base is none of those that start with an underscore. -/
  base : (Sql.wordPart s.base.name).toList.head?.any Char.isAlphanum = true
  /-- No collection reads as another one with a name after it. -/
  collections : ∀ c ∈ s.catalog.collections, ∀ d ∈ s.catalog.collections, c.name ≠ d.name →
    ¬ Confusable (Sql.wordPart c.name) (s.namesAt c) (Sql.wordPart d.name)
  /-- No collection reads as the word before an alias of the author's choice. -/
  chosen : ∀ c ∈ s.catalog.collections, ¬ Comparable "alias" (Sql.wordPart c.name)
  /-- No relation of the base, after its target, reads as another one with a name after it. -/
  submitted : ∀ f ∈ s.base.fields, ∀ g ∈ s.base.fields, f.name ≠ g.name →
    ∀ c ∈ s.crossed? s.base f.name, ∀ d ∈ s.crossed? s.base g.name,
      ¬ Confusable (fieldAlias (Sql.wordPart c.name) f.name) (s.namesAt c)
        (fieldAlias (Sql.wordPart d.name) g.name)
  /-- No name of a collection reads as another one with a name after it. -/
  names : ∀ c ∈ s.collections, ∀ a ∈ s.namesAt c, ∀ b ∈ s.namesAt c, a ≠ b →
    ¬ Confusable (Sql.wordPart a) (s.namesAfter c a) (Sql.wordPart b)
  /-- No name is the word for unnested items. -/
  items : ∀ c ∈ s.collections, ∀ a ∈ s.namesAt c, Sql.wordPart a ≠ itemsWord

/-- An alias tells which of the names of a collection it goes on with. -/
theorem IsClear.head_eq (hs : s.IsClear) (hc : c ∈ s.collections) (ha : a ∈ s.namesAt c)
    (hb : b ∈ s.namesAt c) (has : ∀ x ∈ as.head?, x ∈ s.namesAfter c a)
    (hbs : ∀ x ∈ bs.head?, x ∈ s.namesAfter c b)
    (h : spelled (fieldAlias p a) as = spelled (fieldAlias p b) bs) : a = b := by
  by_contra hne
  refine spelled_ne has hbs ?_ ?_ h
  · rw [fieldAlias, fieldAlias, confusable_append]
    exact hs.names c hc a ha b hb hne
  · rw [fieldAlias, fieldAlias, confusable_append]
    exact hs.names c hc b hb a ha (Ne.symm hne)

/-- The alias of unnested items is not that of a table. -/
theorem IsClear.spelled_ne_items (hs : s.IsClear) (hc : c ∈ s.collections)
    (ha : a ∈ s.namesAt c) : spelled (fieldAlias p a) as ≠ fieldAlias p itemsWord := by
  intro h
  have hw : Sql.wordPart itemsWord = itemsWord := by decide
  have hgrows := spelled_grows (fieldAlias p a) as
  rw [h, fieldAlias, fieldAlias, hw, String.append_right_inj, extends_append] at hgrows
  rcases hgrows with hgrows | ⟨t, ht⟩
  · exact hs.items c hc a ha hgrows.symm
  · have hunder : '_' ∈ itemsWord.toList := by
      rw [ht]
      simp
    exact absurd hunder (by decide)

end Scope

namespace Link

variable {l : Link} {parent : String} {j k : Join}

/-- A join of a link is that of its table, or that of the items of its field. -/
theorem mem_joins_cases (hj : j ∈ l.joins parent) :
    j.name = l.aliasUnder parent ∨ ∃ target field, l = .multiple target field ∧
      j = itemsJoin (.column parent field) (itemsAlias (fieldAlias parent field)) := by
  cases l with
  | multiple target field =>
    rcases List.mem_cons.1 hj with rfl | hj
    · exact .inr ⟨target, field, rfl, rfl⟩
    · exact .inl (List.mem_singleton.1 hj ▸ rfl)
  | single | backSingle | backMultiple => exact .inl (List.mem_singleton.1 hj ▸ rfl)

theorem eq_of_name (hj : j ∈ l.joins parent) (hk : k ∈ l.joins parent) (hn : j.name = k.name) :
    j = k := by
  have hd : ((l.joins parent).map Join.name).Nodup := by
    cases l with
    | multiple target field =>
      have hne : itemsAlias (fieldAlias parent field) ≠ fieldAlias parent field := itemsAlias_ne _
      simpa [joins, itemsJoin, tableJoin, aliasUnder, segment] using hne
    | single | backSingle | backMultiple => exact List.nodup_singleton _
  exact List.inj_on_of_nodup_map hd hj hk hn

end Link

namespace Plan

variable {s : Scope} {c : Collection} {r r' : Route} {segment a parent : String} {l l' : Link}
  {after segments left as bs : List String} {j k : Join}

/-! ## Links by name -/

theorem eq_of_backParts {collection field : String}
    (h : backParts segment = some (collection, field)) :
    segment = collection ++ "_via_" ++ field := by
  unfold backParts at h
  split at h
  · next c f hc =>
    split at h
    · cases h
    · cases h
      refine String.toList_injective ?_
      rw [Text.cutAt_eq_some hc]
      simp [backWord]
  · cases h

def LeadsFrom (s : Scope) (c : Collection) (name : String) (l : Link) : Prop :=
  ∃ r after, r.collection = c ∧ Leads s r name after l

theorem LeadsFrom.segment_eq (h : LeadsFrom s c a l) : l.segment = a := by
  obtain ⟨r, after, -, h⟩ := h
  cases h with
  | forward hf =>
    have hname := Collection.name_of_field? hf
    split <;> exact hname
  | back => split <;> rfl

theorem LeadsFrom.crossed? (h : LeadsFrom s c a l) : s.crossed? c a = some l.target := by
  obtain ⟨r, after, rfl, h⟩ := h
  cases h with
  | forward hf hk hw hid ht =>
    simp only [Scope.crossed?, hf, hk, FieldKind.reference?, Option.bind_some, ht]
    split <;> rfl
  | back hn hp hc =>
    simp only [Scope.crossed?, hn, hp, Option.bind_some, hc]
    split <;> rfl

theorem LeadsFrom.mem_namesAt (h : LeadsFrom s c a l) : a ∈ s.namesAt c := by
  obtain ⟨r, after, rfl, h⟩ := h
  cases h with
  | forward hf =>
    refine List.mem_append_left _ (List.mem_map.2 ⟨_, Collection.mem_of_field? hf, ?_⟩)
    exact Collection.name_of_field? hf
  | back hn hp hc hf hk ht =>
    refine List.mem_append_right _ (List.mem_flatMap.2 ⟨_, Catalog.mem_of_find? hc, ?_⟩)
    refine List.mem_flatMap.2 ⟨_, Collection.mem_of_field? hf, ?_⟩
    rw [if_pos (by rw [hk, ← ht]; rfl), eq_of_backParts hp, Collection.name_of_field? hf]
    rcases Catalog.key_of_find? hc with hkey | hkey <;> simp [hkey]

theorem LeadsFrom.field_of_multiple {target : Collection} {field : String}
    (h : LeadsFrom s c a (.multiple target field)) : ∃ f ∈ c.fields, f.name = field := by
  obtain ⟨r, after, rfl, h⟩ := h
  generalize hl : Link.multiple target field = l at h
  cases h with
  | @forward f _ _ hf =>
    split at hl <;> cases hl
    exact ⟨f, Collection.mem_of_field? hf, rfl⟩
  | back => split at hl <;> cases hl

theorem LeadsFrom.target_mem (h : LeadsFrom s c a l) : l.target ∈ s.collections := by
  obtain ⟨r, after, rfl, h⟩ := h
  refine List.mem_cons_of_mem _ ?_
  cases h with
  | forward hf hk hw hid ht => split <;> exact Catalog.mem_of_find? ht
  | back hn hp hc => split <;> exact Catalog.mem_of_find? hc

/-- A name leads from a collection along one link at most. -/
theorem LeadsFrom.unique (h : LeadsFrom s c a l) (h' : LeadsFrom s c a l') : l = l' := by
  obtain ⟨r, after, rfl, h⟩ := h
  obtain ⟨r', after', hc, h'⟩ := h'
  cases h with
  | forward hf hk hw hid ht =>
    cases h' with
    | forward hf' hk' hw' hid' ht' =>
      rw [hc] at hf'
      obtain rfl := Option.some.inj (hf.symm.trans hf')
      obtain rfl := FieldKind.relation.inj (hk.symm.trans hk')
      obtain rfl := Option.some.inj (ht.symm.trans ht')
      rfl
    | back hn => rw [hc, hf] at hn; cases hn
  | back hn hp hs hf hk =>
    cases h' with
    | forward hf' => rw [hc, hn] at hf'; cases hf'
    | back _ hp' hs' hf' hk' =>
      obtain ⟨rfl, rfl⟩ := Prod.mk.inj (Option.some.inj (hp.symm.trans hp'))
      obtain rfl := Option.some.inj (hs.symm.trans hs')
      obtain rfl := Option.some.inj (hf.symm.trans hf')
      obtain rfl := FieldKind.relation.inj (hk.symm.trans hk')
      rfl

theorem LeadsFrom.aliasUnder (h : LeadsFrom s c a l) (parent : String) :
    l.aliasUnder parent = fieldAlias parent a := by
  rw [Link.aliasUnder, h.segment_eq]

theorem LeadsFrom.mem_namesAfter (h : LeadsFrom s c a l) {x : String}
    (hx : x ∈ s.namesAt l.target) : x ∈ s.namesAfter c a := by
  refine List.mem_cons_of_mem _ ?_
  rw [h.crossed?]
  exact hx

/-! ## Joins under one alias -/

/-- Where a join lies below the table of a collection, and the row of names that leads there. -/
inductive Laid (s : Scope) : Collection → String → List String → Join → Prop
  | table {c : Collection} {parent a : String} {l : Link} {j : Join} (hl : LeadsFrom s c a l)
      (hj : j ∈ l.joins parent) (hn : j.name = fieldAlias parent a) : Laid s c parent [a] j
  | items {c : Collection} {parent : String} {f : Field} (hf : f ∈ c.fields) :
      Laid s c parent [f.name, itemsWord]
        (itemsJoin (.column parent f.name) (itemsAlias (fieldAlias parent f.name)))
  | later {c : Collection} {parent a : String} {l : Link} {as : List String} {j : Join}
      (hl : LeadsFrom s c a l) (h : Laid s l.target (fieldAlias parent a) as j) :
      Laid s c parent (a :: as) j

theorem Laid.name_eq (h : Laid s c parent as j) :
    ∃ a rest, as = a :: rest ∧ j.name = spelled (fieldAlias parent a) rest ∧
      a ∈ s.namesAt c ∧ ∀ x ∈ rest.head?, x ∈ s.namesAfter c a := by
  induction h with
  | @table c parent a l j hl hj hn => exact ⟨a, [], rfl, hn, hl.mem_namesAt, by simp⟩
  | @items c parent f hf =>
    refine ⟨f.name, [itemsWord], rfl, itemsAlias_eq _, ?_, ?_⟩
    · exact List.mem_append_left _ (List.mem_map_of_mem hf)
    · simp [Scope.namesAfter]
  | @later c parent a l as j hl h ih =>
    obtain ⟨b, rest, rfl, hn, hb, -⟩ := ih
    refine ⟨a, b :: rest, rfl, hn, hl.mem_namesAt, ?_⟩
    simpa using hl.mem_namesAfter hb

theorem Laid.extends (h : Laid s c parent as j) : Extends parent j.name := by
  obtain ⟨a, rest, -, hn, -⟩ := h.name_eq
  rw [hn]
  rcases spelled_grows (fieldAlias parent a) rest with hg | hg
  · rw [hg]
    exact extends_fieldAlias parent a
  · exact (extends_fieldAlias parent a).trans hg

theorem Laid.head_eq {a b : String} (hs : s.IsClear) (hc : c ∈ s.collections)
    (h : Laid s c parent (a :: as) j) (h' : Laid s c parent (b :: bs) k)
    (hn : j.name = k.name) : a = b := by
  obtain ⟨a', rest, ha, hj, hma, hx⟩ := h.name_eq
  obtain ⟨b', rest', hb, hk, hmb, hx'⟩ := h'.name_eq
  cases ha
  cases hb
  rw [hj, hk] at hn
  exact hs.head_eq hc hma hmb hx hx' hn

theorem Laid.name_ne_items (hs : s.IsClear) (hc : c ∈ s.collections)
    (h : Laid s c parent as j) : j.name ≠ itemsAlias parent := by
  obtain ⟨a, rest, -, hn, ha, -⟩ := h.name_eq
  rw [hn, itemsAlias_eq]
  exact hs.spelled_ne_items hc ha

/-- Below a collection an alias stands for one join. -/
theorem Laid.unique (hs : s.IsClear) (hc : c ∈ s.collections) (h : Laid s c parent as j)
    (h' : Laid s c parent bs k) (hn : j.name = k.name) : j = k := by
  induction h generalizing bs k with
  | table hl hj hname =>
    cases h' with
    | table hl' hj' hname' =>
      obtain rfl := (Laid.table hl hj hname).head_eq hs hc (.table hl' hj' hname') hn
      obtain rfl := hl.unique hl'
      exact Link.eq_of_name hj hj' hn
    | items hf =>
      obtain rfl := (Laid.table hl hj hname).head_eq hs hc (.items hf) hn
      exact absurd (hn.symm.trans hname) (itemsAlias_ne _)
    | later hl' h' =>
      obtain rfl := (Laid.table hl hj hname).head_eq hs hc (.later hl' h') hn
      exact absurd (hn.symm.trans hname) h'.extends.ne
  | items hf =>
    cases h' with
    | table hl' hj' hname' =>
      obtain rfl := (Laid.items hf).head_eq hs hc (.table hl' hj' hname') hn
      exact absurd (hn.trans hname') (itemsAlias_ne _)
    | items hf' =>
      rw [(Laid.items hf).head_eq hs hc (.items hf') hn]
    | later hl' h' =>
      obtain rfl := (Laid.items hf).head_eq hs hc (.later hl' h') hn
      exact absurd hn.symm (h'.name_ne_items hs hl'.target_mem)
  | later hl h ih =>
    cases h' with
    | table hl' hj' hname' =>
      obtain rfl := (Laid.later hl h).head_eq hs hc (.table hl' hj' hname') hn
      exact absurd (hn.trans hname') h.extends.ne
    | items hf' =>
      obtain rfl := (Laid.later hl h).head_eq hs hc (.items hf') hn
      exact absurd hn (h.name_ne_items hs hl.target_mem)
    | later hl' h' =>
      obtain rfl := (Laid.later hl h).head_eq hs hc (.later hl' h') hn
      obtain rfl := hl.unique hl'
      exact ih hl.target_mem h' hn

/-! ## The joins of a path -/

theorem LeadsFrom.laid (hl : LeadsFrom s c a l) (hj : j ∈ l.joins parent) :
    ∃ as, Laid s c parent as j := by
  rcases Link.mem_joins_cases hj with hn | ⟨target, field, rfl, rfl⟩
  · exact ⟨[a], .table hl hj (hn.trans (hl.aliasUnder parent))⟩
  · obtain ⟨f, hf, rfl⟩ := hl.field_of_multiple
    exact ⟨_, .items hf⟩

theorem Crosses.laid (h : Crosses s r segments r' left)
    (hj : Laid s r'.collection r'.lastAlias as j) :
    ∃ as, Laid s r.collection r.lastAlias as j := by
  induction h with
  | refl => exact ⟨as, hj⟩
  | @cross r r' segment next rest left l hl _ ih =>
    have hf : LeadsFrom s r.collection segment l := ⟨r, _, rfl, hl⟩
    obtain ⟨as', h⟩ := ih hj
    rw [Route.collection_cross, Route.lastAlias_cross, hf.aliasUnder] at h
    exact ⟨_, .later hf h⟩

/-- The joins that segments add to those of a route lie below it. -/
theorem Crosses.mem_joins (h : Crosses s r segments r' left) (hj : j ∈ r'.joins) :
    j ∈ r.joins ∨ ∃ as, Laid s r.collection r.lastAlias as j := by
  induction h with
  | refl => exact .inl hj
  | @cross r r' segment next rest left l hl _ ih =>
    have hf : LeadsFrom s r.collection segment l := ⟨r, _, rfl, hl⟩
    rcases ih hj with hj | ⟨as, hj⟩
    · rw [Route.joins_cross] at hj
      exact (List.mem_append.1 hj).imp_right hf.laid
    · rw [Route.collection_cross, Route.lastAlias_cross, hf.aliasUnder] at hj
      exact .inr ⟨_, .later hf hj⟩

/-- A join below a root is that of the root or lies below its table. -/
theorem mem_joins_below {path : String} {root : Root}
    (hj : j ∈ (below s path root segments).joins) :
    j ∈ root.joinsAt root.firstAlias ∨ ∃ as, Laid s root.collection root.firstAlias as j := by
  obtain ⟨r, left, rest, hc, -, -, he⟩ := crosses_below s path root segments
  have route (hj : j ∈ r.joins) : j ∈ root.joinsAt root.firstAlias ∨
      ∃ as, Laid s root.collection root.firstAlias as j := by
    refine (hc.mem_joins hj).imp_left fun hj => ?_
    simpa [Route.joins, Link.joinsAlong] using hj
  generalize below s path root segments = p at hj he
  cases he with
  | fails | nothing => exact route (by simpa [along] using hj)
  | @reads f how visibleIn hf =>
    rcases List.mem_append.1 hj with hj | hj
    · exact route hj
    · have hitems : Laid s r.collection r.lastAlias [f.name, itemsWord] j := by
        cases how with
        | items => exact List.mem_singleton.1 hj ▸ .items (Collection.mem_of_field? hf)
        | column | document | count => cases hj
      exact .inr (hc.laid hitems)

end Plan

end RecordFilter
