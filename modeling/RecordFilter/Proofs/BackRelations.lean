import Mathlib.Data.List.Infix
import RecordFilter.Proofs.BodyPaths
import RecordFilter.Proofs.Depth

/-!
# Back relations

The segment of a back relation puts the name of a collection, `_via_` and the name of a field
together. It is cut at the first separator, so the names come apart again only if none of the
characters around them makes another one (`Plan.backParts_iff`). `Resolver.back_relation_iff` says
which back relations can be read at all.
-/

namespace RecordFilter

open Sql (Expr Join)

namespace Text

variable {word s a b : List Char}

theorem cutAt_first (h : cutAt word s = some (a, b)) {c d : List Char}
    (hs : s = c ++ (word ++ d)) : a.length ≤ c.length := by
  induction s generalizing a c with
  | nil =>
    obtain ⟨rest, -, he⟩ := Option.map_eq_some_iff.1 h
    cases he
    exact Nat.zero_le _
  | cons x s ih =>
    unfold cutAt at h
    split at h
    · cases h
      exact Nat.zero_le _
    · next hn =>
      obtain ⟨⟨a', b'⟩, hcut, he⟩ := Option.map_eq_some_iff.1 h
      cases he
      cases c with
      | nil =>
        rw [after?_eq_some.2 (show x :: s = word ++ d from hs)] at hn
        cases hn
      | cons y c => exact Nat.succ_le_succ (ih hcut (List.cons.inj hs).2)

theorem cutAt_of_first (hs : s = a ++ (word ++ b))
    (h : ∀ c d, s = c ++ (word ++ d) → a.length ≤ c.length) : cutAt word s = some (a, b) := by
  induction s generalizing a with
  | nil =>
    obtain ⟨rfl, hword⟩ := List.append_eq_nil_iff.1 hs.symm
    exact Option.map_eq_some_iff.2 ⟨b, after?_eq_some.2 hword.symm, rfl⟩
  | cons x s ih =>
    unfold cutAt
    split
    · next rest hr =>
      have hrest := after?_eq_some.1 hr
      obtain rfl := List.eq_nil_of_length_eq_zero (Nat.le_zero.1 (h [] rest hrest))
      rw [List.append_cancel_left (hrest.symm.trans hs)]
    · next hn =>
      cases a with
      | nil =>
        rw [after?_eq_some.2 (show x :: s = word ++ b from hs)] at hn
        cases hn
      | cons y a =>
        obtain ⟨rfl, htail⟩ := List.cons.inj hs
        refine Option.map_eq_some_iff.2 ⟨_, ih htail fun c d hd => ?_, rfl⟩
        exact Nat.le_of_succ_le_succ (h (x :: c) d (congrArg (x :: ·) hd))

theorem occurs_append (a b : List Char) : occurs word (a ++ (word ++ b)) = true := by
  have start (s : List Char) (h : after? word s = some b) : occurs word s = true := by
    unfold occurs
    cases s with
    | nil => rw [cutAt, h]; rfl
    | cons x s => rw [cutAt, h]; rfl
  induction a with
  | nil => exact start _ (after?_eq_some.2 rfl)
  | cons x a ih =>
    unfold occurs at ih ⊢
    rw [List.cons_append, cutAt]
    split
    · rfl
    · rw [Option.isSome_map, ih]

theorem occurs_iff : occurs word s = true ↔ word <:+: s := by
  constructor
  · intro h
    obtain ⟨⟨a, b⟩, hcut⟩ := Option.isSome_iff_exists.1 h
    exact ⟨a, b, by rw [cutAt_eq_some hcut, List.append_assoc]⟩
  · rintro ⟨a, b, rfl⟩
    rw [List.append_assoc]
    exact occurs_append a b

end Text

namespace Plan

/-- The names of a collection and a field come apart at the separator between them. -/
structure ComeApart (collection field : String) : Prop where
  infixFree : ¬ backWord <:+: collection.toList
  suffixFree : ¬ "_via".toList <:+ collection.toList
  fieldFree : ¬ backWord <:+: field.toList

def backSegment (collection field : String) : String := collection ++ ("_via_" ++ field)

/-- The separator stands first after a text that neither has it nor ends in its beginning. -/
theorem first_backWord_iff {a b : List Char} :
    (∀ c d, a ++ (backWord ++ b) = c ++ (backWord ++ d) → a.length ≤ c.length) ↔
      ¬ backWord <:+: a ∧ ¬ "_via".toList <:+ a := by
  have hword : backWord = ['_', 'v', 'i', 'a', '_'] := rfl
  have hvia : "_via".toList = ['_', 'v', 'i', 'a'] := rfl
  rw [hword, hvia]
  constructor
  · intro h
    constructor
    · rintro ⟨c, d, rfl⟩
      have hle := h c (d ++ (['_', 'v', 'i', 'a', '_'] ++ b)) (by simp)
      simp only [List.length_append, List.length_cons] at hle
      omega
    · rintro ⟨c, rfl⟩
      have hle := h c (['v', 'i', 'a', '_'] ++ b) (by simp)
      simp only [List.length_append, List.length_cons] at hle
      omega
  · rintro ⟨hoccurs, hsuffix⟩ c d h
    by_contra hlt
    obtain ⟨u, rfl⟩ : c <+: a :=
      List.prefix_of_prefix_length_le ⟨_, h.symm⟩ (List.prefix_append _ _) (by omega)
    rw [List.append_assoc] at h
    replace h := List.append_cancel_left h
    -- the occurrence lies in the text or starts with its last characters
    rcases u with _ | ⟨x₁, _ | ⟨x₂, _ | ⟨x₃, _ | ⟨x₄, _ | ⟨x₅, u⟩⟩⟩⟩⟩ <;>
      simp only [List.nil_append, List.cons_append, List.cons.injEq] at h
    · simp at hlt
    · exact absurd h.2.1 (by decide)
    · exact absurd h.2.2.1 (by decide)
    · exact absurd h.2.2.2.1 (by decide)
    · obtain ⟨rfl, rfl, rfl, rfl, -⟩ := h
      exact hsuffix (List.suffix_append _ _)
    · obtain ⟨rfl, rfl, rfl, rfl, rfl, -⟩ := h
      exact hoccurs ⟨c, u, by simp⟩

theorem backParts_eq_some {collection field segment : String}
    (h : backParts segment = some (collection, field)) :
    segment = backSegment collection field := by
  unfold backParts at h
  split at h
  · next before after hcut =>
    split at h
    · cases h
    · cases h
      apply String.toList_injective
      rw [Text.cutAt_eq_some hcut, backSegment]
      simp [backWord]
  · cases h

/-- The name of a field tells the collection. -/
theorem backSegment_left_inj {collection other field : String}
    (h : backSegment collection field = backSegment other field) : other = collection := by
  have happend := congrArg String.toList h
  simp only [backSegment, String.toList_append] at happend
  exact String.toList_injective (List.append_cancel_right happend).symm

theorem backParts_iff {collection field : String} (hc : collection ≠ "") (hf : field ≠ "") :
    backParts (backSegment collection field) = some (collection, field) ↔
      ComeApart collection field := by
  have hne : collection.toList.isEmpty = false := by simpa using hc
  have hne' : field.toList.isEmpty = false := by simpa using hf
  have hsegment : (backSegment collection field).toList =
      collection.toList ++ (backWord ++ field.toList) := by
    rw [backSegment, String.toList_append, String.toList_append]
    rfl
  unfold backParts
  rw [hsegment]
  constructor
  · intro h
    split at h
    · next before after hcut =>
      split at h
      · cases h
      · next hparts =>
        obtain ⟨rfl, rfl⟩ := Prod.mk.inj (Option.some.inj h)
        rw [String.toList_ofList, String.toList_ofList] at hcut
        have hfirst := first_backWord_iff.1 fun c d hd => Text.cutAt_first hcut hd
        simp only [Bool.or_eq_true, not_or] at hparts
        refine ⟨?_, ?_, ?_⟩
        · simpa using hfirst.1
        · simpa using hfirst.2
        · simpa using mt Text.occurs_iff.2 hparts.2
    · cases h
  · rintro ⟨hoccurs, hsuffix, hfield⟩
    have hcut := Text.cutAt_of_first rfl (first_backWord_iff.2 ⟨hoccurs, hsuffix⟩)
      (b := field.toList)
    rw [hcut]
    simp [hne, hne', mt Text.occurs_iff.1 hfield]

/-! ## Paths along back relations -/

def backPath (collection field : String) : String :=
  backSegment collection field ++ ("." ++ FieldName.id)

variable {s : Scope} {collection field path : String} {r : Route} {l : Link} {g : Field}

theorem isWordName_backSegment (hc : Text.IsWordName collection) (hf : Text.IsWordName field) :
    Text.IsWordName (backSegment collection field) := by
  refine ⟨fun h => hc.1 ?_, ?_⟩
  · have happend := congrArg String.toList h
    rw [backSegment, String.toList_append] at happend
    exact String.toList_eq_nil_iff.1 (List.append_eq_nil_iff.1 happend).1
  · exact Text.isWordy_append.2 ⟨hc.2, Text.isWordy_append.2 ⟨by decide, hf.2⟩⟩

theorem segmentsOf_backPath (h : Text.IsWordName (backSegment collection field)) :
    segmentsOf (backPath collection field) = [backSegment collection field, FieldName.id] := by
  rw [backPath, segmentsOf_append (notMem_of_isWordy h.2).1, segmentsOf_of_notMem (by decide)]

theorem isWellFormed_backPath (h : Text.IsWordName (backSegment collection field)) :
    Path.isWellFormed (backPath collection field) = true := by
  have hfield : Path.isFieldPath (backPath collection field).toList = true := by
    rw [backPath, String.toList_append]
    cases hs : (backSegment collection field).toList with
    | nil => exact absurd (String.toList_eq_nil_iff.1 hs) h.1
    | cons c cs =>
      have hword : ∀ d ∈ c :: cs, Text.isWord d = true := hs ▸ h.2
      obtain ⟨hc, hcs⟩ := List.forall_mem_cons.1 hword
      rw [List.cons_append, Path.isFieldPath, hc, Bool.true_and, List.all_append, Bool.and_eq_true]
      exact ⟨List.all_eq_true.2 fun d hd => Path.isPathChar_of_isWord (hcs d hd), by decide⟩
  simp only [Path.isWellFormed, hfield, Bool.true_or]

theorem starts_backPath (h : Text.IsWordName (backSegment collection field)) :
    Starts s (backPath collection field) (.base s.base)
      [backSegment collection field, FieldName.id] := by
  have hsign (sign : String) (hs : '@' ∈ sign.toList) : backSegment collection field ≠ sign := by
    rintro rfl
    exact absurd (h.2 _ hs) (by decide)
  refine ⟨?_, ?_⟩
  · rw [segmentsOf_backPath h, List.mem_pair]
    rintro (he | he)
    · exact h.1 he.symm
    · exact absurd he (by decide)
  · rw [segmentsOf_backPath h]
    exact .base (hsign _ (by decide)) (hsign _ (by decide))

/-- A path along a back relation leads to the id field of the collection that refers here. -/
theorem ofPath_backPath (h : Text.IsWordName (backSegment collection field))
    (hn : s.base.field? (backSegment collection field) = none) (hd : 0 < s.maxHops) :
    ofPath s (backPath collection field) =
      match backLink? s ⟨.base s.base, []⟩ (backSegment collection field) with
      | none => missing (backPath collection field) ⟨.base s.base, []⟩
      | some l => atLast s (backPath collection field) ⟨.base s.base, [l]⟩ FieldName.id := by
  have hcolon : hasColon (backSegment collection field) = false := by
    simpa [hasColon] using (notMem_of_isWordy h.2).2
  have hbelow : below s (backPath collection field) (.base s.base)
      [backSegment collection field, FieldName.id] =
        walk s (backPath collection field) ⟨.base s.base, []⟩
          [backSegment collection field, FieldName.id] := by
    simp [below, hcolon]
  have hfield : (⟨.base s.base, []⟩ : Route).collection.field? (backSegment collection field) =
      none := hn
  have hturn : turn s ⟨.base s.base, []⟩ (backSegment collection field) [FieldName.id] =
      ((backLink? s ⟨.base s.base, []⟩ (backSegment collection field)).map Turn.link).getD
        .missing := by
    rw [turn, hfield]
  rw [ofPath_of_starts (starts_backPath h), hbelow, walk, hturn]
  cases hl : backLink? s ⟨.base s.base, []⟩ (backSegment collection field) with
  | none => rfl
  | some l =>
    have hhops : ¬ s.maxHops ≤ (⟨.base s.base, []⟩ : Route).hops := Nat.not_le.2 hd
    simp only [Option.map_some, Option.getD_some, if_neg hhops, walk]
    rfl

theorem atLast_id (hg : r.collection.field? FieldName.id = some g) :
    atLast s path r FieldName.id =
      if isWithheld s r g then along r [] (.error (.unknownField path))
      else atField s path r g none := by
  have hm : splitModifier FieldName.id = .ok (FieldName.id, none) := by decide
  rw [atLast, hm]
  simp only [hg]

/-! ## Joins of back relations -/

/-- A join of the records of a collection that refer to the record under another alias. -/
inductive IsBackJoin (source field parent name : String) : Join → Prop
  /-- By a field that holds one id. -/
  | one : IsBackJoin source field parent name
      ⟨.table source, name, .equal (.column name field) (idOf parent)⟩
  /-- By a field that may hold several. -/
  | many : IsBackJoin source field parent name
      ⟨.table source, name, .itemOf (idOf parent) (itemsAlias name) (.column name field)⟩

theorem IsBackJoin.inj {source source' field field' parent name : String} {j : Join}
    (h : IsBackJoin source field parent name j) (h' : IsBackJoin source' field' parent name j) :
    source = source' ∧ field = field' := by
  cases h <;> cases h' <;> exact ⟨rfl, rfl⟩

theorem backLink?_eq_some_iff {segment : String} : backLink? s r segment = some l ↔
    ∃ collection field source f ref, backParts segment = some (collection, field) ∧
      s.catalog.find? collection = some source ∧ source.field? field = some f ∧
      f.kind = .relation ref ∧ ref.target = r.collection.id ∧ isWithheld s r f = false ∧
      l = if ref.unique && !ref.multiple then .backSingle source segment f.name
        else .backMultiple source segment f.name := by
  constructor
  · intro h
    obtain ⟨⟨collection, field⟩, hp, h⟩ := Option.bind_eq_some_iff.1 h
    obtain ⟨source, hc, h⟩ := Option.bind_eq_some_iff.1 h
    obtain ⟨f, hf, h⟩ := Option.bind_eq_some_iff.1 h
    obtain ⟨ref, hk, h⟩ := Option.bind_eq_some_iff.1 h
    split at h
    · next ht =>
      rw [Bool.and_eq_true, decide_eq_true_eq, Bool.not_eq_true'] at ht
      exact ⟨collection, field, source, f, ref, hp, hc, hf, FieldKind.eq_of_reference? hk, ht.1,
        ht.2, (Option.some.inj h).symm⟩
    · cases h
  · rintro ⟨collection, field, source, f, ref, hp, hc, hf, hk, ht, hw, rfl⟩
    simp [backLink?, hp, hc, hf, hk, FieldKind.reference?, ht, hw]

end Plan

namespace Definitions

variable {ds : Definitions} {c : Catalog} {k : Collection}

theorem isWordName_of_mem_collections (h : ds.toCatalog = .ok c) (hk : k ∈ c.collections) :
    Text.IsWordName k.name := by
  obtain ⟨d, hd, hdk⟩ := exists_left (describes_toCatalog h) hk
  exact hdk.name ▸ ((isValid_of_toCatalog h).named d hd).name

theorem exists_idField (h : ds.toCatalog = .ok c) (hk : k ∈ c.collections) :
    ∃ g, k.field? FieldName.id = some g := by
  obtain ⟨d, -, hdk⟩ := exists_left (describes_toCatalog h) hk
  obtain ⟨g, hg, hname⟩ := hdk.hasId
  exact ⟨g, hname ▸ field?_of_mem h hk hg⟩

theorem forall_named_iff {g : Field} {name : String} {P : Field → Prop}
    (h : ds.toCatalog = .ok c) (hk : k ∈ c.collections) (hg : k.field? name = some g) :
    (∀ f ∈ k.fields, f.name = name → P f) ↔ P g := by
  refine ⟨fun hP => hP g (Collection.mem_of_field? hg) (Collection.name_of_field? hg), ?_⟩
  rintro hP f hf rfl
  obtain rfl := Option.some.inj (hg.symm.trans (field?_of_mem h hk hf))
  exact hP

end Definitions

namespace Resolver

open Plan (backSegment backPath IsBackJoin ComeApart)

/-- A fresh resolver reads the ids of the records that refer to the base by a field, through one
join of them. -/
def ReadsBack (s : Scope) (collection field : String) : Prop :=
  let base := Sql.wordPart s.base.name
  let r : Resolver := { scope := s }
  ∃ res j, (r.resolve (backPath collection field)).1 = .ok res ∧
    (r.resolve (backPath collection field)).2.joins = [j] ∧
    IsBackJoin collection field base (fieldAlias base (backSegment collection field)) j

variable {s : Scope} {collection field : String} {ds : Definitions} {c : Collection} {f g : Field}
  {ref : Reference} {l : Link}

theorem resolve_backPath_of_none (h : Text.IsWordName (backSegment collection field))
    (hn : s.base.field? (backSegment collection field) = none) (hd : 0 < s.maxHops)
    (hl : Plan.backLink? s ⟨.base s.base, []⟩ (backSegment collection field) = none) :
    (resolve { scope := s } (backPath collection field)).1 =
      .error (.unknownField (backPath collection field)) := by
  have hw := Plan.isWellFormed_backPath h
  simp only [resolve, hw, AllowedPaths.admits, Bool.not_true, Bool.false_eq_true, if_false]
  rw [Plan.ofPath_backPath h hn hd, hl]
  rfl

/-- A path along a back relation reads the ids of the records, unless they are withheld. -/
theorem resolve_backPath_of_some {j : Join} (h : Text.IsWordName (backSegment collection field))
    (hn : s.base.field? (backSegment collection field) = none) (hd : 0 < s.maxHops)
    (hl : Plan.backLink? s ⟨.base s.base, []⟩ (backSegment collection field) = some l)
    (hj : l.joins (Sql.wordPart s.base.name) = [j])
    (hg : l.target.field? FieldName.id = some g) :
    if g.isHidden && !s.showHidden then
      (resolve { scope := s } (backPath collection field)).1 =
        .error (.unknownField (backPath collection field))
    else ∃ res, (resolve { scope := s } (backPath collection field)).1 = .ok res ∧
      (resolve { scope := s } (backPath collection field)).2.joins = [j] := by
  have hw := Plan.isWellFormed_backPath h
  have hfield : (⟨.base s.base, [l]⟩ : Route).collection.field? FieldName.id = some g := hg
  have hjoins : (⟨.base s.base, [l]⟩ : Route).joins = [j] := by
    have hlaid : (⟨.base s.base, [l]⟩ : Route).joins = l.joins (Sql.wordPart s.base.name) ++ [] :=
      rfl
    rw [hlaid, List.append_nil, hj]
  have hregister : Sql.Joins.registerAll [] [j] = .ok [j] := rfl
  have hplan : Plan.ofPath s (backPath collection field) =
      Plan.atLast s (backPath collection field) ⟨.base s.base, [l]⟩ FieldName.id := by
    rw [Plan.ofPath_backPath h hn hd, hl]
  have hresolve : resolve { scope := s } (backPath collection field) = commit { scope := s }
      (Plan.atLast s (backPath collection field) ⟨.base s.base, [l]⟩ FieldName.id) := by
    rw [← hplan]
    simp only [resolve, hw, AllowedPaths.admits, Bool.not_true, Bool.false_eq_true, if_false]
  have hwithheld : Plan.isWithheld s ⟨.base s.base, [l]⟩ g = (g.isHidden && !s.showHidden) := by
    simp [Plan.isWithheld, Root.isTrusted]
  rw [hresolve, Plan.atLast_id hfield, hwithheld]
  split
  · simp only [commit, Plan.along, List.append_nil, hjoins, hregister]
  · simp only [commit, Plan.atField, Plan.along, List.append_nil, hjoins, hregister]
    exact ⟨_, rfl, trivial⟩

theorem readsBack_iff_of_link {j : Join} (h : Text.IsWordName (backSegment collection field))
    (hn : s.base.field? (backSegment collection field) = none) (hd : 0 < s.maxHops)
    (hl : Plan.backLink? s ⟨.base s.base, []⟩ (backSegment collection field) = some l)
    (hj : l.joins (Sql.wordPart s.base.name) = [j])
    (hg : l.target.field? FieldName.id = some g) :
    ReadsBack s collection field ↔ (s.showHidden = true ∨ g.isHidden = false) ∧
      IsBackJoin collection field (Sql.wordPart s.base.name)
        (fieldAlias (Sql.wordPart s.base.name) (backSegment collection field)) j := by
  have hresolve := resolve_backPath_of_some h hn hd hl hj hg
  have hread : (s.showHidden = true ∨ g.isHidden = false) ↔
      (g.isHidden && !s.showHidden) = false := by
    rw [Bool.and_eq_false_iff, Bool.not_eq_false', or_comm]
  rw [hread]
  constructor
  · rintro ⟨res, j', hres, hjoins, hback⟩
    split at hresolve
    · rw [hresolve] at hres
      cases hres
    · next hread =>
      obtain ⟨-, -, hjoins'⟩ := hresolve
      obtain rfl := List.singleton_inj.1 (hjoins.symm.trans hjoins')
      exact ⟨Bool.eq_false_iff.2 hread, hback⟩
  · rintro ⟨hread, hback⟩
    rw [hread] at hresolve
    obtain ⟨res, hres, hjoins⟩ := hresolve
    exact ⟨res, j, hres, hjoins, hback⟩

theorem joins_backLink (ref : Reference) (f : Field) (source : Collection)
    (segment parent : String) :
    ∃ j, (if ref.unique && !ref.multiple then Link.backSingle source segment f.name
        else .backMultiple source segment f.name).joins parent = [j] ∧
      IsBackJoin source.name f.name parent (fieldAlias parent segment) j := by
  split
  · exact ⟨_, rfl, .one⟩
  · exact ⟨_, rfl, .many⟩

/-- A field of a collection, which is not hidden, refers to the base, and the base has no field of
the name of the back relation. -/
structure RefersHere (s : Scope) (c : Collection) (f : Field) : Prop where
  collection : c ∈ s.catalog.collections
  field : f ∈ c.fields
  refers : ∃ ref, f.kind = .relation ref ∧ ref.target = s.base.id
  shown : f.isHidden = false
  unnamed : s.base.field? (backSegment c.name f.name) = none

/-- A back relation can be read if and only if its names come apart, the name of its collection is
not the id of another one, and the ids are not withheld. -/
theorem back_relation_iff (hds : ds.toCatalog = .ok s.catalog) (h : RefersHere s c f)
    (hd : 0 < s.maxHops) :
    ReadsBack s c.name f.name ↔ ComeApart c.name f.name ∧ s.catalog.find? c.name = some c ∧
      (s.showHidden = true ∨ ∀ g ∈ c.fields, g.name = FieldName.id → g.isHidden = false) := by
  obtain ⟨hc, hf, ⟨ref, hk, ht⟩, hh, hn⟩ := h
  have hcname := Definitions.isWordName_of_mem_collections hds hc
  have hfname := Definitions.isWordName_of_mem hds hc hf
  have hsegment := Plan.isWordName_backSegment hcname hfname
  have hfield := Definitions.field?_of_mem hds hc hf
  obtain ⟨g, hg⟩ := Definitions.exists_idField hds hc
  rw [Definitions.forall_named_iff hds hc hg]
  have hparts := Plan.backParts_iff hcname.1 hfname.1
  have hwithheld : Plan.isWithheld s ⟨.base s.base, []⟩ f = false := by
    simp [Plan.isWithheld, hh]
  constructor
  · intro hreads
    cases hl : Plan.backLink? s ⟨.base s.base, []⟩ (backSegment c.name f.name) with
    | none =>
      obtain ⟨res, j, hres, -⟩ := hreads
      rw [resolve_backPath_of_none hsegment hn hd hl] at hres
      cases hres
    | some l =>
      obtain ⟨collection, field, source, f', ref', hp, hsource, hf', -, -, -, rfl⟩ :=
        Plan.backLink?_eq_some_iff.1 hl
      obtain ⟨j, hj, hback⟩ := joins_backLink ref' f' source
        (backSegment c.name f.name) (Sql.wordPart s.base.name)
      have hmem := Catalog.mem_of_find? hsource
      obtain ⟨g', hg'⟩ := Definitions.exists_idField hds hmem
      obtain ⟨hread, hback'⟩ := (readsBack_iff_of_link hsegment hn hd hl hj (g := g')
        (by split <;> exact hg')).1 hreads
      -- The join tells that the link is the one from the collection by the field.
      obtain ⟨hname, hcolumn⟩ := hback'.inj hback
      obtain rfl : source = c :=
        List.inj_on_of_nodup_map s.catalog.distinctNames hmem hc hname.symm
      obtain rfl := Option.some.inj (hg'.symm.trans hg)
      obtain rfl : field = f.name := (Collection.name_of_field? hf').symm.trans hcolumn.symm
      obtain rfl : collection = source.name :=
        Plan.backSegment_left_inj (Plan.backParts_eq_some hp)
      exact ⟨hparts.1 hp, hsource, hread⟩
  · rintro ⟨hapart, hfound, hread⟩
    obtain ⟨j, hj, hback⟩ := joins_backLink ref f c
      (backSegment c.name f.name) (Sql.wordPart s.base.name)
    have hl := Plan.backLink?_eq_some_iff (r := ⟨.base s.base, []⟩).2 ⟨c.name, f.name, c, f, ref,
      hparts.2 hapart, hfound, hfield, hk, ht, hwithheld, rfl⟩
    exact (readsBack_iff_of_link hsegment hn hd hl hj (g := g) (by split <;> exact hg)).2
      ⟨hread, hback⟩

def tagField : FieldDefinition := { name := "tag", type := .relation, collection := some "tags" }

def tagging : Definitions :=
  { collections :=
      [{ name := "tags", fields := [{ name := "label", type := .text }] },
        { name := "notes", fields := [tagField, { tagField with name := "old_via_tag" }] },
        { name := "a_via_b", fields := [tagField] },
        { name := "x_via", fields := [tagField] },
        { id := some "w", name := "y", fields := [tagField] },
        { id := some "y", name := "z", fields := [{ name := "label", type := .text }] },
        { name := "secrets",
          fields := [{ name := "id", type := .text, isHidden := true }, tagField] }] }

def taggingCatalog : Catalog := tagging.toCatalog.toOption.getD default

def taggingScope : Scope :=
  { catalog := taggingCatalog, base := (taggingCatalog.find? "tags").getD default }

def taggingAt (i : Nat) : Collection := taggingCatalog.collections[i]?.getD default

def fieldAt (i j : Nat) : Field := (taggingAt i).fields[j]?.getD default

set_option maxRecDepth 4000 in
/-- The notes with a tag can be read. -/
theorem back_relation_notes :
    tagging.toCatalog = .ok taggingCatalog ∧ ReadsBack taggingScope "notes" "tag" := by
  have hds : tagging.toCatalog = .ok taggingScope.catalog := rfl
  refine ⟨rfl, (back_relation_iff (c := taggingAt 1) (f := fieldAt 1 1) hds
    ⟨List.mem_of_getElem? (i := 1) rfl, List.mem_of_getElem? (i := 1) rfl,
      ⟨_, rfl, rfl⟩, rfl, rfl⟩ (by decide)).2 ⟨⟨by decide, by decide, by decide⟩, rfl, .inr ?_⟩⟩
  decide

set_option maxRecDepth 4000 in
/-- A back relation cannot be read if a name has the separator or ends in its beginning, if another
collection has the name as its id, or if the ids are hidden. -/
theorem back_relation_unread :
    tagging.toCatalog = .ok taggingCatalog ∧
      taggingScope.base ∈ taggingCatalog.collections ∧
      ∀ names ∈ [("a_via_b", "tag"), ("notes", "old_via_tag"), ("x_via", "tag"), ("y", "tag"),
          ("secrets", "tag")],
        (∃ c f, c.name = names.1 ∧ f.name = names.2 ∧ RefersHere taggingScope c f) ∧
          ¬ ReadsBack taggingScope names.1 names.2 := by
  have unread {collection field : String}
      (h : (resolve { scope := taggingScope } (backPath collection field)).1 =
        .error (.unknownField (backPath collection field))) :
      ¬ ReadsBack taggingScope collection field := by
    rintro ⟨res, j, hres, -⟩
    rw [h] at hres
    cases hres
  have refers (i j : Nat) (hc : taggingCatalog.collections[i]? = some (taggingAt i))
      (hf : (taggingAt i).fields[j]? = some (fieldAt i j))
      (hk : ∃ ref, (fieldAt i j).kind = .relation ref ∧ ref.target = taggingScope.base.id)
      (hh : (fieldAt i j).isHidden = false)
      (hn : taggingScope.base.field? (backSegment (taggingAt i).name (fieldAt i j).name) = none) :
      ∃ c f, c.name = (taggingAt i).name ∧ f.name = (fieldAt i j).name ∧
        RefersHere taggingScope c f :=
    ⟨_, _, rfl, rfl, List.mem_of_getElem? hc, List.mem_of_getElem? hf, hk, hh, hn⟩
  refine ⟨rfl, List.mem_of_getElem? (i := 0) rfl, ?_⟩
  simp only [List.forall_mem_cons]
  refine ⟨⟨refers 2 1 rfl rfl ⟨_, rfl, rfl⟩ rfl rfl, unread rfl⟩,
    ⟨refers 1 2 rfl rfl ⟨_, rfl, rfl⟩ rfl rfl, unread rfl⟩,
    ⟨refers 3 1 rfl rfl ⟨_, rfl, rfl⟩ rfl rfl, unread rfl⟩,
    ⟨refers 4 1 rfl rfl ⟨_, rfl, rfl⟩ rfl rfl, unread rfl⟩,
    ⟨refers 6 1 rfl rfl ⟨_, rfl, rfl⟩ rfl rfl, unread rfl⟩, by simp⟩

end Resolver

end RecordFilter
