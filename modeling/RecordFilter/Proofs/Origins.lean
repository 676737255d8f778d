import RecordFilter.Proofs.Hidden
import RecordFilter.Proofs.Names
import RecordFilter.Proofs.Quotes
import RecordFilter.Proofs.Roots

/-!
# The origin of an alias

A join says in its condition which table it was joined to. So where joins of one alias are written
the same, an alias can be followed back from table to table: two routes that come to it have
crossed the same links, and their roots have one alias too (`Plan.Walked.same_origin`). How the
names in the alias are put together does not matter then. The base has no join; its alias must not
be one of those that other roots have.
-/

namespace RecordFilter

open Sql (Expr Join Joins On)

/-! ## Reading conditions -/

namespace Sql

variable {a b c d x y : String} {e e' : Expr}

theorem jsonEach_inj (h : jsonEach x = jsonEach y) : x = y := by
  unfold jsonEach at h
  rwa [String.append_left_inj, String.append_right_inj] at h

theorem quoteColumn_ne_placeholder : quoteColumn a b ≠ placeholder c := by
  intro h
  have hh := congrArg (fun s : String => s.toList.head?) h
  simp only [quoteColumn, quote, placeholder, String.toList_append, String.toList_ofList] at hh
  exact absurd (Option.some.inj hh) (by decide)

namespace On

/-- A condition of equality says which column is compared, and with what. -/
theorem equal_inj (h : (equal (.column a b) e).text? = (equal (.column c d) e').text?) :
    a = c ∧ b = d ∧ e.text = e'.text := by
  have ht := Option.some.inj h
  simp only [Expr.text, String.append_assoc] at ht
  obtain ⟨hac, hbd, ht⟩ :=
    quoteColumn_append (head?_append_ne (by decide)) (head?_append_ne (by decide)) ht
  exact ⟨hac, hbd, (String.append_right_inj " = ").1 ht⟩

def IsMembership (on : On) (table name : String) : Prop :=
  ∃ z, on.text? = some (quoteColumn table name ++ (" IN (" ++ z))

theorem isMembership_among (es : List Expr) : IsMembership (among (.column a b) es) a b :=
  ⟨commas (es.map Expr.text) ++ ")", by simp [text?, Expr.text, String.append_assoc]⟩

theorem isMembership_itemOf (inner : String) (array : Expr) :
    IsMembership (itemOf (.column a b) inner array) a b := by
  have hin : " IN (SELECT " = " IN (" ++ "SELECT " := rfl
  refine ⟨"SELECT " ++ (quoteColumn inner itemColumn ++ (" FROM " ++ (jsonEach array.text ++
    (" " ++ (quote inner ++ ")"))))), ?_⟩
  simp only [text?, Expr.text, hin, String.append_assoc]

theorem IsMembership.table_eq {on on' : On} (h : on.IsMembership a b) (h' : on'.IsMembership c d)
    (ht : on.text? = on'.text?) : a = c := by
  obtain ⟨x, hx⟩ := h
  obtain ⟨y, hy⟩ := h'
  rw [hx, hy] at ht
  exact (quoteColumn_append (head?_append_ne (by decide)) (head?_append_ne (by decide))
    (Option.some.inj ht)).1

theorem IsMembership.ne_equal {on : On} (h : on.IsMembership c d) :
    (equal (.column a b) e).text? ≠ on.text? := by
  obtain ⟨x, hx⟩ := h
  intro ht
  rw [hx] at ht
  have ht := Option.some.inj ht
  simp only [Expr.text, String.append_assoc] at ht
  obtain ⟨-, -, ht⟩ :=
    quoteColumn_append (head?_append_ne (by decide)) (head?_append_ne (by decide)) ht
  have hc := congrArg (fun s : String => s.toList.tail.head?) ht
  simp only [String.toList_append] at hc
  exact absurd (Option.some.inj hc) (by decide)

end On

end Sql

/-! ## Links -/

namespace Link

variable {parent parent' : String} {l l' : Link}

def on (parent : String) (l : Link) : On :=
  let name := l.aliasUnder parent
  match l with
  | single _ field => .equal (idOf name) (.column parent field)
  | multiple _ _ => .equal (idOf name) (itemOf (itemsAlias name))
  | backSingle _ _ field => .equal (.column name field) (idOf parent)
  | backMultiple _ _ field => .itemOf (idOf parent) (itemsAlias name) (.column name field)

theorem table_mem_joins (parent : String) (l : Link) :
    tableJoin l.target (l.aliasUnder parent) (l.on parent) ∈ l.joins parent := by
  cases l <;> simp [joins, on, target]

/-- A table is joined where its column equals another one, or the id of the table before is among
its items. -/
theorem on_cases (parent : String) (l : Link) :
    (∃ own table column, l.on parent =
        .equal (.column (l.aliasUnder parent) own) (.column table column)) ∨
      (l.on parent).IsMembership parent FieldName.id := by
  cases l with
  | single | multiple | backSingle => exact .inl ⟨_, _, _, rfl⟩
  | backMultiple => exact .inr (On.isMembership_itemOf _ _)

/-- A condition of equality names the table before. The items of a field stand between the two. -/
theorem partner_cases {own table column : String}
    (h : l.on parent = .equal (.column (l.aliasUnder parent) own) (.column table column)) :
    table = parent ∨
      table = itemsAlias (l.aliasUnder parent) ∧ ∃ target field, l = .multiple target field := by
  cases l with
  | single | backSingle => cases h; exact .inl rfl
  | multiple target field => cases h; exact .inr ⟨rfl, target, field, rfl⟩
  | backMultiple => cases h

theorem ne_itemsAlias (parent : String) (l : Link) :
    itemsAlias (l.aliasUnder parent) ≠ parent :=
  (extends_itemsAlias parent l.segment).ne

/-- Links whose joins are written the same come from one table. -/
theorem parent_eq (hn : l.aliasUnder parent = l'.aliasUnder parent')
    (hw : Joins.Agree (l.joins parent) (l'.joins parent')) : parent = parent' := by
  have ht : (l.on parent).text? = (l'.on parent').text? :=
    congrArg (·.2.2.2) (hw _ (table_mem_joins parent l) _ (table_mem_joins parent' l') hn)
  rcases on_cases parent l with ⟨own, table, column, h⟩ | h
  · rcases on_cases parent' l' with ⟨own', table', column', h'⟩ | h'
    · rw [h, h'] at ht
      obtain ⟨-, -, ht⟩ := On.equal_inj ht
      obtain ⟨rfl, -⟩ := Sql.quoteColumn_inj ht
      rcases partner_cases h with rfl | ⟨hi, target, field, rfl⟩
      · rcases partner_cases h' with rfl | ⟨hi', -⟩
        · rfl
        · exact absurd (hn ▸ hi'.symm) (ne_itemsAlias _ l)
      · rcases partner_cases h' with rfl | ⟨-, target', field', rfl⟩
        · exact absurd (hn ▸ hi.symm) (ne_itemsAlias _ l')
        · -- the tables are joined to the items alike, but the items to the tables before
          have hs := congrArg (·.2.1) (hw _ List.mem_cons_self _ List.mem_cons_self
            (congrArg itemsAlias hn))
          exact (Sql.quoteColumn_inj (Sql.jsonEach_inj hs)).1
    · rw [h] at ht
      exact absurd ht h'.ne_equal
  · rcases on_cases parent' l' with ⟨own', table', column', h'⟩ | h'
    · rw [h'] at ht
      exact absurd ht.symm h.ne_equal
    · exact h.table_eq h' ht

end Link

/-! ## Roots -/

namespace Root

variable {ρ σ : Root} {parent : String} {l : Link} {j : Join}

theorem on_cases {name : String} (hj : j ∈ ρ.joinsAt name) :
    j.on = .always ∨ (∃ p, j.on = .equal (idOf name) (.param p)) ∨
      j.on.IsMembership name FieldName.id := by
  cases ρ with
  | base => cases hj
  | anyOf => exact .inl (List.mem_singleton.1 hj ▸ rfl)
  | auth =>
    rw [List.mem_singleton.1 hj]
    exact .inr (.inl ⟨_, rfl⟩)
  | submitted c key ids multiple =>
    rw [List.mem_singleton.1 hj]
    right
    show (∃ p, idAmong _ _ = _) ∨ (idAmong _ _).IsMembership _ _
    unfold idAmong
    split
    · next h =>
      obtain ⟨i, hi, rfl⟩ := List.mem_mapIdx.1 (h ▸ List.mem_singleton.2 rfl)
      exact .inl ⟨_, rfl⟩
    · exact .inr (On.isMembership_among _)

/-- The table of a root is not joined like that of a link. -/
theorem on_ne (hj : j ∈ ρ.joinsAt (l.aliasUnder parent)) : j.on.text? ≠ (l.on parent).text? := by
  intro ht
  rcases on_cases hj with h | ⟨p, h⟩ | h
  · rw [h] at ht
    rcases l.on_cases parent with ⟨own, table, column, h'⟩ | ⟨z, hz⟩
    · rw [h'] at ht; cases ht
    · rw [hz] at ht; cases ht
  · rw [h] at ht
    rcases l.on_cases parent with ⟨own, table, column, h'⟩ | h'
    · rw [h'] at ht
      obtain ⟨-, -, ht⟩ := On.equal_inj ht
      exact Sql.quoteColumn_ne_placeholder ht.symm
    · exact h'.ne_equal ht
  · rcases l.on_cases parent with ⟨own, table, column, h'⟩ | h'
    · rw [h'] at ht
      exact h.ne_equal ht.symm
    · exact (extends_fieldAlias parent l.segment).ne (h.table_eq h' ht)

end Root

/-! ## Names in ASCII -/

def Text.IsAscii (a : String) : Prop := ∀ c ∈ a.toList, c.toNat < 128

instance (a : String) : Decidable (Text.IsAscii a) :=
  List.decidableBAll (fun c : Char => c.toNat < 128) a.toList

theorem Text.wordPart_of_isAscii {a : String} (hw : Text.IsWordy a) (ha : Text.IsAscii a) :
    Sql.wordPart a = a := by
  refine Resolver.wordPart_eq_self fun c hc => ?_
  have h := hw c hc
  rw [Text.isWord, if_pos (ha c hc), Bool.or_eq_true, beq_iff_eq] at h
  exact h

/-- The id and the names of a collection are in ASCII. -/
structure Collection.IsAscii (c : Collection) : Prop where
  id : Text.IsAscii c.id
  name : Text.IsAscii c.name
  fields : ∀ f ∈ c.fields, Text.IsAscii f.name

/-- The ids and the names that can be written in paths are in ASCII. -/
def Scope.IsAscii (s : Scope) : Prop := ∀ c ∈ s.collections, c.IsAscii

theorem Scope.IsAscii.namesAt {s : Scope} (h : s.IsAscii) {c : Collection}
    (hc : c ∈ s.collections) : ∀ a ∈ s.namesAt c, Text.IsAscii a := by
  have back {a b : String} (ha : Text.IsAscii a) (hb : Text.IsAscii b) :
      Text.IsAscii (a ++ "_via_" ++ b) := by
    have hvia : Text.IsAscii "_via_" := by decide
    unfold Text.IsAscii at *
    simp only [String.toList_append, List.forall_mem_append]
    exact ⟨⟨ha, hvia⟩, hb⟩
  intro a ha
  rcases List.mem_append.1 ha with ha | ha
  · obtain ⟨f, hf, rfl⟩ := List.mem_map.1 ha
    exact (h c hc).fields f hf
  · obtain ⟨d, hd, ha⟩ := List.mem_flatMap.1 ha
    obtain ⟨f, hf, ha⟩ := List.mem_flatMap.1 ha
    have hs := h d (List.mem_cons_of_mem _ hd)
    split at ha
    · rcases List.mem_pair.1 ha with rfl | rfl
      · exact back hs.id (hs.fields f hf)
      · exact back hs.name (hs.fields f hf)
    · cases ha

/-! ## Routes -/

namespace Plan

variable {s : Scope} {ρ σ : Root} {r r' : Route} {segments segments' rest rest' : List String}

theorem extends_lastAlias_cross (r : Route) (l : Link) :
    Extends r.root.firstAlias (r.cross l).lastAlias := by
  have hl : Extends r.lastAlias (r.cross l).lastAlias := by
    rw [Route.lastAlias_cross]
    exact extends_fieldAlias _ _
  rcases Link.aliasAfter_eq_or_extends r.root.firstAlias r.links with h | h
  · have hr : r.lastAlias = r.root.firstAlias := h
    rwa [hr] at hl
  · exact Extends.trans h hl

theorem lastAlias_cross_ne (hb : ¬ IsReserved (Sql.wordPart s.base.name))
    (hρ : RootOf s segments ρ rest) (hσ : RootOf s segments' r.root rest') {l : Link}
    (hw : Joins.Agree (ρ.joinsAt ρ.firstAlias) (r.cross l).joins) :
    ρ.firstAlias ≠ (r.cross l).lastAlias := by
  intro ha
  have hx := extends_lastAlias_cross r l
  rw [← ha] at hx
  rcases hρ.eq_base_or with rfl | ⟨-, -, j, hj, hn, -⟩
  · rcases hσ.eq_base_or with hbase | ⟨hr, -⟩
    · rw [hbase] at hx
      exact hx.ne rfl
    · exact hb (hx.isReserved hr)
  · rw [Route.lastAlias_cross] at ha
    have hk : tableJoin l.target (l.aliasUnder r.lastAlias) (l.on r.lastAlias) ∈
        (r.cross l).joins := by
      rw [Route.joins_cross]
      exact List.mem_append_right _ (l.table_mem_joins r.lastAlias)
    have hon := congrArg (·.2.2.2) (hw j hj _ hk (hn.trans ha))
    rw [ha] at hj
    exact Root.on_ne hj hon

/-- Roots of one alias are at one collection. -/
theorem RootOf.collection_eq (hb : ¬ IsReserved (Sql.wordPart s.base.name))
    (hρ : RootOf s segments ρ rest) (hσ : RootOf s segments' σ rest')
    (hw : Joins.Agree (ρ.joinsAt ρ.firstAlias) (σ.joinsAt σ.firstAlias))
    (ha : ρ.firstAlias = σ.firstAlias) : ρ.collection = σ.collection := by
  rcases hρ.eq_base_or with rfl | ⟨hr, hc, j, hj, hn, hs⟩
  · rcases hσ.eq_base_or with rfl | ⟨hr', -⟩
    · rfl
    · rw [← ha] at hr'
      exact absurd hr' hb
  · rcases hσ.eq_base_or with rfl | ⟨-, hd, k, hk, hn', hs'⟩
    · rw [ha] at hr
      exact absurd hr hb
    · have ht : j.source.text = k.source.text :=
        congrArg (·.2.1) (hw j hj k hk (by rw [hn, hn', ha]))
      rw [hs, hs'] at ht
      exact Catalog.eq_of_name hc hd (Sql.quote_injective ht)

/-- Links that lead under one alias from one collection are the same, if their segments are written
out in the alias. -/
theorem LeadsFrom.eq_of_aliasUnder {c : Collection} {segment segment' parent : String} {l l' : Link}
    (h : LeadsFrom s c segment l) (h' : LeadsFrom s c segment' l')
    (hs : Sql.wordPart l.segment = l.segment) (hs' : Sql.wordPart l'.segment = l'.segment)
    (ha : l.aliasUnder parent = l'.aliasUnder parent) : l = l' := by
  have hsegment : l.segment = l'.segment := by
    rw [Link.aliasUnder, Link.aliasUnder, fieldAlias, fieldAlias, String.append_right_inj] at ha
    rw [← hs, ha, hs']
  rw [h.segment_eq, h'.segment_eq] at hsegment
  rw [hsegment] at h
  exact h.unique h'

/-- Routes that come to one alias have crossed the same links, from roots of one alias at one
collection. -/
theorem Walked.same_origin (hb : ¬ IsReserved (Sql.wordPart s.base.name))
    (hρ : RootOf s segments ρ rest) (hσ : RootOf s segments' σ rest') (h : Walked s ρ r)
    (h' : Walked s σ r') (hs : ∀ l ∈ r.links, Sql.wordPart l.segment = l.segment)
    (hs' : ∀ l ∈ r'.links, Sql.wordPart l.segment = l.segment)
    (hw : Joins.Agree r.joins r'.joins) (ha : r.lastAlias = r'.lastAlias) :
    r.links = r'.links ∧ r.collection = r'.collection ∧ ρ.firstAlias = σ.firstAlias ∧
      ρ.collection = σ.collection := by
  have root (ρ : Root) : (⟨ρ, []⟩ : Route).joins = ρ.joinsAt ρ.firstAlias := List.append_nil _
  induction h generalizing r' with
  | start =>
    rw [root] at hw
    cases h' with
    | start =>
      rw [root] at hw
      have hc := hρ.collection_eq hb hσ hw ha
      exact ⟨rfl, hc, ha, hc⟩
    | cross h' =>
      rw [← h'.root_eq] at hσ
      exact absurd ha (lastAlias_cross_ne hb hρ hσ hw)
  | @cross r segment after l h ht ih =>
    cases h' with
    | start =>
      rw [root] at hw
      rw [← h.root_eq] at hρ
      exact absurd ha.symm (lastAlias_cross_ne hb hσ hρ hw.symm)
    | @cross r' segment' after' l' h' ht' =>
      rw [Route.lastAlias_cross, Route.lastAlias_cross] at ha
      rw [Route.joins_cross, Route.joins_cross] at hw
      -- the joins of the last links tell that the routes come to one alias before them too
      have hp : r.lastAlias = r'.lastAlias := Link.parent_eq ha
        (hw.mono (List.subset_append_right _ _) (List.subset_append_right _ _))
      obtain ⟨hlinks, hcollection, hroot⟩ := ih h' (fun m hm => hs m (List.mem_append_left _ hm))
        (fun m hm => hs' m (List.mem_append_left _ hm))
        (hw.mono (List.subset_append_left _ _) (List.subset_append_left _ _)) hp
      have hl : LeadsFrom s r.collection segment l := ⟨r, after, rfl, turn_eq_link_iff.1 ht⟩
      have hl' : LeadsFrom s r'.collection segment' l' := ⟨r', after', rfl, turn_eq_link_iff.1 ht'⟩
      rw [hcollection] at hl
      rw [hp] at ha
      obtain rfl := hl.eq_of_aliasUnder hl' (hs l (List.mem_append_right _ List.mem_cons_self))
        (hs' l' (List.mem_append_right _ List.mem_cons_self)) ha
      refine ⟨?_, by rw [Route.collection_cross, Route.collection_cross], hroot⟩
      rw [Route.cross, Route.cross, hlinks]

/-! ## Routes of paths that resolve -/

variable {path : String} {o : Outcome} {left : List String}

theorem Crosses.joins_subset (h : Crosses s r segments r' left) : r.joins ⊆ r'.joins := by
  induction h with
  | refl => exact List.Subset.refl _
  | cross _ _ ih =>
    rw [Route.joins_cross] at ih
    exact (List.append_subset.1 ih).1

theorem colon_notMem_of_below (ho : (below s path ρ rest).outcome = .ok o) :
    ∀ segment ∈ rest.dropLast, ':' ∉ segment.toList := by
  intro segment hs hc
  unfold below at ho
  split at ho
  · cases ho
  · next hn =>
    refine hn (Bool.or_eq_true_iff.2 (.inr (List.any_eq_true.2 ⟨segment, hs, ?_⟩)))
    simpa [hasColon] using hc

theorem joins_subset_of_crosses (hs : Starts s path ρ rest)
    (ho : (ofPath s path).outcome = .ok o) (hc : Crosses s ⟨ρ, []⟩ rest r left) :
    r.joins ⊆ (ofPath s path).joins := by
  rw [ofPath_of_starts hs] at ho ⊢
  have hd := hops_le_of_below ho hc
  unfold below at ho ⊢
  split at ho
  · cases ho
  · next hn =>
    rw [if_neg hn, hc.walk_eq hd]
    obtain ⟨r', left', rest', hc', -, -, he⟩ := ends_walk s path r left
    obtain ⟨extra, outcome, hp, -⟩ := he.along_eq
    rw [hp]
    exact List.Subset.trans hc'.joins_subset (List.subset_append_left _ _)

theorem Crosses.segment_of_mem (h : Crosses s r segments r' left)
    (hc : r.collection ∈ s.collections) {l : Link} (hl : l ∈ r'.links) :
    l ∈ r.links ∨ l.segment ∈ segments.dropLast ∧ ∃ c ∈ s.collections, l.segment ∈ s.namesAt c := by
  induction h with
  | refl => exact .inl hl
  | @cross r r' segment next rest left k hk h ih =>
    have hf : LeadsFrom s r.collection segment k := ⟨r, _, rfl, hk⟩
    rw [List.dropLast_cons_cons]
    rcases ih (by rw [Route.collection_cross]; exact hf.target_mem) hl with hl | ⟨hs, hn⟩
    · rcases List.mem_append.1 hl with hl | hl
      · exact .inl hl
      · rw [List.mem_singleton.1 hl, hf.segment_eq]
        exact .inr ⟨List.mem_cons_self, _, hc, hf.mem_namesAt⟩
    · exact .inr ⟨List.mem_cons_of_mem _ hs, hn⟩

/-- In a catalog with names in ASCII nothing is left out of the segments in an alias. -/
theorem wordPart_segment (ha : s.IsAscii) (hp : Path.isWellFormed path = true)
    (hs : Starts s path ρ rest) (ho : (ofPath s path).outcome = .ok o)
    (hc : Crosses s ⟨ρ, []⟩ rest r left) :
    ∀ l ∈ r.links, Sql.wordPart l.segment = l.segment := by
  intro l hl
  rw [ofPath_of_starts hs] at ho
  obtain ⟨hm, c, hmem, hn⟩ := (hc.segment_of_mem hs.2.collection_mem hl).resolve_left (by simp)
  have hsegment := List.dropLast_subset _ hm
  refine Text.wordPart_of_isAscii (fun ch hch => ?_) (ha.namesAt hmem _ hn)
  have hpath := isPathChar_of_rootOf hp hs.2 _ hsegment ch hch
  rw [Path.isPathChar, Bool.or_eq_true, Bool.or_eq_true, beq_iff_eq, beq_iff_eq] at hpath
  rcases hpath with (hword | rfl) | rfl
  · exact hword
  · obtain ⟨piece, hpiece, he⟩ := List.mem_map.1 (hs.2.suffix.subset hsegment)
    rw [← he, String.toList_ofList] at hch
    exact absurd hch (Text.notMem_of_mem_pieces hpiece)
  · exact absurd hch (colon_notMem_of_below ho _ hm)

end Plan

end RecordFilter
