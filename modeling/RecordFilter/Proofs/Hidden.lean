import Mathlib.Data.List.Nodup
import RecordFilter.Proofs.Listings

/-!
# Hidden fields

The author of a path that starts at the base may not read hidden fields. Every link of its route
and the field at its end are looked up and found not to be hidden, so every column that the path
reads, in its joins, in its value and in the listing of its values, is an id or that of a field
that is not hidden (`Resolver.resolve_reads_open`). An alias stands for one table only, because the
joins of a path that resolved have distinct aliases or are written the same.
-/

namespace RecordFilter

open Sql (Expr Join On Source)

/-! ## The columns of a join -/

namespace Sql

def Source.columns : Source → List (String × String)
  | .items array => array.columns
  | _ => []

/-- The columns that a condition reads, those of the rows that it unnests itself left out. -/
def On.columns : On → List (String × String)
  | .equal left right => left.columns ++ right.columns
  | .among value list => value.columns ++ list.flatMap Expr.columns
  | .itemOf value _ array => value.columns ++ array.columns
  | _ => []

def Join.columns (j : Join) : List (String × String) := j.source.columns ++ j.on.columns

/-- The columns that a listing reads, for its values and to find their rows. -/
def Listing.columns (l : Listing) : List (String × String) :=
  l.value.columns ++ l.joins.flatMap Join.columns

variable (f : String → String)

@[simp] theorem Source.columns_rename (s : Source) :
    (s.rename f).columns = s.columns.map fun c => (f c.1, c.2) := by
  cases s <;> simp [rename, columns]

@[simp] theorem On.columns_rename (c : On) :
    (c.rename f).columns = c.columns.map fun c => (f c.1, c.2) := by
  cases c <;> simp [rename, columns, List.flatMap_map, List.map_flatMap]

@[simp] theorem Join.columns_rename (j : Join) :
    (j.rename f).columns = j.columns.map fun c => (f c.1, c.2) := by
  simp [rename, columns]

end Sql

@[simp] theorem columns_tableJoin (c : Collection) (name : String) (on : On) :
    (tableJoin c name on).columns = on.columns := rfl

@[simp] theorem columns_itemsJoin (array : Expr) (name : String) :
    (itemsJoin array name).columns = array.columns := List.append_nil _

/-! ## What aliases stand for -/

/-- What an alias stands for beside the base: the table of a collection, or the items of an
array. -/
inductive StandsFor (s : Scope) (base : String) (js : List Join) :
    String → Option Collection → Prop
  | base : StandsFor s base js base (some s.base)
  | table {j : Join} {c : Collection} (hj : j ∈ js) (hc : c ∈ s.catalog.collections)
      (hs : j.source = .table c.name) : StandsFor s base js j.name (some c)
  | items {j : Join} {array : Expr} (hj : j ∈ js) (hs : j.source = .items array) :
      StandsFor s base js j.name none

/-- A column that every author may read: the id, or that of a field that is not hidden. -/
def Collection.Shows (c : Collection) (column : String) : Prop :=
  column = FieldName.id ∨ ∃ f, c.field? column = some f ∧ f.isHidden = false

/-- The alias of a column is in scope, and every collection that it stands for shows the column.
The items of an array have no fields to hide. -/
def IsOpen (s : Scope) (base : String) (js : List Join) (column : String × String) : Prop :=
  (∃ t, StandsFor s base js column.1 t) ∧
    ∀ c, StandsFor s base js column.1 (some c) → c.Shows column.2

def ReadsOpen (s : Scope) (base : String) (js : List Join) (column : String × String) : Prop :=
  ∃ t, StandsFor s base js column.1 t ∧ ∀ c, t = some c → c.Shows column.2

theorem Catalog.eq_of_name {catalog : Catalog} {c d : Collection} (hc : c ∈ catalog.collections)
    (hd : d ∈ catalog.collections) (h : c.name = d.name) : c = d :=
  List.inj_on_of_nodup_map catalog.distinctNames hc hd h

section Scopes

variable {s : Scope} {base : String} {js ks : List Join} {a b : String} {t u : Option Collection}
  {column : String × String}

theorem StandsFor.mono (h : StandsFor s base js a t) (hk : js ⊆ ks) : StandsFor s base ks a t := by
  cases h with
  | base => exact .base
  | table hj hc hs => exact .table (hk hj) hc hs
  | items hj hs => exact .items (hk hj) hs

theorem StandsFor.of_alike {c : Collection} (h : StandsFor s base js a (some c))
    (hk : ∀ j ∈ js, ∃ k ∈ ks, k.alike j = true) : StandsFor s base ks a (some c) := by
  cases h with
  | base => exact .base
  | @table j _ hj hc hs =>
    obtain ⟨k, hkm, halike⟩ := hk j hj
    obtain ⟨htable, htext, hname, -⟩ := Join.alike_iff.1 halike
    rw [hs] at htable htext
    cases hsource : k.source with
    | table name =>
      rw [hsource] at htext
      rw [Sql.quote_injective htext] at hsource
      exact hname ▸ .table hkm hc hsource
    | items | verbatim =>
      rw [hsource] at htable
      cases htable

theorem ReadsOpen.mono (h : ReadsOpen s base js column) (hk : js ⊆ ks) :
    ReadsOpen s base ks column := by
  obtain ⟨t, ht, hc⟩ := h
  exact ⟨t, ht.mono hk, hc⟩

theorem readsOpen_of_shows {c : Collection} {name : String}
    (h : StandsFor s base js a (some c)) (hs : c.Shows name) : ReadsOpen s base js (a, name) :=
  ⟨some c, h, by rintro _ ⟨⟩; exact hs⟩

theorem readsOpen_of_items {name : String} (h : StandsFor s base js a none) :
    ReadsOpen s base js (a, name) :=
  ⟨none, h, by rintro _ ⟨⟩⟩

/-- Where joins of one alias are written the same, and none has the alias of the base, an alias
stands for one thing. -/
theorem StandsFor.unique (hb : ∀ j ∈ js, j.name ≠ base)
    (hj : ∀ j ∈ js, ∀ k ∈ js, j.name = k.name → j.alike k = true)
    (h : StandsFor s base js a t) (h' : StandsFor s base js b u) (he : a = b) : t = u := by
  cases h with
  | base =>
    cases h' with
    | base => rfl
    | table hk | items hk => exact absurd he.symm (hb _ hk)
  | @table j c hjs hc hs =>
    cases h' with
    | base => exact absurd he (hb _ hjs)
    | @table k d hks hd hs' =>
      have hsource := (Join.alike_iff.1 (hj j hjs k hks he)).2.1
      rw [hs, hs'] at hsource
      rw [Catalog.eq_of_name hc hd (Sql.quote_injective hsource)]
    | @items k array hks hs' =>
      have htable := (Join.alike_iff.1 (hj j hjs k hks he)).1
      rw [hs, hs'] at htable
      cases htable
  | @items j array hjs hs =>
    cases h' with
    | base => exact absurd he (hb _ hjs)
    | @table k d hks hd hs' =>
      have htable := (Join.alike_iff.1 (hj j hjs k hks he)).1
      rw [hs, hs'] at htable
      cases htable
    | items => rfl

theorem ReadsOpen.isOpen (hb : ∀ j ∈ js, j.name ≠ base)
    (hj : ∀ j ∈ js, ∀ k ∈ js, j.name = k.name → j.alike k = true)
    (h : ReadsOpen s base js column) : IsOpen s base js column := by
  obtain ⟨t, ht, hc⟩ := h
  exact ⟨⟨t, ht⟩, fun c hs => hc c (ht.unique hb hj hs rfl)⟩

/-! ### Under a renaming -/

variable {f : String → String}

theorem StandsFor.rename (h : StandsFor s base js a t) :
    StandsFor s (f base) (js.map (Join.rename f)) (f a) t := by
  cases h with
  | base => exact .base
  | @table j c hj hc hs =>
    refine .table (j := j.rename f) (List.mem_map_of_mem hj) hc ?_
    rw [Join.rename, hs]
    rfl
  | @items j array hj hs =>
    have hsource : (j.rename f).source = .items (array.rename f) := by
      rw [Join.rename, hs]
      rfl
    exact .items (List.mem_map_of_mem hj) hsource

theorem StandsFor.of_rename (h : StandsFor s (f base) (js.map (Join.rename f)) b t) :
    ∃ a, b = f a ∧ StandsFor s base js a t := by
  cases h with
  | base => exact ⟨base, rfl, .base⟩
  | table hk hc hs =>
    obtain ⟨j, hj, rfl⟩ := List.mem_map.1 hk
    refine ⟨j.name, rfl, .table hj hc ?_⟩
    cases hsource : j.source with
    | table name => rw [Join.rename, hsource] at hs; exact hs
    | items | verbatim => rw [Join.rename, hsource] at hs; cases hs
  | items hk hs =>
    obtain ⟨j, hj, rfl⟩ := List.mem_map.1 hk
    cases hsource : j.source with
    | items array => exact ⟨j.name, rfl, .items hj hsource⟩
    | table | verbatim => rw [Join.rename, hsource] at hs; cases hs

theorem IsOpen.rename (hf : Function.Injective f) (h : IsOpen s base js column) :
    IsOpen s (f base) (js.map (Join.rename f)) (f column.1, column.2) := by
  obtain ⟨⟨t, ht⟩, hc⟩ := h
  refine ⟨⟨t, ht.rename⟩, fun c hs => hc c ?_⟩
  obtain ⟨a, ha, hs⟩ := hs.of_rename
  rwa [hf ha]

end Scopes

/-! ## Routes -/

def Link.IsShown (c : Collection) : Link → Prop
  | single _ field | multiple _ field => c.Shows field
  | backSingle source _ field | backMultiple source _ field => source.Shows field

/-- The joins of a link read what is shown, and bring its target into scope. -/
theorem Link.readsOpen_joins {s : Scope} {base parent : String} {js : List Join} {c : Collection}
    {l : Link} (hp : StandsFor s base js parent (some c))
    (ht : l.target ∈ s.catalog.collections) (hl : l.IsShown c) :
    StandsFor s base (js ++ l.joins parent) (l.aliasUnder parent) (some l.target) ∧
      ∀ column ∈ (l.joins parent).flatMap Join.columns,
        ReadsOpen s base (js ++ l.joins parent) column := by
  have hparent := hp.mono (List.subset_append_left js (l.joins parent))
  have hparentId := readsOpen_of_shows hparent (.inl rfl)
  have htarget :
      StandsFor s base (js ++ l.joins parent) (l.aliasUnder parent) (some l.target) := by
    cases l with
    | single target field =>
      exact .table (List.mem_append_right _ (List.mem_singleton.2 rfl)) ht rfl
    | multiple target field =>
      have hmem : tableJoin target _ _ ∈ (multiple target field).joins parent :=
        List.mem_cons_of_mem _ (List.mem_singleton.2 rfl)
      exact .table (List.mem_append_right _ hmem) ht rfl
    | backSingle source segment field =>
      exact .table (List.mem_append_right _ (List.mem_singleton.2 rfl)) ht rfl
    | backMultiple source segment field =>
      exact .table (List.mem_append_right _ (List.mem_singleton.2 rfl)) ht rfl
  have htargetId := readsOpen_of_shows htarget (.inl rfl)
  refine ⟨htarget, fun column hcolumn => ?_⟩
  cases l with
  | single target field =>
    have hcases : column = (fieldAlias parent field, FieldName.id) ∨
        column = (parent, field) := by
      simpa [joins, aliasUnder, Link.segment, On.columns, idOf, Expr.columns] using hcolumn
    rcases hcases with rfl | rfl
    · exact htargetId
    · exact readsOpen_of_shows hparent hl
  | multiple target field =>
    have hitems : StandsFor s base (js ++ (multiple target field).joins parent)
        (itemsAlias (fieldAlias parent field)) none :=
      .items (List.mem_append_right _ List.mem_cons_self) rfl
    have hcases : column = (parent, field) ∨ column = (fieldAlias parent field, FieldName.id) ∨
        column = (itemsAlias (fieldAlias parent field), Sql.itemColumn) := by
      simpa [joins, aliasUnder, Link.segment, On.columns, idOf, itemOf, Expr.columns]
        using hcolumn
    rcases hcases with rfl | rfl | rfl
    · exact readsOpen_of_shows hparent hl
    · exact htargetId
    · exact readsOpen_of_items hitems
  | backSingle source segment field =>
    have hcases : column = (fieldAlias parent segment, field) ∨
        column = (parent, FieldName.id) := by
      simpa [joins, aliasUnder, Link.segment, On.columns, idOf, Expr.columns] using hcolumn
    rcases hcases with rfl | rfl
    · exact readsOpen_of_shows htarget hl
    · exact hparentId
  | backMultiple source segment field =>
    have hcases : column = (parent, FieldName.id) ∨
        column = (fieldAlias parent segment, field) := by
      simpa [joins, aliasUnder, Link.segment, On.columns, idOf, Expr.columns] using hcolumn
    rcases hcases with rfl | rfl
    · exact hparentId
    · exact readsOpen_of_shows htarget hl

namespace Plan

variable {s : Scope} {path : String} {r : Route} {segments rest : List String}

theorem not_isHidden {f : Field} (hs : s.showHidden = false) (hr : r.root.isTrusted = false)
    (h : isWithheld s r f = false) : f.isHidden = false := by
  simpa [isWithheld, hs, hr] using h

theorem isShown_of_turn {segment : String} {after : List String} {l : Link}
    (hs : s.showHidden = false) (hr : r.root.isTrusted = false)
    (h : turn s r segment after = .link l) :
    l.target ∈ s.catalog.collections ∧ l.IsShown r.collection := by
  have hfound := found_turn s r segment after
  rw [h] at hfound
  rcases hfound with ⟨f, ref, hf, hw, -, hl⟩ | ⟨-, hl⟩
  · obtain ⟨target, ht, rfl⟩ := Option.map_eq_some_iff.1 hl
    have htarget := Catalog.mem_of_find? ht
    have hshown : r.collection.Shows f.name :=
      .inr ⟨f, Collection.field?_name hf, not_isHidden hs hr hw⟩
    split <;> exact ⟨htarget, hshown⟩
  · obtain ⟨⟨collection, field⟩, -, hl⟩ := Option.bind_eq_some_iff.1 hl
    obtain ⟨source, hc, hl⟩ := Option.bind_eq_some_iff.1 hl
    obtain ⟨f, hf, hl⟩ := Option.bind_eq_some_iff.1 hl
    obtain ⟨ref, -, hl⟩ := Option.bind_eq_some_iff.1 hl
    have hsource := Catalog.mem_of_find? hc
    split at hl
    · next hw =>
      rw [Bool.and_eq_true, Bool.not_eq_true'] at hw
      have hshown : source.Shows f.name :=
        .inr ⟨f, Collection.field?_name hf, not_isHidden hs hr hw.2⟩
      split at hl <;> cases hl <;> exact ⟨hsource, hshown⟩
    · cases hl

/-- A route from the base ends at the table of its collection, and its joins read what is
shown. -/
theorem readsOpen_walked (hs : s.showHidden = false) (h : Walked s (.base s.base) r) :
    StandsFor s (Sql.wordPart s.base.name) r.joins r.lastAlias (some r.collection) ∧
      ∀ column ∈ r.joins.flatMap Join.columns,
        ReadsOpen s (Sql.wordPart s.base.name) r.joins column := by
  induction h with
  | start => exact ⟨.base, by rintro _ ⟨⟩⟩
  | @cross r segment after l hr ht ih =>
    have htrusted : r.root.isTrusted = false := by rw [hr.root_eq]; rfl
    obtain ⟨htarget, hshown⟩ := isShown_of_turn hs htrusted ht
    obtain ⟨hend, hcolumns⟩ := Link.readsOpen_joins ih.1 htarget hshown
    rw [Route.joins_cross, Route.lastAlias_cross, Route.collection_cross]
    refine ⟨hend, fun column hcolumn => ?_⟩
    rw [List.flatMap_append] at hcolumn
    rcases List.mem_append.1 hcolumn with hcolumn | hcolumn
    · exact (ih.2 column hcolumn).mono (List.subset_append_left _ _)
    · exact hcolumns column hcolumn

/-! ## Plans -/

structure IsShown (s : Scope) (p : Plan) : Prop where
  joins : ∀ column ∈ p.joins.flatMap Join.columns,
    ReadsOpen s (Sql.wordPart s.base.name) p.joins column
  value : ∀ res, p.outcome = .ok (.fixed res) → ∀ column ∈ res.value.columns,
    ReadsOpen s (Sql.wordPart s.base.name) p.joins column

/-- A reading reads the column of its field, and the items that it joins. -/
theorem Reading.readsOpen {base : String} {js : List Join} {table : String} {c : Collection}
    {f : Field} (how : Reading) (ht : StandsFor s base js table (some c)) (hf : c.Shows f.name) :
    ∀ column ∈ (how.joins f table).flatMap Join.columns ++ (how.value f table).columns,
      ReadsOpen s base (js ++ how.joins f table) column := by
  have hfield : ReadsOpen s base (js ++ how.joins f table) (table, f.name) :=
    readsOpen_of_shows (ht.mono (List.subset_append_left _ _)) hf
  intro column hcolumn
  cases how with
  | column lower | document names lower =>
    obtain rfl : column = (table, f.name) := by
      cases lower <;> simpa [joins, value, lowered, Expr.columns] using hcolumn
    exact hfield
  | count =>
    obtain rfl : column = (table, f.name) := by
      simpa [joins, value, Expr.columns] using hcolumn
    exact hfield
  | items =>
    have hitems : StandsFor s base (js ++ items.joins f table)
        (itemsAlias (fieldAlias table f.name)) none :=
      .items (List.mem_append_right _ (List.mem_singleton.2 rfl)) rfl
    have hcases : column = (table, f.name) ∨
        column = (itemsAlias (fieldAlias table f.name), Sql.itemColumn) := by
      simpa [joins, eachItems, value, itemOf, Expr.columns] using hcolumn
    rcases hcases with rfl | rfl
    · exact hfield
    · exact readsOpen_of_items hitems

theorem isShown_of_ends {p : Plan} (hs : s.showHidden = false) (hr : Walked s (.base s.base) r)
    (h : Ends s r rest p) : p.IsShown s := by
  obtain ⟨hend, hjoins⟩ := readsOpen_walked hs hr
  have htrusted : r.root.isTrusted = false := by rw [hr.root_eq]; rfl
  cases h with
  | fails e =>
    refine ⟨?_, by rintro _ ⟨⟩⟩
    simpa [along] using hjoins
  | nothing =>
    refine ⟨?_, ?_⟩
    · simpa [along] using hjoins
    · rintro _ ⟨⟩ _ ⟨⟩
  | @reads f how visibleIn hf hw =>
    have hreads := how.readsOpen hend (.inr ⟨f, hf, not_isHidden hs htrusted hw⟩)
    refine ⟨fun column hcolumn => ?_, ?_⟩
    · rw [along, List.flatMap_append] at hcolumn
      rcases List.mem_append.1 hcolumn with hcolumn | hcolumn
      · exact (hjoins column hcolumn).mono (List.subset_append_left _ _)
      · exact hreads column (List.mem_append_left _ hcolumn)
    · rintro _ ⟨⟩ column hcolumn
      exact hreads column (List.mem_append_right _ hcolumn)

theorem name_ne_base {c : Collection} {j : Join}
    (hj : j ∈ (below s path (.base c) segments).joins) : j.name ≠ Sql.wordPart c.name := by
  obtain ⟨r, rest, hr, -, he⟩ := ends_below s path (.base c) segments
  generalize below s path (.base c) segments = p at hj he
  have grown (how : Reading) (f : Field) (hj : j ∈ r.joins ++ how.joins f r.lastAlias) :
      j.name ≠ Sql.wordPart c.name := by
    rcases name_of_mem_joins hj with ⟨hj, -⟩ | hx
    · rw [hr.root_eq] at hj
      cases hj
    · rw [hr.root_eq] at hx
      exact hx.ne
  cases he with
  | fails | nothing => exact grown .count default hj
  | @reads f how => exact grown how f hj

end Plan

/-! ## Resolved paths -/

namespace Resolver

open Plan (IsOwn)

variable {r : Resolver} {path : String} {res : Resolution}

/-- The joins of a path that resolved have distinct aliases or are written the same. -/
theorem alike_of_resolve (h : (r.resolve path).1 = .ok res) :
    ∀ j ∈ (Plan.ofPath r.scope path).joins, ∀ k ∈ (Plan.ofPath r.scope path).joins,
      j.name = k.name → j.alike k = true := by
  have found {joins : Sql.Joins}
      (hj : r.joins.registerAll (Plan.ofPath r.scope path).joins = .ok joins) :
      ∀ j ∈ (Plan.ofPath r.scope path).joins, ∀ k ∈ (Plan.ofPath r.scope path).joins,
        j.name = k.name → j.alike k = true := by
    intro j hjm k hkm hn
    obtain ⟨i, hi, hij⟩ := Sql.Joins.alike_of_registerAll hj hjm
    obtain ⟨i', hi', hik⟩ := Sql.Joins.alike_of_registerAll hj hkm
    rw [hn, hi'] at hi
    obtain rfl := Option.some.inj hi
    rw [Join.alike_iff] at hij hik ⊢
    exact ⟨hij.1.symm.trans hik.1, hij.2.1.symm.trans hik.2.1, hn,
      hij.2.2.2.symm.trans hik.2.2.2⟩
  rcases resolve_outcomes r path with ⟨e, ps, he, -⟩ | ⟨joins, res', hj, -, -⟩ |
    ⟨joins, v, lower, hj, -, -⟩
  · rw [he] at h; cases h
  · exact found hj
  · exact found hj

theorem outcome_of_isOwn (hp : IsOwn path) (h : (r.resolve path).1 = .ok res) :
    Plan.ofPath r.scope path =
        Plan.below r.scope path (.base r.scope.base) (Plan.segmentsOf path) ∧
      (Plan.ofPath r.scope path).outcome = .ok (.fixed res) := by
  have hplan := Plan.ofPath_of_isOwn (s := r.scope) hp
  rcases resolve_outcomes r path with ⟨e, ps, he, -⟩ | ⟨joins, res', -, ho, he⟩ |
    ⟨joins, v, lower, -, ho, -⟩
  · rw [he] at h; cases h
  · rw [he] at h
    cases h
    refine ⟨hplan.resolve_left fun hf => ?_, ho⟩
    rw [hf] at ho
    cases ho
  · rcases hplan with hf | hf
    · rw [hf] at ho; cases ho
    · rw [hf] at ho
      obtain ⟨route, extra, outcome, -, hb, hres⟩ := Plan.below_laid r.scope path
        (.base r.scope.base) (Plan.segmentsOf path)
      rw [hb] at ho
      obtain ⟨res', he, -⟩ := hres _ ho
      cases he

/-- Where hidden fields may not be read, whatever was resolved before: every column that a path
from the base reads, in its joins, in its value and in the listing of its values, is an id or
that of a field that is not hidden in the collection whose table its alias stands for. -/
theorem resolve_reads_open (hs : r.scope.showHidden = false) (hp : IsOwn path)
    (h : (r.resolve path).1 = .ok res) :
    (∀ j ∈ (Plan.ofPath r.scope path).joins,
        ∃ k ∈ (r.resolve path).2.joins, k.alike j = true) ∧
      (∀ column ∈ res.value.columns ++ (Plan.ofPath r.scope path).joins.flatMap Join.columns,
        IsOpen r.scope (Sql.wordPart r.scope.base.name) (Plan.ofPath r.scope path).joins column) ∧
      ∀ l, res.listing = some l →
        ∀ column ∈ l.columns, IsOpen r.scope l.tableAlias l.joins column := by
  have halike := alike_of_resolve h
  obtain ⟨hbelow, ho⟩ := outcome_of_isOwn hp h
  obtain ⟨route, rest, hroute, -, hends⟩ := Plan.ends_below r.scope path (.base r.scope.base)
    (Plan.segmentsOf path)
  have hshown := Plan.isShown_of_ends hs hroute hends
  rw [← hbelow] at hshown
  have hbase : ∀ j ∈ (Plan.ofPath r.scope path).joins,
      j.name ≠ Sql.wordPart r.scope.base.name := by
    rw [hbelow]
    exact fun j hj => Plan.name_ne_base hj
  have hopen : ∀ column ∈ res.value.columns ++
      (Plan.ofPath r.scope path).joins.flatMap Join.columns,
      IsOpen r.scope (Sql.wordPart r.scope.base.name) (Plan.ofPath r.scope path).joins column := by
    intro column hcolumn
    rcases List.mem_append.1 hcolumn with hcolumn | hcolumn
    · exact (hshown.value res ho column hcolumn).isOpen hbase halike
    · exact (hshown.joins column hcolumn).isOpen hbase halike
  refine ⟨registered_of_resolve h, hopen, fun l hl => ?_⟩
  -- the listing reads the same columns under the renaming of its aliases
  have hmirrors := Plan.mirrors_below r.scope path (.base r.scope.base) (Plan.segmentsOf path)
  rw [← hbelow] at hmirrors
  obtain rfl := hmirrors res l ho hl
  intro column hcolumn
  have hrenamed : column ∈ (res.value.columns ++
      (Plan.ofPath r.scope path).joins.flatMap Join.columns).map
        fun c => (Root.listed c.1, c.2) := by
    simpa [Sql.Listing.columns, Plan.listingOf, Root.toListing, List.flatMap_map,
      List.map_flatMap] using hcolumn
  obtain ⟨c, hc, rfl⟩ := List.mem_map.1 hrenamed
  exact (hopen c hc).rename Root.listed_injective

def coauthored : Definitions :=
  { collections :=
      [{ name := "posts", fields :=
          [{ name := "authors", type := .relation, collection := some "users",
             multiple := true }] },
        { name := "users", kind := .auth, fields := [{ name := "name", type := .text }] }] }

def coauthoredCatalog : Catalog := coauthored.toCatalog.toOption.getD default

def coauthoredScope : Scope :=
  { catalog := coauthoredCatalog, base := (coauthoredCatalog.find? "posts").getD default }

set_option maxRecDepth 4000 in
/-- The names of authors are read from users, in the query and in the listing. -/
theorem resolve_reads_open_names :
    coauthored.toCatalog = .ok coauthoredCatalog ∧
      ∃ res l, (resolve { scope := coauthoredScope } "authors.name").1 = .ok res ∧
        res.value.columns = [("posts_authors", "name")] ∧
        IsOpen coauthoredScope "posts" (Plan.ofPath coauthoredScope "authors.name").joins
          ("posts_authors", "name") ∧
        res.listing = some l ∧ l.value.columns = [("__mm_posts_authors", "name")] ∧
        IsOpen coauthoredScope l.tableAlias l.joins ("__mm_posts_authors", "name") := by
  obtain ⟨res, l, hr, hc, hl, hlc⟩ : ∃ res l,
      (resolve { scope := coauthoredScope } "authors.name").1 = .ok res ∧
        res.value.columns = [("posts_authors", "name")] ∧ res.listing = some l ∧
        l.value.columns = [("__mm_posts_authors", "name")] :=
    ⟨_, _, rfl, rfl, rfl, rfl⟩
  obtain ⟨-, hopen, hlisted⟩ := resolve_reads_open rfl (by decide) hr
  refine ⟨rfl, res, l, hr, hc, hopen _ ?_, hl, hlc, hlisted l hl _ ?_⟩
  · rw [hc]
    exact List.mem_cons_self
  · rw [Sql.Listing.columns, hlc]
    exact List.mem_cons_self

set_option maxRecDepth 4000 in
/-- Passwords are hidden, wherever the path comes through. -/
example : (resolve { scope := coauthoredScope } "authors.password").1 =
    .error (.unknownField "authors.password") := rfl

end Resolver

end RecordFilter
