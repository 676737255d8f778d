import RecordFilter.Catalog.Definition
import RecordFilter.Proofs.Aliases

/-!
# Listings

A listing is laid out like the main query: its joins are the joins of the path under other aliases,
one for one (`Resolver.listing_mirrors`). The aliases below a root grow out of the alias of the
root, so a renaming that `Carries` the one root alias to the other carries everything below it. The
alias of the base is renamed too, so it must not be one of the aliases below submitted records
(`Plan.ClashesAt`).
-/

namespace RecordFilter

open Sql (Expr Join On)

/-! ## The aliases of a join -/

namespace Sql

/-- The aliases in a condition, the one that it introduces itself too. -/
def On.tables : On → List String
  | .itemOf value inner array => inner :: (value.aliases ++ array.aliases)
  | c => c.aliases

def Join.tables (j : Join) : List String := j.name :: (j.source.aliases ++ j.on.tables)

variable {f g : String → String}

theorem Expr.rename_congr {e : Expr} (h : ∀ a ∈ e.aliases, f a = g a) :
    e.rename f = e.rename g := by
  induction e with
  | column table name =>
    rw [rename, rename, h table List.mem_cons_self]
  | lower e ih | itemCount e ih | extract e steps ih | coalesced e ih =>
    rw [rename, rename, ih h]
  | _ => rfl

theorem Source.rename_congr {s : Source} (h : ∀ a ∈ s.aliases, f a = g a) :
    s.rename f = s.rename g := by
  cases s with
  | items array => exact congrArg items (Expr.rename_congr h)
  | table | verbatim => rfl

theorem On.rename_congr {c : On} (h : ∀ a ∈ c.tables, f a = g a) : c.rename f = c.rename g := by
  cases c with
  | always | verbatim => rfl
  | equal left right =>
    obtain ⟨hl, hr⟩ := List.forall_mem_append.1 h
    rw [rename, rename, Expr.rename_congr hl, Expr.rename_congr hr]
  | among value list =>
    obtain ⟨hv, hl⟩ := List.forall_mem_append.1 h
    rw [rename, rename, Expr.rename_congr hv]
    refine congrArg (among _) (List.map_congr_left fun e he => Expr.rename_congr fun a ha => ?_)
    exact hl a (List.mem_flatMap.2 ⟨e, he, ha⟩)
  | itemOf value inner array =>
    obtain ⟨hi, h⟩ := List.forall_mem_cons.1 h
    obtain ⟨hv, ha⟩ := List.forall_mem_append.1 h
    rw [rename, rename, hi, Expr.rename_congr hv, Expr.rename_congr ha]

/-- Only the aliases in a join matter to how it is renamed. -/
theorem Join.rename_congr {j : Join} (h : ∀ a ∈ j.tables, f a = g a) :
    j.rename f = j.rename g := by
  obtain ⟨hn, h⟩ := List.forall_mem_cons.1 h
  obtain ⟨hs, ho⟩ := List.forall_mem_append.1 h
  rw [rename, rename, hn, Source.rename_congr hs, On.rename_congr ho]

end Sql

theorem isPrefix_append (a t : String) : a.toList <+: (a ++ t).toList := by
  rw [String.toList_append]
  exact List.prefix_append _ _

theorem Extends.isPrefix {a b : String} (h : Extends a b) : a.toList <+: b.toList := by
  obtain ⟨t, rfl⟩ := h
  rw [String.append_assoc]
  exact isPrefix_append a _

@[simp] theorem tables_tableJoin (c : Collection) (name : String) (on : On) :
    (tableJoin c name on).tables = name :: on.tables := rfl

@[simp] theorem tables_itemsJoin (array : Expr) (name : String) :
    (itemsJoin array name).tables = name :: array.aliases := by
  simp [itemsJoin, Join.tables, Sql.Source.aliases, Sql.On.tables, On.aliases]

namespace Link

variable {parent a : String} {j : Join}

theorem eq_of_mem_tables {l : Link} (hj : j ∈ l.joins parent) (ha : a ∈ j.tables) :
    a = parent ∨ a = l.aliasUnder parent ∨ a = itemsAlias (l.aliasUnder parent) := by
  cases l with
  | single | backSingle | backMultiple =>
    obtain rfl := List.mem_singleton.1 hj
    simp [Sql.On.tables, On.aliases, idOf, Expr.aliases, Expr.columns] at ha
    tauto
  | multiple =>
    rcases List.mem_cons.1 hj with rfl | hj
    · simp [Expr.aliases, Expr.columns] at ha
      tauto
    · obtain rfl := List.mem_singleton.1 hj
      simp [Sql.On.tables, On.aliases, idOf, itemOf, Expr.aliases, Expr.columns] at ha
      tauto

theorem isPrefix_aliasUnder (parent : String) (l : Link) :
    parent.toList <+: (l.aliasUnder parent).toList := (extends_fieldAlias parent _).isPrefix

/-- The aliases in the joins of a chain of links start with the one that the chain starts at. -/
theorem isPrefix_of_mem_tables {links : List Link} (hj : j ∈ joinsAlong parent links)
    (ha : a ∈ j.tables) : parent.toList <+: a.toList := by
  induction links generalizing parent with
  | nil => cases hj
  | cons l links ih =>
    have hu := isPrefix_aliasUnder parent l
    rcases List.mem_append.1 hj with hj | hj
    · rcases eq_of_mem_tables hj ha with rfl | rfl | rfl
      · exact List.prefix_rfl
      · exact hu
      · exact hu.trans (isPrefix_append _ _)
    · exact hu.trans (ih hj)

theorem isPrefix_aliasAfter (parent : String) (links : List Link) :
    parent.toList <+: (aliasAfter parent links).toList := by
  induction links generalizing parent with
  | nil => exact List.prefix_rfl
  | cons l links ih => exact (isPrefix_aliasUnder parent l).trans (ih _)

end Link

namespace Root

theorem tables_idAmong (id : Expr) (ps : List Expr) :
    (idAmong id ps).tables = id.aliases ++ ps.flatMap Expr.aliases := by
  unfold idAmong
  split <;> simp [Sql.On.tables, On.aliases]

/-- The only alias in the join of a root is its own. -/
theorem eq_of_mem_tables {name a : String} {r : Root} {j : Join} (hj : j ∈ r.joinsAt name)
    (ha : a ∈ j.tables) : a = name := by
  cases r with
  | base => cases hj
  | anyOf | auth =>
    obtain rfl := List.mem_singleton.1 hj
    simpa [Sql.On.tables, On.aliases, idOf, Expr.aliases, Expr.columns] using ha
  | submitted c key ids multiple =>
    obtain rfl := List.mem_singleton.1 hj
    rw [tables_tableJoin, tables_idAmong, List.mem_cons, List.mem_append, List.mem_flatMap] at ha
    rcases ha with rfl | ha | ⟨p, hp, ha⟩
    · rfl
    · exact List.mem_singleton.1 ha
    · obtain ⟨i, hi, rfl⟩ := List.mem_mapIdx.1 hp
      cases ha

end Root

theorem Plan.Reading.isPrefix_of_mem_tables {how : Reading} {f : Field} {table a : String}
    {j : Join} (hj : j ∈ how.joins f table) (ha : a ∈ j.tables) :
    table.toList <+: a.toList := by
  cases how with
  | column | document | count => cases hj
  | items =>
    obtain rfl := List.mem_singleton.1 hj
    rcases List.mem_cons.1 ha with rfl | ha
    · exact (extends_itemsAlias table _).isPrefix
    · obtain rfl := List.mem_singleton.1 ha
      exact List.prefix_rfl

/-! ## Renaming what grows out of an alias -/

/-- A renaming takes every name that starts with `a` to the one that starts with `b` instead. -/
def Carries (f : String → String) (a b : String) : Prop := ∀ t, f (a ++ t) = b ++ t

namespace Carries

variable {f : String → String} {a b : String}

theorem eq (h : Carries f a b) : f a = b := by simpa using h ""

theorem append (h : Carries f a b) (t : String) : Carries f (a ++ t) (b ++ t) := by
  intro u
  rw [String.append_assoc, String.append_assoc]
  exact h (t ++ u)

theorem fieldAlias (h : Carries f a b) (field : String) :
    Carries f (fieldAlias a field) (RecordFilter.fieldAlias b field) :=
  (h.append "_").append (Sql.wordPart field)

theorem itemsAlias (h : Carries f a b) :
    Carries f (itemsAlias a) (RecordFilter.itemsAlias b) := h.append "_je"

theorem listed (name : String) : Carries Root.listed name (Root.listed name) := by
  intro t
  rw [Root.listed, Root.listed, String.append_assoc]

end Carries

namespace Link

variable {f : String → String} {a b : String}

theorem carries_aliasUnder (h : Carries f a b) (l : Link) :
    Carries f (l.aliasUnder a) (l.aliasUnder b) := h.fieldAlias l.segment

theorem joins_rename (h : Carries f a b) (l : Link) :
    l.joins b = (l.joins a).map (Join.rename f) := by
  have ha := (carries_aliasUnder h l).eq
  have hi := (carries_aliasUnder h l).itemsAlias.eq
  cases l <;>
    simp [joins, tableJoin, itemsJoin, Join.rename, Sql.Source.rename, On.rename, Expr.rename,
      idOf, itemOf, h.eq, ha, hi]

theorem joinsAlong_rename (h : Carries f a b) (links : List Link) :
    joinsAlong b links = (joinsAlong a links).map (Join.rename f) := by
  induction links generalizing a b with
  | nil => rfl
  | cons l links ih =>
    rw [joinsAlong, joinsAlong, List.map_append, ← joins_rename h, ← ih (carries_aliasUnder h l)]

theorem carries_aliasAfter (h : Carries f a b) (links : List Link) :
    Carries f (aliasAfter a links) (aliasAfter b links) := by
  induction links generalizing a b with
  | nil => exact h
  | cons l links ih => exact ih (carries_aliasUnder h l)

end Link

namespace Root

variable {f : String → String} {a b : String}

theorem rename_idAmong (f : String → String) (id : Expr) (ps : List Expr) :
    (idAmong id ps).rename f = idAmong (id.rename f) (ps.map (Expr.rename f)) := by
  rcases ps with _ | ⟨p, _ | ⟨q, ps⟩⟩ <;> rfl

theorem joinsAt_rename (h : f a = b) (r : Root) :
    r.joinsAt b = (r.joinsAt a).map (Join.rename f) := by
  cases r with
  | base => rfl
  | anyOf | auth =>
    simp [joinsAt, tableJoin, Join.rename, Sql.Source.rename, On.rename, Expr.rename, idOf, h]
  | submitted c key ids multiple =>
    have hp : ∀ p ∈ ids.mapIdx fun i _ =>
        Expr.param (submittedParam (submitted c key ids multiple).firstAlias i),
        p.rename f = id p := by
      intro p hp
      obtain ⟨i, hi, rfl⟩ := List.mem_mapIdx.1 hp
      rfl
    simp [joinsAt, tableJoin, Join.rename, Sql.Source.rename, rename_idAmong, Expr.rename, idOf, h,
      List.map_congr_left hp]

end Root

namespace Plan

variable {f : String → String} {a b : String}

theorem Reading.joins_rename (h : Carries f a b) (how : Reading) (field : Field) :
    how.joins field b = (how.joins field a).map (Join.rename f) := by
  have hi := (h.fieldAlias field.name).itemsAlias.eq
  cases how <;>
    simp [joins, eachItems, itemsJoin, Join.rename, Sql.Source.rename, On.rename, Expr.rename,
      h.eq, hi]

theorem Reading.value_rename (h : Carries f a b) (how : Reading) (field : Field) :
    how.value field b = (how.value field a).rename f := by
  have hi := (h.fieldAlias field.name).itemsAlias.eq
  cases how with
  | column lower | document names lower =>
    cases lower <;> simp [value, lowered, Expr.rename, h.eq]
  | count => simp [value, Expr.rename, h.eq]
  | items => simp [value, itemOf, Expr.rename, hi]

end Plan

/-! ## The renaming -/

/-- The alias in a listing for an alias below submitted records. -/
def submittedListed (name : String) : String :=
  "__data_mm_" ++ String.ofList (name.toList.drop "__data_".length)

/-- The renaming from the query to a listing of a path below a root: names that start with the
alias of submitted records have their own form. -/
def Root.toListing (r : Root) (name : String) : String :=
  match r with
  | submitted _ _ _ _ =>
    if r.firstAlias.toList <+: name.toList then submittedListed name else listed name
  | _ => listed name

namespace Root

variable {r : Root}

theorem exists_append_of_isPrefix {a b : String} (h : a.toList <+: b.toList) :
    ∃ t, b = a ++ t := by
  obtain ⟨t, ht⟩ := h
  exact ⟨String.ofList t, String.toList_injective (by simp [ht])⟩

theorem submittedListed_append (t : String) :
    submittedListed ("__data_" ++ t) = "__data_mm_" ++ t := by
  have hd : ("__data_" ++ t).toList.drop "__data_".length = t.toList := by
    rw [String.toList_append]
    exact List.drop_left' rfl
  rw [submittedListed, hd, String.ofList_toList]

theorem firstAlias_append (c : Collection) (key : String) (ids : List String) (multiple : Bool)
    (t : String) : (submitted c key ids multiple).firstAlias ++ t =
      "__data_" ++ (Sql.wordPart c.name ++ ("_" ++ (Sql.wordPart key ++ t))) := by
  show "__data_" ++ Sql.wordPart c.name ++ "_" ++ Sql.wordPart key ++ t = _
  simp only [String.append_assoc]

theorem listAlias_append (c : Collection) (key : String) (ids : List String) (multiple : Bool)
    (t : String) : (submitted c key ids multiple).listAlias ++ t =
      "__data_mm_" ++ (Sql.wordPart c.name ++ ("_" ++ (Sql.wordPart key ++ t))) := by
  show "__data_mm_" ++ Sql.wordPart c.name ++ "_" ++ Sql.wordPart key ++ t = _
  simp only [String.append_assoc]

theorem carries_toListing (r : Root) : Carries r.toListing r.firstAlias r.listAlias := by
  intro t
  cases r with
  | base | anyOf | auth => exact Carries.listed _ t
  | submitted c key ids multiple =>
    unfold toListing
    simp only [if_pos (isPrefix_append _ t)]
    rw [firstAlias_append, listAlias_append, submittedListed_append]

theorem listed_ne_submittedListed (a b : String) : listed a ≠ submittedListed b := by
  intro h
  have hc := congrArg (fun s : String => s.toList[2]?) h
  simp [listed, submittedListed] at hc

theorem listed_injective : Function.Injective listed := by
  intro a b h
  exact (String.append_right_inj _).1 h

/-- Names under submitted records and other names are never renamed to the same. -/
theorem toListing_injective (r : Root) : Function.Injective r.toListing := by
  cases r with
  | base | anyOf | auth => exact listed_injective
  | submitted c key ids multiple =>
    intro a b h
    unfold toListing at h
    simp only at h
    split at h <;> split at h
    · next ha hb =>
      obtain ⟨t, rfl⟩ := exists_append_of_isPrefix ha
      obtain ⟨u, rfl⟩ := exists_append_of_isPrefix hb
      rw [firstAlias_append, firstAlias_append, submittedListed_append,
        submittedListed_append] at h
      rw [firstAlias_append, firstAlias_append, (String.append_right_inj _).1 h]
    · exact absurd h.symm (listed_ne_submittedListed _ _)
    · exact absurd h (listed_ne_submittedListed _ _)
    · exact listed_injective h

theorem toListing_of_notPrefix {name : String} (h : ¬ r.firstAlias.toList <+: name.toList) :
    r.toListing name = listed name := by
  unfold toListing
  split
  · rw [if_neg h]
  · rfl

/-- The renaming of a root with the alias of the base, which is renamed in its own way. -/
def toListingBeside (base : String) (r : Root) (name : String) : String :=
  if name = base then listed name else r.toListing name

theorem toListingBeside_injective (base : String) (r : Root) :
    Function.Injective (r.toListingBeside base) := by
  have apart {b : String} (hb : b ≠ base) : listed base ≠ r.toListing b := by
    intro h
    by_cases hp : r.firstAlias.toList <+: b.toList
    · cases r with
      | base | anyOf | auth => exact hb (listed_injective h).symm
      | submitted c key ids multiple =>
        refine listed_ne_submittedListed base b ?_
        unfold toListing at h
        simpa only [if_pos hp] using h
    · rw [toListing_of_notPrefix hp] at h
      exact hb (listed_injective h).symm
  intro a b h
  unfold toListingBeside at h
  split at h <;> split at h
  · next ha hb => exact ha.trans hb.symm
  · next ha hb => exact absurd (ha ▸ h) (apart hb)
  · next ha hb => exact absurd (hb ▸ h).symm (apart ha)
  · exact toListing_injective r h

end Root

/-! ## Plans and their listings -/

namespace Plan

variable {s : Scope} {path : String}

def SubmittedAt (s : Scope) (path : String) : Prop :=
  ∃ target key ids multiple rest, Starts s path (.submitted target key ids multiple) rest

/-- The path starts at submitted records, and one of its joins has the alias of the base. -/
def ClashesAt (s : Scope) (path : String) : Prop :=
  SubmittedAt s path ∧ ∃ j ∈ (ofPath s path).joins, Sql.wordPart s.base.name ∈ j.tables

/-- The listing of what a plan resolves to is laid out like the plan, its aliases renamed. -/
def Mirrors (s : Scope) (f : String → String) (p : Plan) : Prop :=
  ∀ res l, p.outcome = .ok (.fixed res) → res.listing = some l →
    l = listingOf s (res.value.rename f) (p.joins.map (Join.rename f))

theorem Mirrors.congr {f g : String → String} {p : Plan} (h : p.Mirrors s g)
    (hj : ∀ j ∈ p.joins, ∀ a ∈ j.tables, f a = g a)
    (hv : ∀ res, p.outcome = .ok (.fixed res) → ∀ a ∈ res.value.aliases, f a = g a) :
    p.Mirrors s f := by
  intro res l ho hl
  rw [Expr.rename_congr (hv res ho), List.map_congr_left fun j hm => Join.rename_congr (hj j hm)]
  exact h res l ho hl

theorem mirrors_of_ends {r : Route} {rest : List String} {p : Plan} (h : Ends s r rest p) :
    p.Mirrors s r.root.toListing := by
  have hroot := r.root.carries_toListing
  have hlast : Carries r.root.toListing r.lastAlias r.listAlias :=
    Link.carries_aliasAfter hroot r.links
  have hjoins : r.listJoins = r.joins.map (Join.rename r.root.toListing) := by
    rw [Route.listJoins, Route.joins, List.map_append, ← Root.joinsAt_rename hroot.eq,
      ← Link.joinsAlong_rename hroot]
  intro res l ho hl
  cases h with
  | fails => cases ho
  | nothing => cases ho; cases hl
  | @reads f how visibleIn =>
    cases ho
    simp only [Reading.resolution, finish] at hl
    split at hl
    · cases hl
      rw [how.value_rename hlast, how.joins_rename hlast, hjoins, ← List.map_append]
      rfl
    · cases hl

theorem mirrors_below (s : Scope) (path : String) (root : Root) (segments : List String) :
    (below s path root segments).Mirrors s root.toListing := by
  obtain ⟨r, rest, hr, -, he⟩ := ends_below s path root segments
  have hm := mirrors_of_ends he
  rwa [hr.root_eq] at hm

theorem mirrors_submittedItems (request : Request) (key : String) (f : Field) :
    (submittedItems s request key f).Mirrors s Root.listed := by
  intro res l ho hl
  cases ho
  simp only at hl
  split at hl
  · exact (Option.some.inj hl).symm
  · cases hl

theorem isPrefix_of_mem_tables {root : Root} {segments : List String} {j : Join} {a : String}
    (hj : j ∈ (below s path root segments).joins) (ha : a ∈ j.tables) :
    root.firstAlias.toList <+: a.toList := by
  obtain ⟨r, rest, hr, -, he⟩ := ends_below s path root segments
  generalize below s path root segments = p at hj he
  have grown (how : Reading) (f : Field) (hj : j ∈ r.joins ++ how.joins f r.lastAlias) :
      r.root.firstAlias.toList <+: a.toList := by
    rcases List.mem_append.1 hj with hj | hj
    · rcases List.mem_append.1 hj with hj | hj
      · simp [Root.eq_of_mem_tables hj ha]
      · exact Link.isPrefix_of_mem_tables hj ha
    · exact (Link.isPrefix_aliasAfter _ r.links).trans (Reading.isPrefix_of_mem_tables hj ha)
  rw [← hr.root_eq]
  cases he with
  | fails | nothing => exact grown .count default hj
  | @reads f how => exact grown how f hj

theorem lastAlias_mem {r : Route} (hb : ∀ c, r.root ≠ .base c) :
    r.lastAlias ∈ r.joins.map Join.name := by
  have hl : r.lastAlias ∈ [r.root.firstAlias] ++ r.joins.map Join.name :=
    (inScope_joins fun c hc => absurd hc (hb c)).2
  rcases List.mem_append.1 hl with hl | hl
  · rw [List.mem_singleton.1 hl, Route.joins, List.map_append]
    exact List.mem_append_left _ (r.root.firstAlias_mem.resolve_left (not_exists.2 hb))
  · exact hl

/-- What a path below such a root resolves to has the aliases of its joins. -/
theorem exists_mem_tables {root : Root} {segments : List String} {res : Resolution} {a : String}
    (hb : ∀ c, root ≠ .base c)
    (ho : (below s path root segments).outcome = .ok (.fixed res)) (ha : a ∈ res.value.aliases) :
    ∃ j ∈ (below s path root segments).joins, a ∈ j.tables := by
  obtain ⟨r, rest, hr, -, he⟩ := ends_below s path root segments
  generalize below s path root segments = p at ho he
  rw [← hr.root_eq] at hb
  cases he with
  | fails => cases ho
  | nothing => cases ho; cases ha
  | @reads f how =>
    cases ho
    have hname : a ∈ (r.joins ++ how.joins f r.lastAlias).map Join.name := by
      rw [List.map_append]
      rcases Reading.aliases_value ha with rfl | ha
      · exact List.mem_append_left _ (lastAlias_mem hb)
      · exact List.mem_append_right _ ha
    obtain ⟨j, hj, rfl⟩ := List.mem_map.1 hname
    exact ⟨j, hj, List.mem_cons_self⟩

/-- An alias of the base that does not start with two underscores clashes with no other. -/
theorem not_clashesAt (h : ¬ IsReserved (Sql.wordPart s.base.name)) : ¬ ClashesAt s path := by
  rintro ⟨⟨target, key, ids, multiple, rest, hstart⟩, j, hj, ha⟩
  rw [ofPath_of_starts hstart] at hj
  rcases Root.isReserved_firstAlias (.submitted target key ids multiple) with ⟨c, hc⟩ | hr
  · cases hc
  · exact h (List.IsPrefix.trans hr (isPrefix_of_mem_tables hj ha))

end Plan

/-! ## Listings of paths -/

namespace Resolver

open Plan (SubmittedAt ClashesAt)

variable {r : Resolver} {path : String} {res : Resolution} {l : Sql.Listing}

/-- Where a path resolves, its plan was carried out: the joins that it needs are registered, as
they are written. -/
theorem registered_of_resolve (h : (r.resolve path).1 = .ok res) :
    ∀ j ∈ (Plan.ofPath r.scope path).joins,
      ∃ k ∈ (r.resolve path).2.joins, k.alike j = true := by
  have found {joins : Sql.Joins}
      (hj : r.joins.registerAll (Plan.ofPath r.scope path).joins = .ok joins) :
      ∀ j ∈ (Plan.ofPath r.scope path).joins, ∃ k ∈ joins, k.alike j = true := by
    intro j hm
    obtain ⟨k, hk, ha⟩ := Sql.Joins.alike_of_registerAll hj hm
    exact ⟨k, List.mem_of_find?_eq_some hk, ha⟩
  rcases resolve_outcomes r path with ⟨e, ps, he, -⟩ | ⟨joins, res', hj, -, he⟩ |
    ⟨joins, v, lower, hj, -, he⟩
  · rw [he] at h; cases h
  · rw [he]; exact found hj
  · rw [he]; exact found hj

theorem outcome_of_listing (h : (r.resolve path).1 = .ok res) (hl : res.listing = some l) :
    (Plan.ofPath r.scope path).outcome = .ok (.fixed res) := by
  rcases resolve_outcomes r path with ⟨e, ps, he, -⟩ | ⟨joins, res', -, ho, he⟩ |
    ⟨joins, v, lower, -, -, he⟩
  · rw [he] at h; cases h
  · rw [he] at h
    cases h
    exact ho
  · rw [he] at h
    cases h
    cases lower <;> cases hl

/-- A path that starts at no submitted records is listed under the plain renaming. -/
theorem mirrors_listed (hs : ¬ SubmittedAt r.scope path) :
    (Plan.ofPath r.scope path).Mirrors r.scope Root.listed := by
  by_cases hempty : "" ∈ Plan.segmentsOf path
  · rw [Plan.ofPath_of_emptySegment hempty]
    rintro _ _ ⟨⟩
  have hk := Plan.kind_ofPath r.scope path
  generalize Plan.ofPath r.scope path = p at hk
  cases hk with
  | fail | bound => rintro _ _ ⟨⟩
  | constant => rintro _ _ ⟨⟩ ⟨⟩
  | @below root rest h =>
    have hm := Plan.mirrors_below r.scope path root rest
    cases root with
    | base | anyOf | auth => exact hm
    | submitted target key ids multiple =>
      exact absurd ⟨target, key, ids, multiple, rest, hempty, h⟩ hs
  | items => exact Plan.mirrors_submittedItems _ _ _

/-- A listing has the joins that the path needs in the query, in order and one for one, under one
renaming that keeps names apart. It renames the alias of the base, those of the path in the way of
its root, and nothing else: parameters are shared. -/
theorem listing_mirrors (hc : ¬ ClashesAt r.scope path) (hr : (r.resolve path).1 = .ok res)
    (hl : res.listing = some l) :
    ∃ f : String → String, Function.Injective f ∧
      f (Sql.wordPart r.scope.base.name) = Root.listed (Sql.wordPart r.scope.base.name) ∧
      (∀ j ∈ (Plan.ofPath r.scope path).joins, ∀ a ∈ j.tables,
        (SubmittedAt r.scope path → f a = submittedListed a) ∧
          (¬ SubmittedAt r.scope path → f a = Root.listed a)) ∧
      l = Plan.listingOf r.scope (res.value.rename f)
        ((Plan.ofPath r.scope path).joins.map (Join.rename f)) ∧
      ∀ j ∈ (Plan.ofPath r.scope path).joins,
        ∃ k ∈ (r.resolve path).2.joins, k.alike j = true := by
  have ho := outcome_of_listing hr hl
  have hreg := registered_of_resolve hr
  by_cases hs : SubmittedAt r.scope path
  · obtain ⟨target, key, ids, multiple, rest, hstart⟩ := id hs
    have hp := Plan.ofPath_of_starts hstart
    -- on the aliases of the path the two renamings agree
    have hagree : ∀ j ∈ (Plan.ofPath r.scope path).joins, ∀ a ∈ j.tables,
        (Root.submitted target key ids multiple).toListingBeside
          (Sql.wordPart r.scope.base.name) a =
        (Root.submitted target key ids multiple).toListing a := by
      intro j hj a ha
      refine if_neg ?_
      rintro rfl
      exact hc ⟨hs, j, hj, ha⟩
    refine ⟨(Root.submitted target key ids multiple).toListingBeside _,
      Root.toListingBeside_injective _ _, if_pos rfl, ?_, ?_, hreg⟩
    · intro j hj a ha
      refine ⟨fun _ => ?_, fun h => absurd hs h⟩
      rw [hagree j hj a ha]
      rw [hp] at hj
      exact if_pos (Plan.isPrefix_of_mem_tables hj ha)
    · refine Plan.Mirrors.congr ?_ hagree (fun res' ho' a ha => ?_) res l ho hl
      · rw [hp]
        exact Plan.mirrors_below _ _ _ _
      · obtain ⟨j, hj, hm⟩ := Plan.exists_mem_tables (by rintro _ ⟨⟩) (hp ▸ ho') ha
        exact hagree j (hp ▸ hj) a hm
  · exact ⟨Root.listed, Root.listed_injective, rfl, fun j _ a _ => ⟨fun h => absurd h hs,
      fun _ => rfl⟩, mirrors_listed hs res l ho hl, hreg⟩

/-! ### A base with the alias of submitted records -/

def referring (base : String) : Definitions :=
  { collections :=
      [{ name := base, fields :=
          [{ name := "rel", type := .relation, collection := some "users", multiple := true }] },
        { name := "users", fields := [{ name := "name", type := .text }] }] }

def submitting (base : String) : Resolver :=
  let catalog := (referring base).toCatalog.toOption.getD default
  { scope :=
      { catalog
        base := (catalog.find? base).getD default
        request := some { body := [("rel", .plain (.text "r1"))] } } }

set_option maxRecDepth 4000 in
theorem listing_mirrors_users :
    (referring "posts").toCatalog = .ok (submitting "posts").scope.catalog ∧
      ∃ res l, ((submitting "posts").resolve "@request.body.rel.name").1 = .ok res ∧
        res.listing = some l ∧ l.joins.map Join.name = ["__data_mm_users_rel"] ∧
        ∃ f : String → String, Function.Injective f ∧
          l = Plan.listingOf (submitting "posts").scope (res.value.rename f)
            ((Plan.ofPath (submitting "posts").scope "@request.body.rel.name").joins.map
              (Join.rename f)) := by
  obtain ⟨res, l, hr, hl, hj⟩ : ∃ res l,
      ((submitting "posts").resolve "@request.body.rel.name").1 = .ok res ∧
        res.listing = some l ∧ l.joins.map Join.name = ["__data_mm_users_rel"] :=
    ⟨_, _, rfl, rfl, rfl⟩
  have hn : ¬ IsReserved (Sql.wordPart (submitting "posts").scope.base.name) := by decide
  obtain ⟨f, hf, -, -, hm, -⟩ := listing_mirrors (Plan.not_clashesAt hn) hr hl
  exact ⟨rfl, res, l, hr, hl, hj, f, hf, hm⟩

set_option maxRecDepth 4000 in
/-- The alias leaves out what is not ASCII, so this base shares its alias with the submitted users,
and the two have different aliases in the listing. -/
theorem listing_two_forms :
    (referring "é__data_users_rel").toCatalog =
        .ok (submitting "é__data_users_rel").scope.catalog ∧
      (submitting "é__data_users_rel").scope.base.name = "é__data_users_rel" ∧
      Sql.wordPart "é__data_users_rel" = "__data_users_rel" ∧
      ∃ res l, ((submitting "é__data_users_rel").resolve "@request.body.rel.name").1 = .ok res ∧
        res.listing = some l ∧
        ¬ ∃ f : String → String, f "__data_users_rel" = Root.listed "__data_users_rel" ∧
          l.joins = (Plan.ofPath (submitting "é__data_users_rel").scope
            "@request.body.rel.name").joins.map (Join.rename f) := by
  refine ⟨rfl, rfl, rfl, _, _, rfl, rfl, ?_⟩
  rintro ⟨f, hb, hj⟩
  have hn : ["__data_mm_users_rel"] = [f "__data_users_rel"] := congrArg (List.map Join.name) hj
  rw [hb] at hn
  exact absurd hn (by decide)

end Resolver

end RecordFilter
