import RecordFilter.Catalog.Definition
import RecordFilter.Proofs.Reachable

/-!
# Aliases in scope

A join may refer to the base table, to itself and to the joins before it. The joins of every plan
keep to that (`Plan.inScope_ofPath`), and so do registered joins, whatever was resolved, shared or
dropped before: `Resolver.aliases_in_scope`. What a path has resolved to stays in scope as well.
-/

namespace RecordFilter

open Sql (Expr Join Joins)

/-! ## Joins in scope -/

namespace Sql

/-- A join reads aliases that are known; its condition may also read its own. -/
def Join.ReadsFrom (known : List String) (j : Join) : Prop :=
  (∀ a ∈ j.source.aliases, a ∈ known) ∧ ∀ a ∈ j.on.aliases, a = j.name ∨ a ∈ known

namespace Joins

/-- Every join reads known aliases, its own and those of the joins before it. -/
def InScope : List String → Joins → Prop
  | _, [] => True
  | known, j :: js => j.ReadsFrom known ∧ InScope (known ++ [j.name]) js

variable {known more : List String} {js ks : Joins} {new : List Join} {j : Join}

theorem readsFrom_mono (hk : known ⊆ more) (h : j.ReadsFrom known) : j.ReadsFrom more :=
  ⟨fun a ha => hk (h.1 a ha), fun a ha => (h.2 a ha).imp_right fun ha => hk ha⟩

theorem inScope_append :
    InScope known (js ++ ks) ↔ InScope known js ∧ InScope (known ++ js.map Join.name) ks := by
  induction js generalizing known with
  | nil => simp [InScope]
  | cons j js ih => simp [InScope, ih, and_assoc]

/-! ### Registering -/

theorem name_mem_of_register {isNew : Bool} (h : js.register j = .ok (isNew, ks)) :
    j.name ∈ ks.map Join.name := by
  obtain ⟨k, hk, -⟩ := alike_of_register h
  rw [← name_of_named? hk]
  exact List.mem_map_of_mem (List.mem_of_find?_eq_some hk)

theorem name_mem_of_registerAll (h : js.registerAll new = .ok ks) (hj : j ∈ new) :
    j.name ∈ ks.map Join.name := by
  obtain ⟨k, hk, -⟩ := alike_of_registerAll h hj
  rw [← name_of_named? hk]
  exact List.mem_map_of_mem (List.mem_of_find?_eq_some hk)

/-- Joins that read only what is registered, themselves and one another leave a registry in
scope. -/
theorem inScope_registerAll (hjs : InScope known js) (hnew : InScope more new)
    (hm : more ⊆ known ++ js.map Join.name) (h : js.registerAll new = .ok ks) :
    InScope known ks := by
  induction new generalizing js more with
  | nil => cases h; exact hjs
  | cons j new ih =>
    obtain ⟨isNew, mid, hr, h⟩ := registerAll_cons h
    obtain ⟨hj, hnew⟩ := hnew
    refine ih ?_ hnew ?_ h
    · rw [register_eq_ok hr]
      split
      · exact inScope_append.2 ⟨hjs, readsFrom_mono hm hj, trivial⟩
      · exact hjs
    · intro a ha
      rcases List.mem_append.1 ha with ha | ha
      · have hs := (prefix_register hr).map Join.name
        rcases List.mem_append.1 (hm ha) with hk | hk
        · exact List.mem_append_left _ hk
        · exact List.mem_append_right _ (hs.subset hk)
      · rw [List.mem_singleton] at ha
        exact List.mem_append_right _ (ha ▸ name_mem_of_register hr)

end Joins

end Sql

/-! ## The joins of routes -/

/-- A name that grows out of another one. -/
def Extends (parent name : String) : Prop := ∃ t, name = parent ++ "_" ++ t

theorem Extends.trans {a b c : String} (hb : Extends a b) (hc : Extends b c) : Extends a c := by
  obtain ⟨t, rfl⟩ := hb
  obtain ⟨u, rfl⟩ := hc
  exact ⟨t ++ "_" ++ u, by simp [String.append_assoc]⟩

theorem Extends.ne {a b : String} (h : Extends a b) : b ≠ a := by
  obtain ⟨t, rfl⟩ := h
  intro he
  have hl := congrArg String.length he
  have ho : "_".length = 1 := rfl
  simp only [String.length_append] at hl
  omega

/-- A name that starts like the aliases of roots other than the base. -/
def IsReserved (name : String) : Prop := "__".toList <+: name.toList

instance (name : String) : Decidable (IsReserved name) :=
  inferInstanceAs (Decidable ("__".toList <+: name.toList))

theorem IsReserved.append {a : String} (h : IsReserved a) (b : String) : IsReserved (a ++ b) := by
  unfold IsReserved
  rw [String.toList_append]
  exact List.IsPrefix.trans h (List.prefix_append _ _)

theorem Extends.isReserved {a b : String} (h : Extends a b) (ha : IsReserved a) : IsReserved b := by
  obtain ⟨t, rfl⟩ := h
  rw [String.append_assoc]
  exact ha.append _

theorem extends_fieldAlias (parent field : String) : Extends parent (fieldAlias parent field) :=
  ⟨_, rfl⟩

theorem extends_itemsAlias (parent field : String) :
    Extends parent (itemsAlias (fieldAlias parent field)) :=
  ⟨Sql.wordPart field ++ "_je", by simp [itemsAlias, fieldAlias, String.append_assoc]⟩

namespace Link

variable {known : List String} {parent : String}

theorem inScope_joins (hp : parent ∈ known) (l : Link) :
    Joins.InScope known (l.joins parent) := by
  cases l <;>
    simp [joins, Joins.InScope, Join.ReadsFrom, tableJoin, itemsJoin, idOf, itemOf,
      Sql.Source.aliases, Sql.On.aliases, Expr.aliases, Expr.columns, hp]

theorem aliasUnder_mem (parent : String) (l : Link) :
    l.aliasUnder parent ∈ (l.joins parent).map Join.name := by
  cases l <;> simp [joins, tableJoin, itemsJoin]

theorem extends_of_mem_joins {l : Link} {j : Join} (hj : j ∈ l.joins parent) :
    Extends parent j.name := by
  have ha : Extends parent (l.aliasUnder parent) := extends_fieldAlias parent _
  have hi : Extends parent (itemsAlias (l.aliasUnder parent)) := extends_itemsAlias parent _
  cases l <;> simp only [joins, List.mem_cons, List.not_mem_nil, or_false] at hj
  · rw [hj]; exact ha
  · rcases hj with hj | hj
    · rw [hj]; exact hi
    · rw [hj]; exact ha
  · rw [hj]; exact ha
  · rw [hj]; exact ha

theorem inScope_joinsAlong (hp : parent ∈ known) (links : List Link) :
    Joins.InScope known (joinsAlong parent links) ∧
      aliasAfter parent links ∈ known ++ (joinsAlong parent links).map Join.name := by
  induction links generalizing parent known with
  | nil => simp [joinsAlong, aliasAfter, Joins.InScope, hp]
  | cons l links ih =>
    have hl : l.aliasUnder parent ∈ known ++ (l.joins parent).map Join.name :=
      List.mem_append_right _ (aliasUnder_mem parent l)
    obtain ⟨hj, ha⟩ := ih hl
    refine ⟨Joins.inScope_append.2 ⟨inScope_joins hp l, hj⟩, ?_⟩
    rw [joinsAlong, List.map_append, ← List.append_assoc]
    exact ha

theorem aliasAfter_eq_or_extends (parent : String) (links : List Link) :
    aliasAfter parent links = parent ∨ Extends parent (aliasAfter parent links) := by
  induction links generalizing parent with
  | nil => exact .inl rfl
  | cons l links ih =>
    have hl : Extends parent (l.aliasUnder parent) := extends_fieldAlias parent _
    rcases ih (l.aliasUnder parent) with h | h
    · exact .inr (h ▸ hl)
    · exact .inr (hl.trans h)

theorem extends_of_mem_joinsAlong {links : List Link} {j : Join}
    (hj : j ∈ joinsAlong parent links) : Extends parent j.name := by
  induction links generalizing parent with
  | nil => cases hj
  | cons l links ih =>
    rcases List.mem_append.1 hj with hj | hj
    · exact extends_of_mem_joins hj
    · exact (extends_fieldAlias parent _).trans (ih hj)

end Link

namespace Root

theorem aliases_idAmong (id : Expr) (ps : List Expr) :
    (idAmong id ps).aliases = id.aliases ++ ps.flatMap Expr.aliases := by
  unfold idAmong
  split <;> simp [Sql.On.aliases]

theorem inScope_joinsAt (known : List String) (name : String) (r : Root) :
    Joins.InScope known (r.joinsAt name) := by
  cases r with
  | base => trivial
  | anyOf => simp [joinsAt, Joins.InScope, Join.ReadsFrom, tableJoin, Sql.Source.aliases,
      Sql.On.aliases]
  | auth => simp [joinsAt, Joins.InScope, Join.ReadsFrom, tableJoin, idOf, Sql.Source.aliases,
      Sql.On.aliases, Expr.aliases, Expr.columns]
  | submitted c key ids multiple =>
    refine ⟨⟨by simp [tableJoin, Sql.Source.aliases], ?_⟩, trivial⟩
    intro a ha
    left
    simp only [tableJoin, aliases_idAmong, List.mem_append, List.mem_flatMap] at ha
    rcases ha with ha | ⟨p, hp, ha⟩
    · simpa [idOf, tableJoin, Expr.aliases, Expr.columns] using ha
    · obtain ⟨i, hi, rfl⟩ := List.mem_mapIdx.1 hp
      cases ha

theorem name_of_mem_joinsAt {name : String} {r : Root} {j : Join} (hj : j ∈ r.joinsAt name) :
    j.name = name := by
  cases r <;> simp only [joinsAt, List.mem_singleton, List.not_mem_nil] at hj <;> rw [hj] <;> rfl

theorem firstAlias_mem (r : Root) :
    (∃ c, r = base c) ∨ r.firstAlias ∈ (r.joinsAt r.firstAlias).map Join.name := by
  cases r <;> simp [joinsAt, tableJoin]

theorem isReserved_firstAlias (r : Root) : (∃ c, r = base c) ∨ IsReserved r.firstAlias := by
  rcases r with c | ⟨c, _ | name⟩ | _ | _
  · exact .inl ⟨c, rfl⟩
  all_goals
    right
    unfold firstAlias
    simp only [String.append_assoc]
    exact IsReserved.append (by decide) _

theorem isReserved_itemsName (key : String) : IsReserved (itemsName key) := by
  unfold itemsName itemsAlias
  rw [String.append_assoc]
  exact IsReserved.append (by decide) _

end Root

namespace Plan

/-! ## Plans in scope -/

section Routes

variable {s : Scope} {r : Route} {base : String}

/-- The joins of a route are in scope, and it ends at an alias that is known then. -/
theorem inScope_joins (hb : ∀ c, r.root = .base c → Sql.wordPart c.name = base) :
    Joins.InScope [base] r.joins ∧ r.lastAlias ∈ [base] ++ r.joins.map Join.name := by
  have hroot : r.root.firstAlias ∈
      [base] ++ (r.root.joinsAt r.root.firstAlias).map Join.name := by
    rcases r.root.firstAlias_mem with ⟨c, hc⟩ | hm
    · rw [hc]
      exact List.mem_append_left _ (List.mem_singleton.2 (hb c hc))
    · exact List.mem_append_right _ hm
  obtain ⟨hl, ha⟩ := Link.inScope_joinsAlong hroot r.links
  refine ⟨Joins.inScope_append.2 ⟨Root.inScope_joinsAt _ _ _, hl⟩, ?_⟩
  rw [Route.joins, List.map_append, ← List.append_assoc]
  exact ha

theorem Reading.extends_of_mem_joins {table : String} {how : Reading} {f : Field} {j : Join}
    (hj : j ∈ how.joins f table) : Extends table j.name := by
  cases how <;> simp only [joins, eachItems, List.mem_singleton, List.not_mem_nil] at hj
  rw [hj]
  exact extends_itemsAlias table _

theorem name_of_mem_joins {how : Reading} {f : Field} {j : Join}
    (hj : j ∈ r.joins ++ how.joins f r.lastAlias) :
    (j ∈ r.root.joinsAt r.root.firstAlias ∧ j.name = r.root.firstAlias) ∨
      Extends r.root.firstAlias j.name := by
  rcases List.mem_append.1 hj with hj | hj
  · rcases List.mem_append.1 hj with hj | hj
    · exact .inl ⟨hj, Root.name_of_mem_joinsAt hj⟩
    · exact .inr (Link.extends_of_mem_joinsAlong hj)
  · have hx := Reading.extends_of_mem_joins hj
    rcases Link.aliasAfter_eq_or_extends r.root.firstAlias r.links with hl | hl
    · rw [Route.lastAlias, hl] at hx
      exact .inr hx
    · exact .inr (hl.trans hx)

/-- No join of a path has the alias of the base. -/
theorem base_notMem_joins (hb : ∀ c, r.root = .base c → Sql.wordPart c.name = base)
    (hn : ¬ IsReserved base) (how : Reading) (f : Field) :
    base ∉ (r.joins ++ how.joins f r.lastAlias).map Join.name := by
  intro hm
  obtain ⟨j, hj, rfl⟩ := List.mem_map.1 hm
  rcases r.root.isReserved_firstAlias with ⟨c, hc⟩ | hr
  · rcases name_of_mem_joins hj with ⟨hj, -⟩ | hx
    · rw [hc] at hj
      cases hj
    · rw [hc] at hx
      exact hx.ne (hb c hc).symm
  · rcases name_of_mem_joins hj with ⟨-, he⟩ | hx
    · exact hn (he ▸ hr)
    · exact hn (hx.isReserved hr)

theorem Reading.inScope_joins {known : List String} {table : String} (ht : table ∈ known)
    (how : Reading) (f : Field) : Joins.InScope known (how.joins f table) := by
  cases how <;>
    simp [joins, eachItems, itemsJoin, Joins.InScope, Join.ReadsFrom, Sql.Source.aliases,
      Sql.On.aliases, Expr.aliases, Expr.columns, ht]

theorem Reading.aliases_value {table a : String} {how : Reading} {f : Field}
    (ha : a ∈ (how.value f table).aliases) :
    a = table ∨ a ∈ (how.joins f table).map Join.name := by
  cases how with
  | column lower | document names lower =>
    left
    cases lower <;> simpa [value, lowered, Expr.aliases, Expr.columns] using ha
  | count => left; simpa [value, Expr.aliases, Expr.columns] using ha
  | items =>
    right
    simpa [value, joins, eachItems, itemsJoin, itemOf, Expr.aliases, Expr.columns] using ha

end Routes

/-- What a plan joins and resolves to refers to the base and to its own joins. -/
structure InScope (base : String) (p : Plan) : Prop where
  joins : Joins.InScope [base] p.joins
  names : ¬ IsReserved base → base ∉ p.joins.map Join.name
  value : ∀ res, p.outcome = .ok (.fixed res) →
    ∀ a, a ∈ res.value.aliases ∨ res.visibleIn = some a → a = base ∨ a ∈ p.joins.map Join.name

variable {s : Scope} {path : String} {segments rest : List String} {root : Root} {r : Route}
  {base : String}

theorem inScope_of_ends {p : Plan} (hb : ∀ c, r.root = .base c → Sql.wordPart c.name = base)
    (h : Ends s r rest p) : p.InScope base := by
  obtain ⟨hj, hl⟩ := inScope_joins hb
  have joins : Joins.InScope [base] (r.joins ++ []) := by simpa using hj
  have names (hn : ¬ IsReserved base) : base ∉ (r.joins ++ []).map Join.name :=
    base_notMem_joins hb hn .count default
  cases h with
  | fails e => exact ⟨joins, names, by simp [along]⟩
  | nothing =>
    refine ⟨joins, names, ?_⟩
    rintro _ ⟨⟩ a (ha | ha) <;> cases ha
  | @reads f how visibleIn hf hw hn hv =>
    have hlast : r.lastAlias = base ∨
        r.lastAlias ∈ (r.joins ++ how.joins f r.lastAlias).map Join.name := by
      rw [List.map_append]
      rcases List.mem_append.1 hl with hl | hl
      · exact .inl (List.mem_singleton.1 hl)
      · exact .inr (List.mem_append_left _ hl)
    refine ⟨Joins.inScope_append.2 ⟨hj, how.inScope_joins hl f⟩,
      fun hn => base_notMem_joins hb hn how f, ?_⟩
    rintro _ ⟨⟩ a (ha | ha)
    · rcases Reading.aliases_value ha with rfl | ha
      · exact hlast
      · refine .inr ?_
        rw [along, List.map_append]
        exact List.mem_append_right _ ha
    · obtain rfl := eq_lastAlias_of_visibleIn hv ha
      exact hlast

theorem inScope_submittedItems (base : String) (request : Request) (key : String) (f : Field) :
    (submittedItems s request key f).InScope base where
  joins := by
    simp [submittedItems, itemsJoin, Joins.InScope, Join.ReadsFrom, Sql.Source.aliases,
      Sql.On.aliases, Expr.aliases, Expr.columns]
  names := by
    intro hn hm
    have hr := Root.isReserved_itemsName key
    obtain rfl : base = Root.itemsName key := by
      simpa [submittedItems, itemsJoin, Root.itemsName] using hm
    exact hn hr
  value := by
    rintro _ ⟨⟩ a (ha | ha)
    · right
      simpa [submittedItems, itemsJoin, itemOf, Expr.aliases, Expr.columns] using ha
    · cases ha

/-- Every path has a plan in scope. -/
theorem inScope_ofPath (s : Scope) (path : String) :
    (ofPath s path).InScope (Sql.wordPart s.base.name) := by
  have hk := kind_ofPath s path
  generalize ofPath s path = p at hk
  generalize segmentsOf path = segments at hk
  cases hk with
  | fail => exact ⟨trivial, by simp [fail], by rintro _ ⟨⟩⟩
  | constant hv =>
    refine ⟨trivial, by simp [direct], ?_⟩
    rintro _ ⟨⟩ a (ha | ha)
    · cases hv <;> cases ha
    · cases ha
  | bound => exact ⟨trivial, by simp [direct], by rintro _ ⟨⟩⟩
  | @below root rest h =>
    obtain ⟨r, rest', hr, -, he⟩ := ends_below s path root rest
    refine inScope_of_ends ?_ he
    intro c hc
    rw [hr.root_eq] at hc
    subst hc
    cases h
    rfl
  | items => exact inScope_submittedItems _ _ _ _

end Plan

/-! ## Registered joins -/

namespace Resolver

/-- The registered joins have aliases of their own and are in scope. -/
structure InScope (s : Scope) (r : Resolver) : Prop where
  scope : r.scope = s
  nodup : (r.joins.map Join.name).Nodup
  base : ¬ IsReserved (Sql.wordPart s.base.name) →
    Sql.wordPart s.base.name ∉ r.joins.map Join.name
  joins : Joins.InScope [Sql.wordPart s.base.name] r.joins

variable {s : Scope} {allowed : AllowedPaths} {r r' : Resolver}

theorem InScope.fresh (s : Scope) (allowed : AllowedPaths) :
    InScope s { scope := s, allowed := allowed } :=
  ⟨rfl, List.nodup_nil, fun _ => List.not_mem_nil, trivial⟩

theorem InScope.registerAll (h : InScope s r) {p : Plan}
    (hp : p.InScope (Sql.wordPart s.base.name)) {joins : Joins} {params : Sql.Params}
    (hj : r.joins.registerAll p.joins = .ok joins) :
    InScope s { r with joins := joins, params := params } where
  scope := h.scope
  nodup := Joins.nodup_registerAll h.nodup hj
  base := by
    intro hn hm
    obtain ⟨j, hm, he⟩ := List.mem_map.1 hm
    rcases Joins.mem_of_registerAll hj hm with hm | hm
    · exact h.base hn (he ▸ List.mem_map_of_mem hm)
    · exact hp.names hn (he ▸ List.mem_map_of_mem hm)
  joins := Joins.inScope_registerAll h.joins hp.joins (List.subset_append_left _ _) hj

theorem InScope.step (h : InScope s r) (hs : Step r r') : InScope s r' := by
  obtain rfl := h.scope
  cases hs with
  | path path =>
    have hp := Plan.inScope_ofPath r.scope path
    rcases resolve_outcomes r path with
      ⟨e, ps, hr, -⟩ | ⟨joins, res, hj, -, hr⟩ | ⟨joins, v, lower, hj, -, hr⟩
    · rw [hr]; exact ⟨h.scope, h.nodup, h.base, h.joins⟩
    · rw [hr]; exact h.registerAll hp hj
    · rw [hr]; exact h.registerAll hp hj
  | literal => exact ⟨h.scope, h.nodup, h.base, h.joins⟩
  | pattern => exact ⟨h.scope, h.nodup, h.base, h.joins⟩

theorem InScope.steps (h : InScope s r) (hs : Steps r r') : InScope s r' := by
  induction hs with
  | refl => exact h
  | tail _ hs ih => exact ih.step hs

theorem prefix_joins_steps (hs : Steps r r') : r.joins <+: r'.joins := by
  induction hs with
  | refl => exact List.prefix_rfl
  | @tail r₁ r₂ _ hs ih =>
    refine ih.trans ?_
    cases hs with
    | path path =>
      rcases resolve_outcomes r₁ path with
        ⟨e, ps, hr, -⟩ | ⟨joins, res, hj, -, hr⟩ | ⟨joins, v, lower, hj, -, hr⟩
      · simp [hr]
      · rw [hr]; exact Joins.prefix_registerAll hj
      · rw [hr]; exact Joins.prefix_registerAll hj
    | literal | pattern => exact List.prefix_rfl

/-- What a path resolves to refers to the base or to a join that is registered then. -/
theorem alias_of_resolve (h : InScope s r) {path : String} {res : Resolution}
    (hr : (r.resolve path).1 = .ok res) {a : String}
    (ha : a ∈ res.value.aliases ∨ res.visibleIn = some a) :
    a = Sql.wordPart s.base.name ∨ a ∈ (r.resolve path).2.joins.map Join.name := by
  obtain rfl := h.scope
  have hp := Plan.inScope_ofPath r.scope path
  rcases resolve_outcomes r path with
    ⟨e, ps, he, -⟩ | ⟨joins, res', hj, ho, he⟩ | ⟨joins, v, lower, -, -, he⟩
  · rw [he] at hr; cases hr
  · rw [he] at hr ⊢
    cases hr
    refine (hp.value _ ho a ha).imp_right fun hm => ?_
    obtain ⟨j, hmem, rfl⟩ := List.mem_map.1 hm
    exact Joins.name_mem_of_registerAll hj hmem
  · rw [he] at hr
    cases hr
    cases lower <;> rcases ha with ha | ha <;> cases ha

theorem wordPart_eq_self {name : String}
    (h : ∀ c ∈ name.toList, c.isAlphanum = true ∨ c = '_') : Sql.wordPart name = name := by
  unfold Sql.wordPart
  rw [List.filter_eq_self.2 (by simpa using h), String.ofList_toList]

/-- Whatever was resolved and built, with success or not: no two joins have one alias, none has the
name of the base, every join reads the base, itself and joins before it, and what paths resolved to
on the way, inside of filters too, refers to the base or to a join that is registered. -/
theorem aliases_in_scope (hn : ∀ c ∈ s.base.name.toList, c.isAlphanum = true ∨ c = '_')
    (hu : ¬ "__".toList <+: s.base.name.toList) (hr : Reachable s allowed r) :
    (r.joins.map Join.name).Nodup ∧
      s.base.name ∉ r.joins.map Join.name ∧
      Joins.InScope [s.base.name] r.joins ∧
      ∀ r₁ path res, Steps { scope := s, allowed := allowed } r₁ →
        (r₁.resolve path).1 = .ok res → Steps (r₁.resolve path).2 r →
        ∀ a, a ∈ res.value.aliases ∨ res.visibleIn = some a →
          a = s.base.name ∨ a ∈ r.joins.map Join.name := by
  have hs := (InScope.fresh s allowed).steps hr.steps
  have hw := wordPart_eq_self hn
  refine ⟨hs.nodup, hw ▸ hs.base (by rw [hw]; exact hu), hw ▸ hs.joins, ?_⟩
  intro r₁ path res h₁ hres h₂ a ha
  have hs₁ := (InScope.fresh s allowed).steps h₁
  rw [← hw]
  refine (alias_of_resolve hs₁ hres ha).imp_right fun hm => ?_
  exact ((prefix_joins_steps h₂).map Join.name).subset hm

def authored : Definitions :=
  { collections :=
      [{ name := "posts", fields :=
          [{ name := "author", type := .relation, collection := some "users" }] },
        { name := "users", kind := .auth }] }

def authoredCatalog : Catalog := authored.toCatalog.toOption.getD default

def authoredScope : Scope :=
  { catalog := authoredCatalog, base := (authoredCatalog.find? "posts").getD default }

set_option maxRecDepth 4000 in
/-- The email of an author must be shown by the joined author. -/
theorem aliases_in_scope_email :
    authored.toCatalog = .ok authoredCatalog ∧
      ((resolve { scope := authoredScope } "author.email").1.map Resolution.visibleIn) =
        .ok (some "posts_author") ∧
      ("posts_author" = authoredScope.base.name ∨
        "posts_author" ∈
          (resolve { scope := authoredScope } "author.email").2.joins.map Join.name) := by
  refine ⟨rfl, rfl, ?_⟩
  have hr : Reachable authoredScope .wellFormed
      (resolve { scope := authoredScope } "author.email").2 := .resolve .fresh _
  have hn : ∀ c ∈ authoredScope.base.name.toList, c.isAlphanum = true ∨ c = '_' := by
    have h : authoredScope.base.name.toList.all (fun c => c.isAlphanum || c == '_') = true := by
      decide
    simpa using h
  exact (aliases_in_scope hn (by decide) hr).2.2.2 _ "author.email" _ .refl rfl .refl _ (.inr rfl)

end Resolver

end RecordFilter
