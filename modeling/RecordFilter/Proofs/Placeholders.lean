import RecordFilter.Proofs.Names
import RecordFilter.Proofs.Query

/-!
# Placeholders of filters

Joins and conditions mark the parameters that they read, and the parameters stay bound while the
joins stay registered. So whatever filters were added to a query or failed on the way, the query
has a form with numbered placeholders after each filter that is added, and the value of every
placeholder is the one that the resolver has (`Filter.apply_positional`).
-/

namespace RecordFilter

open Text (IsWordy isName)
open Sql (Expr Join Joins Params Select Condition Test Guard Spelled)

/-! ## Joins of routes -/

section Aliases

variable {known : List String} {name parent : String}

theorem isWordy_fieldAlias (h : IsWordy parent) (field : String) :
    IsWordy (fieldAlias parent field) := by
  simp only [fieldAlias, Text.isWordy_append]
  exact ⟨⟨h, by decide⟩, Text.isWordy_wordPart field⟩

theorem isWordy_itemsAlias (h : IsWordy name) : IsWordy (itemsAlias name) := by
  simp only [itemsAlias, Text.isWordy_append]
  exact ⟨h, by decide⟩

theorem isSpelled_column {field : String} (h : IsWordy name) (hf : IsWordy field) :
    (Expr.column name field).IsSpelled known := ⟨h, hf⟩

theorem isSpelled_idOf (h : IsWordy name) : (idOf name).IsSpelled known :=
  isSpelled_column h (by decide)

theorem isSpelled_itemOf (h : IsWordy name) : (itemOf name).IsSpelled known :=
  isSpelled_column h (by decide)

theorem isSpelled_itemsJoin {array : Expr} (ha : array.IsSpelled known) (h : IsWordy name) :
    (itemsJoin array name).IsSpelled known := ⟨ha, h, trivial⟩

end Aliases

namespace Link

variable {known : List String} {parent : String} {l : Link}

theorem isSpelled_joins (hl : l.IsWellNamed) (hp : IsWordy parent) :
    ∀ j ∈ l.joins parent, j.IsSpelled known := by
  have ha : IsWordy (l.aliasUnder parent) := isWordy_fieldAlias hp _
  have hi : IsWordy (itemsAlias (l.aliasUnder parent)) := isWordy_itemsAlias ha
  intro j hj
  cases l <;> simp only [joins, List.mem_cons, List.not_mem_nil, or_false] at hj
  · rw [hj]
    exact ⟨hl.1.name, ha, isSpelled_idOf ha, isSpelled_column hp hl.2⟩
  · rcases hj with rfl | rfl
    · exact isSpelled_itemsJoin (isSpelled_column hp hl.2) hi
    · exact ⟨hl.1.name, ha, isSpelled_idOf ha, isSpelled_itemOf hi⟩
  · rw [hj]
    exact ⟨hl.1.name, ha, isSpelled_column ha hl.2, isSpelled_idOf hp⟩
  · rw [hj]
    exact ⟨hl.1.name, ha, isSpelled_idOf hp, hi, isSpelled_column ha hl.2⟩

theorem isSpelled_joinsAlong {links : List Link} (hl : ∀ l ∈ links, l.IsWellNamed)
    (hp : IsWordy parent) : ∀ j ∈ joinsAlong parent links, j.IsSpelled known := by
  induction links generalizing parent with
  | nil => rintro _ ⟨⟩
  | cons l links ih =>
    rw [List.forall_mem_cons] at hl
    intro j hj
    rcases List.mem_append.1 hj with hj | hj
    · exact isSpelled_joins hl.1 hp j hj
    · exact ih hl.2 (isWordy_fieldAlias hp _) j hj

theorem isWordy_aliasAfter (links : List Link) (hp : IsWordy parent) :
    IsWordy (aliasAfter parent links) := by
  induction links generalizing parent with
  | nil => exact hp
  | cons l links ih => exact ih (isWordy_fieldAlias hp _)

end Link

namespace Root

theorem isWordy_listed {name : String} (h : IsWordy name) : IsWordy (listed name) := by
  simp only [listed, Text.isWordy_append]
  exact ⟨by decide, h⟩

theorem isWordy_firstAlias (r : Root) : IsWordy r.firstAlias := by
  have hw := Text.isWordy_wordPart
  have ha {a b : String} (h : IsWordy a) : IsWordy (a ++ Sql.wordPart b) :=
    Text.isWordy_append.2 ⟨h, hw b⟩
  unfold firstAlias
  rcases r with c | ⟨c, _ | name⟩ | c | ⟨c, key⟩
  · exact hw c.name
  · exact ha (by decide)
  · exact ha (by decide)
  · exact ha (by decide)
  · exact ha (Text.isWordy_append.2 ⟨ha (by decide), by decide⟩)

theorem isWordy_listAlias (r : Root) : IsWordy r.listAlias := by
  cases r with
  | base | anyOf | auth => exact isWordy_listed (isWordy_firstAlias _)
  | submitted =>
    unfold listAlias
    simp only [Text.isWordy_append]
    exact ⟨⟨⟨by decide, Text.isWordy_wordPart _⟩, by decide⟩, Text.isWordy_wordPart _⟩

theorem isWordy_itemsName (key : String) : IsWordy (itemsName key) := by
  refine isWordy_itemsAlias ?_
  simp only [Text.isWordy_append]
  exact ⟨by decide, Text.isWordy_wordPart key⟩

theorem isName_authParam {name : String} (h : IsWordy name) :
    isName (authParam name).toList = true := Text.isName_append h (by decide)

theorem isName_submittedParam {name : String} (h : IsWordy name) (i : Nat) :
    isName (submittedParam name i).toList = true := by
  refine Text.isName_append (by simp only [Text.isWordy_append]; exact ⟨h, by decide⟩) ?_
  rw [Text.isName_iff]
  exact ⟨by simp [Nat.toDigits_ne_nil], Text.isWordy_toDigits i⟩

/-- The join of a root reads parameters that the root binds. -/
theorem isSpelled_joinsAt {name : String} {r : Root} (hn : IsWordy name)
    (hc : r.collection.IsWellNamed) :
    ∀ j ∈ r.joinsAt name, j.IsSpelled (r.bindings.map Prod.fst) := by
  intro j hj
  cases r with
  | base => cases hj
  | anyOf => exact List.mem_singleton.1 hj ▸ ⟨hc.name, hn, trivial⟩
  | auth c id =>
    have hp := isName_authParam (isWordy_firstAlias (auth c id))
    exact List.mem_singleton.1 hj ▸
      ⟨hc.name, hn, isSpelled_idOf hn, hp, List.mem_singleton.2 rfl⟩
  | submitted c key ids multiple =>
    rw [List.mem_singleton.1 hj]
    refine ⟨hc.name, hn, ?_⟩
    have hps : ∀ e ∈ ids.mapIdx fun i _ =>
        Expr.param (submittedParam (submitted c key ids multiple).firstAlias i),
        e.IsSpelled ((submitted c key ids multiple).bindings.map Prod.fst) := by
      intro e he
      obtain ⟨i, hi, rfl⟩ := List.mem_mapIdx.1 he
      refine ⟨isName_submittedParam (isWordy_firstAlias _) i, ?_⟩
      exact List.mem_map.2 ⟨_, List.mem_mapIdx.2 ⟨i, hi, rfl⟩, rfl⟩
    show (idAmong _ _).IsSpelled _
    unfold idAmong
    split
    · next p hp => exact ⟨isSpelled_idOf hn, hps p (hp ▸ List.mem_singleton.2 rfl)⟩
    · exact ⟨isSpelled_idOf hn, hps⟩

end Root

/-! ## Plans -/

/-- What a path resolves to reads known parameters. -/
structure Resolution.IsSpelled (known : List String) (res : Resolution) : Prop where
  value : Spelled known res.value.text
  listing : ∀ l, res.listing = some l → Spelled known l.text
  visibleIn : ∀ table, res.visibleIn = some table → IsWordy table

theorem Resolution.IsSpelled.mono {known more : List String} {res : Resolution}
    (h : res.IsSpelled known) (hk : known ⊆ more) : res.IsSpelled more :=
  ⟨h.value.mono hk, fun l hl => (h.listing l hl).mono hk, h.visibleIn⟩

theorem Resolution.isSpelled_value {known : List String} {e : Expr} (h : e.IsSpelled known)
    (params : List String) : Resolution.IsSpelled known { value := e, params } :=
  ⟨Expr.spelled_text h, by rintro _ ⟨⟩, by rintro _ ⟨⟩⟩

namespace Plan

/-- The joins of a plan and what it resolves to read parameters that it binds. -/
structure IsSpelled (p : Plan) : Prop where
  joins : ∀ j ∈ p.joins, j.IsSpelled (p.bindings.map Prod.fst)
  resolution : ∀ res, p.outcome = .ok (.fixed res) → res.IsSpelled (p.bindings.map Prod.fst)

variable {s : Scope} {path : String} {r : Route} {f : Field} {known : List String}

theorem Reading.isSpelled_value {how : Reading} {table : String} (hf : IsWordy f.name)
    (hn : ∀ n ∈ how.names, Sql.IsPlain n) (ht : IsWordy table) :
    (how.value f table).IsSpelled known := by
  have hc : (Expr.column table f.name).IsSpelled known := isSpelled_column ht hf
  cases how with
  | column lower => cases lower <;> exact hc
  | document names lower =>
    have hd : (Expr.extract (.column table f.name) (jsonSteps names)).IsSpelled known :=
      ⟨hc, isPlain_jsonSteps hn⟩
    cases lower <;> exact hd
  | count => exact hc
  | items => exact isSpelled_itemOf (isWordy_itemsAlias (isWordy_fieldAlias ht _))

theorem Reading.isSpelled_joins {how : Reading} {table : String} (hf : IsWordy f.name)
    (ht : IsWordy table) : ∀ j ∈ how.joins f table, j.IsSpelled known := by
  intro j hj
  cases how with
  | column | document | count => cases hj
  | items =>
    exact List.mem_singleton.1 hj ▸
      isSpelled_itemsJoin (isSpelled_column ht hf) (isWordy_itemsAlias (isWordy_fieldAlias ht _))

theorem spelled_listingOf (hs : s.IsWellNamed) {value : Expr} {joins : List Join}
    (hv : value.IsSpelled known) (hj : ∀ j ∈ joins, j.IsSpelled known) :
    Spelled known (listingOf s value joins).text :=
  Sql.Listing.spelled_text (Expr.spelled_text hv) hs.base.name
    (Root.isWordy_listed (Text.isWordy_wordPart _)) (Text.isWordy_wordPart _)
    fun j hm => (hj j hm).sql

theorem isSpelled_of_isConstant {v : Expr} (h : IsConstant v) : v.IsSpelled known := by
  cases h <;> trivial

section Routes

variable (hroot : r.root.collection.IsWellNamed) (hl : ∀ l ∈ r.links, l.IsWellNamed)
include hroot hl

/-- The joins of a route, in the query or in a listing, read what its root binds. -/
theorem isSpelled_routeJoins {name : String} (hn : IsWordy name) :
    ∀ j ∈ r.root.joinsAt name ++ Link.joinsAlong name r.links,
      j.IsSpelled (r.root.bindings.map Prod.fst) := by
  intro j hj
  rcases List.mem_append.1 hj with hj | hj
  · exact Root.isSpelled_joinsAt hn hroot j hj
  · exact Link.isSpelled_joinsAlong hl hn j hj

theorem isSpelled_readingJoins (how : Reading) (hf : IsWordy f.name) {name : String}
    (hn : IsWordy name) :
    ∀ j ∈ r.root.joinsAt name ++ Link.joinsAlong name r.links ++
        how.joins f (Link.aliasAfter name r.links),
      j.IsSpelled (r.root.bindings.map Prod.fst) := by
  intro j hj
  rcases List.mem_append.1 hj with hj | hj
  · exact isSpelled_routeJoins hroot hl hn j hj
  · exact Reading.isSpelled_joins hf (Link.isWordy_aliasAfter _ hn) j hj

theorem Reading.isSpelled_resolution (hs : s.IsWellNamed) (how : Reading) (hf : IsWordy f.name)
    (hn : ∀ n ∈ how.names, Sql.IsPlain n) {visibleIn : Option String}
    (hv : visibleIn = none ∨ visibleIn = emailOwner s r f) :
    (how.resolution s r f visibleIn).IsSpelled (r.root.bindings.map Prod.fst) := by
  have hlast := Link.isWordy_aliasAfter r.links (Root.isWordy_firstAlias r.root)
  have hlist := Root.isWordy_listAlias r.root
  refine ⟨Expr.spelled_text (isSpelled_value hf hn hlast), ?_, ?_⟩
  · intro l hm
    simp only [resolution, finish] at hm
    split at hm
    · cases hm
      exact spelled_listingOf hs
        (isSpelled_value hf hn (Link.isWordy_aliasAfter r.links hlist))
        (isSpelled_readingJoins hroot hl how hf hlist)
    · cases hm
  · intro table ht
    exact eq_lastAlias_of_visibleIn hv ht ▸ hlast

theorem isSpelled_of_ends {rest : List String} {p : Plan} (hs : s.IsWellNamed)
    (hc : r.collection.IsWellNamed) (hr : ∀ n ∈ rest, Sql.IsPlain n) (h : Ends s r rest p) :
    p.IsSpelled := by
  have first := Root.isWordy_firstAlias r.root
  have joins : ∀ j ∈ r.joins ++ [], j.IsSpelled (r.root.bindings.map Prod.fst) := by
    rw [List.append_nil]
    exact isSpelled_routeJoins hroot hl first
  cases h with
  | fails e => exact ⟨joins, by rintro _ ⟨⟩⟩
  | nothing =>
    refine ⟨joins, ?_⟩
    rintro _ ⟨⟩
    exact Resolution.isSpelled_value (isSpelled_of_isConstant .null) []
  | reads how visibleIn hf hw hn hv =>
    have hfield := hc.fields _ (Collection.mem_of_field? hf)
    refine ⟨isSpelled_readingJoins hroot hl how hfield first, ?_⟩
    rintro _ ⟨⟩
    refine Reading.isSpelled_resolution hroot hl hs how hfield (fun n hm => ?_) hv
    obtain ⟨segment, hseg, hp⟩ := hn n hm
    exact fun hb => hr segment hseg (hp.subset hb)

end Routes

theorem isSpelled_submittedItems (hs : s.IsWellNamed) (request : Request) (key : String)
    (f : Field) : (submittedItems s request key f).IsSpelled := by
  have hw := Root.isWordy_itemsName key
  have hp : isName (itemsParam (Root.itemsName key)).toList = true :=
    Text.isName_append hw (by decide)
  have hparam : (Expr.param (itemsParam (Root.itemsName key))).IsSpelled
      [itemsParam (Root.itemsName key)] := ⟨hp, List.mem_singleton.2 rfl⟩
  refine ⟨?_, ?_⟩
  · intro j hj
    exact List.mem_singleton.1 hj ▸ isSpelled_itemsJoin hparam hw
  · rintro _ ⟨⟩
    refine ⟨Expr.spelled_text (isSpelled_itemOf hw), ?_, by rintro _ ⟨⟩⟩
    intro l hl
    simp only at hl
    split at hl
    · cases hl
      have hlisted := Root.isWordy_listed hw
      refine spelled_listingOf hs (isSpelled_itemOf hlisted) ?_
      intro j hj
      exact List.mem_singleton.1 hj ▸ isSpelled_itemsJoin hparam hlisted
    · cases hl

/-- The plan of a path without braces reads parameters that it binds. -/
theorem isSpelled_ofPath (hs : s.IsWellNamed) (hp : Sql.IsPlain path) :
    (ofPath s path).IsSpelled := by
  have hseg : ∀ n ∈ segmentsOf path, Sql.IsPlain n := fun n hn => isPlain_of_mem_segmentsOf hp hn
  have hk := kind_ofPath s path
  generalize ofPath s path = p at hk
  generalize segmentsOf path = segments at hk hseg
  cases hk with
  | fail | bound => exact ⟨by rintro _ ⟨⟩, by rintro _ ⟨⟩⟩
  | constant hv =>
    refine ⟨by rintro _ ⟨⟩, ?_⟩
    rintro _ ⟨⟩
    exact Resolution.isSpelled_value (isSpelled_of_isConstant hv) []
  | @below root rest h =>
    obtain ⟨r, rest', hr, hsuffix, he⟩ := ends_below s path root rest
    have hroot := isWellNamed_of_rootOf hs h
    obtain ⟨hc, hl⟩ := isWellNamed_walked hs hroot hr
    refine isSpelled_of_ends (by rwa [hr.root_eq]) hl hs hc ?_ he
    exact fun n hn => hseg n (h.suffix.subset (hsuffix.subset hn))
  | items => exact isSpelled_submittedItems hs _ _ _

end Plan

/-! ## Resolvers -/

namespace Resolver

variable {s : Scope} {r r' : Resolver} {path : String} {res : Resolution}

theorem isPlain_of_resolve (h : (r.resolve path).1 = .ok res) : Sql.IsPlain path := by
  rcases resolve_cases r path with ⟨⟨e, he⟩, -⟩ | ⟨hw, -, -⟩
  · rw [he] at h; cases h
  · exact Path.isPlain_of_isWellFormed hw

/-- The parameters of registered joins are bound. -/
structure IsSpelled (s : Scope) (r : Resolver) : Prop where
  scope : r.scope = s
  joins : ∀ j ∈ r.joins, Spelled r.params.names j.sql

theorem IsSpelled.registerAll (h : IsSpelled s r) {p : Plan} (hp : p.IsSpelled) {joins : Joins}
    {params : Params} (hj : r.joins.registerAll p.joins = .ok joins)
    (hn : (setAll r.params p.bindings).names ⊆ params.names) :
    IsSpelled s { r with joins := joins, params := params } where
  scope := h.scope
  joins := by
    intro j hm
    refine Sql.Spelled.mono hn ?_
    rcases Joins.mem_of_registerAll hj hm with hm | hm
    · exact (h.joins j hm).mono (subset_names_setAll _ _)
    · exact (hp.joins j hm).sql.mono fun k hk => mem_names_setAll _ hk

theorem IsSpelled.step (hs : s.IsWellNamed) (h : IsSpelled s r) (hst : Step r r') :
    IsSpelled s r' := by
  obtain rfl := h.scope
  have hn := names_step hst
  cases hst with
  | path path =>
    have hplain (res : Resolution) (he : (r.resolve path).1 = .ok res) :
        (Plan.ofPath r.scope path).IsSpelled :=
      Plan.isSpelled_ofPath hs (isPlain_of_resolve he)
    rcases resolve_outcomes r path with ⟨e, ps, hr, -⟩ | ⟨joins, res, hj, -, hr⟩ |
      ⟨joins, v, lower, hj, -, hr⟩
    · rw [hr] at hn ⊢
      exact ⟨rfl, fun j hj => (h.joins j hj).mono hn⟩
    · have hp := hplain _ (congrArg Prod.fst hr)
      rw [hr]
      exact h.registerAll hp hj (List.Subset.refl _)
    · have hp := hplain _ (congrArg Prod.fst hr)
      rw [hr]
      refine h.registerAll hp hj ?_
      rw [Params.names_bind]
      exact List.subset_append_left _ _
  | literal | pattern => exact ⟨rfl, fun j hj => (h.joins j hj).mono hn⟩

theorem IsSpelled.steps (hs : s.IsWellNamed) (h : IsSpelled s r) (hst : Steps r r') :
    IsSpelled s r' := by
  induction hst with
  | refl => exact h
  | tail _ hst ih => exact ih.step hs hst

theorem isName_generated (n : Nat) : isName (Params.generated n).toList = true := by
  rw [Text.isName_iff, Params.generated, String.toList_ofList, List.forall_mem_cons]
  exact ⟨by simp, by decide, fun c hc => Text.isWord_of_mem_toDigits hc⟩

theorem isSpelled_boundResolution {name : String} {known : List String}
    (hn : isName name.toList = true) (hk : name ∈ known) (lower : Bool) :
    (boundResolution name lower).IsSpelled known := by
  have hp : (Expr.param name).IsSpelled known := ⟨hn, hk⟩
  have hl : (Expr.lower (.param name)).IsSpelled known := hp
  cases lower
  · exact Resolution.isSpelled_value hp [name]
  · exact Resolution.isSpelled_value hl [name]

/-- What a path resolves to reads parameters that are bound then. -/
theorem isSpelled_of_resolve (hs : s.IsWellNamed) (h : IsSpelled s r)
    (hr : (r.resolve path).1 = .ok res) : res.IsSpelled (r.resolve path).2.params.names := by
  obtain rfl := h.scope
  have hp := Plan.isSpelled_ofPath hs (isPlain_of_resolve hr)
  rcases resolve_outcomes r path with ⟨e, ps, he, -⟩ | ⟨joins, res', -, ho, he⟩ |
    ⟨joins, v, lower, -, -, he⟩
  · rw [he] at hr; cases hr
  · rw [he] at hr ⊢
    cases hr
    exact (hp.resolution _ ho).mono fun k hk => mem_names_setAll _ hk
  · rw [he] at hr ⊢
    cases hr
    refine isSpelled_boundResolution (isName_generated _) ?_ lower
    show _ ∈ (Params.bind _ _).2.names
    rw [Params.names_bind]
    exact List.mem_append_right _ (List.mem_singleton.2 rfl)

end Resolver

/-! ## Conditions -/

section Comparisons

variable {known : List String} {left right : Resolution}

/-- A comparison compares the two values, either of them with NULL read as empty, or the empty
text. -/
theorem operands_comparisonTest (op : Operator) (left right : Resolution) (params : Params) :
    ∀ e ∈ (comparisonTest op left right params).operands,
      e ∈ [left.value, right.value, .emptyText, .coalesced left.value, .coalesced right.value] := by
  have shown (r : Resolution) (blank : Bool) :
      (if blank then Expr.emptyText else r.value) ∈ [r.value, .emptyText] := by
    cases blank <;> simp
  have equality (equal : Bool) : ∀ e ∈ (equalityTest equal left right params).operands,
      e ∈ [left.value, right.value, .emptyText, .coalesced left.value,
        .coalesced right.value] := by
    have hl := shown left (left.isBlank params)
    have hr := shown right (right.isBlank params)
    simp only [List.mem_cons, List.not_mem_nil, or_false] at hl hr
    unfold equalityTest
    simp only
    split
    · simp [Test.operands]
    · split
      · simp [Test.operands]
      · split
        · rintro e he
          simp only [Test.operands, List.mem_cons, List.not_mem_nil, or_false] at he
          rcases he with rfl | rfl
          · rcases hl with hl | hl <;> simp [hl]
          · rcases hr with hr | hr <;> simp [hr]
        · split
          · split <;> simp [Test.operands]
          · split
            · split <;> simp [Test.operands]
            · simp [Test.operands]
  have like (negated : Bool) : ∀ e ∈ (likeTest negated left right).operands,
      e ∈ [left.value, right.value, .emptyText, .coalesced left.value,
        .coalesced right.value] := by
    unfold likeTest
    split <;> simp [Test.operands]
  cases op with
  | equal | notEqual => exact equality _
  | like | notLike => exact like _
  | greater | greaterEqual | less | lessEqual => simp [comparisonTest, Test.operands]

/-- The test of a comparison has a property of texts if both values do. -/
theorem text_comparisonTest {P : String → Prop} (hP : Sql.IsTextual P) (hl : P left.value.text)
    (hr : P right.value.text) (op : Operator) (params : Params) :
    P (comparisonTest op left right params).text := by
  refine Test.text_of_operands hP fun e he => ?_
  have hm := operands_comparisonTest op left right params e he
  simp only [List.mem_cons, List.not_mem_nil, or_false] at hm
  rcases hm with rfl | rfl | rfl | rfl | rfl
  · exact hl
  · exact hr
  · exact hP.ordinary (by decide)
  · exact Expr.text_coalesced hP hl
  · exact Expr.text_coalesced hP hr

theorem spelled_comparisonTest (hl : left.IsSpelled known) (hr : right.IsSpelled known)
    (op : Operator) (params : Params) :
    Spelled known (comparisonTest op left right params).text :=
  text_comparisonTest (Sql.isTextual_spelled known) hl.value hr.value op params

theorem isWordy_numberedAlias {stem : String} (h : IsWordy stem) (n : Nat) :
    IsWordy (numberedAlias stem n) := Text.isWordy_append.2 ⟨h, Text.isWordy_toDigits n⟩

theorem isSpelled_listedValue {name : String} (h : IsWordy name) (isExact : Bool) :
    (listedValue name isExact).IsSpelled known :=
  ⟨Expr.spelled_text (isSpelled_column h (by decide)), by rintro _ ⟨⟩, by rintro _ ⟨⟩⟩

theorem isSpelled_beside (h : left.IsSpelled known) : left.beside.IsSpelled known :=
  ⟨h.value, by rintro _ ⟨⟩, by rintro _ ⟨⟩⟩

/-- The sides inside a guard are spelled, and the guard of a spelled test. -/
theorem spelled_guardOf (hl : left.IsSpelled known) (hr : right.IsSpelled known) {n : Nat}
    {insideLeft insideRight : Resolution} {guardWith : Test → Guard}
    (h : guardOf n left right = some (insideLeft, insideRight, guardWith)) :
    insideLeft.IsSpelled known ∧ insideRight.IsSpelled known ∧
      ∀ t : Test, Spelled known t.text → Spelled known (guardWith t).text := by
  have hml : IsWordy (numberedAlias "__ml" n) := isWordy_numberedAlias (by decide) n
  have hmr : IsWordy (numberedAlias "__mr" n) := isWordy_numberedAlias (by decide) n
  have hsm : IsWordy (numberedAlias "__sm" n) := isWordy_numberedAlias (by decide) n
  unfold guardOf at h
  simp only at h
  split at h <;> cases h
  · next l r hll hrl =>
    exact ⟨isSpelled_listedValue hml _, isSpelled_listedValue hmr _, fun t ht =>
      Guard.spelled_pairs (hl.listing l hll) hml (hr.listing r hrl) hmr ht⟩
  · next l hll hrl =>
    exact ⟨isSpelled_listedValue hsm _, isSpelled_beside hr, fun t ht =>
      Guard.spelled_one (hl.listing l hll) hsm ht⟩
  · next r hll hrl =>
    exact ⟨isSpelled_beside hl, isSpelled_listedValue hsm _, fun t ht =>
      Guard.spelled_one (hr.listing r hrl) hsm ht⟩

end Comparisons

namespace Builder

open Resolver (IsSpelled)

variable {s : Scope} {known : List String} {left right : Resolution}

theorem isSpelled_of_operand (hs : s.IsWellNamed) {b : Builder} (h : IsSpelled s b.resolver)
    {o : Operand} {res : Resolution} (ho : (b.operand o).1 = .ok res) :
    res.IsSpelled (b.operand o).2.resolver.params.names := by
  have literal (v : Json) : (b.literal v).1.IsSpelled (b.literal v).2.resolver.params.names := by
    refine Resolver.isSpelled_boundResolution (Resolver.isName_generated _) ?_ false
    show _ ∈ (Params.bind _ _).2.names
    rw [Params.names_bind]
    exact List.mem_append_right _ (List.mem_singleton.2 rfl)
  cases o with
  | field path =>
    have hr := @Resolver.isSpelled_of_resolve s b.resolver path res hs h
    unfold operand at ho ⊢
    simp only at ho ⊢
    split at ho
    · next res' r he =>
      cases ho
      rw [he] at hr
      exact hr rfl
    · cases ho
  | text t => cases ho; exact literal _
  | number x => cases ho; exact literal _
  | bool v => cases ho; exact Resolution.isSpelled_value (Plan.isSpelled_of_isConstant (.bool v)) []
  | null => cases ho; exact Resolution.isSpelled_value (Plan.isSpelled_of_isConstant .null) []

/-- Requiring records to show their email keeps a property of texts that their columns have. -/
theorem text_requireVisible {P : String → Prop} (hP : Sql.IsTextual P) {c : Condition}
    {tables : List (Option String)} (hc : P c.text)
    (ht : ∀ table, some table ∈ tables →
      P (Sql.quoteColumn table Sql.emailVisibilityColumn)) :
    P (requireVisible c tables).text := by
  induction tables generalizing c with
  | nil => exact hc
  | cons table tables ih =>
    have hrest : ∀ table, some table ∈ tables →
        P (Sql.quoteColumn table Sql.emailVisibilityColumn) :=
      fun t hm => ht t (List.mem_cons_of_mem _ hm)
    cases table with
    | none => exact ih hc hrest
    | some table => exact ih (Condition.text_visible hP hc (ht table List.mem_cons_self)) hrest

/-- The condition of spelled sides is spelled. -/
theorem spelled_comparison (b : Builder) (c : Comparator) (hl : left.IsSpelled known)
    (hr : right.IsSpelled known) : Spelled known (b.comparison left c right).1.text := by
  have ht := spelled_comparisonTest hl hr c.operator b.resolver.params
  unfold comparison
  simp only
  refine text_requireVisible (Sql.isTextual_spelled known) ?_ fun table hm => ?_
  · split
    · next insideLeft insideRight guardWith ha hg =>
      obtain ⟨hil, hir, hw⟩ := spelled_guardOf hl hr hg
      exact Condition.spelled_guarded ht (hw _ (spelled_comparisonTest hil hir _ _))
    · exact ht
  · refine Sql.spelled_quoteColumn ?_ (by decide)
    simp only [List.mem_cons, List.not_mem_nil, or_false] at hm
    rcases hm with hm | hm
    · exact hl.visibleIn table hm.symm
    · exact hr.visibleIn table hm.symm

theorem text_grouped {P : String → Prop} (hP : Sql.IsTextual P) {connective : Sql.Connective}
    {cs : List Condition} {c : Condition} (hcs : ∀ c ∈ cs, P c.text)
    (h : grouped connective cs = .ok c) : P c.text := by
  unfold grouped at h
  split at h
  · cases h
  · cases h; exact hcs c List.mem_cons_self
  · cases h; exact Condition.text_group hP hcs

mutual

/-- The condition of a filter reads parameters that are bound once it is built. -/
theorem spelled_build (hs : s.IsWellNamed) (b : Builder) (h : IsSpelled s b.resolver) :
    (f : Filter) → ∀ c, (b.build f).1 = .ok c →
      Spelled (b.build f).2.resolver.params.names c.text
  | .comparison left c right => by
    have hbl := h.steps hs (steps_operand b left).1
    have hl (res : Resolution) (ho : (b.operand left).1 = .ok res) := isSpelled_of_operand hs h ho
    unfold build
    split
    · rintro _ ⟨⟩
    · next l bl hol =>
      rw [hol] at hbl hl
      have hsr := (steps_operand bl right).1
      have hr (res : Resolution) (ho : (bl.operand right).1 = .ok res) :=
        isSpelled_of_operand hs hbl ho
      have hn := (steps_operand bl right).2
      split
      · rintro _ ⟨⟩
      · next r br hor =>
        rw [hor] at hsr hr hn
        rintro _ ⟨⟩
        have hc := spelled_comparison br c ((hl l rfl).mono (Resolver.names_steps hsr)) (hr r rfl)
        exact hc.mono (Resolver.names_steps (steps_comparison br l c r (hn r rfl)))
  | .group connective items => by
    have hi := spelled_buildAll hs b h items
    unfold build
    split
    · rintro _ ⟨⟩
    · next cs bi hb =>
      rw [hb] at hi
      intro c hc
      exact text_grouped (Sql.isTextual_spelled _) (hi cs rfl) hc

theorem spelled_buildAll (hs : s.IsWellNamed) (b : Builder) (h : IsSpelled s b.resolver) :
    (fs : List Filter) → ∀ cs, (b.buildAll fs).1 = .ok cs →
      ∀ c ∈ cs, Spelled (b.buildAll fs).2.resolver.params.names c.text
  | [] => by
    rintro _ ⟨⟩ c hc
    cases hc
  | f :: fs => by
    have hf := spelled_build hs b h f
    have hbf := h.steps hs (steps_build b f)
    unfold buildAll
    split
    · rintro _ ⟨⟩
    · next c bf hb =>
      rw [hb] at hf hbf
      have hfs := spelled_buildAll hs bf hbf fs
      have hst := steps_buildAll bf fs
      split
      · rintro _ ⟨⟩
      · next cs bs hbs =>
        rw [hbs] at hfs hst
        rintro _ ⟨⟩
        rw [List.forall_mem_cons]
        exact ⟨(hf c rfl).mono (Resolver.names_steps hst), hfs cs rfl⟩

end

end Builder

/-! ## Sessions -/

namespace Filter

variable {s : Scope} {allowed : AllowedPaths} {r : Resolver} {q : Select} {f : Filter}

/-- What a fresh resolver and a query for the table of the base become when filters are added, some
of which may fail. -/
inductive Session (s : Scope) (allowed : AllowedPaths) : Resolver → Select → Prop
  | start : Session s allowed { scope := s, allowed := allowed } { table := s.base.name }
  | apply {r : Resolver} {q : Select} (h : Session s allowed r q) (f : Filter) :
      Session s allowed (f.apply r q).2.1 (f.apply r q).2.2

/-- Whatever a query reads is bound in the resolver. -/
structure Sound (s : Scope) (r : Resolver) (q : Select) : Prop where
  resolver : r.IsSpelled s
  nodup : r.params.names.Nodup
  table : q.table = s.base.name
  joins : ∀ j ∈ q.joins, Spelled r.params.names j.sql
  conditions : ∀ c ∈ q.conditions, Spelled r.params.names c.text

theorem sound_start (s : Scope) (allowed : AllowedPaths) :
    Sound s { scope := s, allowed := allowed } { table := s.base.name } :=
  ⟨⟨rfl, by rintro _ ⟨⟩⟩, List.nodup_nil, rfl, by rintro _ ⟨⟩, by rintro _ ⟨⟩⟩

/-- Building alone keeps the query sound. -/
theorem Sound.condition (hs : s.IsWellNamed) (h : Sound s r q) (f : Filter) :
    Sound s (f.condition r).2 q :=
  have hst : Resolver.Steps r (f.condition r).2 := Builder.steps_build { resolver := r } f
  have hn := Resolver.names_steps hst
  ⟨h.resolver.steps hs hst, Resolver.nodup_steps hst h.nodup, h.table,
    fun j hj => (h.joins j hj).mono hn, fun c hc => (h.conditions c hc).mono hn⟩

theorem Sound.addJoins (h : Sound s r q) : Sound s r (Resolver.addJoins q r.joins).2 := by
  obtain ⟨added, hsub, he⟩ := Resolver.addJoins_adds q r.joins
  rw [he]
  refine ⟨h.resolver, h.nodup, h.table, fun j hj => ?_, h.conditions⟩
  rcases List.mem_append.1 hj with hj | hj
  · exact h.joins j hj
  · exact h.resolver.joins j (hsub.subset hj)

theorem Sound.addCondition (h : Sound s r q) {c : Condition}
    (hc : Spelled r.params.names c.text) {params : Params} {isDistinct : Bool} :
    Sound s r (Select.addCondition { q with params, isDistinct } c) := by
  refine ⟨h.resolver, h.nodup, ?_, ?_, ?_⟩
  · rw [Select.table_addCondition]; exact h.table
  · rw [Select.joins_addCondition]; exact h.joins
  · rw [Select.conditions_addCondition]
    intro k hk
    rcases List.mem_append.1 hk with hk | hk
    · exact h.conditions k hk
    · split at hk
      · cases hk
      · exact List.mem_singleton.1 hk ▸ hc

theorem Sound.apply (hs : s.IsWellNamed) (h : Sound s r q) (f : Filter) :
    Sound s (f.apply r q).2.1 (f.apply r q).2.2 := by
  have hc := h.condition hs f
  have hb := Builder.spelled_build hs { resolver := r } h.resolver f
  rcases apply_cases f r q with ⟨e, -, ha⟩ | ⟨c, name, -, -, ha⟩ | ⟨c, hok, -, ha⟩
  · rw [ha]; exact hc
  · rw [ha]; exact hc.addJoins
  · rw [ha]
    exact hc.addJoins.addCondition (hb c hok)

theorem Session.sound (hs : s.IsWellNamed) (h : Session s allowed r q) : Sound s r q := by
  induction h with
  | start => exact sound_start s allowed
  | apply _ f ih => exact ih.apply hs f

theorem resolver_apply (f : Filter) (r : Resolver) (q : Select) :
    (f.apply r q).2.1 = (f.condition r).2 := by
  rcases apply_cases f r q with ⟨e, -, ha⟩ | ⟨c, name, -, -, ha⟩ | ⟨c, -, -, ha⟩ <;> rw [ha]

/-- A query to which a filter was added has the values of the resolver. -/
theorem find?_apply (hn : (f.apply r q).2.1.params.names.Nodup)
    (h : (f.apply r q).1 = .ok ()) {k : String} (hk : k ∈ (f.apply r q).2.1.params.names) :
    (f.apply r q).2.2.params.find? k = (f.apply r q).2.1.params.find? k := by
  obtain ⟨c, added, isDistinct, -, he⟩ := apply_ok h
  rw [resolver_apply] at hn hk ⊢
  rw [he, Select.params_addCondition]
  have hf : (Resolver.setAll q.params (f.condition r).2.params.entries).find? k =
      ((f.condition r).2.params.find? k).or (q.params.find? k) := Resolver.find?_setAll hn
  obtain ⟨v, hv⟩ := Option.ne_none_iff_exists'.1 fun hf => Params.find?_eq_none_iff.1 hf hk
  rw [hf, hv, Option.some_or]

/-- After a filter was added, whatever was added before or failed, the query has a form with
numbered placeholders, and the value of each is the one that the resolver has under its name. No
other brace is left. -/
theorem apply_positional {ds : Definitions} (hc : ds.toCatalog = .ok s.catalog)
    (hb : s.base ∈ s.catalog.collections) (h : Session s allowed r q)
    (ho : (f.apply r q).1 = .ok ()) :
    ∃ text values, (f.apply r q).2.2.positional? = .ok (text, values) ∧
      Sql.Numbers (f.apply r q).2.1.params.find? (f.apply r q).2.2.sql text values ∧
      Sql.IsPlain text := by
  have hs := Scope.isWellNamed_of_toCatalog hc hb
  have hq := (h.apply f).sound hs
  have hv : ∀ k ∈ (f.apply r q).2.1.params.names,
      (f.apply r q).2.2.params.find? k = (f.apply r q).2.1.params.find? k :=
    fun k hk => find?_apply hq.nodup ho hk
  have hsql : Spelled (f.apply r q).2.1.params.names (f.apply r q).2.2.sql := by
    refine Select.spelled_sql ?_ hq.joins hq.conditions
    rw [hq.table]
    exact hs.base.name
  have hsome : ∀ k ∈ (f.apply r q).2.1.params.names,
      ((f.apply r q).2.2.params.find? k).isSome := by
    intro k hk
    rw [hv k hk]
    exact Params.contains_iff.2 hk
  obtain ⟨text, values, hn, hnum, hplain⟩ := Sql.numbered_of_spelled hsql hsome
  refine ⟨text, values, ?_, hnum.congr hsql hv, hplain⟩
  rw [Select.positional?, hn]

def titleIsDraft : Filter := .comparison (.field "title") ⟨.equal, false⟩ (.text "draft")

set_option maxRecDepth 4000 in
/-- A submitted tag is the title, and the title is a draft. -/
theorem apply_positional_tags :
    tagged.toCatalog = .ok taggedCatalog ∧
      (titleIsDraft.apply withFirst.1 withFirst.2).1 = .ok () ∧
      ∃ text values, (titleIsDraft.apply withFirst.1 withFirst.2).2.2.positional? =
          .ok (text, values) ∧
        Sql.Numbers (titleIsDraft.apply withFirst.1 withFirst.2).2.1.params.find?
          (titleIsDraft.apply withFirst.1 withFirst.2).2.2.sql text values ∧
        Sql.IsPlain text := by
  have hs : Session taggedResolver.scope .wellFormed withFirst.1 withFirst.2 :=
    Session.start.apply tagIsTitle
  have hc : tagged.toCatalog = .ok taggedResolver.scope.catalog := rfl
  have hb : taggedResolver.scope.base ∈ taggedResolver.scope.catalog.collections :=
    List.mem_cons_self
  exact ⟨hc, rfl, apply_positional hc hb hs rfl⟩

end Filter

end RecordFilter
