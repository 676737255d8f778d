import RecordFilter.Proofs.Crossings
import RecordFilter.Proofs.Formulas
import RecordFilter.Proofs.Hidden

/-!
# Emails of other records

Where hidden fields may not be read, a path from the base that ends in the email of a collection
whose records sign in is compared only on records that show their email: the condition of the
comparison requires it under the alias at which the path ends (`Builder.build_requires_visible`).
That is asked of the rows of the query and not of those that a guard lists, so a strict comparison
with several emails depends on emails that are not shown (`Builder.build_email_shown_iff`).
-/

namespace RecordFilter

open Sql (Expr Join On Listing Condition)

/-! ## Conjunctions -/

namespace Sql

def visibleText (table : String) : String :=
  quoteColumn table emailVisibilityColumn ++ " = TRUE"

def On.visible (table : String) : On :=
  .equal (.column table emailVisibilityColumn) (.bool true)

/-- A formula is a conjunction, and a text is one of its conjuncts, those of conjunctions that stand
directly in it counted as its own. -/
inductive Formula.HasConjunct (text : String) : Formula → Prop
  | here {parts : List Formula} (h : .atom text ∈ parts) : HasConjunct text (.all parts)
  | inside {parts : List Formula} {part : Formula} (hm : part ∈ parts)
      (h : HasConjunct text part) : HasConjunct text (.all parts)

/-- A text is read as a conjunction that has another text as a conjunct. -/
def Requires (s conjunct : String) : Prop :=
  ∃ φ, Formula.read s = some φ ∧ φ.HasConjunct conjunct

/-- Whoever requires a record to show its email keeps the conjuncts that there are. -/
theorem Formula.HasConjunct.visible {c : Condition} {text : String}
    (h : c.formula.HasConjunct text) (table : String) :
    (Condition.visible c table).formula.HasConjunct text := by
  rw [Condition.formula]
  exact .inside List.mem_cons_self h

theorem Condition.hasConjunct_visible (c : Condition) (table : String) :
    (visible c table).formula.HasConjunct (visibleText table) := by
  rw [formula]
  exact .here (List.mem_cons_of_mem _ List.mem_cons_self)

end Sql

open Sql (visibleText)

namespace Builder

variable {c : Condition} {text table : String} {tables : List (Option String)}

theorem hasConjunct_requireVisible (h : c.formula.HasConjunct text) :
    (requireVisible c tables).formula.HasConjunct text := by
  induction tables generalizing c with
  | nil => exact h
  | cons first tables ih =>
    cases first with
    | none => exact ih h
    | some shown => exact ih (h.visible shown)

/-- Each record that must show its email is one conjunct more. -/
theorem hasConjunct_of_mem (h : some table ∈ tables) :
    (requireVisible c tables).formula.HasConjunct (visibleText table) := by
  induction tables generalizing c with
  | nil => cases h
  | cons first tables ih =>
    rcases List.mem_cons.1 h with rfl | hrest
    · show (requireVisible (.visible c table) tables).formula.HasConjunct (visibleText table)
      exact hasConjunct_requireVisible (Condition.hasConjunct_visible c table)
    · cases first with
      | none => exact ih hrest
      | some shown => exact ih hrest

end Builder

/-! ## What listings require -/

/-- A listing keeps only records that show their email: one of its joins is made on that. -/
def Sql.Listing.RequiresVisible (l : Listing) (table : String) : Prop :=
  ∃ j ∈ l.joins, j.on = .visible table

def Sql.Join.HasNoTest (j : Join) : Prop := ∀ e b, j.on ≠ .equal e (.bool b)

section Joins

variable {j : Join}

theorem Root.hasNoTest_of_mem {r : Root} {name : String} (hj : j ∈ r.joinsAt name) :
    j.HasNoTest := by
  intro e b
  cases r with
  | base => cases hj
  | anyOf | auth =>
    obtain rfl := List.mem_singleton.1 hj
    simp [tableJoin]
  | submitted c key ids multiple =>
    obtain rfl := List.mem_singleton.1 hj
    rcases ids with _ | ⟨i, _ | ⟨i', ids⟩⟩ <;> simp [tableJoin, idAmong]

theorem Link.hasNoTest_of_mem {parent : String} {links : List Link}
    (hj : j ∈ joinsAlong parent links) : j.HasNoTest := by
  induction links generalizing parent with
  | nil => cases hj
  | cons l links ih =>
    rcases List.mem_append.1 hj with hj | hj
    · intro e b
      cases l with
      | single | backSingle | backMultiple =>
        obtain rfl := List.mem_singleton.1 hj
        simp [tableJoin, idOf]
      | multiple =>
        rcases List.mem_cons.1 hj with rfl | hj
        · simp [itemsJoin]
        · obtain rfl := List.mem_singleton.1 hj
          simp [tableJoin, itemOf]
    · exact ih hj

theorem Plan.Reading.hasNoTest_of_mem {how : Reading} {f : Field} {table : String}
    (hj : j ∈ how.joins f table) : j.HasNoTest := by
  intro e b
  cases how with
  | column | document | count => cases hj
  | items =>
    obtain rfl := List.mem_singleton.1 hj
    simp [itemsJoin]

end Joins

namespace Plan

variable {s : Scope} {path : String} {r : Route} {res : Resolution} {l : Listing}

theorem hasNoTest_of_ends {rest : List String} {p : Plan} (h : Ends s r rest p)
    (ho : p.outcome = .ok (.fixed res)) (hl : res.listing = some l) :
    ∀ j ∈ l.joins, j.HasNoTest := by
  cases h with
  | fails => cases ho
  | nothing => cases ho; cases hl
  | @reads f how =>
    cases ho
    simp only [Reading.resolution, finish] at hl
    split at hl
    · cases hl
      intro j hj
      rcases List.mem_append.1 hj with hj | hj
      · rcases List.mem_append.1 hj with hj | hj
        · exact Root.hasNoTest_of_mem hj
        · exact Link.hasNoTest_of_mem hj
      · exact Reading.hasNoTest_of_mem hj
    · cases hl

theorem hasNoTest_ofPath (ho : (ofPath s path).outcome = .ok (.fixed res))
    (hl : res.listing = some l) : ∀ j ∈ l.joins, j.HasNoTest := by
  have hk := kind_ofPath s path
  generalize ofPath s path = p at hk ho
  cases hk with
  | fail | bound => cases ho
  | constant => cases ho; cases hl
  | @below root rest =>
    obtain ⟨r, rest', -, -, he⟩ := ends_below s path root rest
    exact hasNoTest_of_ends he ho hl
  | items =>
    cases ho
    simp only at hl
    split at hl
    · cases hl
      intro j hj e b
      obtain rfl := List.mem_singleton.1 hj
      simp [itemsJoin]
    · cases hl

/-! ## Paths that end in an email -/

def reachedAlias (s : Scope) (path : String) : String :=
  (segmentsOf path).dropLast.foldl fieldAlias (Sql.wordPart s.base.name)

/-- A path from the base ends, with a modifier or without, in the email of a collection whose
records sign in. -/
def EndsInEmail (s : Scope) (path : String) (owner : Collection) : Prop :=
  IsOwn path ∧ owner.isAuth = true ∧ ∃ last modifier,
    EndsAt s s.base (segmentsOf path) owner last ∧
      splitModifier last = .ok (FieldName.email, modifier)

theorem Reading.mem_columns {how : Reading} {f : Field} {visibleIn : Option String}
    (hl : (how.resolution s r f visibleIn).listing = some l) :
    (r.listAlias, f.name) ∈ l.columns := by
  simp only [resolution, finish] at hl
  split at hl
  · cases hl
    have hread : (r.listAlias, f.name) ∈ (how.value f r.listAlias).columns ∨
        (r.listAlias, f.name) ∈ (how.joins f r.listAlias).flatMap Join.columns := by
      cases how with
      | column lower | document names lower =>
        left
        cases lower <;> simp [value, lowered, Expr.columns]
      | count => left; simp [value, Expr.columns]
      | items => right; simp [joins, eachItems, Expr.columns]
    rw [Listing.columns, List.mem_append]
    refine hread.imp_right fun h => ?_
    rw [listingOf, List.flatMap_append]
    exact List.mem_append_right _ h
  · cases hl

/-- What a path that ends in an email resolves to: it must be shown by the record at its end. -/
structure ReadsEmail (s : Scope) (path : String) (owner : Collection) (res : Resolution) :
    Prop where
  visibleIn : res.visibleIn = some (reachedAlias s path)
  owner : StandsFor s (Sql.wordPart s.base.name) (ofPath s path).joins (reachedAlias s path)
    (some owner)
  listed : res.listing.isSome = true ↔ SeveralBelow s s.base (segmentsOf path)
  columns : ∀ l, res.listing = some l →
    (Root.listed (reachedAlias s path), FieldName.email) ∈ l.columns

theorem readsEmail_below {owner : Collection} (hs : s.showHidden = false)
    (he : EndsInEmail s path owner)
    (hp : ofPath s path = below s path (.base s.base) (segmentsOf path))
    (ho : (ofPath s path).outcome = .ok (.fixed res)) : ReadsEmail s path owner res := by
  obtain ⟨hown, hauth, last, modifier, hends, hm⟩ := he
  have hid : last ≠ FieldName.id := by
    rintro rfl
    have hplain : splitModifier FieldName.id = .ok (FieldName.id, none) := rfl
    rw [hplain] at hm
    have hname : FieldName.id = FieldName.email := congrArg Prod.fst (Except.ok.inj hm)
    exact absurd hname (by decide)
  have hlisted := hp ▸ ho
  have hw : below s path (.base s.base) (segmentsOf path) =
      walk s path ⟨.base s.base, []⟩ (segmentsOf path) := by
    unfold below at hlisted ⊢
    split at hlisted
    · cases hlisted
    · next h => rw [if_neg h]
  have hstart : Walked s (.base s.base) ⟨.base s.base, []⟩ := .start
  rcases @walk_of_endsAt s path _ _ _ _ _ hstart hends hid rfl with
    ⟨e, hfail⟩ | ⟨r, hwalk, hr, hc, ha⟩
  · rw [hw, hfail] at hlisted
    cases hlisted
  · have hplan : ofPath s path = atLast s path r last := by rw [hp, hw, hwalk]
    have hroot := hr.root_eq
    have hlast : r.lastAlias = reachedAlias s path := ha
    have hlist : r.listAlias = Root.listed (reachedAlias s path) := by
      rw [← hlast, Route.listAlias, Route.lastAlias, hroot]
      exact (Link.carries_aliasAfter (Carries.listed _) r.links).eq.symm
    rw [hplan] at ho
    unfold atLast at ho hplan
    rw [hm] at ho hplan
    simp only [hc] at ho hplan
    cases hf : owner.field? FieldName.email with
    | none =>
      rw [hf] at ho
      simp [missing, hroot, Root.isLenient, along] at ho
    | some f =>
      have hname := Collection.name_of_field? hf
      simp only [hf] at ho hplan
      split at ho
      · cases ho
      · next hw =>
        rw [if_neg hw] at hplan
        rcases atField_cases s path r f modifier with ⟨e, he⟩ | ⟨-, how, -, -, he⟩
        · rw [he] at ho
          cases ho
        · rw [he] at ho hplan
          cases ho
          have howner : emailOwner s r f = some (reachedAlias s path) := by
            simp [emailOwner, hname, hc, hauth, hs, hroot, Root.isTrusted, hlast]
          have hstands := (readsOpen_walked hs hr).1
          rw [hlast, hc] at hstands
          refine ⟨howner, ?_, ?_, fun l hl => ?_⟩
          · rw [hplan]
            exact hstands.mono (List.subset_append_left _ _)
          · have hiff := listed_below_iff hlisted (how.value_ne_null f _)
            simpa [Root.isMany, Root.collection] using hiff
          · have hmem := how.mem_columns hl
            rwa [hlist, hname] at hmem

end Plan

/-! ## Built comparisons -/

open Plan (EndsInEmail ReadsEmail SeveralBelow reachedAlias)
open Resolver (ResolvedBetween coauthored coauthoredCatalog coauthoredScope)

namespace Resolver

variable {start stop : Resolver} {path : String} {owner : Collection} {res : Resolution}

theorem readsEmail_of_between (hs : start.scope.showHidden = false)
    (he : EndsInEmail start.scope path owner) (h : ResolvedBetween start stop path res) :
    ReadsEmail start.scope path owner res ∧
      StandsFor start.scope (Sql.wordPart start.scope.base.name) stop.joins
        (reachedAlias start.scope path) (some owner) := by
  obtain ⟨r, hr, hres, hstop⟩ := h
  rw [← scope_steps hr] at hs he ⊢
  obtain ⟨hp, ho⟩ := outcome_of_isOwn he.1 hres
  have hread := Plan.readsEmail_below hs he hp ho
  refine ⟨hread, ?_⟩
  have hkept := (prefix_joins_steps hstop).subset
  refine (hread.owner.of_alike (registered_of_resolve hres)).mono hkept

end Resolver

namespace Builder

variable {b b' b₁ : Builder} {f : Filter} {c : Condition} {l r own other res : Resolution}
  {table : String} {part : Condition}

/-- The condition of a comparison is read as a conjunction, with a conjunct for each record that
must show its email. -/
theorem requires_comparison (b : Builder) (hl : l.IsSingle) (comparator : Comparator)
    (hr : r.IsSingle) (hv : l.visibleIn = some table ∨ r.visibleIn = some table) :
    Sql.Requires (b.comparison l comparator r).1.text (visibleText table) := by
  have hread := (isOperand_comparison b hl comparator hr).indivisible.read
  refine ⟨_, hread, ?_⟩
  obtain ⟨inner, -, heq⟩ := comparison_shape b l comparator r
  rw [heq]
  refine hasConjunct_of_mem ?_
  rcases hv with hv | hv
  · rw [hv]
    exact List.mem_cons_self
  · rw [hv]
    exact List.mem_cons_of_mem _ List.mem_cons_self

theorem requires_of_built {start stop : Resolver} {q : Comparison}
    (h : q.Built start stop l r part)
    (hv : l.visibleIn = some table ∨ r.visibleIn = some table) :
    Sql.Requires part.text (visibleText table) := by
  cases h with
  | intro hs hleft hright he =>
    exact requires_comparison _ (isSingle_of_operand hleft) _ (isSingle_of_operand hright) hv

/-- Where hidden fields may not be read, a comparison with the email of a collection whose records
sign in requires the record to show it, whatever the operator, the modifier and the other side: its
condition is read as a conjunction, and that is one of the conjuncts, under the alias that stands for
the table of the collection. -/
theorem build_requires_visible (hs : b.resolver.scope.showHidden = false)
    (h : b.build f = (.ok c, b')) :
    List.Forall₂ (fun q part => ∀ path owner, (q.left = .field path ∨ q.right = .field path) →
        EndsInEmail b.resolver.scope path owner →
          StandsFor b.resolver.scope (Sql.wordPart b.resolver.scope.base.name) b'.resolver.joins
              (reachedAlias b.resolver.scope path) (some owner) ∧
            Sql.Requires part.text (visibleText (reachedAlias b.resolver.scope path)))
      f.comparisons c.parts := by
  refine (built_build f h).imp ?_
  rintro q part ⟨l, r, hq⟩ path owner hside he
  rcases hside with hleft | hright
  · obtain ⟨hread, howner⟩ := Resolver.readsEmail_of_between hs he (hq.left_of_field hleft)
    exact ⟨howner, requires_of_built hq (.inl hread.visibleIn)⟩
  · obtain ⟨hread, howner⟩ := Resolver.readsEmail_of_between hs he (hq.right_of_field hright)
    exact ⟨howner, requires_of_built hq (.inr hread.visibleIn)⟩

/-! ### Posts with several authors -/

def coauthors : Collection := (coauthoredCatalog.find? "users").getD default

def coauthoredBuilder : Builder := { resolver := { scope := coauthoredScope } }

set_option maxRecDepth 4000 in
theorem endsInEmail_coauthors : EndsInEmail coauthoredScope "authors.email" coauthors :=
  ⟨by decide, rfl, "email", none, .cross (.forward rfl rfl rfl) (.last _ _), rfl⟩

set_option maxRecDepth 4000 in
theorem build_requires_visible_authors :
    coauthored.toCatalog = .ok coauthoredCatalog ∧
      ∃ first second b', coauthoredBuilder.build (.group .or
          [.comparison (.field "authors.email") ⟨.like, false⟩ (.text "a@b.c"),
            .comparison .null ⟨.notEqual, true⟩ (.field "authors.email")]) =
          (.ok (.group .or [first, second]), b') ∧
        ∀ part ∈ [first, second],
          Sql.Requires part.text "\"posts_authors\".\"emailVisibility\" = TRUE" := by
  obtain ⟨first, second, b', hbuild, hparts⟩ : ∃ first second b',
      coauthoredBuilder.build (.group .or
          [.comparison (.field "authors.email") ⟨.like, false⟩ (.text "a@b.c"),
            .comparison .null ⟨.notEqual, true⟩ (.field "authors.email")]) =
          (.ok (.group .or [first, second]), b') ∧
        (Condition.group .or [first, second]).parts = [first, second] :=
    ⟨_, _, _, rfl, rfl⟩
  have hall := build_requires_visible rfl hbuild
  rw [hparts] at hall
  cases hall with
  | cons hfirst hrest =>
    cases hrest with
    | cons hsecond =>
      refine ⟨rfl, first, second, b', hbuild, ?_⟩
      rw [List.forall_mem_cons, List.forall_mem_singleton]
      exact ⟨(hfirst _ _ (.inl rfl) endsInEmail_coauthors).2,
        (hsecond _ _ (.inr rfl) endsInEmail_coauthors).2⟩

/-! ## Emails in guards -/

/-- Every select of a condition that reads the email of the records under an alias keeps only
records that show it: the query itself, by one of the conjuncts, and every listing, where the
records stand under the listed alias. -/
def EmailShown (part : Condition) (table : String) : Prop :=
  Sql.Requires part.text (visibleText table) ∧
    ∀ l ∈ part.listings, (Root.listed table, FieldName.email) ∈ l.columns →
      l.RequiresVisible (Root.listed table)

/-- A path to an email has one value for each record, and the other side lists no such email. -/
def OneEmail (s : Scope) (path : String) (other : Resolution) : Prop :=
  ¬ SeveralBelow s s.base (Plan.segmentsOf path) ∧
    ∀ l, other.listing = some l →
      (Root.listed (reachedAlias s path), FieldName.email) ∉ l.columns

theorem hasNoTest_of_operand {o : Operand} {l : Listing} (h : b.operand o = (.ok res, b₁))
    (hl : res.listing = some l) : ∀ j ∈ l.joins, j.HasNoTest := by
  cases o with
  | field path =>
    obtain ⟨hres, -⟩ := resolve_of_operand h
    exact Plan.hasNoTest_ofPath (Resolver.outcome_of_listing hres hl) hl
  | text | number | bool | null =>
    cases h
    cases hl

theorem hasNoTest_of_built {start stop : Resolver} {q : Comparison} {l : Listing}
    (h : q.Built start stop own other part)
    (hl : own.listing = some l ∨ other.listing = some l) : ∀ j ∈ l.joins, j.HasNoTest := by
  cases h with
  | intro hs hleft hright he =>
    rcases hl with hl | hl
    · exact hasNoTest_of_operand hleft hl
    · exact hasNoTest_of_operand hright hl

theorem not_requiresVisible {l : Listing} (h : ∀ j ∈ l.joins, j.HasNoTest) :
    ¬ l.RequiresVisible table := by
  rintro ⟨j, hj, hon⟩
  exact h j hj _ _ hon

/-- The emails of a side are shown everywhere if and only if no guard lists them. -/
theorem emailShown_iff {s : Scope} {path : String} {owner : Collection} {isAny : Bool}
    (hread : ReadsEmail s path owner own)
    (hconj : Sql.Requires part.text (visibleText (reachedAlias s path)))
    (hlist : ∀ l, l ∈ part.listings ↔
      isAny = false ∧ (own.listing = some l ∨ other.listing = some l))
    (htest : ∀ l, own.listing = some l ∨ other.listing = some l → ∀ j ∈ l.joins, j.HasNoTest) :
    EmailShown part (reachedAlias s path) ↔ isAny = true ∨ OneEmail s path other := by
  constructor
  · rintro ⟨-, hshown⟩
    rw [or_iff_not_imp_left, Bool.not_eq_true]
    intro hstrict
    -- what a guard lists is not tested, so it may not be this email
    have unread (l : Listing) (hl : own.listing = some l ∨ other.listing = some l) :
        (Root.listed (reachedAlias s path), FieldName.email) ∉ l.columns := fun hm =>
      not_requiresVisible (htest l hl) (hshown l ((hlist l).2 ⟨hstrict, hl⟩) hm)
    refine ⟨fun hseveral => ?_, fun l hl => unread l (.inr hl)⟩
    obtain ⟨l, hl⟩ := Option.isSome_iff_exists.1 (hread.listed.2 hseveral)
    exact unread l (.inl hl) (hread.columns l hl)
  · intro h
    refine ⟨hconj, fun l hl hm => ?_⟩
    obtain ⟨hstrict, hside⟩ := (hlist l).1 hl
    rcases h with hany | ⟨hone, hother⟩
    · rw [hstrict] at hany
      cases hany
    · rcases hside with hown | hl
      · have hsome : own.listing.isSome = true := by rw [hown]; rfl
        exact absurd (hread.listed.1 hsome) hone
      · exact absurd hm (hother l hl)

/-- Where hidden fields may not be read, a comparison with an email reads it only from records that
show it, if and only if the operator asks for one value, or the path has one email for each record
and the other side does not list that email either. Otherwise the guard of the comparison reads the
email of every related record. -/
theorem build_email_shown_iff (hs : b.resolver.scope.showHidden = false)
    (h : b.build f = (.ok c, b')) :
    List.Forall₂ (fun q part => ∃ l r, q.Built b.resolver b'.resolver l r part ∧
        ∀ path owner, EndsInEmail b.resolver.scope path owner →
          (q.left = .field path → (EmailShown part (reachedAlias b.resolver.scope path) ↔
            q.comparator.isAny = true ∨ OneEmail b.resolver.scope path r)) ∧
          (q.right = .field path → (EmailShown part (reachedAlias b.resolver.scope path) ↔
            q.comparator.isAny = true ∨ OneEmail b.resolver.scope path l)))
      f.comparisons c.parts := by
  refine (built_build f h).imp ?_
  rintro q part ⟨l, r, hq⟩
  refine ⟨l, r, hq, fun path owner he => ?_⟩
  have htest (k : Listing) := hasNoTest_of_built (l := k) hq
  have hlist (k : Listing) : k ∈ part.listings ↔
      q.comparator.isAny = false ∧ (l.listing = some k ∨ r.listing = some k) := by
    obtain ⟨b₂, rfl⟩ := hq.condition
    rw [listings_comparison]
    cases q.comparator.isAny <;> simp
  constructor
  · intro hleft
    obtain ⟨hread, -⟩ := Resolver.readsEmail_of_between hs he (hq.left_of_field hleft)
    exact emailShown_iff hread (requires_of_built hq (.inl hread.visibleIn)) hlist htest
  · intro hright
    obtain ⟨hread, -⟩ := Resolver.readsEmail_of_between hs he (hq.right_of_field hright)
    refine emailShown_iff hread (requires_of_built hq (.inr hread.visibleIn))
      (fun k => ?_) fun k hk => ?_
    · rw [hlist k, or_comm]
    · exact htest k hk.symm

set_option maxRecDepth 4000 in
theorem build_email_shown_any :
    coauthored.toCatalog = .ok coauthoredCatalog ∧
      ∃ part b', coauthoredBuilder.build
          (.comparison (.field "authors.email") ⟨.notEqual, true⟩ (.text "a@b.c")) =
          (.ok part, b') ∧
        EmailShown part "posts_authors" := by
  obtain ⟨part, b', hbuild, hparts⟩ : ∃ part b', coauthoredBuilder.build
      (.comparison (.field "authors.email") ⟨.notEqual, true⟩ (.text "a@b.c")) =
        (.ok part, b') ∧ part.parts = [part] := ⟨_, _, rfl, rfl⟩
  have hall := build_email_shown_iff rfl hbuild
  rw [hparts] at hall
  cases hall with
  | cons hfirst =>
    obtain ⟨l, r, -, hiff⟩ := hfirst
    exact ⟨rfl, part, b', hbuild, ((hiff _ _ endsInEmail_coauthors).1 rfl).2 (.inl rfl)⟩

set_option maxRecDepth 8000 in
/-- The guard of a strict comparison lists the emails of all authors of a post, whether they show
them or not. -/
theorem build_email_listed :
    coauthored.toCatalog = .ok coauthoredCatalog ∧ coauthoredScope.showHidden = false ∧
      EndsInEmail coauthoredScope "authors.email" coauthors ∧
      ∃ part b' l, coauthoredBuilder.build
          (.comparison (.field "authors.email") ⟨.notEqual, false⟩ (.text "a@b.c")) =
          (.ok part, b') ∧
        part.listings = [l] ∧ ("__mm_posts_authors", "email") ∈ l.columns ∧
        l.text = "SELECT \"__mm_posts_authors\".\"email\" AS \"multiMatchValue\"" ++
          " FROM \"posts\" \"__mm_posts\"" ++
          " LEFT JOIN pb_json_each(\"__mm_posts\".\"authors\") \"__mm_posts_authors_je\" ON TRUE" ++
          " LEFT JOIN \"users\" \"__mm_posts_authors\"" ++
          " ON \"__mm_posts_authors\".\"id\" = \"__mm_posts_authors_je\".\"value\"" ++
          " WHERE \"__mm_posts\".\"id\" = \"posts\".\"id\"" ∧
        ¬ EmailShown part "posts_authors" := by
  obtain ⟨part, b', l, hbuild, hl, hm, htest, htext⟩ : ∃ part b' l, coauthoredBuilder.build
      (.comparison (.field "authors.email") ⟨.notEqual, false⟩ (.text "a@b.c")) =
        (.ok part, b') ∧
      part.listings = [l] ∧ ("__mm_posts_authors", "email") ∈ l.columns ∧
      (∀ j ∈ l.joins, j.on ≠ .visible "__mm_posts_authors") ∧
      l.text = "SELECT \"__mm_posts_authors\".\"email\" AS \"multiMatchValue\"" ++
        " FROM \"posts\" \"__mm_posts\"" ++
        " LEFT JOIN pb_json_each(\"__mm_posts\".\"authors\") \"__mm_posts_authors_je\" ON TRUE" ++
        " LEFT JOIN \"users\" \"__mm_posts_authors\"" ++
        " ON \"__mm_posts_authors\".\"id\" = \"__mm_posts_authors_je\".\"value\"" ++
        " WHERE \"__mm_posts\".\"id\" = \"posts\".\"id\"" :=
    ⟨_, _, _, rfl, rfl, by decide, by decide, by decide⟩
  refine ⟨rfl, rfl, endsInEmail_coauthors, part, b', l, hbuild, hl, hm, htext, ?_⟩
  rintro ⟨-, hshown⟩
  obtain ⟨j, hj, hon⟩ := hshown l (hl ▸ List.mem_singleton.2 rfl) hm
  exact htest j hj hon

end Builder

end RecordFilter
