import RecordFilter.Proofs.History
import RecordFilter.Proofs.Origins
import RecordFilter.Proofs.Refusals
import RecordFilter.Proofs.Rollback

/-!
# One alias for one route

Aliases are meant to tell routes apart, but they are made of names with underscores between them:
`a`, `b` and `a_b` lead to one alias. Paths that resolved on one resolver have different aliases
all the same, since the second one fails where they have not (`Resolver.History.same_route`). Where
no names are confusable, it is only the author's choice of an alias that lets a path fail so
(`Resolver.alias_canonical`).
-/

namespace RecordFilter

open Sql (Expr Join Joins)
open Plan (RootOf Starts Crosses Laid collectionKey)

/-! ## Roots -/

section Names

variable {a b c : String} {after : List String}

theorem Comparable.of_extends (h : Comparable a b) (hc : Extends c b) : Comparable c a := by
  rcases h with rfl | h | h
  · exact .inr (.inl hc)
  · exact comparable_of_grows (.inr hc) (.inr h)
  · exact .inr (.inl (hc.trans h))

theorem Confusable.comparable (h : Confusable a after b) : Comparable a b :=
  h.imp_right fun h => .inl h.1

end Names

namespace Root

theorem eq_of_mem_joinsAt {name : String} {r : Root} {j k : Join} (hj : j ∈ r.joinsAt name)
    (hk : k ∈ r.joinsAt name) : j = k := by
  cases r with
  | base => cases hj
  | anyOf | auth | submitted => rw [List.mem_singleton.1 hj, List.mem_singleton.1 hk]

end Root

variable {s : Scope} {segments segments' rest rest' : List String} {ρ σ : Root}

theorem Scope.IsClear.not_comparable_base (hs : s.IsClear) {name : String}
    (hn : IsReserved name) : ¬ Comparable (Sql.wordPart s.base.name) name := by
  obtain ⟨t, ht⟩ := hn
  have hname : name.toList = '_' :: '_' :: t := ht.symm
  intro h
  cases hl : (Sql.wordPart s.base.name).toList with
  | nil =>
    have hb := hs.base
    rw [hl] at hb
    cases hb
  | cons ch cs =>
    have hone {a : String} {x : Char} {xs : List Char} (ha : a.toList = x :: xs) :
        1 ≤ a.length := by
      rw [← String.length_toList, ha, List.length_cons]
      omega
    have htake := h.take_eq (hone hl) (hone hname)
    rw [hl, hname] at htake
    obtain rfl : ch = '_' := (List.cons.inj htake).1
    have hb : Char.isAlphanum '_' = true := by
      have hb := hs.base
      rw [hl] at hb
      exact hb
    exact absurd hb (by decide)

theorem Scope.IsClear.not_isReserved_base (hs : s.IsClear) :
    ¬ IsReserved (Sql.wordPart s.base.name) := fun h => hs.not_comparable_base h (.inl rfl)

/-- The roots of paths are of one kind if their aliases are comparable. -/
theorem Scope.IsClear.kind_eq (hs : s.IsClear) (h : RootOf s segments ρ rest)
    (h' : RootOf s segments' σ rest') (hc : Comparable ρ.firstAlias σ.firstAlias) :
    ρ.kind = σ.kind := by
  rcases h.eq_base_or with rfl | ⟨hr, -⟩
  · rcases h'.eq_base_or with rfl | ⟨hr', -⟩
    · rfl
    · exact absurd hc (hs.not_comparable_base hr')
  · rcases h'.eq_base_or with rfl | ⟨hr', -⟩
    · exact absurd hc.symm (hs.not_comparable_base hr)
    · refine Root.kind_eq_of_comparable hc ?_
      rw [h.kind_base_iff hs.not_isReserved_base, h'.kind_base_iff hs.not_isReserved_base]
      simp [hr, hr']

theorem Scope.IsClear.itemsName_ne (hs : s.IsClear) (h : RootOf s segments ρ rest) (key : String)
    (names : List String) : Root.itemsName key ≠ spelled ρ.firstAlias names := by
  intro he
  have hc : Comparable ρ.firstAlias (Root.itemsName key) :=
    comparable_of_grows (he ▸ spelled_grows ρ.firstAlias names) (.inl rfl)
  have hk : ρ.kind ≠ .base := by
    cases h with
    | base => exact absurd hc (hs.not_comparable_base (Root.isReserved_itemsName key))
    | anyOf | auth | submitted => simp [Root.kind]
  obtain ⟨hlong, htake⟩ := Root.take_firstAlias hk
  have hitems : 7 ≤ (Root.itemsName key).length ∧
      (Root.itemsName key).toList.take 7 = "__dataEach_".toList.take 7 := by
    unfold Root.itemsName itemsAlias
    rw [String.append_assoc]
    refine ⟨?_, Root.take_append (by decide)⟩
    have hl : "__dataEach_".length = 11 := by decide
    rw [String.length_append, hl]
    omega
  have hsame := hc.take_eq hlong hitems.1
  rw [htake, hitems.2] at hsame
  cases hr : ρ.kind with
  | base => exact hk hr
  | anyOf | auth | submitted =>
    rw [hr] at hsame
    exact absurd hsame (by decide)

theorem Scope.IsClear.not_comparable_chosen (hs : s.IsClear) {c : Collection}
    (hc : c ∈ s.catalog.collections) (name : String) :
    ¬ Comparable (Sql.wordPart c.name) (fieldAlias "alias" name) := fun h =>
  hs.chosen c hc (h.of_extends (extends_fieldAlias _ name))

/-- The roots of paths are told apart by their aliases, but for choices of one name. -/
theorem Scope.IsClear.root_eq (hs : s.IsClear) (h : RootOf s segments ρ rest)
    (h' : RootOf s segments' σ rest')
    (hch : ∀ c d x y, ρ = .anyOf c (some x) → σ = .anyOf d (some y) → x ≠ y →
      ¬ Confusable (Sql.wordPart x) (s.namesAt c) (Sql.wordPart y))
    (hc : Confusable ρ.firstAlias (s.namesAt ρ.collection) σ.firstAlias) :
    ρ = σ ∨ ∃ c d x, ρ = .anyOf c (some x) ∧ σ = .anyOf d (some x) := by
  have hkind := hs.kind_eq h h' hc.comparable
  rw [Root.firstAlias_eq, Root.firstAlias_eq σ, hkind, confusable_append] at hc
  cases ρ with
  | base c =>
    cases σ with
    | base d => cases h; cases h'; exact .inl rfl
    | anyOf | auth | submitted => cases hkind
  | anyOf c x =>
    cases σ with
    | base | auth | submitted => cases hkind
    | anyOf d y =>
      obtain ⟨_, _, -, hfind, -⟩ := h.named
      obtain ⟨_, _, -, hfind', -⟩ := h'.named
      have hmem := Catalog.mem_of_find? hfind
      have hmem' := Catalog.mem_of_find? hfind'
      rcases x with _ | x <;> rcases y with _ | y
      · left
        by_contra hne
        refine hs.collections c hmem d hmem' (fun hn => hne ?_) hc
        rw [Catalog.eq_of_name hmem hmem' hn]
      · exact absurd hc.comparable (hs.not_comparable_chosen hmem y)
      · exact absurd hc.comparable.symm (hs.not_comparable_chosen hmem' x)
      · by_cases hxy : x = y
        · exact .inr ⟨c, d, x, rfl, hxy ▸ rfl⟩
        · exact absurd (confusable_append.1 hc) (hch c d x y rfl rfl hxy)
  | auth c i =>
    cases σ with
    | base | anyOf | submitted => cases hkind
    | auth d j => exact .inl (h.auth_eq h')
  | submitted c key is m =>
    cases σ with
    | base | anyOf | auth => cases hkind
    | submitted d key' js n =>
      by_cases hkey : key = key'
      · subst hkey
        exact .inl (h.submitted_eq h')
      · obtain ⟨⟨f, hf, rfl⟩, hcrossed⟩ := h.crossed?_of_submitted
        obtain ⟨⟨g, hg, rfl⟩, hcrossed'⟩ := h'.crossed?_of_submitted
        exact absurd hc (hs.submitted f hf g hg hkey c hcrossed d hcrossed')

/-! ## Paths -/

namespace Plan

variable {path p q : String} {paths as bs : List String} {j k : Join}

/-- A path comes to a route on its way. -/
def Reaches (s : Scope) (path : String) (route : Route) : Prop :=
  ∃ root rest left, Starts s path root rest ∧ Crosses s ⟨root, []⟩ rest route left

/-- The aliases that the authors of paths chose are not confusable. -/
def ChoicesClear (s : Scope) (paths : List String) : Prop :=
  ∀ p ∈ paths, ∀ q ∈ paths, ∀ c d x y rest rest',
    Starts s p (.anyOf c (some x)) rest → Starts s q (.anyOf d (some y)) rest' → x ≠ y →
      ¬ Confusable (Sql.wordPart x) (s.namesAt c) (Sql.wordPart y)

def chosen? (path : String) : Option String :=
  match segmentsOf path with
  | "@collection" :: first :: _ => (collectionKey first).2
  | _ => none

theorem chosen?_eq {c : Collection} {x : String} (h : Starts s path (.anyOf c (some x)) rest) :
    chosen? path = some x := by
  obtain ⟨first, more, hs, -, hx⟩ := h.2.named
  rw [chosen?, hs]
  exact hx.symm

theorem choicesClear_of_chosen {name : String}
    (h : ∀ p ∈ paths, chosen? p = none ∨ chosen? p = some name) : ChoicesClear s paths := by
  have one {p x : String} (hp : p ∈ paths) (hx : chosen? p = some x) : x = name := by
    rcases h p hp with hn | hn
    · rw [hn] at hx; cases hx
    · exact Option.some.inj (hx.symm.trans hn)
  intro p hp q hq c d x y rest rest' hx hy hne
  exact absurd ((one hp (chosen?_eq hx)).trans (one hq (chosen?_eq hy)).symm) hne

/-- The authors of two paths chose one alias for different collections. -/
def Clash (s : Scope) (p q : String) : Prop :=
  ∃ c d x rest rest', Starts s p (.anyOf c (some x)) rest ∧
    Starts s q (.anyOf d (some x)) rest' ∧ c ≠ d

theorem Clash.symm (h : Clash s p q) : Clash s q p := by
  obtain ⟨c, d, x, rest, rest', hp, hq, hne⟩ := h
  exact ⟨d, c, x, rest', rest, hq, hp, hne.symm⟩

theorem not_clash_self (path : String) : ¬ Clash s path path := by
  rintro ⟨c, d, x, rest, rest', ⟨-, hp⟩, ⟨-, hq⟩, hne⟩
  obtain ⟨first, more, hs, hfind, -⟩ := hp.named
  obtain ⟨first', more', hs', hfind', -⟩ := hq.named
  rw [hs] at hs'
  cases hs'
  exact hne (Option.some.inj (hfind.symm.trans hfind'))

/-- Paths come to one alias from the same root, or they clash. -/
theorem root_eq_or_clash (hs : s.IsClear) (hch : ChoicesClear s paths) (hp : p ∈ paths)
    (hq : q ∈ paths) (h : Starts s p ρ rest) (h' : Starts s q σ rest')
    (has : ∀ x ∈ as.head?, x ∈ s.namesAt ρ.collection)
    (hbs : ∀ x ∈ bs.head?, x ∈ s.namesAt σ.collection)
    (he : spelled ρ.firstAlias as = spelled σ.firstAlias bs) : ρ = σ ∨ Clash s p q := by
  have roots {p q : String} (hp : p ∈ paths) (hq : q ∈ paths) {ρ σ : Root}
      {rest rest' : List String} (h : Starts s p ρ rest) (h' : Starts s q σ rest')
      (hc : Confusable ρ.firstAlias (s.namesAt ρ.collection) σ.firstAlias) :
      ρ = σ ∨ Clash s p q := by
    have hroot := hs.root_eq h.2 h'.2 (fun c d x y hc hd hne =>
      hch p hp q hq c d x y rest rest' (hc ▸ h) (hd ▸ h') hne) hc
    rcases hroot with he | ⟨c, d, x, rfl, rfl⟩
    · exact .inl he
    · by_cases hcd : c = d
      · exact .inl (hcd ▸ rfl)
      · exact .inr ⟨c, d, x, rest, rest', h, h', hcd⟩
  by_cases hab : Confusable ρ.firstAlias (s.namesAt ρ.collection) σ.firstAlias
  · exact roots hp hq h h' hab
  · by_cases hba : Confusable σ.firstAlias (s.namesAt σ.collection) ρ.firstAlias
    · exact (roots hq hp h' h hba).imp Eq.symm Clash.symm
    · exact absurd he (spelled_ne has hbs hab hba)

theorem spelled_of_mem_joins (hj : j ∈ ρ.joinsAt ρ.firstAlias ∨
      ∃ names, Laid s ρ.collection ρ.firstAlias names j) :
    ∃ names, j.name = spelled ρ.firstAlias names ∧
      ∀ x ∈ names.head?, x ∈ s.namesAt ρ.collection := by
  rcases hj with hj | ⟨names, hj⟩
  · exact ⟨[], Root.name_of_mem_joinsAt hj, by simp⟩
  · obtain ⟨a, rest, -, hn, ha, -⟩ := hj.name_eq
    exact ⟨a :: rest, hn, by simpa using ha⟩

/-- Below one root an alias stands for one join. -/
theorem eq_of_name_below (hs : s.IsClear) (hc : ρ.collection ∈ s.collections)
    (hj : j ∈ ρ.joinsAt ρ.firstAlias ∨ ∃ names, Laid s ρ.collection ρ.firstAlias names j)
    (hk : k ∈ ρ.joinsAt ρ.firstAlias ∨ ∃ names, Laid s ρ.collection ρ.firstAlias names k)
    (hn : j.name = k.name) : j = k := by
  rcases hj with hj | ⟨names, hj⟩
  · rcases hk with hk | ⟨names', hk⟩
    · exact Root.eq_of_mem_joinsAt hj hk
    · exact absurd (hn.symm.trans (Root.name_of_mem_joinsAt hj)) hk.extends.ne
  · rcases hk with hk | ⟨names', hk⟩
    · exact absurd (hn.trans (Root.name_of_mem_joinsAt hk)) hj.extends.ne
    · exact hj.unique hs hc hk hn

theorem mem_joins_ofPath (hj : j ∈ (ofPath s path).joins) :
    (∃ ρ rest, Starts s path ρ rest ∧
      (j ∈ ρ.joinsAt ρ.firstAlias ∨ ∃ names, Laid s ρ.collection ρ.firstAlias names j)) ∨
      ∃ key, j = itemsJoin (.param (itemsParam (Root.itemsName key))) (Root.itemsName key) := by
  by_cases he : "" ∈ segmentsOf path
  · rw [ofPath_of_emptySegment he] at hj
    cases hj
  · have hk := kind_ofPath s path
    generalize ofPath s path = plan at hj hk
    cases hk with
    | fail | constant | bound => cases hj
    | @below ρ rest hroot => exact .inl ⟨ρ, rest, ⟨he, hroot⟩, mem_joins_below hj⟩
    | @items request key => exact .inr ⟨key, List.mem_singleton.1 hj⟩

/-- Paths have one join for an alias, or they clash. -/
theorem eq_or_clash_of_name (hs : s.IsClear) (hch : ChoicesClear s paths) (hp : p ∈ paths)
    (hq : q ∈ paths) (hj : j ∈ (ofPath s p).joins) (hk : k ∈ (ofPath s q).joins)
    (hn : j.name = k.name) : j = k ∨ Clash s p q := by
  rcases mem_joins_ofPath hj with ⟨ρ, rest, h, hj⟩ | ⟨key, rfl⟩
  · obtain ⟨as, ha, has⟩ := spelled_of_mem_joins hj
    rcases mem_joins_ofPath hk with ⟨σ, rest', h', hk⟩ | ⟨key, rfl⟩
    · obtain ⟨bs, hb, hbs⟩ := spelled_of_mem_joins hk
      have he : spelled ρ.firstAlias as = spelled σ.firstAlias bs := by rw [← ha, hn, hb]
      rcases root_eq_or_clash hs hch hp hq h h' has hbs he with rfl | hclash
      · exact .inl (eq_of_name_below hs h.2.collection_mem hj hk hn)
      · exact .inr hclash
    · exact absurd (hn.symm.trans ha) (hs.itemsName_ne h.2 key as)
  · rcases mem_joins_ofPath hk with ⟨σ, rest', h', hk⟩ | ⟨key', rfl⟩
    · obtain ⟨bs, hb, -⟩ := spelled_of_mem_joins hk
      exact absurd (hn.trans hb) (hs.itemsName_ne h'.2 key bs)
    · left
      have hname : Root.itemsName key = Root.itemsName key' := hn
      rw [hname]

theorem root_mem_joins (h : Starts s path ρ rest) (hj : j ∈ ρ.joinsAt ρ.firstAlias) :
    j ∈ (ofPath s path).joins := by
  obtain ⟨r, extra, outcome, rfl, hp, -⟩ := below_laid s path ρ rest
  rw [ofPath_of_starts h, hp]
  exact List.mem_append_left _ (List.mem_append_left _ hj)

end Plan

/-! ## Paths on one resolver -/

namespace Resolver

open Plan (Reaches ChoicesClear Clash)

variable {allowed : AllowedPaths} {paths : List String} {path p q : String} {r : Resolver}
  {j k : Join}

/-- Paths that clash have root joins of one alias that are written differently. -/
theorem exists_of_clash (h : Clash s p q) :
    ∃ j ∈ (Plan.ofPath s p).joins, ∃ k ∈ (Plan.ofPath s q).joins,
      j.name = k.name ∧ j.written ≠ k.written := by
  obtain ⟨c, d, x, rest, rest', hp, hq, hne⟩ := h
  refine ⟨_, Plan.root_mem_joins hp (List.mem_singleton.2 rfl), _,
    Plan.root_mem_joins hq (List.mem_singleton.2 rfl), rfl, fun hw => hne ?_⟩
  obtain ⟨_, _, -, hc, -⟩ := hp.2.named
  obtain ⟨_, _, -, hd, -⟩ := hq.2.named
  have hsource : Sql.quote c.name = Sql.quote d.name := congrArg (·.2.1) hw
  exact Catalog.eq_of_name (Catalog.mem_of_find? hc) (Catalog.mem_of_find? hd)
    (Sql.quote_injective hsource)

theorem History.not_clash (h : History s allowed paths r) (hp : p ∈ paths) (hq : q ∈ paths) :
    ¬ Clash s p q := by
  intro hclash
  obtain ⟨j, hj, k, hk, hn, hw⟩ := exists_of_clash hclash
  exact hw (h.agree hp hq j hj k hk hn)

/-- Routes that come to one alias on the way of paths that resolved are the same, but for how the
alias was chosen. -/
theorem History.same_route (hb : ¬ IsReserved (Sql.wordPart s.base.name)) (ha : s.IsAscii)
    (hkeys : ∀ f ∈ s.base.fields, Sql.wordPart f.name = f.name)
    (h : History s allowed paths r) (hp : p ∈ paths) (hq : q ∈ paths) {route route' : Route}
    (hr : Reaches s p route) (hr' : Reaches s q route') :
    route.lastAlias = route'.lastAlias ↔
      route.links = route'.links ∧ route.root.Alike route'.root := by
  obtain ⟨ρ, rest, left, hρ, hc⟩ := hr
  obtain ⟨σ, rest', left', hσ, hc'⟩ := hr'
  obtain ⟨hwp, o, ho⟩ := h.resolvable hp
  obtain ⟨hwq, o', ho'⟩ := h.resolvable hq
  have hwalked := hc.walked .start
  have hwalked' := hc'.walked .start
  rw [hwalked.root_eq, hwalked'.root_eq]
  constructor
  · intro hl
    obtain ⟨hlinks, -, hroot, hcollection⟩ := hwalked.same_origin hb hρ.2 hσ.2 hwalked'
      (Plan.wordPart_segment ha hwp hρ ho hc) (Plan.wordPart_segment ha hwq hσ ho' hc')
      ((h.agree hp hq).mono (Plan.joins_subset_of_crosses hρ ho hc)
        (Plan.joins_subset_of_crosses hσ ho' hc')) hl
    exact ⟨hlinks, hρ.2.alike hb hkeys hσ.2 hroot hcollection⟩
  · rintro ⟨hlinks, halike⟩
    rw [Route.lastAlias, Route.lastAlias, hwalked.root_eq, hwalked'.root_eq, hlinks,
      halike.firstAlias_eq]

/-- A path registers beside those that resolved if it clashes with none of them. -/
theorem History.registers (hs : s.IsClear) (hch : ChoicesClear s (path :: paths))
    (h : History s allowed paths r) (hc : ∀ q ∈ paths, ¬ Clash s path q) :
    ∃ ks, r.joins.registerAll (Plan.ofPath s path).joins = .ok ks := by
  refine (Joins.registers_iff h.nodup).2 ?_
  have owner {j : Join} (hj : j ∈ r.joins ++ (Plan.ofPath s path).joins) :
      ∃ q ∈ path :: paths, j ∈ (Plan.ofPath s q).joins := by
    rcases List.mem_append.1 hj with hj | hj
    · obtain ⟨q, hq, hj⟩ := h.mem_joins hj
      exact ⟨q, List.mem_cons_of_mem _ hq, hj⟩
    · exact ⟨path, List.mem_cons_self, hj⟩
  intro j hj k hk hn
  obtain ⟨p, hp, hj⟩ := owner hj
  obtain ⟨q, hq, hk⟩ := owner hk
  rcases Plan.eq_or_clash_of_name hs hch hp hq hj hk hn with rfl | hclash
  · rfl
  · exfalso
    rcases List.mem_cons.1 hp with rfl | hp'
    · rcases List.mem_cons.1 hq with rfl | hq'
      · exact Plan.not_clash_self _ hclash
      · exact hc q hq' hclash
    · rcases List.mem_cons.1 hq with rfl | hq'
      · exact hc p hp' hclash.symm
      · exact h.not_clash hp' hq' hclash

theorem ambiguous_iff : (∃ name, (r.resolve path).1 = .error (.ambiguousAlias name)) ↔
    (Path.isWellFormed path = true ∧ r.allowed.admits path = true) ∧
      ¬ ∃ ks, r.joins.registerAll (Plan.ofPath r.scope path).joins = .ok ks := by
  constructor
  · rintro ⟨name, hn⟩
    unfold resolve at hn
    split at hn
    · cases hn
    · next hw =>
      split at hn
      · cases hn
      · next ha =>
        refine ⟨⟨by simpa using hw, by simpa using ha⟩, ?_⟩
        rintro ⟨ks, hj⟩
        rcases error_of_commit hn with ⟨_, -, hf⟩ | ho
        · cases hf.symm.trans hj
        · cases Plan.refuses_ofPath r.scope path _ ho
  · rintro ⟨⟨hw, ha⟩, hno⟩
    obtain ⟨-, -, hr⟩ := (resolve_cases r path).resolve_left fun h => h.2 ⟨hw, ha⟩
    rw [hr]
    unfold commit
    cases hj : r.joins.registerAll (Plan.ofPath r.scope path).joins with
    | error name => exact ⟨name, rfl⟩
    | ok ks => exact absurd ⟨ks, hj⟩ hno

/-- In a catalog with names in ASCII, paths that resolved come to one alias only along the same
links from the same root. The alias of any record of a collection may be chosen, and the base must
not be named like the alias of another root. If no names are confusable, a path has an ambiguous
alias if and only if its author chose an alias for a collection that one of those paths was given
for another one. -/
theorem alias_canonical {ds : Definitions} (hd : ds.toCatalog = .ok s.catalog)
    (hm : s.base ∈ s.catalog.collections) (ha : s.IsAscii)
    (hb : ¬ "__".toList <+: s.base.name.toList) (h : History s allowed paths r) :
    (∀ p ∈ paths, ∀ q ∈ paths, ∀ route route', Reaches s p route → Reaches s q route' →
        (route.lastAlias = route'.lastAlias ↔
          route.links = route'.links ∧ route.root.Alike route'.root)) ∧
      (s.IsClear → ∀ path, ChoicesClear s (path :: paths) →
        ((∃ name, (r.resolve path).1 = .error (.ambiguousAlias name)) ↔
          (Path.isWellFormed path = true ∧ allowed.admits path = true) ∧
            ∃ c x rest, Starts s path (.anyOf c (some x)) rest ∧
              ∃ q ∈ paths, ∃ d rest', Starts s q (.anyOf d (some x)) rest' ∧ c ≠ d)) := by
  have hn := Scope.isWellNamed_of_toCatalog hd hm
  have hbase := ha s.base List.mem_cons_self
  refine ⟨fun p hp q hq route route' hr hr' => ?_, fun hs path hch => ?_⟩
  · refine h.same_route ?_ ha (fun f hf => ?_) hp hq hr hr'
    · rwa [Text.wordPart_of_isAscii hn.base.name hbase.name]
    · exact Text.wordPart_of_isAscii (hn.base.fields f hf) (hbase.fields f hf)
  · rw [ambiguous_iff, scope_steps h.steps, allowed_steps h.steps]
    refine and_congr_right fun _ => ⟨fun hno => ?_, ?_⟩
    · by_contra hnone
      refine hno (h.registers hs hch ?_)
      rintro q hq ⟨c, d, x, rest, rest', hc, hd, hne⟩
      exact hnone ⟨c, x, rest, hc, q, hq, d, rest', hd, hne⟩
    · rintro ⟨c, x, rest, hc, q, hq, d, rest', hd, hne⟩ ⟨ks, hks⟩
      obtain ⟨j, hj, k, hk, hn, hw⟩ := exists_of_clash ⟨c, d, x, rest, rest', hc, hd, hne⟩
      obtain ⟨k', hk', hwk⟩ := h.registered hq hk
      have hcompatible := (Joins.registers_iff h.nodup).1 ⟨ks, hks⟩
      have hn' : j.name = k'.name := by rw [hn, Join.name_of_written hwk]
      exact hw (hwk ▸ hcompatible j (List.mem_append_right _ hj) k'
        (List.mem_append_left _ hk') hn')

/-! ## Teams under names with underscores -/

def teamed (posts team : String) : Definitions :=
  { collections :=
      [{ name := posts, fields := [toOne "author" "users", toOne team "teams"] },
        { name := "users", fields := [toOne "team" "teams"] },
        { name := "teams", fields := [{ name := "name", type := .text }] }] }

def teamedScope (posts team : String) : Scope :=
  let catalog := (teamed posts team).toCatalog.toOption.getD default
  { catalog, base := (catalog.find? posts).getD default }

def teamedResolver (posts team : String) : Resolver := { scope := teamedScope posts team }

set_option maxRecDepth 4000 in
/-- A team of the author and one of an author's team have one alias, and so do the base and another
collection. -/
theorem alias_not_canonical :
    (teamed "posts" "author_team").toCatalog = .ok (teamedScope "posts" "author_team").catalog ∧
      ((teamedResolver "posts" "author_team").resolve "author_team.name").1 =
        .ok { value := .column "posts_author_team" "name" } ∧
      ((teamedResolver "posts" "author_team").resolve "author.team.name").1 =
        .ok { value := .column "posts_author_team" "name" } ∧
      (((teamedResolver "posts" "author_team").resolve "author.team.name").2.resolve
          "author_team.name").1 = .error (.ambiguousAlias "posts_author_team") ∧
      (teamed "__collection_teams" "team").toCatalog =
        .ok (teamedScope "__collection_teams" "team").catalog ∧
      ((teamedResolver "__collection_teams" "team").resolve "id").1 =
        .ok { value := .column "__collection_teams" "id" } ∧
      (((teamedResolver "__collection_teams" "team").resolve "id").2.resolve
          "@collection.teams.id").1.map Resolution.value =
        .ok (.column "__collection_teams" "id") :=
  ⟨rfl, rfl, rfl, rfl, rfl, rfl, rfl⟩

def edited : Scope := teamedScope "posts" "editor_team"

theorem isAscii_edited : edited.IsAscii := by
  have h : ∀ c ∈ edited.collections, Text.IsAscii c.id ∧ Text.IsAscii c.name ∧
      ∀ f ∈ c.fields, Text.IsAscii f.name := by decide +kernel
  exact fun c hc => ⟨(h c hc).1, (h c hc).2.1, (h c hc).2.2⟩

theorem isClear_edited : edited.IsClear where
  base := by decide
  collections := by decide +kernel
  chosen := by decide +kernel
  submitted := by decide +kernel
  names := by decide +kernel
  items := by decide +kernel

def visited : Resolver :=
  ((resolve { scope := edited } "@collection.users:x.id").2.resolve "author.team.name").2

def users : Collection := (edited.catalog.find? "users").getD default

def teams : Collection := (edited.catalog.find? "teams").getD default

set_option maxRecDepth 4000 in
/-- The alias `x` is that of any user and not of any team; no other one is ambiguous. -/
theorem alias_canonical_teams :
    (teamed "posts" "editor_team").toCatalog = .ok edited.catalog ∧
      (Route.mk (.base edited.base) [.single users "author", .single teams "team"]).lastAlias ≠
        (Route.mk (.anyOf users (some "x")) []).lastAlias ∧
      (∃ name, (visited.resolve "@collection.teams:x.id").1 = .error (.ambiguousAlias name)) ∧
      ¬ ∃ name, (visited.resolve "editor_team.name").1 = .error (.ambiguousAlias name) := by
  have hd : (teamed "posts" "editor_team").toCatalog = .ok edited.catalog := rfl
  have h : History edited .wellFormed ["author.team.name", "@collection.users:x.id"] visited :=
    .resolved (.resolved .fresh rfl) rfl
  have hauthor : Starts edited "author.team.name" (.base edited.base)
      ["author", "team", "name"] := ⟨by decide, .base (by decide) (by decide)⟩
  have hteam : Crosses edited ⟨.base edited.base, []⟩ ["author", "team", "name"]
      ⟨.base edited.base, [.single users "author", .single teams "team"]⟩ ["name"] :=
    .cross (Plan.turn_eq_link_iff.1 rfl) (.cross (Plan.turn_eq_link_iff.1 rfl) (.refl _ _))
  have husers : Starts edited "@collection.users:x.id" (.anyOf users (some "x")) ["id"] := by
    have hfind : edited.catalog.find? (collectionKey "users:x").1 = some users := rfl
    exact ⟨by decide, .anyOf hfind⟩
  have hteams : Starts edited "@collection.teams:x.id" (.anyOf teams (some "x")) ["id"] := by
    have hfind : edited.catalog.find? (collectionKey "teams:x").1 = some teams := rfl
    exact ⟨by decide, .anyOf hfind⟩
  obtain ⟨hroutes, hpaths⟩ := alias_canonical hd (by decide) isAscii_edited (by decide) h
  have hx {path : String} (hp : Plan.chosen? path = none ∨ Plan.chosen? path = some "x") :=
    hpaths isClear_edited path (Plan.choicesClear_of_chosen (List.forall_mem_cons.2
      ⟨hp, by decide⟩))
  refine ⟨hd, fun ha => ?_, ?_, ?_⟩
  · have hlinks := ((hroutes "author.team.name" (by decide) "@collection.users:x.id" (by decide) _ _
      ⟨_, _, _, hauthor, hteam⟩ ⟨_, _, _, husers, .refl _ _⟩).1 ha).1
    cases hlinks
  · exact (hx (.inr rfl)).2 ⟨⟨by decide, rfl⟩, teams, "x", ["id"], hteams, _,
      List.mem_cons_of_mem _ (List.mem_singleton.2 rfl), users, ["id"], husers, by decide⟩
  · intro hn
    obtain ⟨-, c, x, rest, hstarts, -⟩ := (hx (.inl rfl)).1 hn
    have hchosen := Plan.chosen?_eq hstarts
    cases hchosen

end Resolver

end RecordFilter
