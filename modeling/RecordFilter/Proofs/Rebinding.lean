import Mathlib.Data.List.Basic
import RecordFilter.Proofs.BodyPaths
import RecordFilter.Proofs.Canonical
import RecordFilter.Proofs.JsonLists

/-!
# Bindings of later paths

A path that resolves binds the id of the record that signed in, the ids submitted for a relation, or
the items submitted for a field (`Plan.Binds`), each under a name made of the ASCII letters, digits
and underscores of other names. Paths that both resolved have joins that agree, so two bindings of
one name are for one collection; but `größe` and `grüße` are one key then. Bindings are kept by
later paths if and only if keys that are written alike have the same items
(`Resolver.resolveAll_keeps_iff`).
-/

namespace RecordFilter

open Sql (Join Joins Params)
open Plan (itemsParam)
open Root (authName itemsName submittedParam)

/-! ## Bindings and their origin -/

namespace Plan

variable {s : Scope} {path p q name : String} {v w : Json} {segments rest : List String}

def itemsText (request : Request) (key : String) : String :=
  (Json.list ((request.itemsOf key).map .text)).compact

/-- What a path binds. -/
inductive Binds (s : Scope) (path : String) : String → Json → Prop
  | auth {c : Collection} {id : String} {rest : List String}
      (h : Starts s path (.auth c id) rest) : Binds s path (authName c) (.text id)
  | submitted {c : Collection} {key : String} {ids : List String} {multiple : Bool}
      {rest : List String} (h : Starts s path (.submitted c key ids multiple) rest) {i : Nat}
      (hi : i < ids.length) :
      Binds s path (submittedParam (Root.submitted c key ids multiple).firstAlias i) (.text ids[i])
  | items {request : Request} {f : Field} (hq : s.request = some request)
      (hf : f ∈ s.base.fields) (hk : f.kind.holdsItems = true) :
      Binds s path (itemsParam (itemsName f.name)) (.text (itemsText request f.name))

theorem binds_of_mem (h : (name, v) ∈ (ofPath s path).bindings) : Binds s path name v := by
  by_cases he : "" ∈ segmentsOf path
  · rw [ofPath_of_emptySegment he] at h
    cases h
  have hk := kind_ofPath s path
  generalize ofPath s path = plan at h hk
  cases hk with
  | fail | constant | bound => cases h
  | @below root rest hroot =>
    rw [bindings_below] at h
    cases root with
    | base | anyOf => cases h
    | auth c id =>
      cases List.mem_singleton.1 h
      exact .auth ⟨he, hroot⟩
    | submitted c key ids multiple =>
      obtain ⟨i, hi, hb⟩ := List.mem_mapIdx.1 h
      cases hb
      exact .submitted ⟨he, hroot⟩ hi
  | @items request key f last hq hf hk =>
    cases List.mem_singleton.1 h
    rw [← Collection.name_of_field? hf]
    exact .items hq (Collection.mem_of_field? hf) hk

theorem Binds.ne_generated (h : Binds s path name v) (n : Nat) : name ≠ Params.generated n := by
  cases h with
  | auth => exact Root.authName_ne_generated n
  | submitted =>
    apply Root.ne_of_take 1
    rw [Root.take_submittedParam (by decide)]
    simp [Params.generated]
  | items => exact Root.itemsParam_ne_generated n

end Plan

/-! ## Keys written alike -/

/-- Keys of the base that are written alike in names have the same items submitted. -/
def Scope.KeysAgree (s : Scope) : Prop :=
  ∀ request, s.request = some request → ∀ f ∈ s.base.fields, ∀ g ∈ s.base.fields,
    f.kind.holdsItems = true → g.kind.holdsItems = true →
      Sql.wordPart f.name = Sql.wordPart g.name → request.itemsOf f.name = request.itemsOf g.name

/-- Keys in ASCII are written out. -/
theorem Scope.keysAgree_of_isAscii {s : Scope} (hs : s.IsWellNamed)
    (ha : ∀ f ∈ s.base.fields, Text.IsAscii f.name) : s.KeysAgree := by
  have written (f : Field) (hf : f ∈ s.base.fields) : Sql.wordPart f.name = f.name :=
    Text.wordPart_of_isAscii (hs.base.fields f hf) (ha f hf)
  intro request _ f hf g hg _ _ hw
  rw [written f hf, written g hg] at hw
  rw [hw]

namespace Plan

variable {s : Scope} {path p q name name' : String} {v w : Json} {segments rest : List String}

theorem RootOf.exists_of_submitted {c : Collection} {key : String} {ids : List String}
    {multiple : Bool} (h : RootOf s segments (.submitted c key ids multiple) rest) :
    ∃ request, s.request = some request ∧ ids = request.itemsOf key ∧
      ∃ f ∈ s.base.fields, f.kind.holdsItems = true ∧ f.name = key := by
  cases h with
  | @submitted request f ref _ _ _ _ _ hq hm hi hf hr hc hn =>
    refine ⟨request, hq, rfl, f, Collection.mem_of_field? hf, ?_, Collection.name_of_field? hf⟩
    cases hkind : f.kind with
    | relation => rfl
    | _ => rw [hkind] at hr; cases hr

/-- Submitted records under one alias are the same where the joins agree and the keys agree. -/
theorem submitted_eq_of_agree (hk : s.KeysAgree)
    (ha : Joins.Agree (ofPath s p).joins (ofPath s q).joins) {c d : Collection}
    {key key' : String} {is js : List String} {m n : Bool} {rest' : List String}
    (h : Starts s p (.submitted c key is m) rest) (h' : Starts s q (.submitted d key' js n) rest')
    (hn : (Root.submitted c key is m).firstAlias = (Root.submitted d key' js n).firstAlias) :
    is = js := by
  have hname : c.name = d.name := by
    obtain ⟨-, -, j, hj, hjn, hjs⟩ := h.2.eq_base_or.resolve_left (by simp)
    obtain ⟨-, -, k, hk, hkn, hks⟩ := h'.2.eq_base_or.resolve_left (by simp)
    have hw := ha j (root_mem_joins h hj) k (root_mem_joins h' hk) (by rw [hjn, hkn, hn])
    have hsource : j.source.text = k.source.text := congrArg (·.2.1) hw
    rw [hjs, hks] at hsource
    exact Sql.quote_injective hsource
  have hkeys : Sql.wordPart key = Sql.wordPart key' := by
    change fieldAlias ("__data_" ++ Sql.wordPart c.name) key =
      fieldAlias ("__data_" ++ Sql.wordPart d.name) key' at hn
    rw [hname] at hn
    exact (String.append_right_inj _).1 hn
  obtain ⟨request, hq, rfl, f, hf, hkf, rfl⟩ := h.2.exists_of_submitted
  obtain ⟨request', hq', rfl, g, hg, hkg, rfl⟩ := h'.2.exists_of_submitted
  obtain rfl := Option.some.inj (hq.symm.trans hq')
  exact hk request hq f hf g hg hkf hkg hkeys

theorem Binds.unique (hk : s.KeysAgree)
    (ha : Joins.Agree (ofPath s p).joins (ofPath s q).joins) (h : Binds s p name v)
    (h' : Binds s q name' w) (hn : name = name') : v = w := by
  cases h with
  | @auth c id rest h =>
    cases h' with
    | auth h' => cases h.2.auth_eq h'.2; rfl
    | submitted => exact absurd hn Root.authName_ne_submittedParam
    | items => exact absurd hn Root.authName_ne_itemsParam
  | submitted h hi =>
    cases h' with
    | auth => exact absurd hn.symm Root.authName_ne_submittedParam
    | submitted h' hj =>
      obtain ⟨halias, rfl⟩ := Root.submittedParam_inj hn
      cases submitted_eq_of_agree hk ha h h' halias
      rfl
    | items => exact absurd hn.symm Root.itemsParam_ne_submittedParam
  | @items request f hq hf hkf =>
    cases h' with
    | auth => exact absurd hn.symm Root.authName_ne_itemsParam
    | submitted => exact absurd hn Root.itemsParam_ne_submittedParam
    | @items request' g hq' hg hkg =>
      obtain rfl := Option.some.inj (hq.symm.trans hq')
      have hkeys : Sql.wordPart f.name = Sql.wordPart g.name := by
        have hname := Root.itemsName_of_itemsParam hn
        simp only [itemsName, itemsAlias, String.append_left_inj, String.append_right_inj] at hname
        exact hname
      rw [itemsText, hk request hq f hf g hg hkf hkg hkeys, itemsText]

end Plan

/-! ## Runs -/

namespace Resolver

variable {s : Scope} {allowed : AllowedPaths} {paths later : List String} {r r' : Resolver}
  {path name : String} {v : Json} {res : Resolution}

def resolveAll (r : Resolver) : List String → Except PathError Resolver
  | [] => .ok r
  | path :: paths =>
    match r.resolve path with
    | (.ok _, r) => r.resolveAll paths
    | (.error e, _) => .error e

theorem resolveAll_cons (h : r.resolveAll (path :: paths) = .ok r') :
    ∃ res, (r.resolve path).1 = .ok res ∧ (r.resolve path).2.resolveAll paths = .ok r' := by
  unfold resolveAll at h
  split at h
  · next res r₁ hr => rw [hr]; exact ⟨res, rfl, h⟩
  · cases h

theorem resolveAll_singleton (h : (r.resolve path).1 = .ok res) :
    r.resolveAll [path] = .ok (r.resolve path).2 := by
  have hr : r.resolve path = (.ok res, (r.resolve path).2) := Prod.ext h rfl
  rw [resolveAll, hr]
  rfl

/-- A path that resolved binds under the names of its plan and one generated name at most. -/
theorem find?_of_resolved (h : (r.resolve path).1 = .ok res) (name : String) :
    ((∃ n, name = Params.generated n) ∧ r.params.find? name = none) ∨
      (r.resolve path).2.params.find? name =
        (Json.find? name (Plan.ofPath r.scope path).bindings).or (r.params.find? name) := by
  have hset : (setAll r.params (Plan.ofPath r.scope path).bindings).find? name =
      (Json.find? name (Plan.ofPath r.scope path).bindings).or (r.params.find? name) :=
    find?_setAll (Plan.safe_ofPath r.scope path).nodup
  rcases resolve_outcomes r path with ⟨e, ps, hr, -⟩ | ⟨joins, res', -, -, hr⟩ |
    ⟨joins, v, lower, -, -, hr⟩
  · rw [hr] at h; cases h
  · rw [hr]
    exact .inr hset
  · rw [hr]
    simp only [Params.find?_bind]
    split
    · next hn =>
      have hfree := Params.find?_eq_none_iff.2 (Params.generated_nextNumber
        (setAll r.params (Plan.ofPath r.scope path).bindings))
      rw [← hn, hset, Option.or_eq_none_iff] at hfree
      exact .inl ⟨⟨_, hn⟩, hfree.2⟩
    · exact .inr hset

/-- The parameters after paths that resolved: every value is bound by one of them, unless its name
is generated, and what they bind is there. -/
structure Current (s : Scope) (paths : List String) (r : Resolver) : Prop where
  origin : ∀ name v, r.params.find? name = some v →
    (∃ n, name = Params.generated n) ∨ ∃ q ∈ paths, (name, v) ∈ (Plan.ofPath s q).bindings
  bound : ∀ q ∈ paths, ∀ b ∈ (Plan.ofPath s q).bindings, r.params.find? b.1 = some b.2

theorem current_fresh : Current s [] { scope := s, allowed := allowed } where
  origin := by rintro name v ⟨⟩
  bound := by rintro q ⟨⟩

/-- One more path that resolves keeps every value, if the keys agree. -/
theorem Current.resolve (hk : s.KeysAgree) (h : History s allowed paths r) (hc : Current s paths r)
    (hr : (r.resolve path).1 = .ok res) :
    Current s (path :: paths) (r.resolve path).2 ∧
      ∀ name v, r.params.find? name = some v →
        (r.resolve path).2.params.find? name = some v := by
  have hscope := scope_steps h.steps
  have hfind := find?_of_resolved hr
  rw [hscope] at hfind
  have hkept : ∀ name v, r.params.find? name = some v →
      (r.resolve path).2.params.find? name = some v := by
    intro name v hv
    rcases hfind name with ⟨-, hn⟩ | hf
    · rw [hv] at hn; cases hn
    · rw [hf]
      cases hb : Json.find? name (Plan.ofPath s path).bindings with
      | none => exact hv
      | some w =>
        have hw := Plan.binds_of_mem (Json.mem_of_find? hb)
        rcases hc.origin name v hv with ⟨n, hn⟩ | ⟨q, hq, hm⟩
        · exact absurd hn (hw.ne_generated n)
        · have hagree := (h.resolved hr).agree (List.mem_cons_of_mem _ hq) List.mem_cons_self
          rw [(Plan.binds_of_mem hm).unique hk hagree hw rfl, Option.some_or]
  refine ⟨⟨fun name v hv => ?_, fun q hq b hb => ?_⟩, hkept⟩
  · rcases hfind name with ⟨hn, -⟩ | hf
    · exact .inl hn
    · rw [hf, Option.or_eq_some_iff] at hv
      rcases hv with hb | ⟨-, hv⟩
      · exact .inr ⟨path, List.mem_cons_self, Json.mem_of_find? hb⟩
      · exact (hc.origin name v hv).imp_right fun ⟨q, hq, hm⟩ =>
          ⟨q, List.mem_cons_of_mem _ hq, hm⟩
  · rcases List.mem_cons.1 hq with rfl | hq
    · rcases hfind b.1 with ⟨⟨n, hn⟩, -⟩ | hf
      · exact absurd hn ((Plan.binds_of_mem hb).ne_generated n)
      · rw [hf, Json.find?_of_mem (Plan.safe_ofPath s q).nodup hb, Option.some_or]
    · exact hkept _ _ (hc.bound q hq b hb)

theorem Current.resolveAll (hk : s.KeysAgree) (h : History s allowed paths r)
    (hc : Current s paths r) (hr : r.resolveAll later = .ok r') :
    History s allowed (later.reverse ++ paths) r' ∧ Current s (later.reverse ++ paths) r' ∧
      ∀ name v, r.params.find? name = some v → r'.params.find? name = some v := by
  induction later generalizing paths r with
  | nil =>
    cases hr
    exact ⟨h, hc, fun _ _ hv => hv⟩
  | cons path later ih =>
    obtain ⟨res, hp, hr⟩ := resolveAll_cons hr
    obtain ⟨hc', hkept⟩ := hc.resolve hk h hp
    obtain ⟨hh, hcurrent, hrest⟩ := ih (h.resolved hp) hc' hr
    rw [List.reverse_cons, List.append_assoc]
    exact ⟨hh, hcurrent, fun name v hv => hrest name v (hkept name v hv)⟩

end Resolver

/-! ## Items of a submitted field -/

def eachPath (key : String) : String := "@request.body." ++ key ++ ":each"

section Each

variable {key : String}

theorem eachPath_eq (key : String) : eachPath key = bodyPath (Modifier.each.after key) :=
  String.append_assoc

theorem isWellFormed_eachPath (h : Text.IsWordy key) : Path.isWellFormed (eachPath key) = true := by
  rw [eachPath_eq]
  exact Path.isWellFormed_bodyPath (Path.isTail_after h)

theorem ofPath_eachPath {s : Scope} {request : Request} {f : Field} (hq : s.request = some request)
    (hf : s.base.field? f.name = some f) (hk : f.kind.holdsItems = true)
    (hw : Text.IsWordy f.name) :
    Plan.ofPath s (eachPath f.name) = Plan.submittedItems s request f.name f :=
  Plan.ofPath_of_items (eachPath_eq f.name ▸ Plan.segmentsOf_after hw)
    (Plan.splitModifier_after hw) hq hf hk

end Each

/-! ## What is kept -/

namespace Resolver

variable {s : Scope}

theorem find?_eachPath {request : Request} {f : Field} {r : Resolver} {res : Resolution}
    (hp : Plan.ofPath r.scope (eachPath f.name) = Plan.submittedItems r.scope request f.name f)
    (h : (r.resolve (eachPath f.name)).1 = .ok res) :
    (r.resolve (eachPath f.name)).2.params.find? (itemsParam (itemsName f.name)) =
      some (.text (Plan.itemsText request f.name)) := by
  rcases find?_of_resolved h (itemsParam (itemsName f.name)) with ⟨⟨n, hn⟩, -⟩ | hf
  · exact absurd hn (Root.itemsParam_ne_generated n)
  · have hb : (Plan.ofPath r.scope (eachPath f.name)).bindings =
        [(itemsParam (itemsName f.name), .text (Plan.itemsText request f.name))] := by
      rw [hp]
      rfl
    rw [hf, hb, Json.find?, if_pos rfl, Option.some_or]

/-- The items of two keys that are written alike resolve one after the other. The second path binds
its items in place of the first ones. -/
theorem resolveAll_eachPath {request : Request} {f g : Field} (hq : s.request = some request)
    (hf : s.base.field? f.name = some f) (hg : s.base.field? g.name = some g)
    (hkf : f.kind.holdsItems = true) (hkg : g.kind.holdsItems = true) (hwf : Text.IsWordy f.name)
    (hwg : Text.IsWordy g.name) (hn : itemsName f.name = itemsName g.name) :
    ∃ r r', resolveAll { scope := s } [eachPath f.name] = .ok r ∧
      r.resolveAll [eachPath g.name] = .ok r' ∧
      r.params.find? (itemsParam (itemsName f.name)) = some (.text (Plan.itemsText request f.name)) ∧
      r'.params.find? (itemsParam (itemsName f.name)) = some (.text (Plan.itemsText request g.name)) := by
  have hpf := ofPath_eachPath hq hf hkf hwf
  have hpg := ofPath_eachPath hq hg hkg hwg
  let j := itemsJoin (.param (itemsParam (itemsName f.name))) (itemsName f.name)
  have hjoins : (Plan.ofPath s (eachPath f.name)).joins ++
      (Plan.ofPath s (eachPath g.name)).joins = [j, j] := by
    rw [hpf, hpg]
    show [j, itemsJoin (.param (itemsParam (itemsName g.name))) (itemsName g.name)] = [j, j]
    rw [← hn]
  have hcompatible : Joins.Compatible [j, j] := by
    intro k hk l hl _
    simp only [List.mem_cons, List.not_mem_nil, or_false, or_self] at hk hl
    rw [hk, hl]
  obtain ⟨a, b, js, ha, hb, -⟩ := (resolvesBoth_iff (r := { scope := s })
    (p := eachPath f.name) (q := eachPath g.name) List.nodup_nil).2
    ⟨⟨⟨isWellFormed_eachPath hwf, rfl⟩, isWellFormed_eachPath hwg, rfl⟩,
      (show Joins.Compatible ([] ++ _) by rw [hjoins]; exact hcompatible),
      ⟨_, by rw [hpf]; rfl⟩, _, by rw [hpg]; rfl⟩
  refine ⟨_, _, resolveAll_singleton ha, resolveAll_singleton hb, find?_eachPath hpf ha, ?_⟩
  rw [hn]
  exact find?_eachPath (by rw [scope_resolve]; exact hpg) hb

/-- In a catalog that was accepted, every value that a path binds is kept by the paths that resolve
after it, and so are the bindings of every path, if and only if the keys of the base that are written
alike have the same items submitted. -/
theorem resolveAll_keeps_iff {ds : Definitions} (hc : ds.toCatalog = .ok s.catalog)
    (hb : s.base ∈ s.catalog.collections) :
    (∀ allowed earlier later r r',
      resolveAll { scope := s, allowed := allowed } earlier = .ok r →
      r.resolveAll later = .ok r' →
        (∀ name v, r.params.find? name = some v → r'.params.find? name = some v) ∧
          ∀ path ∈ earlier, ∀ b ∈ (Plan.ofPath s path).bindings,
            r'.params.find? b.1 = some b.2) ↔
      s.KeysAgree := by
  constructor
  · intro h request hq f hf g hg hkf hkg hw
    have hnames := (Definitions.isWellNamed_toCatalog hc s.base hb).fields
    have hfield (k : Field) (hk : k ∈ s.base.fields) := Definitions.field?_of_mem hc hb hk
    have hn : itemsName f.name = itemsName g.name := by
      simp only [itemsName, hw]
    obtain ⟨r, r', he, hl, hv, hv'⟩ := resolveAll_eachPath hq (hfield f hf) (hfield g hg) hkf hkg
      (hnames f hf) (hnames g hg) hn
    have hkept := (h _ _ _ r r' he hl).1 _ _ hv
    rw [hv', Option.some.injEq, Json.text.injEq] at hkept
    exact (Json.compact_texts_injective hkept).symm
  · intro hk allowed earlier later r r' he hl
    obtain ⟨hh, hcur, -⟩ := current_fresh.resolveAll hk .fresh he
    obtain ⟨-, -, hkept⟩ := hcur.resolveAll hk hh hl
    refine ⟨hkept, fun path hp b hm => hkept _ _ (hcur.bound path ?_ b hm)⟩
    simpa using hp

/-! ### Two keys written alike

`größe` and `grüße` leave the letters `gre`. -/

def sized : Definitions :=
  { collections :=
      [{ name := "posts"
         fields :=
          [{ name := "größe", type := .select, multiple := true },
            { name := "grüße", type := .select, multiple := true }] }] }

def sizedCatalog : Catalog := sized.toCatalog.toOption.getD default

def sizedScope (size greeting : String) : Scope :=
  { catalog := sizedCatalog
    base := (sizedCatalog.find? "posts").getD default
    request := some { body := [("größe", .plain (.text size)), ("grüße", .plain (.text greeting))] } }

/-- The greeting takes the place of the size. -/
theorem resolveAll_rebinds_size :
    sized.toCatalog = .ok sizedCatalog ∧ (sizedScope "s" "hi").base ∈ sizedCatalog.collections ∧
      ∃ r r', resolveAll { scope := sizedScope "s" "hi" } ["@request.body.größe:each"] = .ok r ∧
        r.resolveAll ["@request.body.grüße:each"] = .ok r' ∧
        r.params.find? "__dataEach_gre_je__items" = some (.text "[\"s\"]") ∧
        r'.params.find? "__dataEach_gre_je__items" = some (.text "[\"hi\"]") := by
  have hc : sized.toCatalog = .ok sizedCatalog := rfl
  have hb : (sizedScope "s" "hi").base ∈ sizedCatalog.collections := by decide
  have hnames := (Definitions.isWellNamed_toCatalog hc _ hb).fields
  have hsize : (⟨"größe", .select true, false⟩ : Field) ∈ (sizedScope "s" "hi").base.fields := by
    decide
  have hgreeting : (⟨"grüße", .select true, false⟩ : Field) ∈ (sizedScope "s" "hi").base.fields := by
    decide
  obtain ⟨r, r', h⟩ := resolveAll_eachPath (s := sizedScope "s" "hi") rfl
    (Definitions.field?_of_mem hc hb hsize) (Definitions.field?_of_mem hc hb hgreeting) rfl rfl
    (hnames _ hsize) (hnames _ hgreeting) (by decide)
  exact ⟨hc, hb, r, r', h⟩

theorem resolveAll_keeps_clashing :
    clashing.toCatalog = .ok clashingCatalog ∧ clashingScope.base ∈ clashingCatalog.collections ∧
      ∀ allowed earlier later r r',
        resolveAll { scope := clashingScope, allowed := allowed } earlier = .ok r →
        r.resolveAll later = .ok r' →
          (∀ name v, r.params.find? name = some v → r'.params.find? name = some v) ∧
            ∀ path ∈ earlier, ∀ b ∈ (Plan.ofPath clashingScope path).bindings,
              r'.params.find? b.1 = some b.2 := by
  have hc : clashing.toCatalog = .ok clashingCatalog := rfl
  have hb : clashingScope.base ∈ clashingCatalog.collections := by decide
  exact ⟨hc, hb, (resolveAll_keeps_iff (s := clashingScope) hc hb).2
    (Scope.keysAgree_of_isAscii (Scope.isWellNamed_of_toCatalog hc hb) (by decide))⟩

end Resolver

end RecordFilter
