import Mathlib.Data.List.Nodup
import RecordFilter.Proofs.Aliases

/-!
# Paths in another order, and again

Joins can be registered one after the other if and only if they are `Compatible`: no two of them
have one alias and are written differently. So it does not matter which of two paths is resolved
first (`Resolver.resolve_either_order`), and a path that resolved once resolves again and finds
everything that it needs (`Resolver.resolve_again`). Only the numbers of generated names tell the
results apart.
-/

namespace RecordFilter

open Sql (Join Joins Params)

/-! ## Compatible joins -/

namespace Sql

/-- A join as it is written: two joins are alike if and only if they are written the same. -/
def Join.written (j : Join) : Bool × String × String × Option String :=
  (j.source.isTable, j.source.text, j.name, j.on.text?)

theorem Join.alike_iff_written {j k : Join} : j.alike k = true ↔ j.written = k.written := by
  simp [alike_iff, written]

theorem Join.name_of_written {j k : Join} (h : j.written = k.written) : j.name = k.name :=
  congrArg (·.2.2.1) h

namespace Joins

/-- Joins of one alias are written the same. -/
def Compatible (js : List Join) : Prop :=
  ∀ j ∈ js, ∀ k ∈ js, j.name = k.name → j.written = k.written

variable {js ks new as bs : List Join} {j k : Join}

theorem Compatible.mono (h : Compatible ks) (hs : js ⊆ ks) : Compatible js :=
  fun j hj k hk hn => h j (hs hj) k (hs hk) hn

theorem Compatible.of_written (h : Compatible ks)
    (hs : ∀ j ∈ js, ∃ k ∈ ks, k.written = j.written) : Compatible js := by
  intro j hj k hk hn
  obtain ⟨j', hj', hwj⟩ := hs j hj
  obtain ⟨k', hk', hwk⟩ := hs k hk
  have hn' : j'.name = k'.name := by
    rw [Join.name_of_written hwj, Join.name_of_written hwk, hn]
  rw [← hwj, ← hwk, h j' hj' k' hk' hn']

theorem compatible_of_nodup (h : (js.map Join.name).Nodup) : Compatible js := by
  intro j hj k hk hn
  rw [List.inj_on_of_nodup_map h hj hk hn]

def Agree (js ks : List Join) : Prop :=
  ∀ j ∈ js, ∀ k ∈ ks, j.name = k.name → j.written = k.written

theorem Agree.mono {js' ks' : List Join} (h : Agree js ks) (hj : js' ⊆ js) (hk : ks' ⊆ ks) :
    Agree js' ks' :=
  fun j hj' k hk' => h j (hj hj') k (hk hk')

theorem Agree.symm (h : Agree js ks) : Agree ks js :=
  fun k hk j hj hn => (h j hj k hk hn.symm).symm

/-! ### Registering -/

theorem registerAll_append (js as bs : List Join) :
    registerAll js (as ++ bs) = (registerAll js as).bind fun ks => registerAll ks bs := by
  induction as generalizing js with
  | nil => rfl
  | cons j as ih =>
    rw [List.cons_append, registerAll, registerAll]
    cases register js j with
    | error name => rfl
    | ok added => exact ih added.2

theorem register_of_compatible (h : Compatible (js ++ [j])) :
    ∃ isNew ks, register js j = .ok (isNew, ks) ∧ ks ⊆ js ++ [j] := by
  unfold register
  cases hk : named? js j.name with
  | none => exact ⟨_, _, rfl, List.Subset.refl _⟩
  | some k =>
    have hw : k.written = j.written :=
      h k (List.mem_append_left _ (List.mem_of_find?_eq_some hk)) j
        (List.mem_append_right _ (List.mem_singleton.2 rfl)) (name_of_named? hk)
    simp only [Join.alike_iff_written.2 hw, if_true]
    exact ⟨_, _, rfl, List.subset_append_left _ _⟩

theorem written_of_registerAll (h : registerAll js new = .ok ks) (hj : j ∈ js ++ new) :
    ∃ k ∈ ks, k.written = j.written := by
  rcases List.mem_append.1 hj with hj | hj
  · exact ⟨j, (prefix_registerAll h).subset hj, rfl⟩
  · obtain ⟨k, hk, ha⟩ := alike_of_registerAll h hj
    exact ⟨k, List.mem_of_find?_eq_some hk, Join.alike_iff_written.1 ha⟩

/-- Joins register after others if and only if they are all compatible. -/
theorem registers_iff (hjs : (js.map Join.name).Nodup) :
    (∃ ks, registerAll js new = .ok ks) ↔ Compatible (js ++ new) := by
  constructor
  · rintro ⟨ks, h⟩
    have hks := compatible_of_nodup (nodup_registerAll hjs h)
    exact hks.of_written fun j hj => written_of_registerAll h hj
  · intro h
    induction new generalizing js with
    | nil => exact ⟨js, rfl⟩
    | cons j new ih =>
      rw [List.append_cons] at h
      obtain ⟨isNew, mid, hr, hmid⟩ :=
        register_of_compatible (h.mono (List.subset_append_left _ _))
      have hm : mid ++ new ⊆ js ++ [j] ++ new :=
        List.append_subset.2 ⟨List.subset_append_of_subset_left _ hmid,
          List.subset_append_right _ _⟩
      obtain ⟨ks, hks⟩ := ih (nodup_register hjs hr) (h.mono hm)
      exact ⟨ks, by rw [registerAll, hr]; exact hks⟩

/-- What is registered in the end is the same for the same joins, but for the order. -/
theorem perm_registerAll (hjs : (js.map Join.name).Nodup)
    (has : registerAll js as = .ok ks) {ls : List Join} (hbs : registerAll js bs = .ok ls)
    (hs : ∀ j, j ∈ as ↔ j ∈ bs) : (ks.map Join.written).Perm (ls.map Join.written) := by
  have distinct {ks : List Join} (h : (ks.map Join.name).Nodup) :
      (ks.map Join.written).Nodup :=
    List.Nodup.of_map (·.2.2.1) (by rw [List.map_map]; exact h)
  have found {as bs ks ls : List Join} (has : registerAll js as = .ok ks)
      (hbs : registerAll js bs = .ok ls) (hs : as ⊆ bs) :
      ks.map Join.written ⊆ ls.map Join.written := by
    intro w hw
    obtain ⟨k, hk, rfl⟩ := List.mem_map.1 hw
    have hmem : k ∈ js ++ bs := List.mem_append.2 ((mem_of_registerAll has hk).imp_right (@hs k))
    obtain ⟨l, hl, hw⟩ := written_of_registerAll hbs hmem
    exact hw ▸ List.mem_map_of_mem hl
  refine (List.perm_ext_iff_of_nodup (distinct (nodup_registerAll hjs has))
    (distinct (nodup_registerAll hjs hbs))).2 fun w => ⟨fun h => ?_, fun h => ?_⟩
  · exact found has hbs (fun j hj => (hs j).1 hj) h
  · exact found hbs has (fun j hj => (hs j).2 hj) h

end Joins

end Sql

/-! ## Results -/

/-- Results that are the same but for the number of a generated name. -/
inductive Resolution.Renumbered : Resolution → Resolution → Prop
  | same (res : Resolution) : Renumbered res res
  | bound (m n : Nat) (lower : Bool) :
      Renumbered (Resolver.boundResolution (Params.generated m) lower)
        (Resolver.boundResolution (Params.generated n) lower)

/-- What an outcome resolves to: a value of its own, or one bound under a generated name. -/
inductive Outcome.Yields : Outcome → Resolution → Prop
  | fixed (res : Resolution) : Yields (.fixed res) res
  | bound (v : Json) (lower : Bool) (n : Nat) :
      Yields (.bound v lower) (Resolver.boundResolution (Params.generated n) lower)

theorem Outcome.Yields.renumbered {o : Outcome} {res res' : Resolution} (h : o.Yields res)
    (h' : o.Yields res') : res.Renumbered res' := by
  cases h with
  | fixed => cases h'; exact .same res
  | bound v lower m => cases h'; exact .bound m _ lower

namespace Resolver

variable {s : Scope} {allowed : AllowedPaths} {r r' : Resolver} {path p q : String}
  {res : Resolution}

/-- A path that resolves is carried out: its joins register and its outcome is what it resolves
to. Beside the names of the plan only a generated one is added. -/
theorem resolved_cases (h : (r.resolve path).1 = .ok res) :
    (Path.isWellFormed path = true ∧ r.allowed.admits path = true) ∧
      r.joins.registerAll (Plan.ofPath r.scope path).joins = .ok (r.resolve path).2.joins ∧
      ∃ o, (Plan.ofPath r.scope path).outcome = .ok o ∧ o.Yields res ∧
        ∃ new, (r.resolve path).2.params.names =
            (setAll r.params (Plan.ofPath r.scope path).bindings).names ++ new ∧
          ∀ name ∈ new, (∃ n, name = Params.generated n) ∧ res.params = [name] := by
  rcases resolve_cases r path with ⟨⟨e, he⟩, -⟩ | ⟨hw, ha, hr⟩
  · rw [he] at h; cases h
  · rw [hr] at h ⊢
    refine ⟨⟨hw, ha⟩, ?_⟩
    rcases commit_cases r (Plan.ofPath r.scope path) with
      ⟨e, hc, -⟩ | ⟨joins, res', hj, ho, hc⟩ | ⟨joins, v, lower, hj, ho, hc⟩
    · rw [hc] at h; cases h
    · rw [hc] at h ⊢
      cases h
      exact ⟨hj, _, ho, .fixed res, [], (List.append_nil _).symm, by simp⟩
    · rw [hc] at h ⊢
      cases h
      refine ⟨hj, _, ho, .bound v lower _, _, Params.names_bind _ v, ?_⟩
      intro name hn
      rw [List.mem_singleton.1 hn]
      exact ⟨⟨_, rfl⟩, rfl⟩

theorem resolves_iff : (∃ res, (r.resolve path).1 = .ok res) ↔
    (Path.isWellFormed path = true ∧ r.allowed.admits path = true) ∧
      (∃ ks, r.joins.registerAll (Plan.ofPath r.scope path).joins = .ok ks) ∧
      ∃ o, (Plan.ofPath r.scope path).outcome = .ok o := by
  constructor
  · rintro ⟨res, h⟩
    obtain ⟨hp, hj, o, ho, -⟩ := resolved_cases h
    exact ⟨hp, ⟨_, hj⟩, o, ho⟩
  · rintro ⟨⟨hw, ha⟩, ⟨ks, hj⟩, o, ho⟩
    have hr := (resolve_cases r path).resolve_left fun h => h.2 ⟨hw, ha⟩
    rw [hr.2.2]
    unfold commit
    simp only [hj, ho]
    cases o with
    | fixed res => exact ⟨res, rfl⟩
    | bound v lower => exact ⟨_, rfl⟩

/-! ## Two paths -/

/-- Two paths resolve one after the other, to `a` and to `b`, and leave joins registered. -/
def ResolvesBoth (r : Resolver) (p q : String) (a b : Resolution) (js : Joins) : Prop :=
  (r.resolve p).1 = .ok a ∧ ((r.resolve p).2.resolve q).1 = .ok b ∧
    ((r.resolve p).2.resolve q).2.joins = js

/-- Two paths resolve one after the other if and only if both may be used, all their joins are
compatible with what is registered, and both plans come to something. -/
theorem resolvesBoth_iff (hr : (r.joins.map Join.name).Nodup) :
    (∃ a b js, r.ResolvesBoth p q a b js) ↔
      ((Path.isWellFormed p = true ∧ r.allowed.admits p = true) ∧
        Path.isWellFormed q = true ∧ r.allowed.admits q = true) ∧
      Joins.Compatible
        (r.joins ++ ((Plan.ofPath r.scope p).joins ++ (Plan.ofPath r.scope q).joins)) ∧
      (∃ o, (Plan.ofPath r.scope p).outcome = .ok o) ∧
        ∃ o, (Plan.ofPath r.scope q).outcome = .ok o := by
  rw [← Joins.registers_iff hr, Joins.registerAll_append]
  constructor
  · rintro ⟨a, b, js, ha, hb, -⟩
    obtain ⟨hp, hpj, o, ho, -⟩ := resolved_cases ha
    obtain ⟨hq, hqj, o', ho', -⟩ := resolved_cases hb
    rw [scope_resolve] at hqj ho'
    rw [allowed_resolve] at hq
    exact ⟨⟨hp, hq⟩, ⟨_, by rw [hpj]; exact hqj⟩, ⟨o, ho⟩, o', ho'⟩
  · rintro ⟨⟨hp, hq⟩, ⟨ks, hks⟩, ho, ho'⟩
    cases hpj : r.joins.registerAll (Plan.ofPath r.scope p).joins with
    | error name => rw [hpj] at hks; cases hks
    | ok js =>
      obtain ⟨a, ha⟩ := resolves_iff.2 ⟨hp, ⟨js, hpj⟩, ho⟩
      have hmid : (r.resolve p).2.joins = js :=
        Except.ok.inj ((resolved_cases ha).2.1.symm.trans hpj)
      rw [hpj] at hks
      obtain ⟨b, hb⟩ : ∃ b, ((r.resolve p).2.resolve q).1 = .ok b := by
        refine resolves_iff.2 ⟨?_, ⟨ks, ?_⟩, ?_⟩
        · rw [allowed_resolve]; exact hq
        · rw [hmid, scope_resolve]; exact hks
        · rw [scope_resolve]; exact ho'
      exact ⟨a, b, _, ha, hb, rfl⟩

theorem ResolvesBoth.swap (hr : (r.joins.map Join.name).Nodup) {a a' b b' : Resolution}
    {js js' : Joins} (h : r.ResolvesBoth p q a b js) (h' : r.ResolvesBoth q p b' a' js') :
    a.Renumbered a' ∧ b.Renumbered b' ∧ (js.map Join.written).Perm (js'.map Join.written) := by
  obtain ⟨ha, hb, rfl⟩ := h
  obtain ⟨hb', ha', rfl⟩ := h'
  obtain ⟨-, hpj, o, ho, hya, -⟩ := resolved_cases ha
  obtain ⟨-, hqj, u, hu, hyb, -⟩ := resolved_cases hb
  obtain ⟨-, hqj', u', hu', hyb', -⟩ := resolved_cases hb'
  obtain ⟨-, hpj', o', ho', hya', -⟩ := resolved_cases ha'
  rw [scope_resolve] at hqj hu hpj' ho'
  obtain rfl : o = o' := Except.ok.inj (ho.symm.trans ho')
  obtain rfl : u = u' := Except.ok.inj (hu.symm.trans hu')
  refine ⟨hya.renumbered hya', hyb.renumbered hyb', ?_⟩
  have hpq : r.joins.registerAll
      ((Plan.ofPath r.scope p).joins ++ (Plan.ofPath r.scope q).joins) =
        .ok ((r.resolve p).2.resolve q).2.joins := by
    rw [Joins.registerAll_append, hpj]
    exact hqj
  have hqp : r.joins.registerAll
      ((Plan.ofPath r.scope q).joins ++ (Plan.ofPath r.scope p).joins) =
        .ok ((r.resolve q).2.resolve p).2.joins := by
    rw [Joins.registerAll_append, hqj']
    exact hpj'
  exact Joins.perm_registerAll hr hpq hqp fun j => by simp [or_comm]

/-- Two paths resolve on a fresh resolver in one order if and only if they do in the other, and
then each of them to the same, whatever the numbers of generated names, with the same joins. -/
theorem resolve_either_order (s : Scope) (allowed : AllowedPaths) (p q : String) :
    ((∃ a b js, ResolvesBoth { scope := s, allowed := allowed } p q a b js) ↔
        ∃ b a js, ResolvesBoth { scope := s, allowed := allowed } q p b a js) ∧
      ∀ a b js b' a' js', ResolvesBoth { scope := s, allowed := allowed } p q a b js →
        ResolvesBoth { scope := s, allowed := allowed } q p b' a' js' →
        a.Renumbered a' ∧ b.Renumbered b' ∧
          (js.map Join.written).Perm (js'.map Join.written) := by
  have hr : ((({ scope := s, allowed := allowed } : Resolver).joins).map Join.name).Nodup :=
    List.nodup_nil
  refine ⟨?_, fun a b js b' a' js' h h' => h.swap hr h'⟩
  rw [resolvesBoth_iff hr, resolvesBoth_iff hr]
  refine and_congr and_comm (and_congr ⟨fun h => h.mono ?_, fun h => h.mono ?_⟩ and_comm)
  · intro j hj
    simpa [or_comm] using hj
  · intro j hj
    simpa [or_comm] using hj

def affiliated : Definitions :=
  { collections :=
      [{ name := "posts", fields :=
          [{ name := "author", type := .relation, collection := some "users" }] },
        { name := "users", fields :=
          [{ name := "team", type := .relation, collection := some "teams" },
            { name := "club", type := .relation, collection := some "teams" }] },
        { name := "teams", fields := [{ name := "name", type := .text }] }] }

def affiliatedCatalog : Catalog := affiliated.toCatalog.toOption.getD default

def affiliatedScope : Scope :=
  { catalog := affiliatedCatalog, base := (affiliatedCatalog.find? "posts").getD default }

set_option maxRecDepth 4000 in
/-- The team and the club of an author share the join of the author, which comes first in either
order; the two other joins change places. -/
theorem resolve_either_order_teams :
    affiliated.toCatalog = .ok affiliatedCatalog ∧
      ∃ a b js b' a' js',
        ResolvesBoth { scope := affiliatedScope } "author.team.name" "author.club.name" a b js ∧
          ResolvesBoth { scope := affiliatedScope } "author.club.name" "author.team.name" b' a'
            js' ∧
          js.map Join.name = ["posts_author", "posts_author_team", "posts_author_club"] ∧
          js'.map Join.name = ["posts_author", "posts_author_club", "posts_author_team"] ∧
          a.Renumbered a' ∧ b.Renumbered b' ∧
            (js.map Join.written).Perm (js'.map Join.written) := by
  obtain ⟨a, b, js, h, hjs⟩ : ∃ a b js,
      ResolvesBoth { scope := affiliatedScope } "author.team.name" "author.club.name" a b js ∧
        js.map Join.name = ["posts_author", "posts_author_team", "posts_author_club"] :=
    ⟨_, _, _, ⟨rfl, rfl, rfl⟩, rfl⟩
  obtain ⟨hiff, hsame⟩ :=
    resolve_either_order affiliatedScope .wellFormed "author.team.name" "author.club.name"
  obtain ⟨b', a', js', h'⟩ := hiff.1 ⟨a, b, js, h⟩
  refine ⟨rfl, a, b, js, b', a', js', h, h', hjs, ?_, hsame a b js b' a' js' h h'⟩
  rw [← h'.2.2]
  rfl

/-! ## Once more -/

/-- A path that resolved once resolves again later on, whatever was resolved and built in between.
It registers no join and binds no name but a generated one. -/
theorem resolve_again (h : (r.resolve path).1 = .ok res) (hs : Steps (r.resolve path).2 r') :
    ∃ res', (r'.resolve path).1 = .ok res' ∧ res.Renumbered res' ∧
      (r'.resolve path).2.joins = r'.joins ∧
      ∃ new, (r'.resolve path).2.params.names = r'.params.names ++ new ∧
        ∀ name ∈ new, (∃ n, name = Params.generated n) ∧ res'.params = [name] := by
  obtain ⟨hp, hj, o, ho, hy, names, hnames, -⟩ := resolved_cases h
  have hscope : r'.scope = r.scope := (scope_steps hs).trans (scope_resolve r path)
  have hallowed : r'.allowed = r.allowed := (allowed_steps hs).trans (allowed_resolve r path)
  -- every join of the plan is registered already, as it is written
  have hstay : r'.joins.registerAll (Plan.ofPath r'.scope path).joins = .ok r'.joins := by
    rw [hscope]
    refine Joins.registerAll_of_registered fun j hm => ?_
    obtain ⟨k, hk, ha⟩ := Joins.alike_of_registerAll hj hm
    obtain ⟨more, hmore⟩ := prefix_joins_steps hs
    exact ⟨k, hmore ▸ Joins.named?_append hk, ha⟩
  obtain ⟨res', h'⟩ : ∃ res', (r'.resolve path).1 = .ok res' := by
    refine resolves_iff.2 ⟨?_, ⟨_, hstay⟩, o, ?_⟩
    · rw [hallowed]; exact hp
    · rw [hscope]; exact ho
  obtain ⟨-, hj', o', ho', hy', new, hnew, hgen⟩ := resolved_cases h'
  rw [hscope] at ho'
  obtain rfl : o = o' := Except.ok.inj (ho.symm.trans ho')
  refine ⟨res', h', hy.renumbered hy', Except.ok.inj (hj'.symm.trans hstay), new, ?_, hgen⟩
  -- the names of the plan were bound the first time
  rw [hnew, hscope, names_setAll_of_subset]
  intro name hm
  refine names_steps hs (hnames ▸ ?_)
  exact List.mem_append_left _ (mem_names_setAll _ hm)

def submittedScope : Scope :=
  { authoredScope with
    request := some { method := "POST", body := [("author", .plain (.text "r1"))] } }

def afterEmail : Resolver :=
  (resolve { scope := submittedScope } "@request.body.author.email").2

def afterMethod : Resolver := ((afterEmail.resolve "author.nope").2.resolve "@request.method").2

set_option maxRecDepth 4000 in
theorem resolve_again_email :
    (resolve { scope := submittedScope } "@request.body.author.email").1 =
        .ok { value := .column "__data_users_author" "email" } ∧
      (afterEmail.resolve "author.nope").1 = .error (.unknownField "author.nope") ∧
      afterMethod.params.names = ["__data_users_author__0", "p1"] ∧
      ∃ res', (afterMethod.resolve "@request.body.author.email").1 = .ok res' ∧
        Resolution.Renumbered { value := .column "__data_users_author" "email" } res' ∧
        (afterMethod.resolve "@request.body.author.email").2.joins = afterMethod.joins ∧
        ∃ new, (afterMethod.resolve "@request.body.author.email").2.params.names =
            afterMethod.params.names ++ new ∧
          ∀ name ∈ new, (∃ n, name = Params.generated n) ∧ res'.params = [name] := by
  refine ⟨rfl, rfl, rfl, ?_⟩
  have hs : Steps afterEmail afterMethod :=
    .tail (.single (.path _ "author.nope")) (.path _ "@request.method")
  exact resolve_again rfl hs

end Resolver

end RecordFilter
