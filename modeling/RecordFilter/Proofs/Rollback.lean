import RecordFilter.Catalog.Definition
import RecordFilter.Proofs.Reachable

/-!
# What a failed path leaves behind

A path that fails drops the joins and the parameters that it added. A parameter that it set in
place of another value keeps the new value: `resolve_error_restores_iff` says that this happens
only below submitted records, whose aliases do not tell apart all pairs of a collection and a key.
-/

namespace RecordFilter

namespace Resolver

variable {s : Scope} {allowed : AllowedPaths} {r : Resolver} {path : String}

/-- Whether a path is carried out from submitted records, and the parameter of one of their ids is
bound to something else. -/
def Overwrites (r : Resolver) (path : String) : Prop :=
  Path.isWellFormed path = true ∧ r.allowed.admits path = true ∧
    ∃ target key ids multiple rest,
      Plan.Starts r.scope path (.submitted target key ids multiple) rest ∧
        ∃ b ∈ (Root.submitted target key ids multiple).bindings,
          ∃ v, r.params.find? b.1 = some v ∧ v ≠ b.2

theorem discard_eq_iff {ps : Sql.Params} :
    r.discard ps = r ↔ ps.rollback r.params.mark = r.params := by
  constructor
  · intro h
    exact congrArg Resolver.params h
  · intro h
    unfold discard
    rw [h]

/-- Outside of submitted records a failing plan binds no name to another value than it has. The
items of a field do not fail once they are bound, because their join is registered then. -/
theorem binds_same_or_submitted (h : Consistent s r)
    (hf : (∃ name, r.joins.registerAll (Plan.ofPath s path).joins = .error name) ∨
      ∃ e, (Plan.ofPath s path).outcome = .error e) :
    (∀ b ∈ (Plan.ofPath s path).bindings, ∀ v, r.params.find? b.1 = some v → v = b.2) ∨
      ∃ target key ids multiple rest,
        Plan.Starts s path (.submitted target key ids multiple) rest := by
  by_cases he : "" ∈ Plan.segmentsOf path
  · rw [Plan.ofPath_of_emptySegment he]
    exact .inl (by rintro _ ⟨⟩)
  have hk := Plan.kind_ofPath s path
  generalize Plan.ofPath s path = p at hk hf
  cases hk with
  | fail | constant | bound => exact .inl (by rintro _ ⟨⟩)
  | @below root rest hs =>
    have hstart : Plan.Starts s path root rest := ⟨he, hs⟩
    rw [Plan.bindings_below]
    generalize Plan.segmentsOf path = segments at hs
    cases hs with
    | base | anyOf => exact .inl (by rintro _ ⟨⟩)
    | @auth request a c first name rest own modifier hq hr hm ho hd hc =>
      left
      intro b hb v hv
      obtain rfl : b = (Root.authName c, .text a.id) := List.mem_singleton.1 hb
      exact h.auth request a hq hr c v hv
    | submitted hq hm hi hf hr hc hn =>
      exact .inr ⟨_, _, _, _, _, hstart⟩
  | @items request key f hq hf' hk =>
    left
    intro b hb v hv
    obtain rfl : b = _ := List.mem_singleton.1 hb
    obtain ⟨k, hk, ha⟩ := h.items key (Sql.Params.mem_names_of_find? hv)
    have hj := Sql.Joins.registerAll_singleton hk ha
    rcases hf with ⟨name, hf⟩ | ⟨e, hf⟩
    · cases hf.symm.trans hj
    · cases hf

theorem failed_of_commit {p : Plan} {e : PathError} (he : (r.commit p).1 = .error e) :
    r.commit p = (.error e, r.discard (setAll r.params p.bindings)) ∧
      ((∃ name, r.joins.registerAll p.joins = .error name) ∨ ∃ e, p.outcome = .error e) := by
  rcases commit_cases r p with ⟨e', hc, hf⟩ | ⟨joins, res, -, -, hc⟩ | ⟨joins, v, lower, -, -, hc⟩
  · rw [hc] at he
    cases he
    exact ⟨hc, hf.imp (fun ⟨name, _, hj⟩ => ⟨name, hj⟩) fun ho => ⟨_, ho⟩⟩
  · rw [hc] at he; cases he
  · rw [hc] at he; cases he

/-- A failed path adds no join, no parameter and takes no number. It leaves the resolver as it was
unless it sets the parameter of a submitted id that is bound to something else. -/
theorem resolve_error_restores_iff {e : PathError} (hr : Reachable s allowed r)
    (he : (r.resolve path).1 = .error e) :
    (r.resolve path).2.joins = r.joins ∧
      (r.resolve path).2.params.names = r.params.names ∧
      (r.resolve path).2.params.last = r.params.last ∧
      ((r.resolve path).2 = r ↔ ¬ r.Overwrites path) := by
  have hcons := hr.consistent
  rcases resolve_cases r path with ⟨⟨e', h⟩, hn⟩ | ⟨hw, ha, h⟩
  · rw [h]
    exact ⟨rfl, rfl, rfl, by simp; exact fun ho => hn ⟨ho.1, ho.2.1⟩⟩
  · rw [h, hcons.scope] at he ⊢
    obtain ⟨hc, hf⟩ := failed_of_commit he
    rw [hc]
    refine ⟨rfl, names_rollback_setAll _ _, rfl, ?_⟩
    rw [discard_eq_iff,
      rollback_setAll_eq_iff hr.nodup_names (Plan.safe_ofPath s path).nodup]
    constructor
    · rintro hsame ⟨-, -, target, key, ids, multiple, rest, hs, b, hb, v, hv, hne⟩
      rw [hcons.scope] at hs
      rw [Plan.ofPath_of_starts hs, Plan.bindings_below] at hsame
      exact hne (hsame b hb v hv)
    · intro ho
      rcases binds_same_or_submitted hcons hf with hsame | ⟨target, key, ids, multiple, rest, hs⟩
      · exact hsame
      · intro b hb v hv
        by_contra hne
        rw [Plan.ofPath_of_starts hs, Plan.bindings_below] at hb
        rw [← hcons.scope] at hs
        exact ho ⟨hw, ha, target, key, ids, multiple, rest, hs, b, hb, v, hv, hne⟩

/-! ## Two keys under one alias

`b_c` in a relation to `a` and `c` in a relation to `a_b` have the alias `__data_a_b_c`. -/

def toOne (name target : String) : FieldDefinition :=
  { name, type := .relation, collection := some target }

def clashing : Definitions :=
  { collections :=
      [{ name := "posts", fields := [toOne "c" "a_b", toOne "b_c" "a"] },
        { name := "a", fields := [{ name := "title", type := .text }] },
        { name := "a_b", fields := [{ name := "title", type := .text }] }] }

def clashingCatalog : Catalog := clashing.toCatalog.toOption.getD default

def clashingScope : Scope :=
  { catalog := clashingCatalog
    base := (clashingCatalog.find? "posts").getD default
    request := some { body := [("c", .plain (.text "r1")), ("b_c", .plain (.text "r2"))] } }

def afterFirstKey : Resolver :=
  (resolve { scope := clashingScope, allowed := .wellFormed } "@request.body.c.title").2

set_option maxRecDepth 4000 in
/-- Reading below the other field fails, and the id of the first is gone. -/
theorem resolve_error_overwrites_id :
    clashing.toCatalog = .ok clashingCatalog ∧
      Reachable clashingScope .wellFormed afterFirstKey ∧
      (afterFirstKey.resolve "@request.body.b_c.title").1 =
        .error (.ambiguousAlias "__data_a_b_c") ∧
      afterFirstKey.params.find? "__data_a_b_c__0" = some (.text "r1") ∧
      (afterFirstKey.resolve "@request.body.b_c.title").2.params.find? "__data_a_b_c__0" =
        some (.text "r2") :=
  ⟨rfl, .resolve .fresh _, rfl, rfl, rfl⟩

set_option maxRecDepth 4000 in
theorem resolve_error_restores_same_id :
    (afterFirstKey.resolve "@request.body.c.title:length").1 =
        .error (.invalidModifier "length" "@request.body.c.title:length") ∧
      (afterFirstKey.resolve "@request.body.c.title:length").2 = afterFirstKey := by
  have hb : (Plan.ofPath clashingScope "@request.body.c.title:length").bindings =
      [("__data_a_b_c__0", .text "r1")] := rfl
  refine ⟨rfl, (resolve_error_restores_iff (.resolve .fresh _) rfl).2.2.2.2 ?_⟩
  rintro ⟨-, -, target, key, ids, multiple, rest, hs, b, hm, v, hv, hne⟩
  change Plan.Starts clashingScope _ _ _ at hs
  rw [← Plan.bindings_below clashingScope, ← Plan.ofPath_of_starts hs, hb] at hm
  obtain rfl := List.mem_singleton.1 hm
  have hf : afterFirstKey.params.find? "__data_a_b_c__0" = some (.text "r1") := rfl
  exact hne (Option.some.inj (hv.symm.trans hf))

end Resolver

end RecordFilter
