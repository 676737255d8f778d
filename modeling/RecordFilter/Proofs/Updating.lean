import RecordFilter.Proofs.History
import RecordFilter.Proofs.Query

/-!
# Bringing a resolver into a query

`updateQuery` adds the joins that a query lacks and sets the parameters. It succeeds if no alias
stands for another join in the query, and then doing it again changes nothing
(`Resolver.updateQuery_spec`). That the aliases of a resolver are distinct decides both: a join
that was just added never meets another one of its alias.
-/

namespace RecordFilter

open Sql (Join Params Select)

/-! ## Values that are there already -/

theorem Json.put_of_find? {α : Type} {key : String} {value : α} {ms : List (String × α)}
    (h : find? key ms = some value) : put key value ms = ms := by
  induction ms with
  | nil => cases h
  | cons m ms ih =>
    obtain ⟨k, v⟩ := m
    unfold find? at h
    unfold put
    split
    · next hk =>
      rw [if_pos hk] at h
      rw [Option.some.inj h]
    · next hk =>
      rw [if_neg hk] at h
      rw [ih h]

theorem Sql.Params.set_of_find? {ps : Params} {name : String} {v : Json}
    (h : ps.find? name = some v) : ps.set name v = ps := by
  rw [set, Json.put_of_find? h]

theorem Resolver.setAll_of_find? {ps : Params} {bs : List (String × Json)}
    (h : ∀ b ∈ bs, ps.find? b.1 = some b.2) : setAll ps bs = ps := by
  induction bs with
  | nil => rfl
  | cons b bs ih =>
    rw [List.forall_mem_cons] at h
    rw [setAll_cons, Params.set_of_find? h.1, ih h.2]

/-! ## Joins that are there already -/

namespace Sql.Select

variable {q : Select} {j : Join} {name : String}

theorem not_conflicts_iff :
    ¬ q.Conflicts j ↔ ∀ k, q.join? j.name = some k → k.alike j = true := by
  simp [Conflicts]

theorem join?_addJoin_of_ne (h : j.name ≠ name) : (q.addJoin j).join? name = q.join? name := by
  simp [addJoin, join?, List.find?_append, h]

theorem conflicts_addJoin_iff {i : Join} (h : j.name ≠ i.name) :
    (q.addJoin j).Conflicts i ↔ q.Conflicts i := by
  rw [Conflicts, join?_addJoin_of_ne h, Conflicts]

theorem has_addJoin (h : q.join? j.name = none) : (q.addJoin j).Has j := by
  refine ⟨j, ?_, Join.alike_refl j⟩
  rw [join?] at h
  simp [addJoin, join?, List.find?_append, h]

theorem Has.append (h : q.Has j) (added : List Join) :
    Has { q with joins := q.joins ++ added } j := by
  obtain ⟨k, hk, ha⟩ := h
  refine ⟨k, ?_, ha⟩
  rw [join?] at hk
  simp [join?, List.find?_append, hk]

end Sql.Select

namespace Resolver

variable {q : Select} {js : List Join}

theorem addJoins_eq_none_iff (hn : (js.map Join.name).Nodup) :
    (addJoins q js).1 = none ↔ ∀ j ∈ js, ¬ q.Conflicts j := by
  induction js generalizing q with
  | nil => simp [addJoins]
  | cons j js ih =>
    rw [List.map_cons, List.nodup_cons] at hn
    rw [List.forall_mem_cons, Select.not_conflicts_iff]
    unfold addJoins
    split
    · next hj =>
      have hc : ∀ i ∈ js, ((q.addJoin j).Conflicts i ↔ q.Conflicts i) := fun i hi =>
        Select.conflicts_addJoin_iff fun he => hn.1 (he ▸ List.mem_map_of_mem hi)
      rw [ih hn.2, hj]
      simp +contextual [hc]
    · next k hk =>
      rw [hk]
      split
      · next ha => simp [ih hn.2, ha]
      · next ha => simp [ha]

/-- The joins that the query lacks are added, in their order. -/
theorem joins_addJoins (hn : (js.map Join.name).Nodup) (h : (addJoins q js).1 = none) :
    (addJoins q js).2.joins = q.joins ++ js.filter fun j => (q.join? j.name).isNone := by
  induction js generalizing q with
  | nil => simp [addJoins]
  | cons j js ih =>
    rw [List.map_cons, List.nodup_cons] at hn
    unfold addJoins at h ⊢
    split
    · next hj =>
      have hf : js.filter (fun i => ((q.addJoin j).join? i.name).isNone) =
          js.filter fun i => (q.join? i.name).isNone := by
        refine List.filter_congr fun i hi => ?_
        rw [Select.join?_addJoin_of_ne fun he => hn.1 (he ▸ List.mem_map_of_mem hi)]
      simp only [hj] at h
      rw [ih hn.2 h, hf, List.filter_cons_of_pos (by simp [hj])]
      simp [Select.addJoin]
    · next k hk =>
      simp only [hk] at h
      split
      · next ha =>
        rw [if_pos ha] at h
        rw [ih hn.2 h, List.filter_cons_of_neg (by simp [hk])]
      · next ha =>
        rw [if_neg ha] at h
        cases h

theorem has_addJoins (h : (addJoins q js).1 = none) : ∀ j ∈ js, (addJoins q js).2.Has j := by
  induction js generalizing q with
  | nil => rintro _ ⟨⟩
  | cons j js ih =>
    -- what the query has stays in it while the other joins are brought in
    have keep {q : Select} (hj : q.Has j) : (addJoins q js).2.Has j := by
      obtain ⟨added, -, he⟩ := addJoins_adds q js
      exact he ▸ hj.append added
    rw [List.forall_mem_cons]
    unfold addJoins at h ⊢
    split
    · next hj =>
      simp only [hj] at h
      exact ⟨keep (Select.has_addJoin hj), ih h⟩
    · next k hk =>
      simp only [hk] at h
      split
      · next ha =>
        rw [if_pos ha] at h
        exact ⟨keep ⟨k, hk, ha⟩, ih h⟩
      · next ha =>
        rw [if_neg ha] at h
        cases h

theorem addJoins_of_has (h : ∀ j ∈ js, q.Has j) : addJoins q js = (none, q) := by
  induction js with
  | nil => rfl
  | cons j js ih =>
    rw [List.forall_mem_cons] at h
    obtain ⟨k, hk, ha⟩ := h.1
    unfold addJoins
    simp only [hk, if_pos ha]
    exact ih h.2

/-! ## Updating a query -/

variable {r : Resolver}

theorem updateQuery_ok_iff : (r.updateQuery q).1 = .ok () ↔ (addJoins q r.joins).1 = none := by
  unfold updateQuery
  obtain ⟨name?, q'⟩ := addJoins q r.joins
  cases name? <;> simp

theorem updateQuery_of_addJoins {q' : Select} (h : addJoins q r.joins = (none, q')) :
    r.updateQuery q = (.ok (), { q' with
      params := setAll q'.params r.params.entries
      isDistinct := q'.isDistinct || !r.joins.isEmpty }) := by
  unfold updateQuery
  rw [h]

/-- A query that has the joins and the parameters is left as it is. -/
theorem updateQuery_of_has (hj : ∀ j ∈ r.joins, q.Has j)
    (hp : ∀ b ∈ r.params.entries, q.params.find? b.1 = some b.2)
    (hd : r.joins ≠ [] → q.isDistinct = true) : r.updateQuery q = (.ok (), q) := by
  have hb : (q.isDistinct || !r.joins.isEmpty) = q.isDistinct := by
    cases he : r.joins.isEmpty with
    | true => simp
    | false => simp [hd (by simpa using he)]
  rw [updateQuery_of_addJoins (addJoins_of_has hj), setAll_of_find? hp, hb]

theorem Reachable.nodup_joins {s : Scope} {allowed : AllowedPaths} (h : Reachable s allowed r) :
    (r.joins.map Join.name).Nodup := ((InScope.fresh s allowed).steps h.steps).nodup

/-- Updating a query succeeds if and only if every join of the resolver whose alias is in the query
is the first one there under this alias. Then the query has the joins that it lacked after its own,
lists distinct rows if there is any join, has the parameters of the resolver with their values and
is otherwise as it was; and updating it again changes nothing. -/
theorem updateQuery_spec {s : Scope} {allowed : AllowedPaths} {r : Resolver}
    (hr : Reachable s allowed r) (q : Select) :
    ((r.updateQuery q).1 = .ok () ↔
      ∀ j ∈ r.joins, ∀ k, q.join? j.name = some k → k.alike j = true) ∧
    ((r.updateQuery q).1 = .ok () →
      (r.updateQuery q).2.table = q.table ∧
      (r.updateQuery q).2.joins =
        q.joins ++ r.joins.filter (fun j => (q.join? j.name).isNone) ∧
      ((r.updateQuery q).2.isDistinct = true ↔ q.isDistinct = true ∨ r.joins ≠ []) ∧
      (r.updateQuery q).2.conditions = q.conditions ∧
      (∀ name, (r.updateQuery q).2.params.find? name =
        (r.params.find? name).or (q.params.find? name)) ∧
      r.updateQuery (r.updateQuery q).2 = (.ok (), (r.updateQuery q).2)) := by
  have hj : (r.joins.map Join.name).Nodup := hr.nodup_joins
  have hp : (r.params.entries.map Prod.fst).Nodup := hr.nodup_names
  constructor
  · simp only [updateQuery_ok_iff, addJoins_eq_none_iff hj, Select.not_conflicts_iff]
  · intro h
    have hnone : (addJoins q r.joins).1 = none := updateQuery_ok_iff.1 h
    obtain ⟨added, -, hq⟩ := addJoins_adds q r.joins
    have hadded : q.joins ++ added =
        q.joins ++ r.joins.filter fun j => (q.join? j.name).isNone := by
      rw [← joins_addJoins hj hnone, hq]
    have hhas := has_addJoins hnone
    rw [hq] at hhas
    rw [updateQuery_of_addJoins (Prod.ext hnone hq)]
    refine ⟨rfl, hadded, by simp, rfl, fun name => find?_setAll hp, ?_⟩
    refine updateQuery_of_has hhas (fun b hb => ?_) (fun hne => by simp [hne])
    show (setAll q.params r.params.entries).find? b.1 = some b.2
    rw [find?_setAll hp, Json.find?_of_mem hp hb, Option.some_or]

def byAuthorBuilt : Resolver := (Filter.byAuthor.condition { scope := Filter.linkedScope }).2

set_option maxRecDepth 4000 in
/-- The join of the author comes after the one that the query has, once. -/
theorem updateQuery_spec_author :
    (byAuthorBuilt.updateQuery Filter.takenTopic).1 = .ok () ∧
      (byAuthorBuilt.updateQuery Filter.takenTopic).2.joins.map Join.name =
        ["posts_topic", "posts_author"] ∧
      byAuthorBuilt.updateQuery (byAuthorBuilt.updateQuery Filter.takenTopic).2 =
        (.ok (), (byAuthorBuilt.updateQuery Filter.takenTopic).2) := by
  have hr : Reachable Filter.linkedScope .wellFormed byAuthorBuilt := .build .fresh _
  have h := (updateQuery_spec hr Filter.takenTopic).2 rfl
  exact ⟨rfl, rfl, h.2.2.2.2.2⟩

end Resolver

end RecordFilter
