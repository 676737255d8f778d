import RecordFilter.Catalog.Definition
import RecordFilter.Proofs.Reachable

/-!
# Filters in a query that has something already

`apply` brings joins, parameters and a condition into a query. Joins are compared with those of the
query one by one, so a conflict leaves the joins before it in place
(`Filter.apply_error_unchanged_iff`). Parameters are not compared, so a name that the resolver has
bound takes its value (`Filter.find?_apply_iff`).
-/

namespace RecordFilter

open Sql (Join Params Select Condition)

namespace Sql.Select

/-- A join is in the query as it is written. -/
def Has (q : Select) (j : Join) : Prop := ∃ k, q.join? j.name = some k ∧ k.alike j = true

/-- The alias of a join stands for another one in the query. -/
def Conflicts (q : Select) (j : Join) : Prop := ∃ k, q.join? j.name = some k ∧ k.alike j = false

/-- One of the joins conflicts with the query, and the query has all those before it. -/
def ConflictsFirst (q : Select) (js : List Join) : Prop :=
  ∃ pre j post, js = pre ++ j :: post ∧ (∀ i ∈ pre, q.Has i) ∧ q.Conflicts j

variable {q : Select} {j : Join} {js : List Join}

theorem conflictsFirst_of_conflicts (h : q.Conflicts j) : q.ConflictsFirst (j :: js) :=
  ⟨[], j, js, rfl, by simp, h⟩

theorem not_conflictsFirst_of_new (h : q.join? j.name = none) :
    ¬ q.ConflictsFirst (j :: js) := by
  rintro ⟨pre, i, post, he, hp, k, hk, -⟩
  cases pre with
  | nil =>
    obtain ⟨rfl, -⟩ := List.cons.inj he
    rw [h] at hk
    cases hk
  | cons i' pre =>
    obtain ⟨rfl, -⟩ := List.cons.inj he
    obtain ⟨k, hk, -⟩ := hp j (by simp)
    rw [h] at hk
    cases hk

theorem conflictsFirst_cons (h : q.Has j) :
    q.ConflictsFirst (j :: js) ↔ q.ConflictsFirst js := by
  constructor
  · rintro ⟨pre, i, post, he, hp, hc⟩
    cases pre with
    | nil =>
      obtain ⟨rfl, -⟩ := List.cons.inj he
      obtain ⟨k, hk, ha⟩ := h
      obtain ⟨l, hl, hn⟩ := hc
      obtain rfl : k = l := Option.some.inj (hk.symm.trans hl)
      rw [ha] at hn
      cases hn
    | cons i' pre =>
      obtain ⟨rfl, rfl⟩ := List.cons.inj he
      exact ⟨pre, i, post, rfl, fun k hk => hp k (List.mem_cons_of_mem _ hk), hc⟩
  · rintro ⟨pre, i, post, rfl, hp, hc⟩
    refine ⟨j :: pre, i, post, rfl, ?_, hc⟩
    intro k hk
    rcases List.mem_cons.1 hk with rfl | hk
    · exact h
    · exact hp k hk

/-! ### Conditions -/

@[simp] theorem table_addCondition (q : Select) (c : Condition) :
    (q.addCondition c).table = q.table := by
  unfold addCondition; split <;> rfl

@[simp] theorem joins_addCondition (q : Select) (c : Condition) :
    (q.addCondition c).joins = q.joins := by
  unfold addCondition; split <;> rfl

@[simp] theorem params_addCondition (q : Select) (c : Condition) :
    (q.addCondition c).params = q.params := by
  unfold addCondition; split <;> rfl

theorem conditions_addCondition (q : Select) (c : Condition) :
    (q.addCondition c).conditions =
      q.conditions ++ if (Text.trim c.text.toList).isEmpty then [] else [c] := by
  unfold addCondition
  split
  · simp
  · rfl

end Sql.Select

namespace Resolver

variable {q : Select} {js : List Join} {name : String}

/-! ## Bringing joins in -/

theorem addJoins_adds (q : Select) (js : List Join) :
    ∃ added, added.Sublist js ∧ (addJoins q js).2 = { q with joins := q.joins ++ added } := by
  induction js generalizing q with
  | nil => exact ⟨[], .refl _, by simp [addJoins]⟩
  | cons j js ih =>
    unfold addJoins
    split
    · obtain ⟨added, hs, he⟩ := ih (q.addJoin j)
      exact ⟨j :: added, hs.cons_cons j, by rw [he]; simp [Select.addJoin]⟩
    · split
      · obtain ⟨added, hs, he⟩ := ih q
        exact ⟨added, hs.cons j, he⟩
      · exact ⟨[], List.nil_sublist _, by simp⟩

/-- A conflict leaves the query as it was if and only if no join before it is new. -/
theorem addJoins_error_eq_iff (h : (addJoins q js).1 = some name) :
    (addJoins q js).2 = q ↔ q.ConflictsFirst js := by
  induction js generalizing q with
  | nil => cases h
  | cons j js ih =>
    unfold addJoins at h ⊢
    split
    · next hn =>
      constructor
      · intro he
        obtain ⟨added, -, ha⟩ := addJoins_adds (q.addJoin j) js
        have hj : q.joins = (q.joins ++ [j]) ++ added := by
          rw [ha] at he
          exact (congrArg Select.joins he).symm
        have hl := congrArg List.length hj
        simp only [List.length_append, List.length_singleton] at hl
        omega
      · intro hc
        exact absurd hc (Select.not_conflictsFirst_of_new hn)
    · next k hk =>
      simp only [hk] at h
      split
      · next ha =>
        rw [if_pos ha] at h
        rw [Select.conflictsFirst_cons ⟨k, hk, ha⟩]
        exact ih h
      · next ha =>
        rw [Bool.not_eq_true] at ha
        simp only [true_iff]
        exact Select.conflictsFirst_of_conflicts ⟨k, hk, ha⟩

end Resolver

/-! ## Failed filters -/

namespace Filter

variable {f : Filter} {r : Resolver} {q : Select}

/-- A filter fails when it is built, when its joins are brought in, or not at all. -/
theorem apply_cases (f : Filter) (r : Resolver) (q : Select) :
    (∃ e, (f.condition r).1 = .error e ∧ f.apply r q = (.error e, (f.condition r).2, q)) ∨
    (∃ c name, (f.condition r).1 = .ok c ∧
      (Resolver.addJoins q (f.condition r).2.joins).1 = some name ∧
      f.apply r q = (.error (.path (.ambiguousAlias name)), (f.condition r).2,
        (Resolver.addJoins q (f.condition r).2.joins).2)) ∨
    (∃ c, (f.condition r).1 = .ok c ∧
      (Resolver.addJoins q (f.condition r).2.joins).1 = none ∧
      f.apply r q = (.ok (), (f.condition r).2,
        Select.addCondition
          { (Resolver.addJoins q (f.condition r).2.joins).2 with
            params := Resolver.setAll (Resolver.addJoins q (f.condition r).2.joins).2.params
              (f.condition r).2.params.entries
            isDistinct := (Resolver.addJoins q (f.condition r).2.joins).2.isDistinct ||
              !(f.condition r).2.joins.isEmpty } c)) := by
  unfold apply Resolver.updateQuery
  obtain ⟨c?, r'⟩ := f.condition r
  cases c? with
  | error e => exact .inl ⟨e, rfl, rfl⟩
  | ok c =>
    simp only
    obtain ⟨name?, q'⟩ := Resolver.addJoins q r'.joins
    cases name? with
    | some name => exact .inr (.inl ⟨c, name, rfl, rfl, rfl⟩)
    | none => exact .inr (.inr ⟨c, rfl, rfl, rfl⟩)

/-- A filter that fails adds no condition and no parameter and does not make the query distinct.
It adds no join either, if and only if it failed to build or a conflict came up before any join
that the query did not have. -/
theorem apply_error_unchanged_iff {e : FilterError} (h : (f.apply r q).1 = .error e) :
    (f.apply r q).2.2.table = q.table ∧
      (f.apply r q).2.2.isDistinct = q.isDistinct ∧
      (f.apply r q).2.2.conditions = q.conditions ∧
      (f.apply r q).2.2.params = q.params ∧
      q.joins <+: (f.apply r q).2.2.joins ∧
      ((f.apply r q).2.2 = q ↔
        (∃ e, (f.condition r).1 = .error e) ∨ q.ConflictsFirst (f.condition r).2.joins) := by
  rcases apply_cases f r q with ⟨e', hc, ha⟩ | ⟨c, name, hc, hj, ha⟩ | ⟨c, -, -, ha⟩
  · rw [ha]
    exact ⟨rfl, rfl, rfl, rfl, List.prefix_rfl, fun _ => .inl ⟨e', hc⟩, fun _ => rfl⟩
  · obtain ⟨added, -, hq⟩ := Resolver.addJoins_adds q (f.condition r).2.joins
    have hiff := Resolver.addJoins_error_eq_iff hj
    rw [ha]
    rw [hq] at hiff ⊢
    refine ⟨rfl, rfl, rfl, rfl, List.prefix_append _ _, ?_⟩
    rw [hiff, hc]
    constructor
    · exact .inr
    · rintro (⟨e', he⟩ | hf)
      · cases he
      · exact hf
  · rw [ha] at h
    cases h

/-! ### A conflict after a new join -/

def linked : Definitions :=
  { collections :=
      [{ name := "posts", fields := [
          { name := "author", type := .relation, collection := some "users" },
          { name := "topic", type := .relation, collection := some "tags" }] },
        { name := "users", fields := [{ name := "name", type := .text }] },
        { name := "tags", fields := [{ name := "label", type := .text }] }] }

def linkedCatalog : Catalog := linked.toCatalog.toOption.getD default

def linkedScope : Scope :=
  { catalog := linkedCatalog, base := (linkedCatalog.find? "posts").getD default }

def takenTopic : Select :=
  { table := "posts", joins := [⟨.table "other", "posts_topic", .always⟩] }

def byAuthor : Filter := .comparison (.field "author.name") ⟨.equal, false⟩ (.text "x")

def byTopic : Filter := .comparison (.field "topic.label") ⟨.equal, false⟩ (.text "y")

set_option maxRecDepth 4000 in
/-- The author is joined before the topic is found to conflict, and stays. -/
theorem apply_error_keeps_join :
    linked.toCatalog = .ok linkedCatalog ∧
      ((group .and [byAuthor, byTopic]).apply { scope := linkedScope } takenTopic).1 =
        .error (.path (.ambiguousAlias "posts_topic")) ∧
      takenTopic.joins.map Join.name = ["posts_topic"] ∧
      ((group .and [byAuthor, byTopic]).apply { scope := linkedScope } takenTopic).2.2.joins.map
        Join.name = ["posts_topic", "posts_author"] :=
  ⟨rfl, rfl, rfl, rfl⟩

set_option maxRecDepth 4000 in
theorem apply_error_unchanged_topic :
    ((group .and [byTopic, byAuthor]).apply { scope := linkedScope } takenTopic).1 =
        .error (.path (.ambiguousAlias "posts_topic")) ∧
      ((group .and [byTopic, byAuthor]).apply { scope := linkedScope } takenTopic).2.2 =
        takenTopic := by
  refine ⟨rfl, (apply_error_unchanged_iff rfl).2.2.2.2.2.2 (.inr ?_)⟩
  exact Select.conflictsFirst_of_conflicts ⟨_, rfl, rfl⟩

/-! ## Filters that are added -/

/-- A filter that does not fail adds joins and a condition, sets the parameters of the resolver and
may make the query distinct. -/
theorem apply_ok (h : (f.apply r q).1 = .ok ()) :
    ∃ c added isDistinct, (f.condition r).1 = .ok c ∧
      (f.apply r q).2.2 = Select.addCondition
        { q with
          joins := q.joins ++ added
          params := Resolver.setAll q.params (f.condition r).2.params.entries
          isDistinct := isDistinct } c := by
  rcases apply_cases f r q with ⟨e', -, ha⟩ | ⟨c, e', -, -, ha⟩ | ⟨c, hc, -, ha⟩
  · rw [ha] at h; cases h
  · rw [ha] at h; cases h
  · obtain ⟨added, -, hq⟩ := Resolver.addJoins_adds q (f.condition r).2.joins
    rw [ha, hq]
    exact ⟨c, added, _, hc, rfl⟩

/-- A filter that is added keeps what the query had in its place. A parameter that the query had
keeps its value if and only if the resolver has not bound its name to another one. The names of a
resolver are distinct from the start on (`Resolver.nodup_steps`). -/
theorem apply_keeps_iff (hn : r.params.names.Nodup) (h : (f.apply r q).1 = .ok ()) :
    (f.apply r q).2.2.table = q.table ∧
      q.joins <+: (f.apply r q).2.2.joins ∧
      q.conditions <+: (f.apply r q).2.2.conditions ∧
      ∀ name v, q.params.find? name = some v →
        ((f.apply r q).2.2.params.find? name = some v ↔
          ∀ w, (f.condition r).2.params.find? name = some w → w = v) := by
  obtain ⟨c, added, isDistinct, hc, hq⟩ := apply_ok h
  have hn' : (f.condition r).2.params.names.Nodup :=
    Resolver.nodup_steps (Builder.steps_build { resolver := r } f) hn
  rw [hq]
  rw [Select.table_addCondition, Select.joins_addCondition, Select.params_addCondition,
    Select.conditions_addCondition]
  refine ⟨rfl, List.prefix_append _ _, List.prefix_append _ _, ?_⟩
  intro name v hv
  have hf : (Resolver.setAll q.params (f.condition r).2.params.entries).find? name =
      ((f.condition r).2.params.find? name).or (q.params.find? name) := Resolver.find?_setAll hn'
  rw [hf, hv]
  cases (f.condition r).2.params.find? name with
  | none => simp
  | some w => simp

/-! ### A value that is shared -/

def tagged : Definitions :=
  { collections :=
      [{ name := "posts", fields := [{ name := "title", type := .text },
          { name := "tags", type := .select, multiple := true }] }] }

def taggedCatalog : Catalog := tagged.toCatalog.toOption.getD default

def taggedResolver : Resolver :=
  { scope :=
      { catalog := taggedCatalog
        base := (taggedCatalog.find? "posts").getD default
        request := some { body := [("tags", .plain (.text "x"))] } } }

def tagIsTitle : Filter :=
  .comparison (.field "@request.body.tags:each") ⟨.equal, true⟩ (.field "title")

def titleHasTag : Filter :=
  .comparison (.field "title") ⟨.like, true⟩ (.field "@request.body.tags:each")

def withFirst : Resolver × Select := (tagIsTitle.apply taggedResolver { table := "posts" }).2

set_option maxRecDepth 4000 in
/-- The second filter makes a pattern of the list of tags that the first one reads. -/
theorem apply_changes_shared :
    tagged.toCatalog = .ok taggedCatalog ∧
      (tagIsTitle.apply taggedResolver { table := "posts" }).1 = .ok () ∧
      withFirst.2.params.find? "__dataEach_tags_je__items" = some (.text "[\"x\"]") ∧
      (titleHasTag.apply withFirst.1 withFirst.2).1 = .ok () ∧
      (titleHasTag.apply withFirst.1 withFirst.2).2.2.params.find? "__dataEach_tags_je__items" =
        some (.text "%[\"x\"]%") :=
  ⟨rfl, rfl, rfl, rfl, rfl⟩

def ofOwner : Select := Select.bind { table := "posts" } "owner" (.text "ann")

set_option maxRecDepth 4000 in
theorem apply_keeps_owner :
    (tagIsTitle.apply taggedResolver ofOwner).1 = .ok () ∧
      (tagIsTitle.apply taggedResolver ofOwner).2.2.params.find? "owner" =
        some (.text "ann") := by
  have hn : taggedResolver.params.names.Nodup := List.nodup_nil
  have hf : (tagIsTitle.condition taggedResolver).2.params.find? "owner" = none := rfl
  refine ⟨rfl, ((apply_keeps_iff hn rfl).2.2.2 "owner" _ rfl).2 ?_⟩
  intro w hw
  cases hf.symm.trans hw

end Filter

end RecordFilter
