import RecordFilter.Sql.Join

/-!
# Registered joins

Joins are registered by alias: the same join once, and no two different joins under one alias.
`register` adds one join, `registerAll` several in order.
-/

namespace RecordFilter.Sql

abbrev Joins := List Join

namespace Joins

def named? (js : Joins) (name : String) : Option Join := js.find? (·.name == name)

/-- Registers a join and says whether it is new. An alias that stands for another join is an
error. -/
def register (js : Joins) (j : Join) : Except String (Bool × Joins) :=
  match js.named? j.name with
  | none => .ok (true, js ++ [j])
  | some k => if k.alike j then .ok (false, js) else .error j.name

/-- Registers joins in order, up to the first whose alias stands for another one. -/
def registerAll (js : Joins) : List Join → Except String Joins
  | [] => .ok js
  | j :: rest =>
    match js.register j with
    | .ok (_, js) => js.registerAll rest
    | .error name => .error name

theorem named?_eq_none_iff {js : Joins} {name : String} :
    js.named? name = none ↔ name ∉ js.map Join.name := by
  simp [named?]

theorem name_of_named? {js : Joins} {name : String} {j : Join} (h : js.named? name = some j) :
    j.name = name := by
  simpa using List.find?_some h

/-- Registering keeps what is registered and adds at most the join itself. -/
theorem register_eq_ok {js ks : Joins} {j : Join} {isNew : Bool}
    (h : js.register j = .ok (isNew, ks)) : ks = if isNew then js ++ [j] else js := by
  unfold register at h
  split at h
  · simp only [Except.ok.injEq, Prod.mk.injEq] at h
    obtain ⟨rfl, rfl⟩ := h
    rfl
  · split at h
    · simp only [Except.ok.injEq, Prod.mk.injEq] at h
      obtain ⟨rfl, rfl⟩ := h
      rfl
    · simp at h

theorem nodup_register {js ks : Joins} {j : Join} {isNew : Bool}
    (hjs : (js.map Join.name).Nodup) (h : js.register j = .ok (isNew, ks)) :
    (ks.map Join.name).Nodup := by
  unfold register at h
  split at h
  · next hn =>
    simp only [Except.ok.injEq, Prod.mk.injEq] at h
    obtain ⟨-, rfl⟩ := h
    rw [List.map_append, List.nodup_append]
    exact ⟨hjs, by simp, by
      rintro a ha b hb rfl
      exact named?_eq_none_iff.1 hn (by simp_all)⟩
  · split at h
    · simp only [Except.ok.injEq, Prod.mk.injEq] at h
      obtain ⟨-, rfl⟩ := h
      exact hjs
    · simp at h

end Joins

end RecordFilter.Sql
