import RecordFilter.Proofs.Order

/-!
# The paths that resolved

The joins of a resolver are those of the paths that resolved on it, each registered as it is
written. A `Resolver.History` keeps track of these paths, whatever else is done with the resolver
(`Resolver.exists_history`).
-/

namespace RecordFilter

open Sql (Join Joins)

namespace Resolver

variable {s : Scope} {allowed : AllowedPaths} {paths : List String} {path p q : String}
  {r : Resolver} {j k : Join}

/-- A resolver with the paths that resolved on it, the last one first. Others may have failed in
between, and values may have been bound. -/
inductive History (s : Scope) (allowed : AllowedPaths) : List String → Resolver → Prop
  | fresh : History s allowed [] { scope := s, allowed := allowed }
  | resolved {paths : List String} {r : Resolver} {path : String} {res : Resolution}
      (h : History s allowed paths r) (hr : (r.resolve path).1 = .ok res) :
      History s allowed (path :: paths) (r.resolve path).2
  | failed {paths : List String} {r : Resolver} {path : String} {e : PathError}
      (h : History s allowed paths r) (hr : (r.resolve path).1 = .error e) :
      History s allowed paths (r.resolve path).2
  | literal {paths : List String} {r : Resolver} (h : History s allowed paths r) (v : Json) :
      History s allowed paths (r.bind v).2
  | pattern {paths : List String} {r : Resolver} {name : String} (h : History s allowed paths r)
      (hn : IsValueName name) :
      History s allowed paths { r with params := patternParam r.params name }

theorem History.steps (h : History s allowed paths r) :
    Steps { scope := s, allowed := allowed } r := by
  induction h with
  | fresh => exact .refl
  | resolved _ _ ih | failed _ _ ih => exact ih.tail (.path _ _)
  | literal _ v ih => exact ih.tail (.literal _ v)
  | pattern _ hn ih => exact ih.tail (.pattern _ hn)

/-- Whatever is done with a resolver, there are paths that resolved on it. -/
theorem exists_history (h : Steps { scope := s, allowed := allowed } r) :
    ∃ paths, History s allowed paths r := by
  induction h with
  | refl => exact ⟨[], .fresh⟩
  | tail _ hs ih =>
    obtain ⟨paths, h⟩ := ih
    cases hs with
    | path path =>
      cases hr : (Resolver.resolve _ path).1 with
      | ok res => exact ⟨path :: paths, h.resolved hr⟩
      | error e => exact ⟨paths, h.failed hr⟩
    | literal v => exact ⟨paths, h.literal v⟩
    | pattern hn => exact ⟨paths, h.pattern hn⟩

theorem joins_of_error {e : PathError} (h : (r.resolve path).1 = .error e) :
    (r.resolve path).2.joins = r.joins := by
  rcases resolve_outcomes r path with ⟨e', ps, hr, -⟩ | ⟨joins, res, -, -, hr⟩ |
    ⟨joins, v, lower, -, -, hr⟩
  · rw [hr]
  · rw [hr] at h; cases h
  · rw [hr] at h; cases h

/-- Every registered join is one of a path that resolved. -/
theorem History.mem_joins (h : History s allowed paths r) (hk : k ∈ r.joins) :
    ∃ q ∈ paths, k ∈ (Plan.ofPath s q).joins := by
  induction h with
  | fresh => cases hk
  | @resolved paths r path res h hr ih =>
    obtain ⟨-, hj, -⟩ := resolved_cases hr
    rw [scope_steps h.steps] at hj
    rcases Joins.mem_of_registerAll hj hk with hk | hk
    · obtain ⟨q, hq, hk⟩ := ih hk
      exact ⟨q, List.mem_cons_of_mem _ hq, hk⟩
    · exact ⟨path, List.mem_cons_self, hk⟩
  | failed _ hr ih =>
    rw [joins_of_error hr] at hk
    exact ih hk
  | literal _ _ ih | pattern _ _ ih => exact ih hk

theorem History.registered (h : History s allowed paths r) (hq : q ∈ paths)
    (hj : j ∈ (Plan.ofPath s q).joins) : ∃ k ∈ r.joins, k.written = j.written := by
  induction h with
  | fresh => cases hq
  | @resolved paths r path res h hr ih =>
    obtain ⟨-, hjs, -⟩ := resolved_cases hr
    rw [scope_steps h.steps] at hjs
    rcases List.mem_cons.1 hq with rfl | hq
    · exact Joins.written_of_registerAll hjs (List.mem_append_right _ hj)
    · obtain ⟨k, hk, hw⟩ := ih hq
      exact ⟨k, (Joins.prefix_registerAll hjs).subset hk, hw⟩
  | failed _ hr ih =>
    rw [joins_of_error hr]
    exact ih hq
  | literal _ _ ih | pattern _ _ ih => exact ih hq

theorem History.nodup (h : History s allowed paths r) : (r.joins.map Join.name).Nodup :=
  ((InScope.fresh s allowed).steps h.steps).nodup

theorem History.resolvable (h : History s allowed paths r) (hq : q ∈ paths) :
    Path.isWellFormed q = true ∧ ∃ o, (Plan.ofPath s q).outcome = .ok o := by
  induction h with
  | fresh => cases hq
  | @resolved paths r path res h hr ih =>
    obtain ⟨⟨hw, -⟩, -, o, ho, -⟩ := resolved_cases hr
    rw [scope_steps h.steps] at ho
    rcases List.mem_cons.1 hq with rfl | hq
    · exact ⟨hw, o, ho⟩
    · exact ih hq
  | failed _ _ ih | literal _ _ ih | pattern _ _ ih => exact ih hq

/-- Joins of one alias that paths needed are written the same. -/
theorem History.agree (h : History s allowed paths r) (hp : p ∈ paths) (hq : q ∈ paths) :
    Joins.Agree (Plan.ofPath s p).joins (Plan.ofPath s q).joins := by
  intro j hj k hk hn
  obtain ⟨j', hj', hwj⟩ := h.registered hp hj
  obtain ⟨k', hk', hwk⟩ := h.registered hq hk
  have hn' : j'.name = k'.name := by
    rw [Join.name_of_written hwj, Join.name_of_written hwk, hn]
  rw [← hwj, ← hwk, Joins.compatible_of_nodup h.nodup j' hj' k' hk' hn']

end Resolver

end RecordFilter
