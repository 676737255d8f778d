import RecordFilter.Proofs.Params

/-!
# Runs of a registry

`Reached` are the registries that calls lead to, with the marks that were made on the way. A
rollback may go to any of these, also to one that an earlier rollback has left behind: then names
survive that are younger than the last number. `Search` is the search for a free number, one number
after another; it ends, and it ends at `nextNumber`. `Grown` is what binding adds after a mark, which
a rollback drops again without a trace.
-/

namespace RecordFilter

theorem Json.put_append {α : Type} {key : String} {value : α} {ms ns : List (String × α)}
    (h : key ∉ ms.map Prod.fst) :
    Json.put key value (ms ++ ns) = ms ++ Json.put key value ns := by
  induction ms with
  | nil => rfl
  | cons m ms ih =>
    obtain ⟨k, v⟩ := m
    rw [List.map_cons, List.mem_cons, not_or] at h
    simp [Json.put, Ne.symm h.1, ih h.2]

namespace Sql.Params

variable {ps qs : Params} {marks : List Mark} {m n : Nat}

/-! ## The search for a free number -/

/-- The search for a free name among those of the numbers after `n` comes to `m`. -/
inductive Search (ps : Params) : Nat → Nat → Prop
  | free {n : Nat} (h : generated (n + 1) ∉ ps.names) : Search ps n (n + 1)
  | taken {n m : Nat} (h : generated (n + 1) ∈ ps.names) (later : Search ps (n + 1) m) :
      Search ps n m

theorem Search.unique {k : Nat} (hm : ps.Search n m) (hk : ps.Search n k) : k = m := by
  induction hm with
  | free hf =>
    cases hk with
    | free => rfl
    | taken ht => exact absurd ht hf
  | taken ht _ ih =>
    cases hk with
    | free hf => exact absurd ht hf
    | taken _ later => exact ih later

theorem search_freeAfter {tries : Nat} (h : generated (ps.freeAfter tries n) ∉ ps.names) :
    ps.Search n (ps.freeAfter tries n) := by
  induction tries generalizing n with
  | zero => exact .free h
  | succ tries ih =>
    by_cases ht : generated (n + 1) ∈ ps.names
    · have he : ps.freeAfter (tries + 1) n = ps.freeAfter tries (n + 1) := by
        simp [freeAfter, contains_iff.2 ht]
      rw [he] at h ⊢
      exact .taken ht (ih h)
    · have hc : ps.contains (generated (n + 1)) = false := by
        rw [← Bool.not_eq_true, contains_iff]; exact ht
      have he : ps.freeAfter (tries + 1) n = n + 1 := by simp [freeAfter, hc]
      rw [he]
      exact .free ht

theorem search_iff : ps.Search ps.last m ↔ m = ps.nextNumber := by
  have h : ps.Search ps.last ps.nextNumber := search_freeAfter (generated_nextNumber ps)
  constructor
  · exact h.unique
  · rintro rfl
    exact h

/-! ## Runs -/

/-- Calls lead from the empty registry to this one, with these marks made on the way. -/
inductive Reached : Params → List Mark → Prop
  | empty : Reached {} []
  | bind {ps : Params} {marks : List Mark} (h : Reached ps marks) (value : Json) :
      Reached (ps.bind value).2 marks
  | set {ps : Params} {marks : List Mark} (h : Reached ps marks) (name : String) (value : Json) :
      Reached (ps.set name value) marks
  | update {ps : Params} {marks : List Mark} (h : Reached ps marks) (name : String)
      (value : Json) : Reached (ps.update name value) marks
  | mark {ps : Params} {marks : List Mark} (h : Reached ps marks) :
      Reached ps (ps.mark :: marks)
  | rollback {ps : Params} {marks : List Mark} (h : Reached ps marks) {mark : Mark}
      (hm : mark ∈ marks) : Reached (ps.rollback mark) marks

/-- A mark says nothing about the names that it cuts off, so any mark will do. -/
theorem nodup_rollback (h : ps.names.Nodup) (mark : Mark) : (ps.rollback mark).names.Nodup := by
  rw [names_rollback]
  exact h.sublist (List.take_sublist _ _)

theorem Reached.nodup (h : Reached ps marks) : ps.names.Nodup := by
  induction h with
  | empty => exact List.nodup_nil
  | bind _ value ih => exact nodup_bind ih
  | set _ name value ih => exact nodup_set ih
  | update _ name value ih => rw [names_update]; exact ih
  | mark _ ih => exact ih
  | @rollback _ _ _ mark _ ih => exact nodup_rollback ih mark

/-! ## What is added after a mark -/

/-- Values were bound under fresh names and under chosen names that `ps` does not have. -/
inductive Grown (ps : Params) : Params → Prop
  | refl : Grown ps ps
  | bind {qs : Params} (h : Grown ps qs) (value : Json) : Grown ps (qs.bind value).2
  | set {qs : Params} (h : Grown ps qs) {name : String} (hn : name ∉ ps.names) (value : Json) :
      Grown ps (qs.set name value)

theorem Grown.exists_append (h : Grown ps qs) : ∃ new, qs.entries = ps.entries ++ new := by
  induction h with
  | refl => exact ⟨[], (List.append_nil _).symm⟩
  | @bind qs _ value ih =>
    obtain ⟨new, hnew⟩ := ih
    refine ⟨new ++ [(generated qs.nextNumber, value)], ?_⟩
    rw [← List.append_assoc, ← hnew]
    rfl
  | @set qs _ name hn value ih =>
    obtain ⟨new, hnew⟩ := ih
    refine ⟨Json.put name value new, ?_⟩
    rw [← Json.put_append hn, ← hnew]
    rfl

theorem Grown.rollback_mark (h : Grown ps qs) : qs.rollback ps.mark = ps := by
  obtain ⟨new, hnew⟩ := h.exists_append
  simp [rollback, mark, hnew]

/-! ## The laws of a registry -/

/-- Whatever calls came before, the names are distinct. Binding ends its search at one number, whose
name is new, and adds one entry. What is bound after a mark under new names is dropped without a
trace, so that the names which come next are those that would have come at the mark. -/
theorem Reached.registry_laws (h : Reached ps marks) :
    ps.names.Nodup ∧
      (∀ value, ∃ n, (∀ m, ps.Search ps.last m ↔ m = n) ∧ generated n ∉ ps.names ∧
        ps.bind value = (generated n, ⟨ps.entries ++ [(generated n, value)], n⟩)) ∧
      ∀ qs, Grown ps qs → qs.rollback ps.mark = ps ∧
        ∀ value, ((qs.rollback ps.mark).bind value).1 = (ps.bind value).1 := by
  refine ⟨h.nodup, fun value => ?_, fun qs hq => ?_⟩
  · exact ⟨ps.nextNumber, fun m => search_iff, generated_nextNumber ps, rfl⟩
  · have hr := hq.rollback_mark
    exact ⟨hr, fun value => by rw [hr]⟩

/-- What is left by a rollback to a mark that was out of date: a value was bound and marked, dropped
again, and `p2` was chosen before the number went on to where the mark had it. -/
def overtaken : Params := { entries := [("p2", .text "b")], last := 1 }

theorem reached_overtaken : Reached overtaken [⟨1, 1⟩, ⟨0, 0⟩] := by
  have bound : Reached { entries := [("p1", .text "a")], last := 1 } [⟨1, 1⟩, ⟨0, 0⟩] :=
    (Reached.empty.mark.bind (.text "a")).mark
  have dropped : Reached {} [⟨1, 1⟩, ⟨0, 0⟩] :=
    bound.rollback (List.mem_cons_of_mem _ (List.mem_singleton.2 rfl))
  have chosen : Reached { entries := [("p2", .text "b")], last := 0 } [⟨1, 1⟩, ⟨0, 0⟩] :=
    dropped.set "p2" (.text "b")
  exact chosen.rollback List.mem_cons_self

theorem registry_laws_overtaken :
    Reached overtaken [⟨1, 1⟩, ⟨0, 0⟩] ∧ overtaken.names.Nodup ∧
      (overtaken.bind .null).1 = "p3" ∧
      Grown overtaken (((overtaken.bind .null).2.set "p4" .null).bind .null).2 ∧
      (((overtaken.bind .null).2.set "p4" .null).bind .null).1 = "p5" ∧
      (((overtaken.bind .null).2.set "p4" .null).bind .null).2.rollback overtaken.mark =
        overtaken := by
  have grown : Grown overtaken (((overtaken.bind .null).2.set "p4" .null).bind .null).2 :=
    ((Grown.refl.bind .null).set (by decide) .null).bind .null
  obtain ⟨hn, -, hd⟩ := reached_overtaken.registry_laws
  exact ⟨reached_overtaken, hn, rfl, grown, rfl, (hd _ grown).1⟩

end Sql.Params

end RecordFilter
