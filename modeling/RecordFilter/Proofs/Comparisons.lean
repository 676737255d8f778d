import Mathlib.Data.List.Forall2
import RecordFilter.Proofs.Aliases
import RecordFilter.Proofs.Guards

/-!
# The comparisons of a filter

A filter is built comparison by comparison. Its condition has one part for each of its comparisons,
in order (`Builder.built_build`), and each part is the condition of two sides that were resolved
somewhere on the way from the first resolver to the last (`Comparison.Built`). What the part of one
comparison looks like is said once, in `Builder.comparison_shape`.
-/

namespace RecordFilter

open Sql (Test Guard Listing Condition)

/-! ## Comparisons and parts -/

structure Comparison where
  left : Operand
  comparator : Comparator
  right : Operand
deriving DecidableEq, Repr

namespace Filter

mutual

def comparisons : Filter → List Comparison
  | .comparison left comparator right => [⟨left, comparator, right⟩]
  | .group _ items => comparisonsAll items

def comparisonsAll : List Filter → List Comparison
  | [] => []
  | f :: fs => comparisons f ++ comparisonsAll fs

end

end Filter

namespace Sql

namespace Condition

mutual

/-- The conditions in a condition that are not groups, from left to right. -/
def parts : Condition → List Condition
  | group _ items => partsAll items
  | c => [c]

def partsAll : List Condition → List Condition
  | [] => []
  | c :: cs => parts c ++ partsAll cs

end

/-- The listings in the guard of a condition. -/
def listings : Condition → List Listing
  | guarded _ guard => guard.listings.map Prod.fst
  | visible inner _ => inner.listings
  | _ => []

end Condition

end Sql

namespace Resolver

/-- A path was resolved on the way from one resolver to another. -/
def ResolvedBetween (start stop : Resolver) (path : String) (res : Resolution) : Prop :=
  ∃ r, Steps start r ∧ (r.resolve path).1 = .ok res ∧ Steps (r.resolve path).2 stop

end Resolver

open Resolver (Steps ResolvedBetween)

/-! ## Building on the way -/

theorem Builder.resolve_of_operand {b b₁ : Builder} {path : String} {res : Resolution}
    (h : b.operand (.field path) = (.ok res, b₁)) :
    (b.resolver.resolve path).1 = .ok res ∧ b₁.resolver = (b.resolver.resolve path).2 := by
  unfold operand at h
  simp only at h
  split at h
  · next res' r' he =>
    cases h
    exact ⟨by rw [he], by rw [he]⟩
  · cases h

/-- A comparison was built on the way from one resolver to another: its sides were resolved one
after the other, and its condition is made of the two. -/
inductive Comparison.Built (start stop : Resolver) (q : Comparison) (l r : Resolution) :
    Condition → Prop
  | intro {b b₁ b₂ : Builder} (hs : Steps start b.resolver)
      (hl : b.operand q.left = (.ok l, b₁)) (hr : b₁.operand q.right = (.ok r, b₂))
      (he : Steps (b₂.comparison l q.comparator r).2.resolver stop) :
      Built start stop q l r (b₂.comparison l q.comparator r).1

theorem Comparison.Built.mono {start start' stop stop' : Resolver} {q : Comparison}
    {l r : Resolution} {part : Condition} (h : q.Built start stop l r part)
    (hs : Steps start' start) (he : Steps stop stop') : q.Built start' stop' l r part := by
  cases h with
  | intro hs' hl hr he' => exact .intro (hs.trans hs') hl hr (he'.trans he)

section Sides

variable {start stop : Resolver} {q : Comparison} {l r : Resolution} {part : Condition}
  {path : String}

theorem Comparison.Built.condition (h : q.Built start stop l r part) :
    ∃ b : Builder, part = (b.comparison l q.comparator r).1 := by
  cases h with
  | intro => exact ⟨_, rfl⟩

theorem Comparison.Built.left_of_field (h : q.Built start stop l r part)
    (hq : q.left = .field path) : ResolvedBetween start stop path l := by
  cases h with
  | @intro b b₁ b₂ hs hl hr he =>
    have hright := Builder.steps_operand b₁ q.right
    rw [hr] at hright
    have hrest := Builder.steps_comparison b₂ l q.comparator r (hright.2 r rfl)
    rw [hq] at hl
    obtain ⟨hres, hb⟩ := Builder.resolve_of_operand hl
    exact ⟨b.resolver, hs, hres, hb ▸ hright.1.trans (hrest.trans he)⟩

theorem Comparison.Built.right_of_field (h : q.Built start stop l r part)
    (hq : q.right = .field path) : ResolvedBetween start stop path r := by
  cases h with
  | @intro b b₁ b₂ hs hl hr he =>
    have hleft := Builder.steps_operand b q.left
    have hright := Builder.steps_operand b₁ q.right
    rw [hl] at hleft
    rw [hr] at hright
    have hrest := Builder.steps_comparison b₂ l q.comparator r (hright.2 r rfl)
    rw [hq] at hr
    obtain ⟨hres, hb⟩ := Builder.resolve_of_operand hr
    exact ⟨b₁.resolver, hs.trans hleft.1, hres, hb ▸ hrest.trans he⟩

end Sides

namespace Builder

variable {b b' : Builder} {l r : Resolution}

/-! ## The condition of a comparison -/

/-- The condition of a comparison is its test, or its test with a guard where the comparison is
strict and one of its sides is listed. The guard lists the listed sides and nothing else. -/
inductive Shape (t : Test) (l r : Resolution) (isAny : Bool) : Condition → Prop
  | plain (h : isAny = true ∨ (l.listing = none ∧ r.listing = none)) :
      Shape t l r isAny (.test t)
  | guarded (guard : Guard) (hs : isAny = false)
      (hm : l.listing.isSome = true ∨ r.listing.isSome = true)
      (hg : guard.listings.map Prod.fst = l.listing.toList ++ r.listing.toList) :
      Shape t l r isAny (.guarded t guard)

theorem comparison_shape (b : Builder) (l : Resolution) (c : Comparator) (r : Resolution) :
    ∃ inner, Shape (comparisonTest c.operator l r b.resolver.params) l r c.isAny inner ∧
      (b.comparison l c r).1 = requireVisible inner [l.visibleIn, r.visibleIn] := by
  by_cases hm : l.listing.isSome = true ∨ r.listing.isSome = true
  · obtain ⟨leftName, rightName, guardWith, hg, hlist⟩ :=
      guardOf_eq hm ((b.compare c.operator l r).2.guards + 1)
    cases ha : c.isAny with
    | true => exact ⟨_, .plain (.inl rfl), by simp only [comparison, ha]; rfl⟩
    | false =>
      refine ⟨_, .guarded (guardWith _) rfl hm ?_, by simp only [comparison, ha, hg]; rfl⟩
      rw [(hlist _).2, List.map_append]
      cases l.listing <;> cases r.listing <;> rfl
  · have hnone : l.listing = none ∧ r.listing = none := by
      rw [not_or] at hm
      simpa using hm
    have hg : guardOf ((b.compare c.operator l r).2.guards + 1) l r = none := by
      simp [guardOf, hnone]
    refine ⟨_, .plain (.inr hnone), ?_⟩
    simp only [comparison, hg]
    cases c.isAny <;> rfl

theorem parts_requireVisible {inner : Condition} (h : inner.parts = [inner])
    (tables : List (Option String)) :
    (requireVisible inner tables).parts = [requireVisible inner tables] := by
  induction tables generalizing inner with
  | nil => exact h
  | cons table tables ih =>
    cases table with
    | none => exact ih h
    | some table => exact ih (by simp [Condition.parts])

theorem listings_requireVisible (inner : Condition) (tables : List (Option String)) :
    (requireVisible inner tables).listings = inner.listings := by
  induction tables generalizing inner with
  | nil => rfl
  | cons table tables ih =>
    cases table with
    | none => exact ih inner
    | some table => exact ih (.visible inner table)

theorem parts_comparison (b : Builder) (l : Resolution) (c : Comparator) (r : Resolution) :
    (b.comparison l c r).1.parts = [(b.comparison l c r).1] := by
  obtain ⟨inner, hshape, heq⟩ := comparison_shape b l c r
  rw [heq]
  refine parts_requireVisible ?_ _
  cases hshape <;> simp [Condition.parts]

/-- A comparison lists the sides that are listed, if it is strict. -/
theorem listings_comparison (b : Builder) (l : Resolution) (c : Comparator) (r : Resolution) :
    (b.comparison l c r).1.listings =
      if c.isAny then [] else l.listing.toList ++ r.listing.toList := by
  obtain ⟨inner, hshape, heq⟩ := comparison_shape b l c r
  rw [heq, listings_requireVisible]
  cases hshape with
  | plain h =>
    rcases h with h | ⟨hl, hr⟩
    · simp [h, Condition.listings]
    · simp [hl, hr, Condition.listings]
  | guarded guard hs hm hg => simpa [hs, Condition.listings] using hg

/-! ## Building part by part -/

theorem parts_grouped {connective : Sql.Connective} {cs : List Condition} {c : Condition}
    (h : grouped connective cs = .ok c) : c.parts = Condition.partsAll cs := by
  rcases cs with _ | ⟨d, _ | ⟨e, cs⟩⟩ <;> cases h
  · simp [Condition.partsAll]
  · rw [Condition.parts]

mutual

/-- The parts of the condition of a filter are the conditions of its comparisons, in order. -/
theorem built_build {b b' : Builder} {c : Condition} :
    (f : Filter) → b.build f = (.ok c, b') →
      List.Forall₂ (fun q part => ∃ l r, q.Built b.resolver b'.resolver l r part)
        f.comparisons c.parts
  | .comparison left comparator right, h => by
    unfold build at h
    split at h
    · cases h
    · next l b₁ hl =>
      split at h
      · cases h
      · next r b₂ hr =>
        simp only [Prod.mk.injEq, Except.ok.injEq] at h
        obtain ⟨rfl, rfl⟩ := h
        rw [Filter.comparisons, parts_comparison]
        exact .cons ⟨l, r, .intro .refl hl hr .refl⟩ .nil
  | .group connective items, h => by
    unfold build at h
    split at h
    · cases h
    · next cs b₁ hs =>
      obtain ⟨hg, rfl⟩ := Prod.mk.inj h
      rw [Filter.comparisons, parts_grouped hg]
      exact built_buildAll items hs

theorem built_buildAll {b b' : Builder} {cs : List Condition} :
    (fs : List Filter) → b.buildAll fs = (.ok cs, b') →
      List.Forall₂ (fun q part => ∃ l r, q.Built b.resolver b'.resolver l r part)
        (Filter.comparisonsAll fs) (Condition.partsAll cs)
  | [], h => by
    cases h
    rw [Filter.comparisonsAll, Condition.partsAll]
    exact .nil
  | f :: fs, h => by
    unfold buildAll at h
    split at h
    · cases h
    · next c b₁ hf =>
      split at h
      · cases h
      · next cs' b₂ hs =>
        cases h
        have hfirst := steps_build b f
        have hrest := steps_buildAll b₁ fs
        rw [hf] at hfirst
        rw [hs] at hrest
        rw [Filter.comparisonsAll, Condition.partsAll]
        refine List.rel_append ((built_build f hf).imp ?_) ((built_buildAll fs hs).imp ?_)
        · rintro q part ⟨l, r, hq⟩
          exact ⟨l, r, hq.mono .refl hrest⟩
        · rintro q part ⟨l, r, hq⟩
          exact ⟨l, r, hq.mono hfirst .refl⟩

end

end Builder

end RecordFilter
