import RecordFilter.Catalog.Definition
import RecordFilter.Path.Resolver
import RecordFilter.Proofs.LiteralPatterns

/-!
# Literal entries

An entry of the allowed paths that is written as a path, in path characters only, is still read as a
pattern. `resolve_literal_iff` says which paths a list of such entries lets through: the entries
themselves, and what comes from an entry when other characters are put for its dots.
-/

namespace RecordFilter

/-! ## What an entry admits -/

namespace Path

open Pattern (framed anchored standsFor ofText?_framed matchesWithin_anchored)

variable {entry path : String}

/-- An entry in path characters only: word characters, dots and colons. -/
def IsLiteral (entry : String) : Prop := entry.toList.all isPathChar = true

/-- A path with the characters of an entry, but for the places of its dots. An entry that takes up too
much room as a pattern is none. -/
def Dotted (entry path : String) : Prop :=
  (anchored entry.toList).hasRoom = true ∧
    List.Forall₂ (standsFor · ·) entry.toList path.toList

theorem entryMatches_iff (h : IsLiteral entry) :
    entryMatches entry path = true ↔ Dotted entry path := by
  have hf : "^(?:".toList ++ entry.toList ++ ")$".toList = framed entry.toList := by
    simp [framed]
  rw [entryMatches, hf, ofText?_framed (List.all_eq_true.1 h), Dotted, ← matchesWithin_anchored]
  cases (anchored entry.toList).hasRoom <;> simp

theorem entryAdmits_iff (h : IsLiteral entry) :
    entryAdmits entry path = true ↔ path = entry ∨ Dotted entry path := by
  have hs : entry ≠ anyPath := by
    rintro rfl
    cases h
  rw [entryAdmits, Bool.or_eq_true, Bool.or_eq_true, beq_iff_eq, beq_iff_eq, entryMatches_iff h,
    or_iff_right hs, @eq_comm _ entry path]

end Path

/-! ## What a list of entries lets through -/

namespace Resolver

variable {r : Resolver} {path : String} {es : List String} {res : Resolution}

theorem fst_commit_allowed (r : Resolver) (p : Plan) (allowed : AllowedPaths) :
    (commit { r with allowed } p).1 = (r.commit p).1 := by
  unfold commit
  simp only
  split <;> rfl

theorem resolve_eq_ok_iff :
    (r.resolve path).1 = .ok res ↔ Path.isWellFormed path = true ∧ r.allowed.admits path = true ∧
      (r.commit (Plan.ofPath r.scope path)).1 = .ok res := by
  unfold resolve
  cases Path.isWellFormed path <;> cases r.allowed.admits path <;> simp

/-- A list of entries takes away the paths that none of them admits, and no others. -/
theorem resolve_entries_iff :
    (resolve { r with allowed := .entries es } path).1 = .ok res ↔
      (resolve { r with allowed := .wellFormed } path).1 = .ok res ∧
        ∃ e ∈ es, Path.entryAdmits e path = true := by
  rw [resolve_eq_ok_iff, resolve_eq_ok_iff, fst_commit_allowed r _ (.entries es),
    fst_commit_allowed r _ .wellFormed, AllowedPaths.admits_entries_iff]
  constructor
  · rintro ⟨hw, he, hc⟩
    exact ⟨⟨hw, rfl, hc⟩, he⟩
  · rintro ⟨⟨hw, -, hc⟩, he⟩
    exact ⟨hw, he, hc⟩

/-- Under entries that are written as paths, a path resolves if and only if it does without them and
is one of the entries, or is written like one of them but for the places of its dots. -/
theorem resolve_literal_iff (h : ∀ e ∈ es, Path.IsLiteral e) :
    (resolve { r with allowed := .entries es } path).1 = .ok res ↔
      (resolve { r with allowed := .wellFormed } path).1 = .ok res ∧
        ∃ e ∈ es, path = e ∨ Path.Dotted e path := by
  rw [resolve_entries_iff]
  refine and_congr_right fun _ => exists_congr fun e => and_congr_right fun he => ?_
  exact Path.entryAdmits_iff (h e he)

/-! ### The name of an author, and a field called author_name -/

def bylined : Definitions :=
  { collections :=
      [{ name := "posts"
         fields :=
           [{ name := "author", type := .relation, collection := some "users" },
             { name := "author_name", type := .text }] },
        { name := "users", fields := [{ name := "name", type := .text }] }] }

def bylinedCatalog : Catalog := bylined.toCatalog.toOption.getD default

def bylinedResolver : Resolver :=
  { scope := { catalog := bylinedCatalog, base := (bylinedCatalog.find? "posts").getD default } }

def nameOnly : Resolver := { bylinedResolver with allowed := .entries ["author.name"] }

theorem isLiteral_nameOnly : ∀ e ∈ ["author.name"], Path.IsLiteral e := by
  intro e he
  obtain rfl := List.mem_singleton.1 he
  rfl

/-- A resolver for one field may read the other one as well, which is no entry. -/
theorem resolve_literal_other :
    bylined.toCatalog = .ok bylinedCatalog ∧ (∀ e ∈ ["author.name"], Path.IsLiteral e) ∧
      "author_name" ∉ ["author.name"] ∧
      (nameOnly.resolve "author_name").1 = .ok { value := .column "posts" "author_name" } := by
  have ha : nameOnly.allowed.admits "author_name" = true := by decide +kernel
  exact ⟨rfl, isLiteral_nameOnly, by decide, resolve_eq_ok_iff.2 ⟨rfl, ha, rfl⟩⟩

theorem resolve_literal_names :
    (∀ e ∈ ["author.name"], Path.IsLiteral e) ∧
      (nameOnly.resolve "author.name").1 = .ok { value := .column "posts_author" "name" } ∧
      ∀ res, (nameOnly.resolve "id").1 ≠ .ok res := by
  refine ⟨isLiteral_nameOnly, ?_, fun res h => ?_⟩
  · exact (resolve_literal_iff (r := bylinedResolver) isLiteral_nameOnly).2
      ⟨rfl, "author.name", List.mem_singleton.2 rfl, .inl rfl⟩
  · obtain ⟨-, e, he, hd⟩ := (resolve_literal_iff (r := bylinedResolver) isLiteral_nameOnly).1 h
    obtain rfl := List.mem_singleton.1 he
    rcases hd with hd | ⟨-, hd⟩
    · exact absurd hd (by decide)
    · exact absurd hd.length_eq (by decide)

end Resolver

end RecordFilter
