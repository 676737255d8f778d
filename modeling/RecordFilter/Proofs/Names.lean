import Mathlib.Data.List.TakeWhile
import RecordFilter.Path.Allowed
import RecordFilter.Proofs.Conversion
import RecordFilter.Proofs.Spelling
import RecordFilter.Proofs.Start

/-!
# Names of word characters

The names of collections and fields in a catalog that was accepted consist of word characters
(`Definitions.isWellNamed_toCatalog`), and so do the names of everything on a route below it
(`Plan.isWellNamed_walked`). A well-formed path has no braces, so what it looks for in a JSON
document has none (`Plan.isPlain_jsonSteps`).
-/

namespace RecordFilter

open Text (IsWordy isName)
open Sql (IsPlain)

/-! ## Collections -/

structure Collection.IsWellNamed (c : Collection) : Prop where
  name : Text.IsWordy c.name
  fields : ∀ f ∈ c.fields, Text.IsWordy f.name

def Catalog.IsWellNamed (c : Catalog) : Prop := ∀ k ∈ c.collections, k.IsWellNamed

namespace Definitions

variable {ds : Definitions}

theorem isName_authFields : ∀ f ∈ authFields, Text.isName f.name.toList = true := by decide

theorem isWordName_of_mem {c : Catalog} (h : ds.toCatalog = .ok c) {k : Collection}
    (hk : k ∈ c.collections) {f : Field} (hf : f ∈ k.fields) : Text.IsWordName f.name := by
  obtain ⟨d, hd, hdk⟩ := exists_left (describes_toCatalog h) hk
  rcases hdk.known f hf with ⟨g, hg, hgf⟩ | rfl | ⟨-, ha⟩
  · exact hgf.name ▸ ((isValid_of_toCatalog h).named d hd).fields g hg
  · exact Text.isName_iff_isWordName.1 (by decide)
  · exact Text.isName_iff_isWordName.1 (isName_authFields f ha)

/-- All names in an accepted catalog consist of word characters. -/
theorem isWellNamed_toCatalog {c : Catalog} (h : ds.toCatalog = .ok c) : c.IsWellNamed := by
  intro k hk
  obtain ⟨d, hd, hdk⟩ := exists_left (describes_toCatalog h) hk
  have named := (isValid_of_toCatalog h).named d hd
  exact ⟨hdk.name ▸ named.name.2, fun f hf => (isWordName_of_mem h hk hf).2⟩

end Definitions

/-! ## Paths -/

namespace Path

theorem isPathChar_of_isWord {c : Char} (h : Text.isWord c = true) : isPathChar c = true := by
  simp [isPathChar, h]

/-- Only path characters and the sign of paths that do not start at the base. -/
def IsPathText (cs : List Char) : Prop := ∀ c ∈ cs, isPathChar c = true ∨ c = '@'

instance (cs : List Char) : Decidable (IsPathText cs) :=
  List.decidableBAll (fun c => isPathChar c = true ∨ c = '@') cs

variable {cs : List Char}

theorem all_takeWhile (cs : List Char) : (cs.takeWhile Text.isWord).all isPathChar = true :=
  List.all_eq_true.2 fun _ hc => isPathChar_of_isWord (List.mem_takeWhile_imp hc)

theorem all_of_isTail (h : isTail cs = true) : cs.all isPathChar = true := by
  rw [isTail, Bool.and_eq_true] at h
  exact h.1

theorem below_of_isCollectionPath (h : isCollectionPath cs = true) :
    ∃ rest, cs = "@collection".toList ++ '.' :: rest ∧ rest.all isPathChar = true := by
  unfold isCollectionPath at h
  split at h
  · cases h
  · next rest ha =>
    refine ⟨rest, by rw [Text.after?_eq_some.1 ha]; rfl, ?_⟩
    rw [← List.takeWhile_append_dropWhile (p := Text.isWord) (l := rest), List.all_append,
      all_takeWhile]
    rw [Bool.and_eq_true] at h
    replace h := h.2
    split at h
    · next tail hr =>
      rw [hr, List.all_cons, all_of_isTail h]
      decide
    · next named hr =>
      rw [hr, List.all_cons, ← List.takeWhile_append_dropWhile (p := Text.isWord) (l := named),
        List.all_append, all_takeWhile]
      rw [Bool.and_eq_true] at h
      replace h := h.2
      split at h
      · next tail ht =>
        rw [ht, List.all_cons, all_of_isTail h]
        decide
      · cases h
    · cases h

theorem below_of_isRequestPath (h : isRequestPath cs = true) :
    ∃ rest, cs = "@request".toList ++ '.' :: rest ∧ rest.all isPathChar = true := by
  obtain ⟨part, hp, h⟩ := List.any_eq_true.1 h
  cases ha : Text.after? ("@request." ++ part ++ ".").toList cs with
  | none => rw [ha] at h; cases h
  | some rest =>
    rw [ha] at h
    have hparts : ∀ part ∈ requestParts, (part ++ ".").toList.all isPathChar = true := by decide
    refine ⟨(part ++ ".").toList ++ rest, ?_, ?_⟩
    · rw [Text.after?_eq_some.1 ha, String.append_assoc, String.toList_append, List.append_assoc]
      rfl
    · rw [List.all_append, hparts part hp, all_of_isTail h]
      rfl

/-- A well-formed path has path characters only, but for the sign of its root. -/
theorem shape_of_isWellFormed {path : String} (h : isWellFormed path = true) :
    path.toList.all isPathChar = true ∨ ∃ root ∈ ["@request", "@collection"], ∃ rest,
      path.toList = root.toList ++ '.' :: rest ∧ rest.all isPathChar = true := by
  unfold isWellFormed at h
  simp only [Bool.or_eq_true, beq_iff_eq] at h
  rcases h with (((h | rfl) | rfl) | h) | h
  · left
    cases hp : path.toList with
    | nil => rfl
    | cons c cs =>
      rw [hp, isFieldPath, Bool.and_eq_true] at h
      rw [List.all_cons, isPathChar_of_isWord h.1, h.2]
      rfl
  · exact .inr ⟨"@request", by simp, "context".toList, rfl, by decide⟩
  · exact .inr ⟨"@request", by simp, "method".toList, rfl, by decide⟩
  · exact .inr ⟨"@request", by simp, below_of_isRequestPath h⟩
  · exact .inr ⟨"@collection", by simp, below_of_isCollectionPath h⟩

theorem isPathText_of_isWellFormed {path : String} (h : isWellFormed path = true) :
    IsPathText path.toList := by
  have hroots : ∀ root ∈ ["@request", "@collection"], IsPathText (root.toList ++ ['.']) := by decide
  intro c hc
  rcases shape_of_isWellFormed h with hp | ⟨root, hr, rest, hp, hrest⟩
  · exact .inl (List.all_eq_true.1 hp c hc)
  · rw [hp, List.append_cons, List.mem_append] at hc
    rcases hc with hc | hc
    · exact hroots root hr c hc
    · exact .inl (List.all_eq_true.1 hrest c hc)

theorem isPlain_of_isWellFormed {path : String} (h : isWellFormed path = true) :
    IsPlain path := by
  intro hc
  rcases isPathText_of_isWellFormed h _ hc with hc | hc
  · exact absurd hc (by decide)
  · exact absurd hc (by decide)

end Path

theorem Text.mem_of_mem_pieces {sep : Char} {s p : List Char} (hp : p ∈ pieces sep s) {c : Char}
    (hc : c ∈ p) : c ∈ s := by
  induction s generalizing p with
  | nil =>
    rw [pieces, List.mem_singleton] at hp
    rw [hp] at hc
    cases hc
  | cons d s ih =>
    unfold pieces at hp
    split at hp
    · rcases List.mem_cons.1 hp with rfl | hp
      · cases hc
      · exact List.mem_cons_of_mem _ (ih hp hc)
    · split at hp
      · next hn => exact absurd hn (pieces_ne_nil sep s)
      · next q qs hq =>
        rcases List.mem_cons.1 hp with rfl | hp
        · rcases List.mem_cons.1 hc with rfl | hc
          · exact List.mem_cons_self
          · exact List.mem_cons_of_mem _ (ih (hq ▸ List.mem_cons_self) hc)
        · exact List.mem_cons_of_mem _ (ih (hq ▸ List.mem_cons_of_mem _ hp) hc)

namespace Plan

/-- The characters of a segment are those of its path. -/
theorem mem_of_mem_segmentsOf {path segment : String} (hs : segment ∈ segmentsOf path) {c : Char}
    (hc : c ∈ segment.toList) : c ∈ path.toList := by
  obtain ⟨p, hm, rfl⟩ := List.mem_map.1 hs
  rw [String.toList_ofList] at hc
  exact Text.mem_of_mem_pieces hm hc

theorem isPlain_of_mem_segmentsOf {path segment : String} (hp : IsPlain path)
    (hs : segment ∈ segmentsOf path) : IsPlain segment :=
  fun hc => hp (mem_of_mem_segmentsOf hs hc)

/-- The first segment of a path is what comes before its first dot. -/
theorem segmentsOf_eq_cons {path first : String} {cs : List Char} (hf : '.' ∉ first.toList)
    (h : path.toList = first.toList ++ '.' :: cs) :
    segmentsOf path = first :: (Text.pieces '.' cs).map String.ofList := by
  rw [segmentsOf, h, Text.pieces_append hf, List.map_cons, String.ofList_toList]

/-- The segments below a root that is named come after its name. -/
theorem RootOf.suffix_tail {s : Scope} {sign : String} {later rest : List String} {root : Root}
    (h : RootOf s (sign :: later) root rest) (hs : sign = "@request" ∨ sign = "@collection") :
    rest <:+ later := by
  cases h with
  | base hr hc => exact (hs.elim hr hc).elim
  | anyOf => exact List.suffix_cons _ _
  | auth => exact List.suffix_cons _ _
  | submitted => exact ⟨[_, _], rfl⟩

theorem isPathChar_of_mem_later {path first segment : String} {later : List String}
    (hp : Path.isWellFormed path = true) (hs : segmentsOf path = first :: later)
    (hm : segment ∈ later) : ∀ c ∈ segment.toList, Path.isPathChar c = true := by
  intro c hc
  rcases Path.shape_of_isWellFormed hp with hp | ⟨sign, hsign, below, hp, hbelow⟩
  · exact List.all_eq_true.1 hp c
      (mem_of_mem_segmentsOf (hs ▸ List.mem_cons_of_mem _ hm) hc)
  · have hdot : '.' ∉ sign.toList := by
      rcases List.mem_pair.1 hsign with rfl | rfl <;> decide
    rw [segmentsOf_eq_cons hdot hp] at hs
    obtain ⟨piece, hpiece, rfl⟩ := List.mem_map.1 ((List.cons.inj hs).2 ▸ hm)
    rw [String.toList_ofList] at hc
    exact List.all_eq_true.1 hbelow c (Text.mem_of_mem_pieces hpiece hc)

/-- Below its root a well-formed path has only path characters in its segments. -/
theorem isPathChar_of_rootOf {s : Scope} {path : String} {root : Root} {rest : List String}
    (hp : Path.isWellFormed path = true) (h : RootOf s (segmentsOf path) root rest) :
    ∀ segment ∈ rest, ∀ c ∈ segment.toList, Path.isPathChar c = true := by
  intro segment hs c hc
  rcases Path.shape_of_isWellFormed hp with hchars | ⟨sign, hsign, below, hbelow, -⟩
  · exact List.all_eq_true.1 hchars c (mem_of_mem_segmentsOf (h.suffix.subset hs) hc)
  · have hdot : '.' ∉ sign.toList := by
      rcases List.mem_pair.1 hsign with rfl | rfl <;> decide
    have hsegments := segmentsOf_eq_cons hdot hbelow
    rw [hsegments] at h
    exact isPathChar_of_mem_later hp hsegments
      ((h.suffix_tail (List.mem_pair.1 hsign)).subset hs) c hc

/-- The characters in the steps of an extraction are separators or come from its names. -/
theorem mem_jsonSteps {names : List String} {c : Char} (h : c ∈ (jsonSteps names).toList) :
    c ∈ ['[', ']', '.'] ∨ ∃ n ∈ names, c ∈ n.toList := by
  have step {steps segment : String} (h : c ∈ (jsonStep steps segment).toList) :
      c ∈ steps.toList ∨ c ∈ ['[', ']', '.'] ∨ c ∈ segment.toList := by
    unfold jsonStep at h
    split at h
    · simp only [String.toList_append, List.mem_append] at h
      rcases h with ((h | h) | h) | h
      · exact .inl h
      · exact .inr (.inl (List.mem_singleton.1 h ▸ by decide))
      · exact .inr (.inr h)
      · exact .inr (.inl (List.mem_singleton.1 h ▸ by decide))
    · split at h
      · exact .inr (.inr h)
      · simp only [String.toList_append, List.mem_append] at h
        rcases h with (h | h) | h
        · exact .inl h
        · exact .inr (.inl (List.mem_singleton.1 h ▸ by decide))
        · exact .inr (.inr h)
  have run (names : List String) (steps : String)
      (h : c ∈ (names.foldl jsonStep steps).toList) :
      c ∈ steps.toList ∨ c ∈ ['[', ']', '.'] ∨ ∃ n ∈ names, c ∈ n.toList := by
    induction names generalizing steps with
    | nil => exact .inl h
    | cons n names ih =>
      rcases ih _ h with h | h | ⟨m, hm, h⟩
      · rcases step h with h | h | h
        · exact .inl h
        · exact .inr (.inl h)
        · exact .inr (.inr ⟨n, List.mem_cons_self, h⟩)
      · exact .inr (.inl h)
      · exact .inr (.inr ⟨m, List.mem_cons_of_mem _ hm, h⟩)
  exact (run names "" h).resolve_left (by simp)

theorem isPlain_jsonSteps {names : List String} (h : ∀ n ∈ names, IsPlain n) :
    IsPlain (jsonSteps names) := by
  intro hc
  rcases mem_jsonSteps hc with hc | ⟨n, hn, hc⟩
  · exact absurd hc (by decide)
  · exact h n hn hc

end Plan

/-! ## Routes -/

structure Scope.IsWellNamed (s : Scope) : Prop where
  base : s.base.IsWellNamed
  catalog : s.catalog.IsWellNamed

theorem Scope.isWellNamed_of_toCatalog {s : Scope} {ds : Definitions}
    (hc : ds.toCatalog = .ok s.catalog) (hb : s.base ∈ s.catalog.collections) : s.IsWellNamed :=
  have h := Definitions.isWellNamed_toCatalog hc
  ⟨h s.base hb, h⟩

def Link.IsWellNamed : Link → Prop
  | single target field | multiple target field => target.IsWellNamed ∧ Text.IsWordy field
  | backSingle source _ field | backMultiple source _ field =>
    source.IsWellNamed ∧ Text.IsWordy field

namespace Plan

variable {s : Scope} {root : Root} {r : Route}

theorem isWellNamed_of_find? (hs : s.IsWellNamed) {key : String} {c : Collection}
    (h : s.catalog.find? key = some c) : c.IsWellNamed := hs.catalog c (Catalog.mem_of_find? h)

theorem isWellNamed_of_rootOf (hs : s.IsWellNamed) {segments rest : List String}
    (h : RootOf s segments root rest) : root.collection.IsWellNamed := by
  cases h with
  | base => exact hs.base
  | anyOf hc | auth _ _ _ _ _ hc | submitted _ _ _ _ _ hc => exact isWellNamed_of_find? hs hc

theorem isWellNamed_backLink (hs : s.IsWellNamed) {segment : String} {l : Link}
    (h : backLink? s r segment = some l) : l.IsWellNamed := by
  obtain ⟨⟨collection, field⟩, -, h⟩ := Option.bind_eq_some_iff.1 h
  obtain ⟨source, hc, h⟩ := Option.bind_eq_some_iff.1 h
  obtain ⟨f, hf, h⟩ := Option.bind_eq_some_iff.1 h
  obtain ⟨ref, -, h⟩ := Option.bind_eq_some_iff.1 h
  have hw := isWellNamed_of_find? hs hc
  have hn := hw.fields f (Collection.mem_of_field? hf)
  split at h
  · split at h <;> cases h <;> exact ⟨hw, hn⟩
  · cases h

theorem target_of_isWellNamed {l : Link} (h : l.IsWellNamed) : l.target.IsWellNamed := by
  cases l <;> exact h.1

/-- The collections that a path comes through have names of word characters. -/
theorem isWellNamed_walked (hs : s.IsWellNamed) (hroot : root.collection.IsWellNamed)
    (h : Walked s root r) : r.collection.IsWellNamed ∧ ∀ l ∈ r.links, l.IsWellNamed := by
  induction h with
  | start => exact ⟨hroot, by rintro _ ⟨⟩⟩
  | @cross r segment after l _ ht ih =>
    have hl : l.IsWellNamed := by
      have hf := found_turn s r segment after
      rw [ht] at hf
      rcases hf with ⟨f, ref, hf, -, -, hl⟩ | ⟨-, hl⟩
      · obtain ⟨target, hc, rfl⟩ := Option.map_eq_some_iff.1 hl
        have hn := ih.1.fields f (Collection.mem_of_field? hf)
        split <;> exact ⟨isWellNamed_of_find? hs hc, hn⟩
      · exact isWellNamed_backLink hs hl
    rw [Route.collection_cross]
    refine ⟨target_of_isWellNamed hl, fun k hk => ?_⟩
    rcases List.mem_append.1 hk with hk | hk
    · exact ih.2 k hk
    · exact List.mem_singleton.1 hk ▸ hl

end Plan

end RecordFilter
