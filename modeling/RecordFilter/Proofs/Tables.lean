import RecordFilter.Proofs.Emails
import RecordFilter.Proofs.Origins

/-!
# The table of the base and the names in aliases

A query lists the rows of a table by its name, and the columns of the base are read under the word
part of that name. Names of collections and fields may have any letters, and their word parts keep
those of ASCII only. So the columns of the base belong to the table of the query if the name of the
base is in ASCII, and not otherwise (`Resolver.base_columns_iff`).
-/

namespace RecordFilter

open Sql (Expr Join Joins)

/-! ## Word parts of names -/

namespace Text

variable {a b : String}

/-- The characters of ASCII in a text. -/
def asciiChars (a : String) : List Char := a.toList.filter fun c => decide (c.toNat < 128)

theorem kept_iff {c : Char} (h : isWord c = true) :
    (c.isAlphanum || c == '_') = true ↔ c.toNat < 128 := by
  constructor
  · intro hc
    rcases Bool.or_eq_true _ _ ▸ hc with hc | hc
    · exact toNat_lt_of_isAlphanum hc
    · rw [beq_iff_eq.1 hc]
      decide
  · intro hc
    rwa [isWord, if_pos hc] at h

/-- The word part of a name is made of its characters of ASCII. -/
theorem wordPart_of_isWordy (h : IsWordy a) :
    Sql.wordPart a = String.ofList (asciiChars a) := by
  unfold Sql.wordPart
  refine congrArg _ (List.filter_congr fun c hc => ?_)
  rw [Bool.eq_iff_iff, kept_iff (h c hc), decide_eq_true_iff]

theorem wordPart_eq_self_iff (h : IsWordy a) : Sql.wordPart a = a ↔ IsAscii a := by
  rw [wordPart_of_isWordy h, ← String.toList_inj, String.toList_ofList, asciiChars,
    List.filter_eq_self]
  simp only [decide_eq_true_iff]
  rfl

/-- Names lead to one alias if they have the same characters of ASCII. -/
theorem fieldAlias_inj (ha : IsWordy a) (hb : IsWordy b) (parent : String) :
    fieldAlias parent a = fieldAlias parent b ↔ asciiChars a = asciiChars b := by
  rw [fieldAlias, fieldAlias, String.append_right_inj, wordPart_of_isWordy ha,
    wordPart_of_isWordy hb, ← String.toList_inj, String.toList_ofList, String.toList_ofList]

end Text

/-! ## Columns of the base -/

namespace Sql

theorem Source.aliases_eq (s : Source) : s.aliases = s.columns.map Prod.fst := by
  cases s <;> rfl

theorem On.aliases_eq (on : On) : on.aliases = on.columns.map Prod.fst := by
  cases on with
  | among value list =>
    rw [columns, List.map_append, List.map_flatMap]
    rfl
  | _ => simp [aliases, columns, Expr.aliases]

theorem Joins.InScope.columns {known : List String} {js : Joins} (h : InScope known js)
    {j : Join} (hj : j ∈ js) {column : String × String} (hc : column ∈ j.columns) :
    column.1 ∈ known ∨ column.1 ∈ js.map Join.name := by
  induction js generalizing known with
  | nil => cases hj
  | cons k js ih =>
    obtain ⟨⟨hsource, hon⟩, hjs⟩ := h
    rcases List.mem_cons.1 hj with rfl | hj
    · rcases List.mem_append.1 hc with hc | hc
      · exact .inl (hsource _ (Source.aliases_eq _ ▸ List.mem_map_of_mem hc))
      · rcases hon _ (On.aliases_eq _ ▸ List.mem_map_of_mem hc) with he | hk
        · exact .inr (he ▸ List.mem_cons_self)
        · exact .inl hk
    · rcases ih hjs hj with hk | hn
      · rcases List.mem_append.1 hk with hk | hk
        · exact .inl hk
        · exact .inr (List.mem_singleton.1 hk ▸ List.mem_cons_self)
      · exact .inr (List.mem_cons_of_mem _ hn)

end Sql

namespace Link

theorem exists_column (parent : String) (l : Link) :
    ∃ j ∈ l.joins parent, ∃ column ∈ j.columns, column.1 = parent := by
  cases l <;>
    simp [joins, tableJoin, itemsJoin, idOf, itemOf, Sql.Join.columns, Sql.Source.columns,
      Sql.On.columns, Expr.columns]

end Link

namespace Plan

variable {s : Scope} {path : String} {segments rest : List String} {c : Collection} {r : Route}

theorem Reading.exists_column (how : Reading) (f : Field) (table : String) :
    ∃ column ∈ (how.value f table).columns ++ (how.joins f table).flatMap Join.columns,
      column.1 = table := by
  rcases how with (_ | _) | ⟨names, _ | _⟩ | _ | _ <;>
    simp [value, lowered, joins, eachItems, itemOf, Expr.columns]

theorem exists_column_below {res : Resolution}
    (h : (below s path (.base c) segments).outcome = .ok (.fixed res)) :
    ∃ column ∈ res.value.columns ++ (below s path (.base c) segments).joins.flatMap Join.columns,
      column.1 = Sql.wordPart c.name := by
  obtain ⟨⟨root, links⟩, rest, hr, -, he⟩ := ends_below s path (.base c) segments
  obtain rfl : root = .base c := hr.root_eq
  generalize below s path (.base c) segments = p at h he
  cases he with
  | fails e => cases h
  | nothing hl => cases hl
  | @reads f how visibleIn =>
    cases h
    cases links with
    | nil =>
      -- the field is one of the base
      exact how.exists_column f (Sql.wordPart c.name)
    | cons l links =>
      -- the first link starts at the base
      obtain ⟨j, hj, column, hc, he⟩ := l.exists_column (Sql.wordPart c.name)
      refine ⟨column, List.mem_append_right _ (List.mem_flatMap.2 ⟨j, ?_, hc⟩), he⟩
      exact List.mem_append_left _ (List.mem_append_right _ (List.mem_append_left _ hj))

end Plan

namespace Resolver

variable {r : Resolver} {path : String} {res : Resolution}

/-- The columns that a path reads of tables which it does not join: in its value, in its joins and
in the listing of its values. -/
def baseColumns (r : Resolver) (path : String) (res : Resolution) : List (String × String) :=
  (res.value.columns ++ (Plan.ofPath r.scope path).joins.flatMap Join.columns ++
      res.listing.toList.map fun l => (l.baseAlias, FieldName.id)).filter fun column =>
    column.1 ∉ (Plan.ofPath r.scope path).joins.map Join.name

/-- The columns of the base are all read under the word part of its name, and there are some. -/
theorem baseColumns_spec (hp : Plan.IsOwn path) (h : (r.resolve path).1 = .ok res) :
    r.baseColumns path res ≠ [] ∧
      ∀ column ∈ r.baseColumns path res, column.1 = Sql.wordPart r.scope.base.name := by
  obtain ⟨hbelow, ho⟩ := outcome_of_isOwn hp h
  have hscope := Plan.inScope_ofPath r.scope path
  have hfresh : Sql.wordPart r.scope.base.name ∉
      (Plan.ofPath r.scope path).joins.map Join.name := by
    intro hm
    obtain ⟨j, hj, he⟩ := List.mem_map.1 hm
    rw [hbelow] at hj
    exact Plan.name_ne_base hj he
  constructor
  · obtain ⟨column, hc, he⟩ := Plan.exists_column_below (hbelow ▸ ho)
    rw [← hbelow] at hc
    refine List.ne_nil_of_mem (List.mem_filter.2 ⟨List.mem_append_left _ hc, ?_⟩)
    rw [he]
    exact decide_eq_true hfresh
  · intro column hc
    obtain ⟨hc, hnot⟩ := List.mem_filter.1 hc
    have hnot := of_decide_eq_true hnot
    rcases List.mem_append.1 hc with hc | hc
    · rcases List.mem_append.1 hc with hc | hc
      · exact (hscope.value res ho _ (.inl (List.mem_map_of_mem hc))).resolve_right hnot
      · obtain ⟨j, hj, hc⟩ := List.mem_flatMap.1 hc
        rcases hscope.joins.columns hj hc with hbase | hname
        · exact List.mem_singleton.1 hbase
        · exact absurd hname hnot
    · obtain ⟨l, hl, rfl⟩ := List.mem_map.1 hc
      have hmirrors := Plan.mirrors_below r.scope path (.base r.scope.base) (Plan.segmentsOf path)
      rw [← hbelow] at hmirrors
      obtain rfl := hmirrors res l ho (Option.mem_toList.1 hl)
      rfl

/-- The columns of the base belong to the table that a query lists exactly if the name of the base
is in ASCII. Of any name that is admitted, an alias keeps the characters of ASCII: it keeps the
name if there are no others, and two names are told apart by them alone. -/
theorem base_columns_iff {ds : Definitions} (hd : ds.toCatalog = .ok r.scope.catalog)
    (hm : r.scope.base ∈ r.scope.catalog.collections) (hp : Plan.IsOwn path)
    (h : (r.resolve path).1 = .ok res) :
    (∀ q : Sql.Select, q.table = r.scope.base.name →
      r.baseColumns path res ≠ [] ∧
        ((∀ column ∈ r.baseColumns path res, column.1 = q.table) ↔
          Text.IsAscii r.scope.base.name)) ∧
      ∀ a, Text.isName a.toList = true →
        (Sql.wordPart a = a ↔ Text.IsAscii a) ∧
        ∀ b parent, Text.isName b.toList = true →
          (fieldAlias parent a = fieldAlias parent b ↔ Text.asciiChars a = Text.asciiChars b) := by
  obtain ⟨hne, hall⟩ := baseColumns_spec hp h
  have hname := (Scope.isWellNamed_of_toCatalog hd hm).base.name
  refine ⟨fun q hq => ⟨hne, ?_⟩, fun a ha => ?_⟩
  · rw [hq, ← Text.wordPart_eq_self_iff hname]
    constructor
    · intro he
      obtain ⟨column, hc⟩ := List.exists_mem_of_ne_nil _ hne
      rw [← hall column hc, he column hc]
    · exact fun he column hc => (hall column hc).trans he
  · have ha := Text.isWordy_of_isName ha
    exact ⟨Text.wordPart_eq_self_iff ha, fun b parent hb =>
      Text.fieldAlias_inj ha (Text.isWordy_of_isName hb) parent⟩

def measured (name : String) : Definitions :=
  { collections :=
      [{ name, fields :=
          [{ name := "größe", type := .relation, collection := some "tags" },
            { name := "grüße", type := .relation, collection := some "tags" }] },
        { name := "tags", fields := [{ name := "label", type := .text }] }] }

def measuredCatalog (name : String) : Catalog := (measured name).toCatalog.toOption.getD default

def measuredScope (name : String) : Scope :=
  { catalog := measuredCatalog name, base := ((measuredCatalog name).find? name).getD default }

set_option maxRecDepth 4000 in
theorem base_columns_items :
    (measured "items").toCatalog = .ok (measuredCatalog "items") ∧
      (∃ res, (resolve { scope := measuredScope "items" } "größe.label").1 = .ok res ∧
        ∀ column ∈ baseColumns { scope := measuredScope "items" } "größe.label" res,
          column.1 = "items") ∧
      fieldAlias "items" "größe" = fieldAlias "items" "grüße" := by
  have hd : (measured "items").toCatalog = .ok (measuredCatalog "items") := rfl
  have hm : (measuredCatalog "items").find? "items" = some (measuredScope "items").base := rfl
  have hres : ∃ res, (resolve { scope := measuredScope "items" } "größe.label").1 = .ok res :=
    ⟨_, rfl⟩
  obtain ⟨res, hres⟩ := hres
  have h := base_columns_iff hd (Catalog.mem_of_find? hm) (by decide) hres
  refine ⟨hd, ⟨res, hres, (h.1 { table := "items" } rfl).2.2 (by decide)⟩, ?_⟩
  exact ((h.2 "größe" (by decide)).2 "grüße" "items" (by decide)).2 (by decide)

set_option maxRecDepth 4000 in
/-- A collection that is named in other letters is not the table that its columns are read from,
and of two fields that are so named only the first one can be followed. -/
theorem base_columns_sizes :
    (measured "größen").toCatalog = .ok (measuredCatalog "größen") ∧
      (∃ res, (resolve { scope := measuredScope "größen" } "id").1 = .ok res ∧
        baseColumns { scope := measuredScope "größen" } "id" res = [("gren", "id")]) ∧
      Sql.wordPart "größen" ≠ "größen" ∧
      (resolve (resolve { scope := measuredScope "größen" } "größe.label").2 "grüße.label").1 =
        .error (.ambiguousAlias "gren_gre") := by
  refine ⟨rfl, ⟨_, rfl, rfl⟩, by decide, rfl⟩

end Resolver

end RecordFilter
