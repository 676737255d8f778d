import RecordFilter.Proofs.AlikeRequests
import RecordFilter.Proofs.BodyPaths
import RecordFilter.Proofs.Items
import RecordFilter.Proofs.Placeholders
import RecordFilter.Proofs.Rebinding
import RecordFilter.Proofs.RequestPaths
import RecordFilter.Proofs.RequestValues

/-!
# Readings of submitted items

The items submitted for a field are read in three ways: their number is a numeral, the items
themselves are the elements of a bound JSON text, and those of a relation are the ids that the one
join of their records looks for. All of them are the same list of texts, in whichever form it is
submitted (`Resolver.readings_agree`).
-/

namespace RecordFilter

open Sql (Expr Join Joins)
open Plan (itemsParam segmentsOf IsMarked)
open Root (itemsName submittedParam)

/-! ## Placeholders in order -/

namespace Sql

open Text (isName)

/-- The names in the placeholders of a text, from left to right. -/
def placeholders (text : String) : List String :=
  (Piece.names (Piece.scan text.toList)).map String.ofList

/-- A spelled text with its placeholders. -/
structure Lists (names : List String) (text : String) : Prop where
  spelled : Spelled names text
  placeholders : placeholders text = names

variable {known ms ns : List String} {a b : String}

theorem Piece.names_scan_append {as : List Char} (h : Spells known as) (bs : List Char) :
    names (scan (as ++ bs)) = names (scan as) ++ names (scan bs) := by
  induction h with
  | nil => rfl
  | char hc _ ih =>
    rw [List.cons_append, scan_char hc, scan_char hc]
    exact ih
  | name hn _ _ ih =>
    simp only [List.cons_append, List.append_assoc]
    rw [scan_name hn, scan_name hn, names, names, ih, List.cons_append]

theorem Lists.append (ha : Lists ms a) (hb : Lists ns b) : Lists (ms ++ ns) (a ++ b) where
  spelled := (ha.spelled.mono (List.subset_append_left _ _)).append
    (hb.spelled.mono (List.subset_append_right _ _))
  placeholders := by
    rw [Sql.placeholders, String.toList_append, Piece.names_scan_append ha.spelled,
      List.map_append]
    exact congrArg₂ _ ha.placeholders hb.placeholders

theorem Spelled.lists (h : Spelled [] a) : Lists [] a where
  spelled := h
  placeholders := by
    have hnone : Piece.names (Piece.scan a.toList) = [] := by
      rw [List.eq_nil_iff_forall_not_mem]
      intro n hn
      exact absurd (Piece.fits_of_spells h _ (Piece.mem_names.1 hn)) List.not_mem_nil
    rw [Sql.placeholders, hnone, List.map_nil]

theorem lists_placeholder {name : String} (h : isName name.toList = true) :
    Lists [name] (placeholder name) where
  spelled := spelled_placeholder h List.mem_cons_self
  placeholders := by
    have hs : (placeholder name).toList = '\x7b' :: ':' :: (name.toList ++ '\x7d' :: []) := by
      simp [placeholder]
    rw [Sql.placeholders, hs, Piece.scan_name h]
    simp [Piece.scan, Piece.scanAfter, Piece.names]

theorem lists_commas (h : ∀ n ∈ ns, isName n.toList = true) :
    Lists ns (commas ((ns.map Expr.param).map Expr.text)) := by
  induction ns with
  | nil => exact (IsPlain.spelled (by decide)).lists
  | cons n ns ih =>
    obtain ⟨hn, hns⟩ := List.forall_mem_cons.1 h
    cases ns with
    | nil => exact lists_placeholder hn
    | cons m ns =>
      have hsep : Lists [] ", " := (IsPlain.spelled (by decide)).lists
      rw [commas, List.map_cons, List.map_cons, List.map_cons, List.map_cons,
        String.intercalate_cons_cons]
      exact ((lists_placeholder hn).append hsep).append (ih hns)

/-- The condition that a value is one of some parameters names them in order. -/
theorem lists_idAmong {id : Expr} (hid : Spelled [] id.text) (hne : ns ≠ [])
    (h : ∀ n ∈ ns, isName n.toList = true) :
    ∃ cond, (Root.idAmong id (ns.map .param)).text? = some cond ∧ Lists ns cond := by
  obtain ⟨n, ns, rfl⟩ := List.exists_cons_of_ne_nil hne
  cases ns with
  | nil =>
    refine ⟨_, rfl, ?_⟩
    exact (hid.plain (by decide)).lists.append (lists_placeholder (h n List.mem_cons_self))
  | cons m ns =>
    refine ⟨_, rfl, ?_⟩
    have hlist :=
      (hid.plain (show IsPlain " IN (" by decide)).lists.append (lists_commas h)
    have hend := hlist.append (IsPlain.spelled (show IsPlain ")" by decide)).lists
    rwa [List.append_nil] at hend

end Sql

/-! ## Plans of the readings -/

def lengthPath (key : String) : String := bodyPath (Modifier.length.after key)

def idPath (key : String) : String := bodyPath (key ++ ("." ++ FieldName.id))

/-- The paths to the readings of what is submitted for a key. -/
def itemPaths (key : String) : List String := [lengthPath key, eachPath key, idPath key]

section Paths

variable {s : Scope} {q : Request} {f : Field} {ref : Reference} {target : Collection}

theorem isWellFormed_lengthPath (h : Text.IsWordy f.name) :
    Path.isWellFormed (lengthPath f.name) = true :=
  Path.isWellFormed_bodyPath (Path.isTail_after h)

theorem isWellFormed_idPath (h : Text.IsWordy f.name) :
    Path.isWellFormed (idPath f.name) = true := by
  refine Path.isWellFormed_bodyPath ?_
  rw [String.toList_append]
  exact Path.isTail_append (Path.all_of_isWordy h) (by decide)

namespace Plan

theorem segmentsOf_idPath (h : Text.IsWordy f.name) :
    segmentsOf (idPath f.name) = ["@request", "body", f.name, FieldName.id] := by
  rw [idPath, segmentsOf_bodyPath, segmentsOf_append (notMem_of_isWordy h).1,
    segmentsOf_of_notMem (by decide)]

theorem ofPath_lengthPath (hw : Text.IsWordy f.name) (hq : s.request = some q)
    (hf : s.base.field? f.name = some f) (hk : f.kind.holdsItems = true) :
    ofPath s (lengthPath f.name) =
      direct (.fixed { value := .numeral (q.itemsOf f.name).length }) := by
  have hm := splitModifier_after (m := .length) hw
  rw [lengthPath, ofPath_of_request (empty_notMem_after hw) (segmentsOf_after hw)]
  refine (ofRequest_body hq hm []).trans ?_
  simp only [List.nil_append, ofBody, hm, hf, hk]

theorem ofPath_idPath (hw : Text.IsWordName f.name) (hq : s.request = some q) :
    ofPath s (idPath f.name) = ofBody s (idPath f.name) q [f.name, FieldName.id] none := by
  have hs := segmentsOf_idPath hw.2
  have hne : "" ∉ segmentsOf (idPath f.name) := by
    rw [hs]
    simpa [FieldName.id] using hw.1.symm
  have hm : splitModifier FieldName.id = .ok (FieldName.id, none) := rfl
  rw [ofPath_of_request hne hs]
  exact ofRequest_body hq hm [f.name]

theorem ofBody_id {path : String} (hf : s.base.field? f.name = some f) (hk : f.kind = .relation ref)
    (ht : s.catalog.find? ref.target = some target) :
    ofBody s path q [f.name, FieldName.id] none =
      if q.itemsOf f.name = [] then null
      else below s path (.submitted target f.name (q.itemsOf f.name) ref.multiple)
        [FieldName.id] := by
  simp only [ofBody, hf, Option.bind_some, hk, FieldKind.reference?, ht, List.isEmpty_iff]

/-- The plan of the ids below records that have ids. -/
theorem below_id (s : Scope) (path : String) {g : Field} {root : Root}
    (hl : root.isLenient = true) (hg : root.collection.field? FieldName.id = some g) :
    ∃ res : Resolution, res.value ≠ .null ∧
      below s path root [FieldName.id] =
        ⟨root.bindings, root.joinsAt root.firstAlias, .ok (.fixed res)⟩ := by
  have hm : splitModifier FieldName.id = .ok (FieldName.id, none) := rfl
  have hunmarked : ¬ IsMarked [FieldName.id] := by
    rintro ⟨segment, h, hc⟩
    rw [List.mem_singleton.1 h] at hc
    exact absurd hc (by decide)
  have hopen := isWithheld_of_isLenient (s := s) (r := ⟨root, []⟩) hl g
  have hcollection : (Route.mk root []).collection = root.collection := rfl
  have hjoins : (Route.mk root []).joins ++ [] = root.joinsAt root.firstAlias := by
    simp [Route.joins, Link.joinsAlong]
  rw [below_of_unmarked (List.cons_ne_nil _ _) hunmarked, walk, atLast]
  simp only [hm, hcollection, hg, hopen, Bool.false_eq_true, if_false,
    atField, along, hjoins]
  refine ⟨_, ?_, rfl⟩
  show fieldValue g _ ≠ .null
  unfold fieldValue
  split <;> simp

end Plan

end Paths

/-! ## Raw documents -/

section Raw

variable {s : Scope} {q q' : Request} {f : Field} {w : Json} {document path : String}

/-- A document submits the items that its value submits. -/
theorem Request.itemsOf_document (hv : Json.find? f.name q.body = some (.plain w))
    (hr : Json.find? f.name q'.body = some (.raw document)) (hd : Json.parse document = some w) :
    q'.itemsOf f.name = q.itemsOf f.name := by
  rw [itemsOf, itemsOf, hv, hr, Option.map_some, Option.map_some, Submitted.items, hd]
  rfl

theorem Plan.ofPath_document (hw : Text.IsWordName f.name) (hq : s.request = some q)
    (hf : s.base.field? f.name = some f) (hk : f.kind.holdsItems = true)
    (hv : Json.find? f.name q.body = some (.plain w))
    (hr : Json.find? f.name q'.body = some (.raw document)) (hd : Json.parse document = some w)
    (hp : path ∈ itemPaths f.name) :
    ofPath (s.withRequest (some q')) path = ofPath s path := by
  have hitems := Request.itemsOf_document hv hr hd
  have hf' : (s.withRequest (some q')).base.field? f.name = some f := hf
  simp only [itemPaths, List.mem_cons, List.not_mem_nil, or_false] at hp
  rcases hp with rfl | rfl | rfl
  · rw [ofPath_lengthPath hw.2 rfl hf' hk, ofPath_lengthPath hw.2 hq hf hk, hitems]
  · rw [ofPath_eachPath rfl hf' hk hw.2, ofPath_eachPath hq hf hk hw.2, submittedItems,
      submittedItems, hitems]
    rfl
  · rw [ofPath_idPath hw rfl, ofPath_idPath hw hq]
    have hid : splitModifier FieldName.id = .ok (FieldName.id, none) := rfl
    have hread (kind : Option FieldKind) :
        readRequest (idPath f.name) q' ["body", f.name, FieldName.id] none kind =
          readRequest (idPath f.name) q ["body", f.name, FieldName.id] none kind := by
      have below (q : Request) :
          readRequest (idPath f.name) q ["body", f.name, FieldName.id] none kind =
            submittedValue (idPath f.name) (q.value? ["body", f.name, FieldName.id]) none kind :=
        readRequest_concat _ q ["body", f.name] hid kind
      rw [below, below, Request.value?_body, Request.value?_body, hv, hr, Option.bind_some,
        Option.bind_some, Request.submittedAt, Request.submittedAt, hd, Option.bind_some]
      exact List.cons_ne_nil _ _
    unfold ofBody
    simp only [hread, hitems, below_withRequest]
    rfl

end Raw

/-! ## Resolving the readings -/

namespace Resolver

variable {r : Resolver} {f : Field} {items : List String}

theorem resolve_of_fixed {path : String} {bindings : List (String × Json)} {joins ks : List Join}
    {res : Resolution} (hw : Path.isWellFormed path = true) (ha : r.allowed.admits path = true)
    (hp : Plan.ofPath r.scope path = ⟨bindings, joins, .ok (.fixed res)⟩)
    (hj : r.joins.registerAll joins = .ok ks) :
    r.resolve path = (.ok res, { r with joins := ks, params := setAll r.params bindings }) := by
  rw [((resolve_cases r path).resolve_left fun h => h.2 ⟨hw, ha⟩).2.2, hp, commit]
  simp only [hj]

/-- The readings of the items submitted for a field, in a resolver with nothing in it: their number,
the texts themselves and, if the field is a relation, the ids that are looked for. -/
structure Reads (r : Resolver) (f : Field) (items : List String) : Prop where
  length : r.resolve (lengthPath f.name) = (.ok { value := .numeral items.length }, r)
  each : ∃ res text, (r.resolve (eachPath f.name)).1 = .ok res ∧
    (r.resolve (eachPath f.name)).2.params.entries =
      [(itemsParam (itemsName f.name), .text text)] ∧
    Json.parse text = some (.list (items.map .text))
  ids : ∀ ref target, f.kind = .relation ref → r.scope.catalog.find? ref.target = some target →
    ∃ res r', r.resolve (idPath f.name) = (.ok res, r') ∧
      ((res.value = .null ↔ items = []) ∧ (r'.joins = [] ↔ items = [])) ∧
      (items ≠ [] → ∃ j cond, r'.joins = [j] ∧ j.source = .table target.name ∧
        j.on.text? = some cond ∧ (Sql.placeholders cond).length = items.length ∧
        (Sql.placeholders cond).map r'.params.find? = items.map fun id => some (.text id))

section Reading

variable {s : Scope} {allowed : AllowedPaths} {q : Request} {ref : Reference}
  {target : Collection} {g : Field}

theorem resolve_lengthPath (hw : Text.IsWordy f.name)
    (ha : allowed.admits (lengthPath f.name) = true) (hq : s.request = some q)
    (hf : s.base.field? f.name = some f) (hk : f.kind.holdsItems = true) :
    resolve { scope := s, allowed } (lengthPath f.name) =
      (.ok { value := .numeral (q.itemsOf f.name).length }, { scope := s, allowed }) :=
  resolve_of_fixed (r := { scope := s, allowed }) (isWellFormed_lengthPath hw) ha
    (Plan.ofPath_lengthPath hw hq hf hk) rfl

theorem resolve_eachPath (hw : Text.IsWordy f.name)
    (ha : allowed.admits (eachPath f.name) = true) (hq : s.request = some q)
    (hf : s.base.field? f.name = some f) (hk : f.kind.holdsItems = true) :
    ∃ res, (resolve { scope := s, allowed } (eachPath f.name)).1 = .ok res ∧
      (resolve { scope := s, allowed } (eachPath f.name)).2.params.entries =
        [(itemsParam (itemsName f.name), .text (Plan.itemsText q f.name))] := by
  have h := resolve_of_fixed (r := { scope := s, allowed }) (isWellFormed_eachPath hw) ha
    (ofPath_eachPath hq hf hk hw) rfl
  exact ⟨_, congrArg Prod.fst h, congrArg (fun p => p.2.params.entries) h⟩

theorem resolve_idPath_of_nil (hw : Text.IsWordName f.name)
    (ha : allowed.admits (idPath f.name) = true) (hq : s.request = some q)
    (hf : s.base.field? f.name = some f) (hk : f.kind = .relation ref)
    (ht : s.catalog.find? ref.target = some target) (hn : q.itemsOf f.name = []) :
    resolve { scope := s, allowed } (idPath f.name) =
      (.ok { value := .null }, { scope := s, allowed }) := by
  have hp : Plan.ofPath s (idPath f.name) = ⟨[], [], .ok (.fixed { value := .null })⟩ := by
    rw [Plan.ofPath_idPath hw hq, Plan.ofBody_id hf hk ht, if_pos hn]
    rfl
  exact resolve_of_fixed (r := { scope := s, allowed }) (isWellFormed_idPath hw.2) ha hp rfl

theorem resolve_idPath (hw : Text.IsWordName f.name)
    (ha : allowed.admits (idPath f.name) = true) (hq : s.request = some q)
    (hf : s.base.field? f.name = some f) (hk : f.kind = .relation ref)
    (ht : s.catalog.find? ref.target = some target)
    (hg : target.field? FieldName.id = some g) (hn : q.itemsOf f.name ≠ []) :
    ∃ res r' j cond, resolve { scope := s, allowed } (idPath f.name) = (.ok res, r') ∧
      res.value ≠ .null ∧ r'.joins = [j] ∧ j.source = .table target.name ∧
      j.on.text? = some cond ∧
      (Sql.placeholders cond).map r'.params.find? =
        (q.itemsOf f.name).map fun id => some (.text id) := by
  let root : Root := .submitted target f.name (q.itemsOf f.name) ref.multiple
  let names := (q.itemsOf f.name).mapIdx fun i _ => submittedParam root.firstAlias i
  have hnames : ∀ n ∈ names, Text.isName n.toList = true := by
    intro n hm
    obtain ⟨i, -, rfl⟩ := List.mem_mapIdx.1 hm
    exact Root.isName_submittedParam (Root.isWordy_firstAlias root) i
  have hid : Sql.Spelled [] (idOf root.firstAlias).text :=
    Sql.spelled_quoteColumn (Root.isWordy_firstAlias root) (by decide)
  have hne : names ≠ [] := by simpa [names] using hn
  obtain ⟨cond, hc, hl⟩ := Sql.lists_idAmong hid hne hnames
  have hjoins : root.joinsAt root.firstAlias =
      [tableJoin target root.firstAlias
        (Root.idAmong (idOf root.firstAlias) (names.map .param))] := by
    have hparams : names.map Expr.param =
        (q.itemsOf f.name).mapIdx fun i _ => .param (submittedParam root.firstAlias i) :=
      List.ext_getElem (by simp [names]) fun i _ _ => by simp [names]
    rw [hparams]
    rfl
  have hp := Plan.ofPath_idPath hw hq
  obtain ⟨res, hres, hbelow⟩ :=
    Plan.below_id s (idPath f.name) (show root.isLenient = true from rfl) hg
  rw [Plan.ofBody_id hf hk ht, if_neg hn, hbelow, hjoins] at hp
  have hr := resolve_of_fixed (r := { scope := s, allowed }) (isWellFormed_idPath hw.2) ha hp rfl
  refine ⟨res, _, _, cond, hr, hres, rfl, rfl, hc, ?_⟩
  rw [hl.placeholders]
  refine List.ext_getElem (by simp [names]) fun i hi _ => ?_
  replace hi : i < (q.itemsOf f.name).length := by simpa [names] using hi
  have hb : (submittedParam root.firstAlias i, Json.text (q.itemsOf f.name)[i]) ∈ root.bindings :=
    List.mem_mapIdx.2 ⟨i, hi, rfl⟩
  simp only [names, List.getElem_map, List.getElem_mapIdx]
  rw [find?_setAll root.nodup_bindings, Json.find?_of_mem root.nodup_bindings hb, Option.some_or]

theorem reads_of_mem {ds : Definitions} (hc : ds.toCatalog = .ok s.catalog)
    (hb : s.base ∈ s.catalog.collections) (hq : s.request = some q) (hf : f ∈ s.base.fields)
    (hk : f.kind.holdsItems = true) (ha : ∀ path ∈ itemPaths f.name, allowed.admits path = true) :
    Reads { scope := s, allowed } f (q.itemsOf f.name) := by
  have hw := Definitions.isWordName_of_mem hc hb hf
  have hfield := Definitions.field?_of_mem hc hb hf
  obtain ⟨hlength, heach, hid⟩ : _ ∧ _ ∧ _ := by simpa [itemPaths] using ha
  constructor
  · exact resolve_lengthPath hw.2 hlength hq hfield hk
  · obtain ⟨res, hres, hparams⟩ := resolve_eachPath hw.2 heach hq hfield hk
    exact ⟨res, _, hres, hparams, Json.parse_texts _⟩
  · intro ref target hr ht
    by_cases hn : q.itemsOf f.name = []
    · have hnull := resolve_idPath_of_nil hw hid hq hfield hr ht hn
      refine ⟨_, _, hnull, ⟨iff_of_true rfl hn, iff_of_true rfl hn⟩, fun h => absurd hn h⟩
    · have htarget := Catalog.mem_of_find? ht
      obtain ⟨d, -, hd⟩ := Definitions.exists_left (Definitions.describes_toCatalog hc) htarget
      obtain ⟨g, hg, hgn⟩ := hd.hasId
      obtain ⟨res, r', j, cond, hres, hv, hj, hs, ht, hids⟩ := resolve_idPath hw hid hq hfield hr ht
        (hgn ▸ Definitions.field?_of_mem hc htarget hg) hn
      have hlen : (Sql.placeholders cond).length = (q.itemsOf f.name).length := by
        rw [← List.length_map, hids, List.length_map]
      exact ⟨res, r', hres, ⟨iff_of_false hv hn, iff_of_false (by simp [hj]) hn⟩,
        fun _ => ⟨j, cond, hj, hs, ht, hlen, hids⟩⟩

/-- What is resolved depends on the scope through the plan alone. -/
theorem commit_scope (r : Resolver) (p : Plan) (s : Scope) :
    commit { r with scope := s } p = ((r.commit p).1, { (r.commit p).2 with scope := s }) := by
  unfold commit
  simp only
  split <;> rfl

theorem resolve_scope {path : String} (h : Plan.ofPath s path = Plan.ofPath r.scope path) :
    resolve { r with scope := s } path =
      ((r.resolve path).1, { (r.resolve path).2 with scope := s }) := by
  unfold resolve
  rw [h, commit_scope]
  split
  · rfl
  · split <;> rfl

/-- In a catalog that was accepted, the readings of a field that holds items agree: each of them
reads the items of the value that is submitted for the field. They do not change if the value comes
as a document. -/
theorem readings_agree {ds : Definitions} {v : Submitted} (hc : ds.toCatalog = .ok s.catalog)
    (hb : s.base ∈ s.catalog.collections) (hq : s.request = some q) (hf : f ∈ s.base.fields)
    (hk : f.kind.holdsItems = true) (hv : Json.find? f.name q.body = some v)
    (ha : ∀ path ∈ itemPaths f.name, allowed.admits path = true) :
    Reads { scope := s, allowed } f v.items ∧
      ∀ w document q', v = .plain w → Json.parse document = some w →
        Json.find? f.name q'.body = some (.raw document) → ∀ path ∈ itemPaths f.name,
          resolve { scope := s.withRequest (some q'), allowed } path =
            ((resolve { scope := s, allowed } path).1,
              { (resolve { scope := s, allowed } path).2 with
                scope := s.withRequest (some q') }) := by
  constructor
  · have hreads := reads_of_mem hc hb hq hf hk ha
    rwa [Request.itemsOf, hv] at hreads
  · rintro w document q' rfl hd hr path hp
    have hw := Definitions.isWordName_of_mem hc hb hf
    have hfield := Definitions.field?_of_mem hc hb hf
    exact resolve_scope (r := { scope := s, allowed })
      (Plan.ofPath_document hw hq hfield hk hv hr hd hp)

/-! ### Tags with an empty and a repeated one -/

def tagged : Definitions :=
  { collections :=
      [{ name := "posts"
         fields :=
          [{ name := "tags", type := .relation, collection := some "tags", multiple := true }] },
        { name := "tags" }] }

def taggedCatalog : Catalog := tagged.toCatalog.toOption.getD default

def tagsField : Field := (((taggedCatalog.find? "posts").getD default).field? "tags").getD default

def submittedTags : Json := .list (["t2", "", "t1", "t2"].map .text)

def taggedScope (tags : Submitted) : Scope :=
  { catalog := taggedCatalog
    base := (taggedCatalog.find? "posts").getD default
    request := some { body := [("tags", tags)] } }

/-- The tags are `t2` and `t1`, as a list and as its text. -/
theorem readings_agree_tags :
    tagged.toCatalog = .ok taggedCatalog ∧
      Reads { scope := taggedScope (.plain submittedTags) } tagsField ["t2", "t1"] ∧
      ∀ path ∈ itemPaths "tags",
        resolve { scope := taggedScope (.raw submittedTags.compact) } path =
          ((resolve { scope := taggedScope (.plain submittedTags) } path).1,
            { (resolve { scope := taggedScope (.plain submittedTags) } path).2 with
              scope := taggedScope (.raw submittedTags.compact) }) := by
  have hc : tagged.toCatalog = .ok taggedCatalog := rfl
  have hall : ∀ path ∈ itemPaths tagsField.name, AllowedPaths.wellFormed.admits path = true :=
    fun _ _ => rfl
  obtain ⟨hreads, hraw⟩ := readings_agree (s := taggedScope (.plain submittedTags)) (f := tagsField)
    hc (by decide) rfl (by decide) rfl rfl hall
  have hitems : (Submitted.plain submittedTags).items = ["t2", "t1"] := by decide
  rw [hitems] at hreads
  exact ⟨hc, hreads, hraw submittedTags submittedTags.compact _ rfl (Json.parse_texts _) rfl⟩

end Reading

end Resolver

end RecordFilter
