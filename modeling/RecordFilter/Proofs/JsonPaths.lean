import RecordFilter.Proofs.BodyPaths
import RecordFilter.Proofs.Quotes
import RecordFilter.Proofs.RequestPaths

/-!
# Paths into JSON documents

The literal of an extraction is `$` and a step for each name: `.name`, or digits in brackets
(`Sql.IsJsonPath`). `Sql.readSteps` takes such steps apart, in one way only (`Sql.IsSteps.unique`).
What a path reads below a JSON field has one step for each of its segments, which read back as the
segments, unless the last of them is a modifier alone (`Resolver.json_path_iff`).
-/

namespace RecordFilter

open Text (isName IsWordy)

namespace Sql

/-! ## Steps -/

/-- A step into a document: a name that is no number, or digits. -/
inductive IsStep : String → List Char → Prop
  | key {name : String} (hn : isName name.toList = true)
      (hd : name.toList.all Char.isDigit = false) : IsStep name ('.' :: name.toList)
  | index {digits : String} (hn : digits ≠ "") (hd : digits.toList.all Char.isDigit = true) :
      IsStep digits ('[' :: (digits.toList ++ [']']))

inductive IsSteps : List String → List Char → Prop
  | nil : IsSteps [] []
  | cons {name : String} {step : List Char} {names : List String} {steps : List Char}
      (h : IsStep name step) (hs : IsSteps names steps) : IsSteps (name :: names) (step ++ steps)

/-- A literal that leads from the root of a document along names. -/
def IsJsonPath (names : List String) (path : String) : Prop :=
  ∃ steps, path.toList = '$' :: steps ∧ IsSteps names steps

def stepName? : List Char → Option String
  | '.' :: name =>
    if isName name && !name.all Char.isDigit then some (String.ofList name) else none
  | '[' :: rest =>
    let digits := rest.dropLast
    if rest.getLast? == some ']' && !digits.isEmpty && digits.all Char.isDigit then
      some (String.ofList digits)
    else none
  | _ => none

def startsStep (c : Char) : Bool := c == '.' || c == '['

/-- The names of the steps in a text, and what stands before the first of them. -/
def readSteps : List Char → Option (List Char × List String)
  | [] => some ([], [])
  | c :: cs =>
    (readSteps cs).bind fun (before, names) =>
      if startsStep c then (stepName? (c :: before)).map fun name => ([], name :: names)
      else some (c :: before, names)

variable {name : String} {names others : List String} {c : Char}
  {cs step steps before : List Char}

theorem stepName?_eq_some_iff : stepName? step = some name ↔ IsStep name step := by
  constructor
  · intro h
    unfold stepName? at h
    split at h
    · next cs =>
      split at h
      · next hc =>
        cases h
        rw [Bool.and_eq_true, Bool.not_eq_true'] at hc
        have hkey : IsStep (String.ofList cs) ('.' :: (String.ofList cs).toList) :=
          .key (by simpa using hc.1) (by simpa using hc.2)
        rwa [String.toList_ofList] at hkey
      · cases h
    · next cs =>
      simp only at h
      split at h
      · next hc =>
        cases h
        simp only [Bool.and_eq_true, beq_iff_eq, Bool.not_eq_true', List.isEmpty_eq_false_iff] at hc
        obtain ⟨⟨hl, hn⟩, hd⟩ := hc
        have hcs := List.dropLast_append_getLast? _ hl
        have hindex : IsStep (String.ofList cs.dropLast)
            ('[' :: ((String.ofList cs.dropLast).toList ++ [']'])) :=
          .index (by simpa using hn) (by simpa using hd)
        rwa [String.toList_ofList, hcs] at hindex
      · cases h
    · cases h
  · intro h
    cases h with
    | key hn hd => simp [stepName?, hn, hd]
    | index hn hd =>
      have hne : name.toList ≠ [] := mt String.toList_eq_nil_iff.1 hn
      simp [stepName?, hd, hne]

theorem startsStep_eq_false (h : Text.isWord c = true ∨ c = ']') : startsStep c = false := by
  rcases h with h | rfl
  · simp only [startsStep, Bool.or_eq_false_iff, beq_eq_false_iff_ne]
    constructor
    · rintro rfl
      exact absurd h (by decide)
    · rintro rfl
      exact absurd h (by decide)
  · decide

theorem IsStep.eq_cons (h : IsStep name step) :
    ∃ c before, step = c :: before ∧ startsStep c = true ∧
      ∀ c ∈ before, startsStep c = false := by
  cases h with
  | key hn hd =>
    exact ⟨_, _, rfl, rfl, fun c hc => startsStep_eq_false (.inl ((Text.isName_iff.1 hn).2 c hc))⟩
  | index hn hd =>
    refine ⟨_, _, rfl, rfl, fun c hc => startsStep_eq_false ?_⟩
    rcases List.mem_append.1 hc with hc | hc
    · exact .inl (Text.isWord_of_isDigit (List.all_eq_true.1 hd c hc))
    · exact .inr (List.mem_singleton.1 hc)

theorem isSteps_nil_iff : IsSteps names [] ↔ names = [] := by
  constructor
  · generalize hcs : ([] : List Char) = cs
    rintro (_ | ⟨h, hs⟩)
    · rfl
    · obtain ⟨c, before, rfl, -⟩ := h.eq_cons
      cases hcs
  · rintro rfl
    exact .nil

theorem IsSteps.eq_cons (h : IsSteps names (c :: cs)) :
    ∃ name later before steps, names = name :: later ∧ cs = before ++ steps ∧
      IsStep name (c :: before) ∧ IsSteps later steps := by
  generalize hcs : c :: cs = text at h
  cases h with
  | nil => cases hcs
  | @cons name step later steps h hs =>
    obtain ⟨d, before, rfl, -⟩ := h.eq_cons
    obtain ⟨rfl, rfl⟩ := List.cons_eq_cons.1 hcs
    exact ⟨name, later, before, steps, rfl, rfl, h, hs⟩

/-- The reader finds the steps that there are. -/
theorem readSteps_eq_some_iff : readSteps cs = some (before, names) ↔
    ∃ steps, cs = before ++ steps ∧ IsSteps names steps ∧ ∀ c ∈ before, startsStep c = false := by
  induction cs generalizing before names with
  | nil =>
    constructor
    · intro h
      cases h
      exact ⟨[], rfl, .nil, by simp⟩
    · rintro ⟨steps, hcs, hs, -⟩
      obtain ⟨rfl, rfl⟩ := List.append_eq_nil_iff.1 hcs.symm
      rw [isSteps_nil_iff.1 hs]
      rfl
  | cons c cs ih =>
    constructor
    · intro h
      obtain ⟨⟨part, later⟩, hread, hc⟩ := Option.bind_eq_some_iff.1 h
      obtain ⟨steps, rfl, hs, hpart⟩ := ih.1 hread
      simp only at hc
      split at hc
      · obtain ⟨name, hname, hc⟩ := Option.map_eq_some_iff.1 hc
        cases hc
        exact ⟨_, rfl, .cons (stepName?_eq_some_iff.1 hname) hs, by simp⟩
      · next hstart =>
        cases hc
        exact ⟨steps, rfl, hs, List.forall_mem_cons.2 ⟨Bool.eq_false_iff.2 hstart, hpart⟩⟩
    · rintro ⟨steps, hcs, hs, hbefore⟩
      cases before with
      | nil =>
        obtain rfl : c :: cs = steps := hcs
        obtain ⟨name, later, part, steps, rfl, rfl, hstep, hs⟩ := hs.eq_cons
        obtain ⟨d, part', hd, hstart, hpart⟩ := hstep.eq_cons
        obtain ⟨rfl, rfl⟩ := List.cons_eq_cons.1 hd
        refine Option.bind_eq_some_iff.2 ⟨_, ih.2 ⟨steps, rfl, hs, hpart⟩, ?_⟩
        simp only [hstart, if_true, stepName?_eq_some_iff.2 hstep, Option.map_some]
      | cons d part =>
        obtain ⟨rfl, rfl⟩ := List.cons_eq_cons.1 hcs
        obtain ⟨hc, hpart⟩ := List.forall_mem_cons.1 hbefore
        refine Option.bind_eq_some_iff.2 ⟨_, ih.2 ⟨steps, rfl, hs, hpart⟩, ?_⟩
        simp only [hc, Bool.false_eq_true, if_false]

theorem readSteps_of_isSteps (h : IsSteps names steps) : readSteps steps = some ([], names) :=
  readSteps_eq_some_iff.2 ⟨steps, rfl, h, by simp⟩

/-- Steps can be read in one way only. -/
theorem IsSteps.unique (h : IsSteps names steps) (h' : IsSteps others steps) : names = others := by
  have := (readSteps_of_isSteps h).symm.trans (readSteps_of_isSteps h')
  exact (Prod.mk.inj (Option.some.inj this)).2

theorem readSteps_append_eq_none (h : readSteps steps = none) (cs : List Char) :
    readSteps (cs ++ steps) = none := by
  induction cs with
  | nil => exact h
  | cons c cs ih =>
    rw [List.cons_append, readSteps, ih]
    rfl

/-! ## Literals -/

theorem double_of_notMem {mark : Char} (h : mark ∉ cs) : double mark cs = cs := by
  induction cs with
  | nil => rfl
  | cons c cs ih =>
    rw [List.mem_cons, not_or] at h
    rw [double, if_neg (Ne.symm h.1), ih h.2]

theorem literal_of_notMem {s : String} (h : '\'' ∉ s.toList) : literal s = "'" ++ s ++ "'" := by
  rw [literal, double_of_notMem h]
  exact String.toList_injective (by simp)

theorem jsonExtract_eq (expr : String) {steps : String} (h : '\'' ∉ (jsonPath steps).toList) :
    jsonExtract expr steps = "pb_json_extract(" ++ expr ++ ", '" ++ jsonPath steps ++ "')" := by
  have quotes (name path : String) : name ++ expr ++ ", " ++ ("'" ++ path ++ "'") ++ ")" =
      name ++ expr ++ ", '" ++ path ++ "')" := by
    rw [show ", '" = ", " ++ "'" from rfl, show "')" = "'" ++ ")" from rfl]
    simp only [String.append_assoc]
  exact (congrArg ("pb_json_extract(" ++ expr ++ ", " ++ · ++ ")") (literal_of_notMem h)).trans
    (quotes _ _)

theorem jsonPath_append {path : String} (h : path ≠ "") (more : String) :
    jsonPath (path ++ more) = jsonPath path ++ more := by
  cases hp : path.toList with
  | nil => exact absurd (String.toList_eq_nil_iff.1 hp) h
  | cons c cs =>
    have happend : (path ++ more).toList = c :: (cs ++ more.toList) := by
      rw [String.toList_append, hp, List.cons_append]
    by_cases hc : c = '['
    · subst hc
      rw [jsonPath_of_index hp, jsonPath_of_index happend, String.append_assoc]
    · rw [jsonPath_of_key hp hc, jsonPath_of_key happend hc, String.append_assoc]

end Sql

namespace Plan

open Sql (jsonPath IsStep IsSteps IsJsonPath)

variable {s : Scope} {path name : String} {r route : Route} {f : Field}
  {names front after rest read : List String}

/-- The step of a name: digits in brackets, anything else after a dot. -/
def stepText (name : String) : List Char :=
  if name.toList.all Char.isDigit then '[' :: (name.toList ++ [']']) else '.' :: name.toList

theorem isStep_stepText (h : Text.IsWordName name) : IsStep name (stepText name) := by
  unfold stepText
  split
  · next hd => exact .index h.1 hd
  · next hd => exact .key (Text.isName_iff_isWordName.2 h) (Bool.eq_false_iff.2 hd)

theorem jsonPath_jsonStep (steps : String) (h : IsWordy name) :
    (jsonPath (jsonStep steps name)).toList = (jsonPath steps).toList ++ stepText name := by
  unfold jsonStep stepText
  by_cases hd : name.toList.all Char.isDigit = true
  · simp only [hd, if_true]
    by_cases hs : steps = ""
    · subst hs
      have hindex : ("" ++ "[" ++ name ++ "]").toList = '[' :: (name.toList ++ [']']) := by simp
      rw [Sql.jsonPath_of_index hindex]
      simp [jsonPath]
    · rw [String.append_assoc, String.append_assoc, Sql.jsonPath_append hs]
      simp
  · simp only [hd, Bool.false_eq_true, if_false]
    by_cases hs : steps = ""
    · subst hs
      cases hn : name.toList with
      | nil => rw [hn] at hd; exact absurd rfl hd
      | cons c cs =>
        have hc : c ≠ '[' := by
          rintro rfl
          exact absurd (h '[' (hn ▸ List.mem_cons_self)) (by decide)
        rw [if_pos rfl, Sql.jsonPath_of_key hn hc]
        simp [jsonPath, hn]
    · rw [if_neg hs, String.append_assoc, Sql.jsonPath_append hs]
      simp

/-- The steps of an extraction are those of its names. -/
theorem jsonPath_jsonSteps (h : ∀ n ∈ names, IsWordy n) :
    (jsonPath (jsonSteps names)).toList = '$' :: names.flatMap stepText := by
  have run (steps : String) : (jsonPath (names.foldl jsonStep steps)).toList =
      (jsonPath steps).toList ++ names.flatMap stepText := by
    induction names generalizing steps with
    | nil => simp
    | cons n names ih =>
      obtain ⟨hn, hnames⟩ := List.forall_mem_cons.1 h
      rw [List.foldl_cons, ih hnames, jsonPath_jsonStep _ hn, List.flatMap_cons, List.append_assoc]
  exact run ""

theorem isSteps_flatMap (h : ∀ n ∈ names, Text.IsWordName n) :
    IsSteps names (names.flatMap stepText) := by
  induction names with
  | nil => exact .nil
  | cons n names ih =>
    obtain ⟨hn, hnames⟩ := List.forall_mem_cons.1 h
    exact .cons (isStep_stepText hn) (ih hnames)

theorem quote_notMem_jsonPath (h : ∀ n ∈ names, IsWordy n) :
    '\'' ∉ (jsonPath (jsonSteps names)).toList := by
  rw [jsonPath_jsonSteps h, List.mem_cons, List.mem_flatMap]
  rintro (hc | ⟨n, hn, hc⟩)
  · cases hc
  · have hname : '\'' ∉ n.toList := fun hm => absurd (h n hn _ hm) (by decide)
    unfold stepText at hc
    split at hc <;> simp [hname] at hc

/-- Names read back as they are, unless the last of them is empty: that has a step without
digits. -/
theorem isJsonPath_iff (hf : ∀ n ∈ front, Text.IsWordName n) (hn : IsWordy name) :
    IsJsonPath read (jsonPath (jsonSteps (front ++ [name]))) ↔
      read = front ++ [name] ∧ name ≠ "" := by
  have hwordy : ∀ n ∈ front ++ [name], IsWordy n :=
    List.forall_mem_append.2 ⟨fun n hm => (hf n hm).2, List.forall_mem_singleton.2 hn⟩
  have hnames (hne : name ≠ "") : ∀ n ∈ front ++ [name], Text.IsWordName n :=
    List.forall_mem_append.2 ⟨hf, List.forall_mem_singleton.2 ⟨hne, hn⟩⟩
  unfold IsJsonPath
  rw [jsonPath_jsonSteps hwordy]
  constructor
  · rintro ⟨steps, hsteps, hread⟩
    obtain rfl := (List.cons.inj hsteps).2
    have hne : name ≠ "" := by
      rintro rfl
      have hnone : Sql.readSteps ((front ++ [""]).flatMap stepText) = none := by
        rw [List.flatMap_append]
        exact Sql.readSteps_append_eq_none (by decide) _
      rw [Sql.readSteps_of_isSteps hread] at hnone
      cases hnone
    exact ⟨hread.unique (isSteps_flatMap (hnames hne)), hne⟩
  · rintro ⟨rfl, hne⟩
    exact ⟨_, rfl, isSteps_flatMap (hnames hne)⟩

/-! ## Paths -/

theorem belowJson_eq_ok {o : Outcome} (h : belowJson s path route f after = .ok o) :
    ∃ front last name lower, after = front ++ [last] ∧
      splitModifier last = .ok (name, if lower then some .lower else none) ∧
      o = .fixed ((Reading.document (front ++ [name]) lower).resolution s route f none) := by
  unfold belowJson at h
  split at h
  · cases h
  · next last hl =>
    have hafter : after.dropLast ++ [last] = after := List.dropLast_append_getLast? last hl
    cases hm : splitModifier last with
    | error e => rw [hm] at h; cases h
    | ok nm =>
      obtain ⟨name, modifier⟩ := nm
      rw [hm] at h
      rcases modifier with _ | _ | _ | _ | _
      · cases h
        refine ⟨_, last, name, false, hafter.symm, hm, ?_⟩
        simp only [Reading.resolution, Reading.isMany, Bool.or_false]
        rfl
      · cases h
        refine ⟨_, last, name, true, hafter.symm, hm, ?_⟩
        simp only [Reading.resolution, Reading.isMany, Bool.or_false]
        rfl
      all_goals cases h

theorem Reading.value_of_mem_listing {how : Reading} {visibleIn : Option String} {l : Sql.Listing}
    (h : l ∈ (how.resolution s route f visibleIn).listing) :
    l.value = how.value f route.listAlias := by
  simp only [Reading.resolution, finish] at h
  split at h
  · obtain rfl := Option.some.inj h
    rfl
  · cases h

/-- A walk that comes to a JSON field reads below it. -/
theorem walk_of_json {field : String} {o : Outcome} (hf : route.collection.field? field = some f)
    (hk : f.kind = .json) (hb : after ≠ [])
    (h : (walk s path route (field :: after)).outcome = .ok o) :
    belowJson s path route f after = .ok o := by
  cases after with
  | nil => exact absurd rfl hb
  | cons next after =>
    unfold walk at h
    cases hw : isWithheld s route f with
    | true =>
      have ht : turn s route field (next :: after) = .withheld := by simp [turn, hf, hw]
      rw [ht] at h
      cases h
    | false =>
      have ht : turn s route field (next :: after) = .json f := by simp [turn, hf, hw, hk]
      rw [ht] at h
      exact h

/-- Only the last segment below a root may have a colon. -/
theorem walk_of_below {root : Root} {o : Outcome} (h : (below s path root rest).outcome = .ok o) :
    (walk s path ⟨root, []⟩ rest).outcome = .ok o ∧
      ∀ segment ∈ rest.dropLast, ':' ∉ segment.toList := by
  unfold below at h
  split at h
  · cases h
  · next hc =>
    rw [Bool.not_eq_true, Bool.or_eq_false_iff] at hc
    exact ⟨h, by simpa [hasColon] using hc.2⟩

theorem isWord_of_rootOf {root : Root} {segment : String} (hp : Path.isWellFormed path = true)
    (h : RootOf s (segmentsOf path) root rest) (hm : segment ∈ rest) {c : Char}
    (hc : c ∈ segment.toList) (hcolon : c ≠ ':') : Text.isWord c = true := by
  have hchar := isPathChar_of_rootOf hp h segment hm c hc
  simp only [Path.isPathChar, Bool.or_eq_true, beq_iff_eq] at hchar
  rcases hchar with (hword | rfl) | rfl
  · exact hword
  · exact absurd hc (dot_notMem_of_mem (h.suffix.subset hm))
  · exact absurd rfl hcolon

/-- At the end of a well-formed path that has a colon in its last segment only, the segments before
the last are names, and the last is not empty. -/
theorem isWordName_of_suffix {root : Root} {last : String} (hp : Path.isWellFormed path = true)
    (he : "" ∉ segmentsOf path) (h : RootOf s (segmentsOf path) root rest)
    (hcolon : ∀ segment ∈ rest.dropLast, ':' ∉ segment.toList) (hs : front ++ [last] <:+ rest) :
    (∀ n ∈ front, Text.IsWordName n) ∧ last ≠ "" := by
  have hne : ∀ segment ∈ front ++ [last], segment ≠ "" := by
    rintro _ hm rfl
    exact he (h.suffix.subset (hs.subset hm))
  refine ⟨fun n hn => ?_, hne last (List.mem_append_right _ List.mem_cons_self)⟩
  have hm : n ∈ front ++ [last] := List.mem_append_left _ hn
  refine ⟨hne n hm, fun c hc => isWord_of_rootOf hp h (hs.subset hm) hc ?_⟩
  rintro rfl
  obtain ⟨before, rfl⟩ := hs
  refine hcolon n ?_ hc
  rw [← List.append_assoc, List.dropLast_concat]
  exact List.mem_append_right _ hn

theorem colon_notMem_name {segment : String} {modifier : Option Modifier}
    (h : splitModifier segment = .ok (name, modifier)) : ':' ∉ name.toList := by
  unfold splitModifier at h
  split at h
  · next hc =>
    cases h
    exact Text.cut_eq_none_iff.1 hc
  · next hc =>
    split at h
    · cases h
      rw [String.toList_ofList]
      exact (Text.cut_eq_some hc).2
    · cases h

/-- A segment with a modifier is what it is called and the modifier after it. -/
theorem eq_after_of_splitModifier {segment : String} {m : Modifier}
    (h : splitModifier segment = .ok (name, some m)) : segment = m.after name := by
  unfold splitModifier at h
  split at h
  · cases h
  · next called label hc =>
    split at h
    · next m' hm =>
      cases h
      have hlabel : m.label = String.ofList label := by simpa using List.find?_some hm
      apply String.toList_injective
      rw [(Text.cut_eq_some hc).1, Modifier.after, hlabel]
      simp
    · cases h

theorem name_eq_empty_iff {segment : String} {lower : Bool} (hs : segment ≠ "")
    (h : splitModifier segment = .ok (name, if lower then some .lower else none)) :
    name = "" ↔ segment = ":lower" := by
  cases lower with
  | false =>
    obtain ⟨hcolon, rfl⟩ := eq_of_splitModifier_none h
    refine ⟨fun he => absurd he hs, ?_⟩
    rintro rfl
    exact absurd hcolon (by decide)
  | true =>
    rw [eq_after_of_splitModifier h, ← String.toList_inj, ← String.toList_inj]
    simp [Modifier.after, Modifier.label]

end Plan

namespace Resolver

open Plan (Starts Crosses)
open Sql (IsJsonPath)

def extraction (lower : Bool) (table column literal : String) : String :=
  let part := "pb_json_extract(" ++ Sql.quoteColumn table column ++ ", '" ++ literal ++ "')"
  if lower then "LOWER(" ++ part ++ ")" else part

theorem text_document {names : List String} (hn : ∀ n ∈ names, IsWordy n) (lower : Bool)
    (f : Field) (table : String) :
    ((Plan.Reading.document names lower).value f table).text =
      extraction lower table f.name (Sql.jsonPath (Plan.jsonSteps names)) := by
  have hpart := Sql.jsonExtract_eq (Sql.quoteColumn table f.name) (Plan.quote_notMem_jsonPath hn)
  cases lower with
  | false => exact hpart
  | true => exact congrArg (fun part => "LOWER(" ++ part ++ ")") hpart

variable {r : Resolver} {path field : String} {res : Resolution} {root : Root} {route : Route}
  {rest after : List String} {f : Field}

/-- What a path through a JSON field resolves to. Its literal has a step for each segment below the
field, and reads back as the segments without the modifier of the last, if and only if that is not
a modifier alone. -/
theorem json_path_iff (h : (r.resolve path).1 = .ok res) (hs : Starts r.scope path root rest)
    (hc : Crosses r.scope ⟨root, []⟩ rest route (field :: after)) (ha : after ≠ [])
    (hf : route.collection.field? field = some f) (hk : f.kind = .json) :
    ∃ front last name lower literal, after = front ++ [last] ∧
      splitModifier last = .ok (name, if lower then some .lower else none) ∧
      res.value.text = extraction lower route.lastAlias f.name literal ∧
      res.listing.isSome = route.isMany ∧
      (∀ l ∈ res.listing, l.value.text = extraction lower route.listAlias f.name literal) ∧
      ∀ read, IsJsonPath read literal ↔ read = front ++ [name] ∧ last ≠ ":lower" := by
  have hhops := hops_le_of_resolve h hs hc
  obtain ⟨⟨hw, -⟩, -, o, ho, hyield, -⟩ := resolved_cases h
  rw [Plan.ofPath_of_starts hs] at ho
  obtain ⟨hwalk, hcolon⟩ := Plan.walk_of_below ho
  rw [hc.walk_eq hhops] at hwalk
  obtain ⟨front, last, name, lower, rfl, hm, rfl⟩ :=
    Plan.belowJson_eq_ok (Plan.walk_of_json hf hk ha hwalk)
  cases hyield
  have hsuffix : front ++ [last] <:+ rest := (List.suffix_cons _ _).trans hc.suffix
  obtain ⟨hfront, hlast⟩ := Plan.isWordName_of_suffix hw hs.1 hs.2 hcolon hsuffix
  have hname : IsWordy name := by
    intro c hchar
    refine Plan.isWord_of_rootOf hw hs.2
      (hsuffix.subset (List.mem_append_right _ List.mem_cons_self))
      ((Plan.splitModifier_prefix hm).subset hchar) ?_
    rintro rfl
    exact Plan.colon_notMem_name hm hchar
  have hnames : ∀ n ∈ front ++ [name], IsWordy n :=
    List.forall_mem_append.2 ⟨fun n hn => (hfront n hn).2, List.forall_mem_singleton.2 hname⟩
  refine ⟨front, last, name, lower, Sql.jsonPath (Plan.jsonSteps (front ++ [name])), rfl, hm, ?_,
    ?_, ?_, fun read => ?_⟩
  · exact text_document hnames lower f route.lastAlias
  · exact (Plan.Reading.isSome_listing _ _ _ _ _).trans (Bool.or_false _)
  · intro l hl
    rw [Plan.Reading.value_of_mem_listing hl]
    exact text_document hnames lower f route.listAlias
  · rw [Plan.isJsonPath_iff hfront hname, Ne, Ne, Plan.name_eq_empty_iff hlast hm]

def structured : Definitions :=
  { collections := [{ name := "posts", fields := [{ name := "data", type := .json }] }] }

def structuredCatalog : Catalog := structured.toCatalog.toOption.getD default

def structuredResolver : Resolver :=
  { scope :=
      { catalog := structuredCatalog
        base := (structuredCatalog.find? "posts").getD default } }

set_option maxRecDepth 4000 in
theorem json_path_item_name :
    structured.toCatalog = .ok structuredCatalog ∧
      ∃ res literal, (structuredResolver.resolve "data.items.0.name:lower").1 = .ok res ∧
        res.value.text = extraction true "posts" "data" literal ∧
        IsJsonPath ["items", "0", "name"] literal := by
  have hresolve : (structuredResolver.resolve "data.items.0.name:lower").1 = .ok
      { value := .lower (.extract (.column "posts" "data") "items[0].name"), isExact := true } :=
    rfl
  have hstarts : Starts structuredResolver.scope "data.items.0.name:lower"
      (.base structuredResolver.scope.base) ["data", "items", "0", "name:lower"] :=
    ⟨by decide, .base (by decide) (by decide)⟩
  obtain ⟨front, last, name, lower, literal, hafter, hm, htext, -, -, hread⟩ :=
    json_path_iff (f := { name := "data", kind := .json }) hresolve hstarts (.refl _ _)
      (List.cons_ne_nil _ _) rfl rfl
  have hafter' : ["items", "0"] ++ ["name:lower"] = front ++ [last] := hafter
  obtain ⟨rfl, hlast⟩ := List.append_inj' hafter' rfl
  obtain rfl := List.singleton_inj.1 hlast
  have hname : splitModifier "name:lower" = .ok ("name", some .lower) := rfl
  obtain ⟨rfl, hlower⟩ := Prod.mk.inj (Except.ok.inj (hname.symm.trans hm))
  have hlower : lower = true := by cases lower <;> simp at hlower ⊢
  exact ⟨rfl, _, literal, hresolve, hlower ▸ htext, (hread _).2 ⟨rfl, by decide⟩⟩

set_option maxRecDepth 4000 in
/-- A modifier alone leaves a step without digits, which is no step of a path. -/
theorem json_path_modifier_alone :
    structured.toCatalog = .ok structuredCatalog ∧
      ∃ res, (structuredResolver.resolve "data.:lower").1 = .ok res ∧
        res.value.text = "LOWER(pb_json_extract(\"posts\".\"data\", '$[]'))" ∧
        ∀ read, ¬ IsJsonPath read "$[]" := by
  refine ⟨rfl, { value := .lower (.extract (.column "posts" "data") "[]"), isExact := true }, rfl,
    rfl, ?_⟩
  rintro read ⟨steps, hsteps, hread⟩
  obtain rfl : ['[', ']'] = steps := (List.cons.inj hsteps).2
  exact absurd (Sql.readSteps_of_isSteps hread) (by rw [show Sql.readSteps _ = none from rfl]; simp)

end Resolver

end RecordFilter
