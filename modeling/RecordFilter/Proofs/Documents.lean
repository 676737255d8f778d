import Mathlib.Data.List.Forall2
import RecordFilter.Request.Decode

/-!
# Raw documents among submitted values

A raw document is written as an object with `raw_json` as its only member. Reading a request takes
a list of one text for a raw document as well, and every other value for itself
(`Submitted.read_documented_iff`).
-/

namespace RecordFilter

namespace Json

/-! ## Values that are written as they are -/

mutual

def depth : Json → Nat
  | .list items => depths items + 1
  | .object members => memberDepths members + 1
  | _ => 0

def depths : List Json → Nat
  | [] => 0
  | v :: vs => max (depth v) (depths vs)

def memberDepths : List (String × Json) → Nat
  | [] => 0
  | (_, v) :: ms => max (depth v) (memberDepths ms)

end

mutual

/-- Every object holds each key once. -/
def IsKeyed : Json → Prop
  | .list items => AreKeyed items
  | .object members => (members.map Prod.fst).Nodup ∧ MembersAreKeyed members
  | _ => True

def AreKeyed : List Json → Prop
  | [] => True
  | v :: vs => IsKeyed v ∧ AreKeyed vs

def MembersAreKeyed : List (String × Json) → Prop
  | [] => True
  | (_, v) :: ms => IsKeyed v ∧ MembersAreKeyed ms

end

section Settle

variable {α β : Type}

theorem put_of_not_mem {key : String} {value : α} {ms : List (String × α)}
    (h : key ∉ ms.map Prod.fst) : put key value ms = ms ++ [(key, value)] := by
  induction ms with
  | nil => rfl
  | cons m ms ih =>
    rw [List.map_cons, List.mem_cons, not_or] at h
    rw [put, if_neg (Ne.symm h.1), ih h.2, List.cons_append]

theorem settle_of_nodup {ms : List (String × α)} (h : (ms.map Prod.fst).Nodup) :
    settle ms = ms := by
  have append : ∀ (rest front : List (String × α)), ((front ++ rest).map Prod.fst).Nodup →
      rest.foldl (fun ms m => put m.1 m.2 ms) front = front ++ rest := by
    intro rest
    induction rest with
    | nil => exact fun front _ => (List.append_nil front).symm
    | cons m rest ih =>
      intro front hf
      have hm : m.1 ∉ front.map Prod.fst := fun hm => by
        rw [List.map_append, List.nodup_append] at hf
        exact hf.2.2 _ hm _ List.mem_cons_self rfl
      rw [List.foldl_cons, put_of_not_mem hm, ih _ (by rwa [← List.append_cons]),
        ← List.append_cons]
  exact append ms [] h

/-- The last value of a key counts. -/
theorem find?_settle (key : String) (ms : List (String × α)) :
    find? key (settle ms) = find? key ms.reverse := by
  rw [settle, ← List.foldr_reverse]
  induction ms.reverse with
  | nil => rfl
  | cons m ms ih => rw [List.foldr_cons, find?_put, ih, find?]; simp only [eq_comm]

/-- Values that are read from written ones, key by key. -/
def Reads (read : α → Option β) : List (String × α) → List (String × β) → Prop :=
  List.Forall₂ fun m v => v.1 = m.1 ∧ read m.2 = some v.2

theorem reads_of_mapM {read : α → Option β} {ms : List (String × α)} {vs : List (String × β)}
    (h : ms.mapM (fun m => (read m.2).map (m.1, ·)) = some vs) : Reads read ms vs := by
  induction ms generalizing vs with
  | nil =>
    cases h
    exact .nil
  | cons m ms ih =>
    rw [List.mapM_cons] at h
    cases hv : read m.2 with
    | none => simp [hv] at h
    | some v =>
      cases hs : ms.mapM fun m => (read m.2).map (m.1, ·) with
      | none => simp [hv, hs] at h
      | some rest =>
        obtain rfl : (m.1, v) :: rest = vs := by simpa [hv, hs] using h
        exact .cons ⟨rfl, hv⟩ (ih hs)

theorem Reads.find? {read : α → Option β} {ms : List (String × α)} {vs : List (String × β)}
    (h : Reads read ms vs) (key : String) :
    Json.find? key vs = (Json.find? key ms).bind read := by
  induction h with
  | nil => rfl
  | cons hm _ ih =>
    rw [Json.find?, Json.find?, hm.1, ih]
    split
    · exact hm.2.symm
    · rfl

/-- A key of a map has what is read from its last value. -/
theorem find?_settle_reads {read : α → Option β} {ms : List (String × α)}
    {vs : List (String × β)} (h : Reads read ms vs) (key : String) :
    Json.find? key (settle vs) = (Json.find? key ms.reverse).bind read := by
  rw [find?_settle, Reads.find? (List.forall₂_reverse_iff.2 h)]

end Settle

mutual

/-- A value is read back from its writing within a limit for its nesting. -/
theorem value?_draft (limit : Nat) (j : Json) (h : j.IsKeyed) :
    j.draft.value? limit = if j.depth ≤ limit then some j else none := by
  match j, limit with
  | .null, _ | .bool _, _ | .number _, _ | .text _, _ => simp [draft, Draft.value?, depth]
  | .list _, 0 | .object _, 0 => simp [draft, Draft.value?, depth]
  | .list items, limit + 1 =>
    rw [draft, Draft.value?, values?_drafts limit items h, depth]
    simp only [Nat.add_le_add_iff_right]
    split <;> rfl
  | .object members, limit + 1 =>
    rw [draft, Draft.value?, memberValues?_drafts limit members h.2, depth]
    simp only [Nat.add_le_add_iff_right]
    split
    · rw [Option.map_some, settle_of_nodup h.1]
    · rfl

theorem values?_drafts (limit : Nat) (items : List Json) (h : AreKeyed items) :
    Draft.values? limit (drafts items) = if depths items ≤ limit then some items else none := by
  match items with
  | [] => simp [drafts, Draft.values?, depths]
  | v :: vs =>
    rw [drafts, Draft.values?, value?_draft limit v h.1, values?_drafts limit vs h.2, depths]
    simp only [Nat.max_le]
    split_ifs <;> simp_all

theorem memberValues?_drafts (limit : Nat) (members : List (String × Json))
    (h : MembersAreKeyed members) :
    Draft.memberValues? limit (memberDrafts members) =
      if memberDepths members ≤ limit then some members else none := by
  match members with
  | [] => simp [memberDrafts, Draft.memberValues?, memberDepths]
  | (k, v) :: ms =>
    have hv := value?_draft limit v h.1
    have hms := memberValues?_drafts limit ms h.2
    simp only [memberDrafts, Draft.memberValues?, hv, hms, memberDepths, Nat.max_le]
    split_ifs <;> simp_all

end

end Json

open Json (Draft)

namespace Submitted

/-! ## Raw documents -/

/-- A raw document is an object with `raw_json` as its only member, and a text there; any other
value is plain. -/
def documented : Json → Submitted
  | .object [(key, .text s)] =>
    if key = documentKey then .raw s else .plain (.object [(key, .text s)])
  | v => .plain v

variable {limit : Nat} {w : Draft} {v j : Json}

theorem documented_eq_plain (h : ∀ t, v ≠ .object [(documentKey, .text t)]) :
    documented v = .plain v := by
  unfold documented
  split
  · next key t =>
    split
    · next hk => exact absurd (by rw [hk]) (h t)
    · rfl
  · rfl

theorem documented_document (t : String) :
    documented (.object [(documentKey, .text t)]) = .raw t := by
  simp [documented]

theorem value?_single {key : Option String} {d : Draft}
    (h : Draft.value? limit (.object [(key, d)]) = some v) :
    ∃ k u, key = some k ∧ (∃ n, d.value? n = some u) ∧ v = .object [(k, u)] := by
  cases limit with
  | zero => simp [Draft.value?] at h
  | succ n =>
    cases key with
    | none => simp [Draft.value?, Draft.memberValues?] at h
    | some k =>
      cases hd : d.value? n with
      | none => simp [Draft.value?, Draft.memberValues?, hd] at h
      | some u =>
        refine ⟨k, u, rfl, ⟨n, hd⟩, ?_⟩
        simpa [Draft.value?, Draft.memberValues?, hd, Json.settle, Json.put, eq_comm] using h

theorem value?_oneText {t : Option String}
    (h : Draft.value? limit (.list [.text t]) = some v) :
    ∃ s, t = some s ∧ v = .list [.text s] := by
  cases limit with
  | zero => simp [Draft.value?] at h
  | succ n =>
    cases t with
    | none => simp [Draft.value?, Draft.values?] at h
    | some s =>
      refine ⟨s, rfl, ?_⟩
      simpa [Draft.value?, Draft.values?, eq_comm] using h

theorem eq_text_of_value? {t : String} (h : w.value? limit = some (.text t)) :
    w = .text (some t) := by
  cases w with
  | text s => simpa [Draft.value?] using h
  | list _ | object _ => cases limit <;> simp [Draft.value?] at h
  | _ => simp [Draft.value?] at h

theorem eq_object_of_value? {ms : List (String × Json)} (h : w.value? limit = some (.object ms)) :
    ∃ members, w = .object members := by
  cases w with
  | object members => exact ⟨members, rfl⟩
  | list _ => cases limit <;> simp [Draft.value?] at h
  | _ => simp [Draft.value?] at h

/-- A written value is read as documented unless it is a list of one text, or an object that
repeats its only key. -/
theorem decode_eq_documented_iff (h : w.value? limit = some v) :
    decode limit w = some (documented v) ↔ (∀ t, w ≠ .list [.text t]) ∧
      ∀ ms t, w = .object ms → v = .object [(documentKey, .text t)] → ms.length = 1 := by
  rw [decode, h, Option.map_some, Option.some_inj]
  split
  · next key t =>
    obtain ⟨_, u, hk, ⟨_, hu⟩, rfl⟩ := value?_single h
    cases hk
    cases hu
    simp [documented]
  · next t =>
    obtain ⟨_, ht, rfl⟩ := value?_oneText h
    cases ht
    simp [documented]
  · next hobject hlist =>
    have hlist' : ∀ t, w ≠ .list [.text t] := by
      rintro t rfl
      obtain ⟨s, rfl, -⟩ := value?_oneText h
      exact hlist s rfl
    by_cases hv : ∃ t, v = .object [(documentKey, .text t)]
    · obtain ⟨t, rfl⟩ := hv
      rw [documented_document]
      refine iff_of_false (by simp) ?_
      rintro ⟨-, hone⟩
      obtain ⟨ms, rfl⟩ := eq_object_of_value? h
      obtain ⟨⟨key, d⟩, rfl⟩ := List.length_eq_one_iff.1 (hone ms t rfl rfl)
      obtain ⟨k, u, rfl, ⟨n, hu⟩, hv⟩ := value?_single h
      simp only [Json.object.injEq, List.cons.injEq, Prod.mk.injEq, and_true] at hv
      obtain ⟨rfl, rfl⟩ := hv
      exact hobject _ t (by rw [eq_text_of_value? hu])
    · have hv' : ∀ t, v ≠ .object [(documentKey, .text t)] := fun t ht => hv ⟨t, ht⟩
      exact iff_of_true (documented_eq_plain hv').symm ⟨hlist', fun _ t _ ht => absurd ht (hv' t)⟩

theorem draft_ne_oneText : (∀ t, j.draft ≠ .list [.text t]) ↔ ∀ t, j ≠ .list [.text t] := by
  constructor
  · rintro h t rfl
    exact h (some t) rfl
  · intro h t ht
    cases j with
    | list items =>
      match items with
      | [] => cases ht
      | [.text s] => exact h s rfl
      | [.null] | [.bool _] | [.number _] | [.list _] | [.object _] => cases ht
      | _ :: _ :: _ => simp [Json.draft, Json.drafts] at ht
    | _ => cases ht

/-- A JSON value is read as documented exactly if it is not a list of one text. -/
theorem decode_draft_iff (hk : j.IsKeyed) (hd : j.depth ≤ limit) :
    decode limit j.draft = some (documented j) ↔ ∀ t, j ≠ .list [.text t] := by
  have hv : j.draft.value? limit = some j := by rw [Json.value?_draft limit j hk, if_pos hd]
  rw [decode_eq_documented_iff hv, draft_ne_oneText, and_iff_left_iff_imp]
  rintro - ms t hms rfl
  cases hms
  rfl

theorem items_raw {t : String} (h : Json.parse t = none) : (raw t).items = [] := by
  rw [items, h]
  rfl

theorem items_oneText {t : String} (h : t ≠ "") : (plain (.list [.text t])).items = [t] := by
  show distinctItems [t] = [t]
  simp [distinctItems, addItem, h]

end Submitted

/-! ## Requests -/

/-- The written value of a submitted key: the last one counts. -/
def Json.Draft.submitted? (d : Draft) (key : String) : Option Draft :=
  (d.fields? Request.fieldNames).bind fun fs =>
    match Json.find? "body" fs with
    | some (.object members) => (Draft.keyed? members).bind fun ms => Json.find? key ms.reverse
    | _ => none

def Submitted.nestingLimit : Nat := Json.nestingLimit - 2

namespace Request

variable {d w : Draft} {r : Request} {key : String}

theorem body_of_decode (h : decode d = some r) :
    ∃ fs, d.fields? fieldNames = some fs ∧
      Draft.fieldD "body" (Draft.map? (Submitted.decode Submitted.nestingLimit)) [] fs =
        some r.body := by
  obtain ⟨fs, hfs, hr⟩ := Option.bind_eq_some_iff.1 h
  refine ⟨fs, hfs, ?_⟩
  split at hr
  · next hbody _ =>
    cases hr
    exact hbody
  · cases hr

theorem find?_body (h : decode d = some r) (hw : d.submitted? key = some w) :
    Json.find? key r.body = Submitted.decode Submitted.nestingLimit w := by
  obtain ⟨fs, hfs, hbody⟩ := body_of_decode h
  rw [Draft.submitted?, hfs, Option.bind_some] at hw
  split at hw
  · next members hb =>
    obtain ⟨ms, hms, hfind⟩ := Option.bind_eq_some_iff.1 hw
    rw [Draft.fieldD, hb] at hbody
    simp only [Draft.map?, hms, Option.bind_some] at hbody
    obtain ⟨vs, hvs, hsettle⟩ := Option.map_eq_some_iff.1 hbody
    rw [← hsettle, Json.find?_settle_reads (Json.reads_of_mapM hvs), hfind, Option.bind_some]
  · cases hw

end Request

namespace Submitted

variable {j : Json}

/-- A submitted value is read as documented, in every request that submits it, exactly if it is not
a list of one text. Such a list is taken for a raw document, and what it submits is lost unless the
text is JSON. -/
theorem read_documented_iff (hk : j.IsKeyed) (hd : j.depth ≤ nestingLimit) :
    ∃ s, (∀ d r key, Request.decode d = some r → d.submitted? key = some j.draft →
        Json.find? key r.body = some s) ∧
      decode nestingLimit j.draft = some s ∧
      (s = documented j ↔ ∀ t, j ≠ .list [.text t]) ∧
      ∀ t, j = .list [.text t] → s = .raw t ∧
        (Json.parse t = none → t ≠ "" → s.items = [] ∧ (documented j).items = [t]) := by
  have hdecode : ∃ s, decode nestingLimit j.draft = some s := by
    rw [decode, Json.value?_draft _ j hk, if_pos hd]
    exact ⟨_, rfl⟩
  obtain ⟨s, hs⟩ := hdecode
  refine ⟨s, fun d r key h hw => (Request.find?_body h hw).trans hs, hs, ?_, ?_⟩
  · rw [← decode_draft_iff hk hd, hs, Option.some_inj]
  · rintro t rfl
    have hraw : decode nestingLimit (Json.draft (.list [.text t])) = some (.raw t) := rfl
    obtain rfl : Submitted.raw t = s := by rw [hs, Option.some_inj] at hraw; exact hraw.symm
    exact ⟨rfl, fun hp ht => ⟨items_raw hp, items_oneText ht⟩⟩

def tagging (j : Json) : Draft := .object [(some "body", .object [(some "tags", j.draft)])]

theorem read_documented_tags :
    ∃ s, (∃ r, Request.decode (tagging (.list [.text "a", .text "b"])) = some r ∧
        Json.find? "tags" r.body = some s) ∧ s = .plain (.list [.text "a", .text "b"]) := by
  have hk : (Json.list [.text "a", .text "b"]).IsKeyed := ⟨trivial, trivial, trivial⟩
  obtain ⟨s, hrequest, -, hiff, -⟩ := read_documented_iff hk (by decide)
  refine ⟨s, ⟨_, rfl, hrequest (tagging _) _ "tags" rfl rfl⟩, hiff.2 fun t ht => ?_⟩
  cases ht

/-- One tag is taken for a raw document, and it is lost. -/
theorem read_one_tag :
    ∃ r s, Request.decode (tagging (.list [.text "a"])) = some r ∧
      Json.find? "tags" r.body = some s ∧ s = .raw "a" ∧ s ≠ documented (.list [.text "a"]) ∧
      s.items = [] ∧ (documented (.list [.text "a"])).items = ["a"] :=
  ⟨_, .raw "a", rfl, rfl, rfl, by simp [documented], by decide +kernel, by decide +kernel⟩

end Submitted

end RecordFilter
