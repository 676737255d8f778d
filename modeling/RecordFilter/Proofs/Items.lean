import Mathlib.Data.List.Induction
import RecordFilter.Proofs.JsonLists

/-!
# Items of submitted values

The items of a value are the texts that it submits without the empty ones, each where it first comes
up (`distinctItems_eq`). Items submit themselves, so reading them again changes nothing, and a list
of texts has the same items if it comes as the text that writes it (`Json.items_normal`).
-/

namespace RecordFilter

variable {texts : List String} {t : String}

theorem distinctItems_concat (texts : List String) (t : String) :
    distinctItems (texts ++ [t]) = addItem (distinctItems texts) t := by
  rw [distinctItems, List.foldl_concat, distinctItems]

/-- The items are the texts that are not empty, in the order in which they first come up. -/
theorem distinctItems_eq (texts : List String) :
    distinctItems texts = (texts.filter (· ≠ "")).eraseDups := by
  -- from the end of the list, since items are added there
  induction texts using List.reverseRecOn with
  | nil => rfl
  | append_singleton texts t ih =>
    rw [distinctItems_concat, ih, List.filter_append, List.eraseDups_append, addItem]
    by_cases ht : t = ""
    · simp [ht, List.removeAll]
    · by_cases hm : t ∈ texts
      · simp [ht, hm, List.removeAll]
      · simp [ht, hm, List.removeAll, List.eraseDups_cons]

theorem mem_distinctItems : t ∈ distinctItems texts ↔ t ∈ texts ∧ t ≠ "" := by
  rw [distinctItems_eq, List.mem_eraseDups, List.mem_filter, decide_eq_true_iff]

theorem distinctItems_eq_self (hd : texts.Nodup) (he : "" ∉ texts) :
    distinctItems texts = texts := by
  induction texts using List.reverseRecOn with
  | nil => rfl
  | append_singleton texts t ih =>
    rw [List.mem_append, List.mem_singleton, not_or] at he
    obtain ⟨hd, -, hdisjoint⟩ := List.nodup_append.1 hd
    have hnew : ¬ (t = "" ∨ t ∈ texts) := by
      rintro (rfl | hm)
      · exact he.2 rfl
      · exact hdisjoint t hm t (List.mem_singleton_self t) rfl
    rw [distinctItems_concat, ih hd he.1, addItem, if_neg hnew]

namespace Json

theorem map_plainText_texts (ss : List String) : (ss.map text).map plainText = ss := by
  rw [List.map_map]
  exact List.map_id ss

theorem items_texts (ss : List String) : (list (ss.map text)).items = distinctItems ss :=
  congrArg distinctItems (map_plainText_texts ss)

/-- A text that writes a list of texts has the items of the list. -/
theorem items_written (ss : List String) :
    (text (list (ss.map text)).compact).items = distinctItems ss := by
  rw [items, submittedTexts, writtenList?_texts]
  exact congrArg distinctItems (map_plainText_texts ss)

theorem empty_notMem_items (v : Json) : "" ∉ v.items := fun h => (mem_distinctItems.1 h).2 rfl

theorem nodup_items (v : Json) : v.items.Nodup := nodup_distinctItems _

theorem distinctItems_items (v : Json) : distinctItems v.items = v.items :=
  distinctItems_eq_self v.nodup_items v.empty_notMem_items

/-- No item is empty or comes up twice. Those of a list are the texts of its members that are not
empty, each where it first comes up. A list of texts has the same items if it comes as its JSON
text, and items that are submitted again, as a list or as its text, are the items. -/
theorem items_normal :
    (∀ v : Json, "" ∉ v.items ∧ v.items.Nodup) ∧
      (∀ vs, (list vs).items = ((vs.map plainText).filter (· ≠ "")).eraseDups) ∧
      (∀ ss : List String,
        (text (list (ss.map text)).compact).items = (list (ss.map text)).items) ∧
      ∀ v : Json, (list (v.items.map text)).items = v.items ∧
        (text (list (v.items.map text)).compact).items = v.items := by
  refine ⟨fun v => ⟨v.empty_notMem_items, v.nodup_items⟩, fun vs => distinctItems_eq _,
    fun ss => ?_, fun v => ⟨?_, ?_⟩⟩
  · rw [items_written, items_texts]
  · rw [items_texts, distinctItems_items]
  · rw [items_written, distinctItems_items]

/-- A number counts as its text, and null as nothing. -/
example : (list [text "b", number (.int 1), text "", text "b", null, bool true]).items =
    ["b", "1", "true"] := by decide

end Json

end RecordFilter
