import RecordFilter.Sql.Join

/-!
# Reading what was quoted

`unquote` takes the quoted text from the front of a text. It reads exactly the texts that `enclosed`
writes, and stops where these end (`unquote_eq_some_iff`). So a name cannot end its own quotes,
whatever marks it starts or ends with: columns and joins of tables say which names they were put
together from (`quoteColumn_append`, `Join.sql_table_eq_iff`), and the path of an extraction is read
back from its literal (`unquote_jsonExtract`).
-/

namespace RecordFilter.Sql

variable {mark : Char} {cs s r : List Char} {a b c d x y : String}

/-! ## Marks that are doubled -/

/-- What is read up to a mark was written with its marks doubled, and the mark is the last of its
run. -/
theorem eq_double_of_undouble (h : undouble mark cs = some (s, r)) :
    cs = double mark s ++ mark :: r ∧ r.head? ≠ some mark := by
  fun_induction undouble mark cs generalizing s with
  | case1 => cases h
  | case2 =>
    cases h
    exact ⟨rfl, by simp⟩
  | case3 => cases h
  | case4 cs ih =>
    -- two marks stand for one, which is the first character that was read
    obtain ⟨⟨s, r⟩, hread, ⟨⟩⟩ := Option.map_eq_some_iff.1 h
    obtain ⟨hcs, hr⟩ := ih hread
    exact ⟨by simp [double, hcs], hr⟩
  | case5 d cs hd =>
    cases h
    exact ⟨rfl, by simpa using hd⟩
  | case6 c d cs hc ih =>
    obtain ⟨⟨s, r⟩, hread, ⟨⟩⟩ := Option.map_eq_some_iff.1 h
    obtain ⟨hcs, hr⟩ := ih hread
    exact ⟨by simp [double, hc, hcs], hr⟩

theorem undouble_eq_some_iff :
    undouble mark cs = some (s, r) ↔ cs = double mark s ++ mark :: r ∧ r.head? ≠ some mark := by
  constructor
  · exact eq_double_of_undouble
  · rintro ⟨rfl, hr⟩
    exact undouble_double mark s r hr

theorem mem_double {c : Char} (h : c ∈ double mark cs) : c ∈ cs := by
  induction cs with
  | nil => exact h
  | cons d cs ih =>
    unfold double at h
    split at h
    · grind
    · grind

/-! ## Texts between marks -/

def enclosed (mark : Char) (text : String) : String :=
  String.ofList (mark :: double mark text.toList ++ [mark])

theorem quote_eq_enclosed (name : String) : quote name = enclosed '"' name := rfl

theorem literal_eq_enclosed (text : String) : literal text = enclosed '\'' text := rfl

theorem mem_enclosed {c : Char} (h : c ∈ (enclosed mark a).toList) : c = mark ∨ c ∈ a.toList := by
  rw [enclosed, String.toList_ofList, List.cons_append, List.mem_cons, List.mem_append,
    List.mem_singleton] at h
  rcases h with h | h | h
  · exact .inl h
  · exact .inr (mem_double h)
  · exact .inl h

/-- Takes the text between marks from the front of a text: two marks stand for one, and a single one
ends it. What stands after the end is left. -/
def unquote (mark : Char) (text : String) : Option (String × String) :=
  match text.toList with
  | [] => none
  | c :: cs =>
    if c = mark then
      (undouble mark cs).map fun read => (String.ofList read.1, String.ofList read.2)
    else none

/-- What is taken from the front is exactly what was put between marks, unless a mark follows. -/
theorem unquote_eq_some_iff :
    unquote mark x = some (a, y) ↔ x = enclosed mark a ++ y ∧ y.toList.head? ≠ some mark := by
  have hx : x = enclosed mark a ++ y ↔
      x.toList = mark :: (double mark a.toList ++ mark :: y.toList) := by
    rw [← String.toList_inj]
    simp [enclosed]
  rw [hx]
  unfold unquote
  split
  · next hnil => simp [hnil]
  · next c cs hcons =>
    rw [hcons]
    split
    · next hc =>
      subst hc
      rw [List.cons_inj_right, ← undouble_eq_some_iff]
      constructor
      · intro h
        obtain ⟨⟨s, r⟩, hread, ⟨⟩⟩ := Option.map_eq_some_iff.1 h
        simpa using hread
      · intro h
        rw [h]
        simp
    · next hc => simp [hc]

/-- Marks at either end of a name stay in the name. -/
example : unquote '"' (quote "\"\"a\"" ++ ".\"b\"") = some ("\"\"a\"", ".\"b\"") := by decide

theorem head?_append_ne {word rest : String} (h : word.toList.head?.any (· != mark) = true) :
    (word ++ rest).toList.head? ≠ some mark := by
  rw [String.toList_append]
  cases hw : word.toList with
  | nil => rw [hw] at h; cases h
  | cons w ws =>
    rw [hw] at h
    rintro ⟨⟩
    simp at h

/-! ## Names in a text -/

/-- Where a quoted name ends can be told from the text. -/
theorem quote_append (hx : x.toList.head? ≠ some '"') (hy : y.toList.head? ≠ some '"')
    (h : quote a ++ x = quote b ++ y) : a = b ∧ x = y := by
  rw [quote_eq_enclosed, quote_eq_enclosed] at h
  have ha : unquote '"' (enclosed '"' a ++ x) = some (a, x) := unquote_eq_some_iff.2 ⟨rfl, hx⟩
  have hb : unquote '"' (enclosed '"' a ++ x) = some (b, y) := unquote_eq_some_iff.2 ⟨h, hy⟩
  exact Prod.mk.inj (Option.some.inj (ha.symm.trans hb))

theorem quoteColumn_append (hx : x.toList.head? ≠ some '"') (hy : y.toList.head? ≠ some '"')
    (h : quoteColumn a b ++ x = quoteColumn c d ++ y) : a = c ∧ b = d ∧ x = y := by
  simp only [quoteColumn, String.append_assoc] at h
  obtain ⟨hac, h⟩ := quote_append (head?_append_ne (by decide)) (head?_append_ne (by decide)) h
  obtain ⟨hbd, h⟩ := quote_append hx hy ((String.append_right_inj ".").1 h)
  exact ⟨hac, hbd, h⟩

theorem quoteColumn_inj (h : quoteColumn a b = quoteColumn c d) : a = c ∧ b = d := by
  have he : "".toList.head? ≠ some '"' := by decide
  obtain ⟨hac, hbd, -⟩ := quoteColumn_append he he (congrArg (· ++ "") h)
  exact ⟨hac, hbd⟩

theorem Join.sql_table_eq_iff {on on' : On} :
    (Join.mk (.table a) b on).sql = (Join.mk (.table c) d on').sql ↔
      a = c ∧ b = d ∧ on.text?.getD "TRUE" = on'.text?.getD "TRUE" := by
  constructor
  · intro h
    simp only [Join.sql, Source.text, String.append_assoc] at h
    obtain ⟨hac, h⟩ := quote_append (head?_append_ne (by decide)) (head?_append_ne (by decide))
      ((String.append_right_inj "LEFT JOIN ").1 h)
    obtain ⟨hbd, h⟩ := quote_append (head?_append_ne (by decide)) (head?_append_ne (by decide))
      ((String.append_right_inj " ").1 h)
    exact ⟨hac, hbd, (String.append_right_inj " ON ").1 h⟩
  · rintro ⟨rfl, rfl, hon⟩
    simp only [Join.sql, hon]

/-! ## The path of an extraction -/

theorem jsonPath_of_index {path : String} (h : path.toList = '[' :: cs) :
    jsonPath path = "$" ++ path := by
  simp only [jsonPath, h]

theorem jsonPath_of_key {path : String} {first : Char} (h : path.toList = first :: cs)
    (hc : first ≠ '[') : jsonPath path = "$." ++ path := by
  unfold jsonPath
  rw [h]
  split
  · next he => cases he
  · next he => exact absurd (List.cons.inj he).1 hc
  · rfl

theorem jsonPath_eq (steps : String) :
    jsonPath steps =
      "$" ++ if steps = "" ∨ steps.toList.head? = some '[' then steps else "." ++ steps := by
  cases h : steps.toList with
  | nil =>
    obtain rfl := String.toList_eq_nil_iff.1 h
    rfl
  | cons first cs =>
    by_cases hc : first = '['
    · subst hc
      rw [jsonPath_of_index h, if_pos (.inr rfl)]
    · have hn : steps ≠ "" := by
        rintro rfl
        cases h
      have hi : (first :: cs).head? ≠ some '[' := fun hf => hc (Option.some.inj hf)
      rw [jsonPath_of_key h hc, if_neg (not_or.2 ⟨hn, hi⟩), ← String.append_assoc]
      rfl

/-- The literal in an extraction reads back as the path, whatever text comes after the extraction. -/
theorem unquote_jsonExtract (expr steps rest : String) :
    ∃ text, jsonExtract expr steps ++ rest = "pb_json_extract(" ++ expr ++ ", " ++ text ∧
      unquote '\'' text = some (jsonPath steps, ")" ++ rest) := by
  refine ⟨literal (jsonPath steps) ++ (")" ++ rest), ?_, ?_⟩
  · unfold jsonExtract
    rw [String.append_assoc, String.append_assoc]
  · rw [literal_eq_enclosed, unquote_eq_some_iff]
    exact ⟨rfl, head?_append_ne (by decide)⟩

/-- A quoted name is read back as the name, up to where its quotes end, and nothing else is read as
that name. So the text of a column says which table and column it names, and the text of a join to a
table which table and alias. The literal of an extraction is read back as `$` and the path, with a
dot between them unless the path is empty or starts with an index. -/
theorem quotes_read_back :
    (∀ text name rest : String, unquote '"' text = some (name, rest) ↔
        text = quote name ++ rest ∧ rest.toList.head? ≠ some '"') ∧
      (∀ table column table' column' : String,
        quoteColumn table column = quoteColumn table' column' ↔
          table = table' ∧ column = column') ∧
      (∀ (table name table' name' : String) (on on' : On),
        (Join.mk (.table table) name on).sql = (Join.mk (.table table') name' on').sql ↔
          table = table' ∧ name = name' ∧ on.text?.getD "TRUE" = on'.text?.getD "TRUE") ∧
      ∀ expr steps rest : String, ∃ text,
        jsonExtract expr steps ++ rest = "pb_json_extract(" ++ expr ++ ", " ++ text ∧
          unquote '\'' text =
            some ("$" ++ if steps = "" ∨ steps.toList.head? = some '[' then steps else "." ++ steps,
              ")" ++ rest) := by
  refine ⟨fun text name rest => ?_, fun _ _ _ _ => ⟨quoteColumn_inj, ?_⟩,
    fun _ _ _ _ _ _ => Join.sql_table_eq_iff, fun expr steps rest => ?_⟩
  · rw [quote_eq_enclosed]
    exact unquote_eq_some_iff
  · rintro ⟨rfl, rfl⟩
    rfl
  · rw [← jsonPath_eq]
    exact unquote_jsonExtract expr steps rest

end RecordFilter.Sql
