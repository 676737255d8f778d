import Mathlib.Data.List.Basic
import RecordFilter.Request.Basic

/-!
# JSON texts of lists of texts

A character is written in one of three ways, and each is read back as the character. So a list of
texts is read back from its compact text (`Json.writtenList?_texts`), which tells the texts.
-/

namespace RecordFilter.Json

/-! ## Escaped characters -/

def shortEscapes : List (Char × Char) :=
  [('"', '"'), ('\\', '\\'), ('\n', 'n'), ('\r', 'r'), ('\t', 't'), ('\x08', 'b'), ('\x0c', 'f')]

/-- The three ways in which characters are written. -/
theorem escapeChar_cases (c : Char) :
    (∃ e, (c, e) ∈ shortEscapes ∧ escapeChar c = ['\\', e]) ∨
      (c.toNat < 32 ∧ escapeChar c =
        ['\\', 'u', '0', '0', hexDigit (c.toNat / 16), hexDigit c.toNat]) ∨
      (c ≠ '"' ∧ c ≠ '\\' ∧ escapeChar c = [c]) := by
  unfold escapeChar
  split_ifs <;> simp_all [shortEscapes]

theorem shortEscapes_ne : ∀ p ∈ shortEscapes, p.2 ≠ 'u' := by decide

theorem toNat_of_escapeChar_eq {c : Char} (h : escapeChar c = [c]) : 32 ≤ c.toNat := by
  unfold escapeChar at h
  split_ifs at h <;> first | omega | simp at h

theorem codeUnit?_control : ∀ n < 32,
    codeUnit? '0' '0' (hexDigit (n / 16)) (hexDigit n) = some n := by decide

theorem shortEscape?_of_mem : ∀ p ∈ shortEscapes, shortEscape? p.2 = some p.1 := by decide

/-! ## Strings -/

theorem takeString_escapeChar (c : Char) (cs : List Char) :
    takeString none (escapeChar c ++ cs) = prepend (some c) (takeString none cs) := by
  rcases escapeChar_cases c with ⟨e, he, h⟩ | ⟨hc, h⟩ | ⟨hq, hb, h⟩ <;> rw [h]
  · show takeString none ('\\' :: e :: cs) = _
    rw [takeString, shortEscape?_of_mem _ he]
    · rfl
    · exact fun _ _ _ _ _ hu => absurd hu (shortEscapes_ne _ he)
  · have hl : isLowSurrogate c.toNat = false := by simp [isLowSurrogate]; omega
    have hh : isHighSurrogate c.toNat = false := by simp [isHighSurrogate]; omega
    show takeString none
      ('\\' :: 'u' :: '0' :: '0' :: hexDigit (c.toNat / 16) :: hexDigit c.toNat :: cs) = _
    rw [takeString, codeUnit?_control _ hc]
    simp only [hl, hh, Bool.false_eq_true, if_false, Char.ofNat_toNat]
    rfl
  · have hn := toNat_of_escapeChar_eq h
    rw [List.singleton_append, takeString]
    · rw [if_neg (not_or.2 ⟨by omega, hb⟩)]
      rfl
    · exact hq
    · exact fun _ _ _ _ _ h _ => hb h
    · exact fun _ _ h _ => hb h

/-- A written string is read back, whatever comes after it. -/
theorem takeString_written (s rest : List Char) :
    takeString none (s.flatMap escapeChar ++ '"' :: rest) = some (some s, rest) := by
  induction s with
  | nil => rfl
  | cons c s ih =>
    rw [List.flatMap_cons, List.append_assoc, takeString_escapeChar, ih]
    rfl

/-! ## Lists of texts -/

namespace Draft

theorem take_written (n : Nat) (s : String) (rest : List Char) :
    take (n + 1) (stringChars s ++ rest) = some (.text (some s), rest) := by
  show (takeText (s.toList.flatMap escapeChar ++ ['"'] ++ rest)).map _ = _
  rw [takeText, List.append_assoc, List.singleton_append, takeString_written]
  simp

theorem takeItems_written (s : String) (ss : List String) (rest : List Char) {n : Nat}
    (hn : ss.length < n) :
    takeItems (n + 1) (stringChars s ++ itemsTail (ss.map .text) ++ rest) =
      some (drafts ((s :: ss).map .text), rest) := by
  induction ss generalizing s n with
  | nil =>
    obtain ⟨n, rfl⟩ := Nat.exists_eq_succ_of_ne_zero (Nat.ne_of_gt hn)
    rw [takeItems, List.append_assoc, take_written]
    rfl
  | cons t ss ih =>
    obtain ⟨n, rfl⟩ := Nat.exists_eq_succ_of_ne_zero (Nat.ne_of_gt (Nat.zero_lt_of_lt hn))
    rw [takeItems, List.append_assoc, take_written]
    show (takeItems (n + 1) (stringChars t ++ itemsTail (ss.map .text) ++ rest)).map _ = _
    rw [ih t (Nat.lt_of_succ_lt_succ hn)]
    rfl

theorem value?_drafts (limit : Nat) (ss : List String) :
    values? limit (drafts (ss.map .text)) = some (ss.map .text) := by
  induction ss with
  | nil => rfl
  | cons s ss ih =>
    have hvalue : value? limit (Json.text s).draft = some (Json.text s) := rfl
    rw [List.map_cons, drafts, values?, hvalue, ih]

end Draft

theorem length_itemsTail (items : List Json) : items.length < (itemsTail items).length := by
  induction items with
  | nil => simp [itemsTail]
  | cons item items ih =>
    simp only [itemsTail, List.cons_append, List.length_cons, List.length_append]
    omega

theorem ofText_texts (ss : List String) :
    Draft.ofText (compact (.list (ss.map .text))) = some (.list (drafts (ss.map .text))) := by
  rw [Draft.ofText, compact, String.toList_ofList]
  cases ss with
  | nil => rfl
  | cons s ss =>
    have hlen := length_itemsTail (ss.map .text)
    rw [List.length_map] at hlen
    have hfuel : ss.length < 2 * (chars (.list ((s :: ss).map .text))).length := by
      simp only [List.map_cons, chars, List.cons_append, List.length_cons, List.length_append]
      omega
    have hread := Draft.takeItems_written s ss [] hfuel
    rw [List.append_nil] at hread
    have htake : Draft.take (2 * (chars (.list ((s :: ss).map .text))).length + 2)
        (chars (.list ((s :: ss).map .text))) =
        some (.list (drafts ((s :: ss).map .text)), []) := by
      show (Draft.takeItems _ (stringChars s ++ itemsTail (ss.map .text))).map _ = _
      rw [hread]
      rfl
    rw [htake]
    rfl

theorem parse_texts (ss : List String) :
    parse (compact (.list (ss.map .text))) = some (.list (ss.map .text)) := by
  have hvalue : Draft.value? nestingLimit (.list (drafts (ss.map .text))) =
      (Draft.values? 126 (drafts (ss.map .text))).map .list := rfl
  rw [parse, ofText_texts, Option.bind_some, hvalue, Draft.value?_drafts]
  rfl

/-- The compact text of a list of texts writes the list. -/
theorem writtenList?_texts (ss : List String) :
    writtenList? (compact (.list (ss.map .text))) = some (ss.map .text) := by
  rw [writtenList?, parse_texts]

/-- The compact text of a list of texts tells the texts. -/
theorem compact_texts_injective {ss tt : List String}
    (h : compact (.list (ss.map .text)) = compact (.list (tt.map .text))) : ss = tt := by
  have hlists : some (ss.map Json.text) = some (tt.map Json.text) := by
    rw [← writtenList?_texts, h, writtenList?_texts]
  exact List.map_injective_iff.2 (fun _ _ => Json.text.inj) (Option.some.inj hlists)

end RecordFilter.Json
