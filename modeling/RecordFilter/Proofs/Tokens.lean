import RecordFilter.Sql.Condition

/-!
# The formula of a text

A text is read as SQL reads it: what stands between quotes is one token, and so is what stands
between parentheses, with the formula that it means (`Sql.tokens`). Outside of both the word `OR`
makes a text a disjunction, and where there is none the word `AND` makes it a conjunction
(`Sql.Formula.read`). Reading loses nothing, and a text in which everything is closed is read in the
same way wherever it stands (`Sql.tokens_eq_some_iff`).
-/

namespace RecordFilter.Sql

/-- A boolean formula over texts that have no connectives. -/
inductive Formula
  | atom (text : String)
  | all (parts : List Formula)
  | any (parts : List Formula)
deriving Repr, Inhabited

inductive Token
  | char (c : Char)
  /-- A text up to the next mark like the one that it starts with. -/
  | quoted (mark : Char) (inner : List Char)
  /-- What stands between parentheses. -/
  | group (inner : List Char) (meaning : Formula)
deriving Repr, Inhabited

/-! ## Reading -/

namespace Token

def chars : Token → List Char
  | char c => [c]
  | quoted mark inner => mark :: inner ++ [mark]
  | group inner _ => '(' :: inner ++ [')']

def face : Token → Char
  | char c => c.toUpper
  | quoted mark _ => mark
  | group .. => '('

def isBlank : Token → Bool
  | char c => c == ' '
  | _ => false

theorem eq_of_isBlank {t : Token} (h : t.isBlank = true) : t = char ' ' := by
  cases t with
  | char c => rw [beq_iff_eq.1 h]
  | quoted | group => cases h

end Token

def render (ts : List Token) : List Char := ts.flatMap Token.chars

/-- What stands at depth zero: a group or a quoted text is only its first character. -/
def outline (ts : List Token) : List Char := ts.map Token.face

def words (ts : List Token) : List (List Token) := ts.splitOnP Token.isBlank

/-- The parts between the words that are a connective. -/
def cutAt (connective : Connective) (ts : List Token) : List (List Token) :=
  ((words ts).splitOnP (outline · == connective.text.toList)).map ([Token.char ' '].intercalate ·)

namespace Formula

def ofOperand : List Token → Formula
  | [.group _ meaning] => meaning
  | ts => .atom (String.ofList (render ts))

def join : Connective → List Formula → Formula
  | _, [part] => part
  | .and, parts => .all parts
  | .or, parts => .any parts

/-- `OR` connects less than `AND`. -/
def ofTokens (ts : List Token) : Formula :=
  join .or ((cutAt .or ts).map fun ts => join .and ((cutAt .and ts).map ofOperand))

end Formula

/-- What a reader has read: the tokens before each parenthesis that is still open, those after the
last of them, and the text after a quote that is still open. -/
structure Reader where
  opened : List (List Token) := []
  read : List Token := []
  quote : Option (Char × List Char) := none

namespace Reader

/-- Reads a character; a parenthesis that was not opened is not closed. -/
def step (r : Reader) (c : Char) : Option Reader :=
  match r.quote with
  | some (mark, inner) =>
    if c = mark then some ⟨r.opened, r.read ++ [.quoted mark inner], none⟩
    else some ⟨r.opened, r.read, some (mark, inner ++ [c])⟩
  | none =>
    if c = '"' ∨ c = '\'' then some ⟨r.opened, r.read, some (c, [])⟩
    else if c = '(' then some ⟨r.read :: r.opened, [], none⟩
    else if c = ')' then
      match r.opened with
      | [] => none
      | before :: opened =>
        some ⟨opened, before ++ [.group (render r.read) (Formula.ofTokens r.read)], none⟩
    else some ⟨r.opened, r.read ++ [.char c], none⟩

end Reader

/-- The tokens of a text in which every parenthesis and every quote is closed. -/
def tokens (s : String) : Option (List Token) :=
  match s.toList.foldlM Reader.step {} with
  | some ⟨[], ts, none⟩ => some ts
  | _ => none

/-- The formula that a text is for SQL. -/
def Formula.read (s : String) : Option Formula := (tokens s).map ofTokens

example : Formula.read "a OR (b AND \"OR\") OR c AND d" =
    some (.any [.atom "a", .all [.atom "b", .atom "\"OR\""], .all [.atom "c", .atom "d"]]) := rfl

/-! ### Nothing is lost -/

variable {a b : List Char} {ts us : List Token}

theorem render_append : render (ts ++ us) = render ts ++ render us := List.flatMap_append

theorem render_singleton (t : Token) : render [t] = t.chars := by simp [render]

namespace Reader

def text (r : Reader) : List Char :=
  (r.opened.reverse.flatMap fun ts => render ts ++ ['(']) ++ render r.read ++
    match r.quote with
    | some (mark, inner) => mark :: inner
    | none => []

theorem text_step {r r' : Reader} {c : Char} (h : r.step c = some r') : r'.text = r.text ++ [c] := by
  obtain ⟨opened, read, quote⟩ := r
  unfold step at h
  cases quote with
  | some q =>
    obtain ⟨mark, inner⟩ := q
    simp only at h
    split at h
    · next hc =>
      cases h
      simp [text, render_append, render_singleton, Token.chars, hc]
    · cases h
      simp [text]
  | none =>
    simp only at h
    split at h
    · cases h
      simp [text]
    · split at h
      · next hc =>
        cases h
        simp [text, render, hc]
      · split at h
        · next hc =>
          cases opened with
          | nil => cases h
          | cons before opened =>
            cases h
            simp [text, render_append, render_singleton, Token.chars, hc]
        · cases h
          simp [text, render_append, render_singleton, Token.chars]

theorem text_run {r r' : Reader} {s : List Char} (h : s.foldlM step r = some r') :
    r'.text = r.text ++ s := by
  induction s generalizing r with
  | nil =>
    cases h
    exact (List.append_nil _).symm
  | cons c s ih =>
    rw [List.foldlM_cons] at h
    obtain ⟨mid, hc, h⟩ := Option.bind_eq_some_iff.1 h
    rw [ih h, text_step hc, List.append_assoc, List.singleton_append]

/-! ### Reading somewhere else -/

def lift (opened : List (List Token)) (read : List Token) : List (List Token) → List (List Token)
  | [] => opened
  | [before] => (read ++ before) :: opened
  | before :: rest => before :: lift opened read rest

/-- A reader that had read something else first. -/
def under (opened : List (List Token)) (read : List Token) (r : Reader) : Reader :=
  match r.opened with
  | [] => ⟨opened, read ++ r.read, r.quote⟩
  | before :: rest => ⟨lift opened read (before :: rest), r.read, r.quote⟩

theorem step_under {r r' : Reader} {c : Char} (h : r.step c = some r')
    (opened : List (List Token)) (read : List Token) :
    (r.under opened read).step c = some (r'.under opened read) := by
  obtain ⟨own, ts, quote⟩ := r
  unfold step at h
  cases quote with
  | some q =>
    obtain ⟨mark, inner⟩ := q
    simp only at h
    split at h
    · next hc => cases h; cases own <;> simp [under, step, hc]
    · next hc => cases h; cases own <;> simp [under, step, hc]
  | none =>
    simp only at h
    split at h
    · next hq => cases h; cases own <;> simp [under, step, hq]
    · next hq =>
      split at h
      · next hc => cases h; cases own <;> simp [under, step, lift, hc]
      · next hn =>
        split at h
        · next hc =>
          rcases own with _ | ⟨before, _ | ⟨next, rest⟩⟩ <;> cases h <;>
            simp [under, step, lift, hc]
        · next hc => cases h; cases own <;> simp [under, step, hq, hn, hc]

theorem run_under {r r' : Reader} {s : List Char} (h : s.foldlM step r = some r')
    (opened : List (List Token)) (read : List Token) :
    s.foldlM step (r.under opened read) = some (r'.under opened read) := by
  induction s generalizing r with
  | nil =>
    cases h
    rfl
  | cons c s ih =>
    rw [List.foldlM_cons] at h ⊢
    obtain ⟨mid, hc, h⟩ := Option.bind_eq_some_iff.1 h
    rw [step_under hc]
    exact ih h

end Reader

/-! ## Texts in which everything is closed -/

/-- A text is read as tokens wherever it stands. -/
def Reads (s : List Char) (ts : List Token) : Prop :=
  ∀ opened read, s.foldlM Reader.step ⟨opened, read, none⟩ = some ⟨opened, read ++ ts, none⟩

theorem tokens_eq_some_iff {s : String} : tokens s = some ts ↔ Reads s.toList ts := by
  constructor
  · intro h opened read
    unfold tokens at h
    split at h
    · next hr =>
      cases h
      have hu := Reader.run_under hr opened read
      simpa [Reader.under] using hu
    · cases h
  · intro h
    rw [tokens, show s.toList.foldlM Reader.step {} = _ from h [] []]
    rfl

theorem Reads.render (h : Reads a ts) : render ts = a := by
  have hnil : Sql.render [] = [] := rfl
  simpa [Reader.text, hnil] using Reader.text_run (h [] [])

theorem Reads.nil : Reads [] [] := fun opened read => by rw [List.append_nil]; rfl

theorem Reads.append (ha : Reads a ts) (hb : Reads b us) : Reads (a ++ b) (ts ++ us) := by
  intro opened read
  rw [List.foldlM_append, ha, ← List.append_assoc]
  exact hb opened (read ++ ts)

theorem Reads.group (h : Reads a ts) :
    Reads ('(' :: a ++ [')']) [.group a (Formula.ofTokens ts)] := by
  intro opened read
  have closes : [')'].foldlM Reader.step ⟨read :: opened, ts, none⟩ =
      some ⟨opened, read ++ [.group (Sql.render ts) (Formula.ofTokens ts)], none⟩ := rfl
  rw [h.render] at closes
  rw [List.cons_append, List.foldlM_cons]
  show (a ++ [')']).foldlM Reader.step ⟨read :: opened, [], none⟩ = _
  rw [List.foldlM_append, h, List.nil_append]
  exact closes

/-- Characters that open and close nothing. -/
def IsFlat (s : List Char) : Prop := ∀ c ∈ s, c ∉ ['"', '\'', '(', ')']

instance (s : List Char) : Decidable (IsFlat s) :=
  List.decidableBAll (fun c => c ∉ ['"', '\'', '(', ')']) s

theorem IsFlat.reads (h : IsFlat a) : Reads a (a.map .char) := by
  induction a with
  | nil => exact .nil
  | cons c a ih =>
    have hc := h c List.mem_cons_self
    have one : Reads [c] [.char c] := by
      intro opened read
      simp only [List.mem_cons, List.not_mem_nil, or_false, not_or] at hc
      simp [Reader.step, hc]
    exact one.append (ih fun d hd => h d (List.mem_cons_of_mem _ hd))

/-- After a quote was opened, a doubled text is read up to the quote that closes it. -/
theorem run_double {mark : Char} (hm : mark = '"' ∨ mark = '\'') (s inner : List Char) :
    ∃ ts, (∀ t ∈ ts, t.face = mark) ∧ ∀ opened read,
      (double mark s ++ [mark]).foldlM Reader.step ⟨opened, read, some (mark, inner)⟩ =
        some ⟨opened, read ++ ts, none⟩ := by
  induction s generalizing inner with
  | nil =>
    refine ⟨[.quoted mark inner], List.forall_mem_singleton.2 rfl, ?_⟩
    simp [double, Reader.step]
  | cons c s ih =>
    by_cases hc : c = mark
    · subst hc
      -- the quote is closed and opened again
      obtain ⟨ts, hf, hrun⟩ := ih []
      refine ⟨.quoted c inner :: ts, List.forall_mem_cons.2 ⟨rfl, hf⟩, fun opened read => ?_⟩
      have hrest := hrun opened (read ++ [.quoted c inner])
      rw [List.append_assoc] at hrest
      rw [double, if_pos rfl]
      simpa [Reader.step, hm] using hrest
    · obtain ⟨ts, hf, hrun⟩ := ih (inner ++ [c])
      refine ⟨ts, hf, fun opened read => ?_⟩
      rw [double, if_neg hc]
      simpa [Reader.step, hc] using hrun opened read

theorem reads_enclosed {mark : Char} (hm : mark = '"' ∨ mark = '\'') (s : List Char) :
    ∃ ts, Reads (mark :: double mark s ++ [mark]) ts ∧ ∀ t ∈ ts, t.face = mark := by
  obtain ⟨ts, hf, hrun⟩ := run_double hm s []
  refine ⟨ts, fun opened read => ?_, hf⟩
  have hopen : Reader.step ⟨opened, read, none⟩ mark = some ⟨opened, read, some (mark, [])⟩ := by
    simp [Reader.step, hm]
  rw [List.cons_append, List.foldlM_cons, hopen]
  exact hrun opened read

end RecordFilter.Sql
