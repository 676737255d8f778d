import Mathlib.Algebra.Group.Nat.Defs
import Mathlib.Data.List.Forall2
import Mathlib.Data.List.Infix
import RecordFilter.Path.Allowed

/-!
# Literal patterns

A literal pattern is a sequence of characters without other signs, in which only the dot stands for
something else. `lengths_literal` says what such a pattern matches at each place of a text, and
`matchesWithin_anchored` that, anchored at both ends, it matches exactly the texts whose characters
its own stand for. `ofText?_framed` says that this is the pattern that path characters are read as.
-/

namespace RecordFilter.Pattern

open Character (CodeSet)

variable {text : List Char}

/-! ## Places as ends of a text

The places of a text are the ends of it that begin there. -/

theorem perPlace_eq_tails (g : Option Char → Nat) (before : Option Char) (cs : List Char) :
    perPlace (fun _ after => g after) before cs = cs.tails.map fun s => g s.head? := by
  induction cs generalizing before with
  | nil => rfl
  | cons c cs ih => simp [perPlace, ih]

theorem andThen_tails (f g : List Char → Nat) (cs : List Char) :
    andThen (cs.tails.map f) (cs.tails.map g) =
      cs.tails.map fun s => extend (f s) (s.tails.map g) := by
  induction cs with
  | nil => rfl
  | cons c cs ih => simp only [List.tails_cons, List.map_cons, andThen, ih]

theorem extend_zero (l : Lengths) : extend 0 l = 0 := by
  cases l <;> simp [extend]

/-- After a match of `k` characters, what matches `k` places on. -/
theorem extend_two_pow (k : Nat) (l : Lengths) : extend (2 ^ k) l = 2 ^ k * l[k]?.getD 0 := by
  induction k generalizing l with
  | zero =>
    cases l with
    | nil => rfl
    | cons n l => simp [extend, extend_zero]
  | succ k ih =>
    cases l with
    | nil => simp [extend]
    | cons n l =>
      have hz : 2 ^ (k + 1) ≠ 0 := (Nat.two_pow_pos _).ne'
      have hd : 2 ^ (k + 1) / 2 = 2 ^ k := by omega
      have hm : 2 ^ (k + 1) % 2 = 0 := by omega
      rw [extend, if_neg hz, hd, hm, ih, List.getElem?_cons_succ, Nat.pow_succ', Nat.mul_assoc]
      simp

theorem getD_tails (g : List Char → Nat) (s : List Char) (k : Nat) :
    (s.tails.map g)[k]?.getD 0 = if k ≤ s.length then g (s.drop k) else 0 := by
  induction s generalizing k with
  | nil => cases k <;> simp
  | cons c s ih =>
    cases k with
    | zero => simp
    | succ k => simpa using ih k

/-- What matches `k` characters at some places, and then something else `k` places on. -/
theorem andThen_exact (p : List Char → Bool) (k : Nat) (g : List Char → Nat) (cs : List Char) :
    andThen (cs.tails.map fun s => if p s then 2 ^ k else 0) (cs.tails.map g) =
      cs.tails.map fun s => if p s && k ≤ s.length then 2 ^ k * g (s.drop k) else 0 := by
  rw [andThen_tails]
  congr 1
  funext s
  cases hp : p s
  · simp [extend_zero]
  · simp only [if_true, extend_two_pow, getD_tails, Bool.true_and, decide_eq_true_eq]
    split <;> simp

/-! ## One character after another -/

/-- Whether a character of a literal pattern stands for a character of a text: a dot does for any
but a line break, any other one for itself. -/
def standsFor (a c : Char) : Bool := if a = '.' then c != '\n' else c == a

def atom (a : Char) : Pattern := if a = '.' then .set false (notLineBreak false) else .char a

def literal : List Char → Pattern
  | [] => .empty
  | [a] => atom a
  | a :: b :: as => .seq (atom a) (literal (b :: as))

def fits : List Char → List Char → Bool
  | [], _ => true
  | _ :: _, [] => false
  | a :: as, c :: cs => standsFor a c && fits as cs

theorem mem_notLineBreak : (notLineBreak false).mem = fun c => c != '\n' := by
  have hs : notLineBreak false = ⟨[(0, 9), (11, 0x10FFFF)]⟩ := by decide +kernel
  funext c
  have hc : c = '\n' ↔ c.toNat = 10 := Char.toNat_inj.symm
  have hv : c.toNat.isValidChar := c.valid
  simp only [Nat.isValidChar] at hv
  rw [hs, Bool.eq_iff_iff, CodeSet.mem_iff, bne_iff_ne, ne_eq, hc]
  simp
  omega

theorem lengths_atom (a : Char) (text : List Char) :
    (atom a).lengths text =
      text.tails.map fun s => if s.head?.any (standsFor a) then 2 ^ 1 else 0 := by
  unfold atom
  by_cases h : a = '.'
  · have hs : standsFor a = fun c => c != '\n' := by simp [funext_iff, standsFor, h]
    rw [if_pos h, lengths, mem_notLineBreak, hs]
    exact perPlace_eq_tails (fun after => if after.any fun c => c != '\n' then 2 else 0) none text
  · have hs : standsFor a = fun c => c == a := by simp [funext_iff, standsFor, h]
    rw [if_neg h, lengths, hs]
    refine (perPlace_eq_tails (fun after => if after = some a then 2 else 0) none text).trans ?_
    congr 1
    funext s
    cases s <;> simp

/-- A literal pattern matches as many characters as it has, or none. -/
theorem lengths_literal (as text : List Char) :
    (literal as).lengths text = text.tails.map fun s => if fits as s then 2 ^ as.length else 0 := by
  induction as using literal.induct with
  | case1 =>
    exact perPlace_eq_tails (fun _ => 1) none text
  | case2 a =>
    rw [literal, lengths_atom]
    congr 1
    funext s
    cases s with
    | nil => rfl
    | cons c s => cases hc : standsFor a c <;> simp [fits, hc]
  | case3 a b as ih =>
    rw [literal, lengths, lengths_atom, ih, andThen_exact]
    congr 1
    funext s
    cases s with
    | nil => rfl
    | cons c s =>
      cases hc : standsFor a c <;> cases hs : fits (b :: as) s <;>
        simp [fits, hc, hs, Nat.pow_succ, Nat.mul_comm]

/-! ## The whole of a text -/

def anchored (as : List Char) : Pattern :=
  .seq (.look .textStart) (.seq (.group false (literal as)) (.look .textEnd))

theorem fits_length_iff {as s : List Char} :
    (fits as s = true ∧ as.length = s.length) ↔ List.Forall₂ (standsFor · ·) as s := by
  induction as generalizing s with
  | nil => cases s <;> simp [fits, List.forall₂_nil_left_iff]
  | cons a as ih =>
    cases s with
    | nil => simp [fits, List.forall₂_nil_right_iff]
    | cons c s => simp [fits, ← ih, and_assoc]

theorem perPlace_textStart (c : Char) (cs : List Char) :
    perPlace (fun before after => if Look.textStart.holds before after then 1 else 0) (some c) cs =
      cs.tails.map fun _ => 0 := by
  induction cs generalizing c with
  | nil => rfl
  | cons d cs ih =>
    rw [perPlace, ih]
    rfl

theorem matchesWithin_textStart {q : Pattern} {g : List Char → Nat}
    (h : q.lengths text = text.tails.map g) :
    (Pattern.seq (.look .textStart) q).matchesWithin text = (g text != 0) := by
  rw [matchesWithin, lengths, h, lengths]
  cases text with
  | nil => simp [perPlace, Look.holds, andThen, extend]
  | cons c cs =>
    rw [perPlace, perPlace_textStart, List.tails_cons, List.map_cons, andThen, andThen_tails]
    simp [Look.holds, extend, extend_zero]

/-- Anchored at both ends, a literal pattern matches the texts that its characters stand for one by
one. -/
theorem matchesWithin_anchored {as : List Char} :
    (anchored as).matchesWithin text = true ↔ List.Forall₂ (standsFor · ·) as text := by
  have he : (Pattern.look .textEnd).lengths text =
      text.tails.map fun s => if s.head?.isNone then 1 else 0 :=
    perPlace_eq_tails (fun after => if after.isNone then 1 else 0) none text
  have hl : (Pattern.seq (.group false (literal as)) (.look .textEnd)).lengths text =
      text.tails.map fun s => if fits as s && as.length ≤ s.length then
        2 ^ as.length * (if (s.drop as.length).head?.isNone then 1 else 0) else 0 := by
    change andThen ((literal as).lengths text) ((Pattern.look .textEnd).lengths text) = _
    rw [lengths_literal, he, andThen_exact]
  rw [anchored, matchesWithin_textStart hl, ← fits_length_iff, Nat.le_antisymm_iff]
  simp

/-! ## Reading

What stands between the anchors is read character by character: none of them is a sign but the dot,
so that each becomes an item of its own. -/

theorem charItem_default (c : Char) : charItem {} c = .char c := by
  simp [charItem, Flags.fold, CodeSet.single?, CodeSet.single, CodeSet.range]

theorem sequence_atom {fuel nest : Nat} {names : List (List Char)} {before : List Reading}
    {items : Items} {c : Char} {rest : List Char} (hc : Path.isPathChar c = true) :
    sequence (fuel + 1) nest {} names before items (c :: rest) =
      sequence fuel nest {} names before (some ⟨atom c, 0⟩ :: items) rest := by
  by_cases hd : c = '.'
  · rw [hd]; rfl
  · have hs : Flags.skip {} (c :: rest) = c :: rest := rfl
    rw [sequence, hs]
    split <;> rename_i heq <;> cases heq
    -- the last case is that of a character which is no sign; in the others it is one
    case h_14.refl => simp only [charItem_default, atom, if_neg hd]
    all_goals first | exact absurd rfl hd | exact absurd hc (by decide)

/-- The items that characters are read as, the last one first. -/
def atomItems (as : List Char) : Items := as.reverse.map fun a => some ⟨atom a, 0⟩

theorem sequence_atoms {nest : Nat} {names : List (List Char)} {before : List Reading}
    {as : List Char} (ha : ∀ c ∈ as, Path.isPathChar c = true) (fuel : Nat) (items : Items)
    (rest : List Char) :
    sequence (as.length + fuel) nest {} names before items (as ++ rest) =
      sequence fuel nest {} names before (atomItems as ++ items) rest := by
  induction as generalizing items with
  | nil => simp [atomItems]
  | cons a as ih =>
    rw [List.forall_mem_cons] at ha
    rw [List.length_cons, Nat.add_right_comm, List.cons_append, sequence_atom ha.1, ih ha.2]
    simp [atomItems]

theorem literal_ne_empty (a : Char) (as : List Char) : literal (a :: as) ≠ .empty := by
  cases as with
  | nil => unfold literal atom; split <;> simp
  | cons b as => simp [literal]

theorem pattern_atomItems (as : List Char) : (ofItems (atomItems as)).pattern = literal as := by
  simp only [ofItems, atomItems, List.foldl_map, List.foldl_reverse]
  induction as with
  | nil => rfl
  | cons a as ih =>
    rw [List.foldr_cons, ih]
    cases as with
    | nil => rfl
    | cons b as =>
      simp only [literal]
      split
      · next h => exact absurd h (literal_ne_empty b as)
      · rfl

theorem depth_atomItems (as : List Char) : (ofItems (atomItems as)).depth ≤ 1 := by
  have hz : ∀ cs : List Char, (cs.map fun _ => 0).foldl max 0 = 0 := by
    intro cs
    induction cs with
    | nil => rfl
    | cons c cs ih => simpa using ih
  have hm : (atomItems as).map (fun item => (item.map (·.depth)).getD 0) =
      as.reverse.map fun _ => 0 := by
    rw [atomItems, List.map_map]
    rfl
  rw [ofItems, hm, height]
  split
  · rw [hz]
  · cases as.reverse <;> simp

/-- An entry between its anchors. -/
def framed (as : List Char) : List Char := '^' :: '(' :: '?' :: ':' :: (as ++ [')', '$'])

theorem sequence_group {as : List Char} (ha : ∀ c ∈ as, Path.isPathChar c = true)
    (fuel nest : Nat) (rest : List Char) :
    sequence (as.length + (fuel + 1)) nest {} [] [] [] (as ++ ')' :: rest) =
      some (ofItems (atomItems as), [], ')' :: rest) := by
  rw [sequence_atoms ha, List.append_nil]
  rfl

/-- Parentheses that capture nothing are read as what is read between them. -/
theorem sequence_plainGroup {fuel nest : Nat} {names names' : List (List Char)}
    {before : List Reading} {items : Items} {cs rest : List Char} {r : Reading}
    (h : sequence fuel nest {} names [] [] cs = some (r, names', ')' :: rest)) :
    sequence (fuel + 1) (nest + 1) {} names before items ('(' :: '?' :: ':' :: cs) =
      sequence fuel (nest + 1) {} names' before
        (some ⟨.group false r.pattern, r.depth + 1⟩ :: items) rest := by
  have hs : Flags.skip {} ('(' :: '?' :: ':' :: cs) = '(' :: '?' :: ':' :: cs := rfl
  have ho : opening {} ('?' :: ':' :: cs) = some (.group false {} none, cs) := rfl
  rw [sequence, hs]
  simp only [ho, Option.any_none, Option.toList_none, List.nil_append, h]
  rfl

theorem sequence_framed {as : List Char} (ha : ∀ c ∈ as, Path.isPathChar c = true) (fuel : Nat) :
    sequence (as.length + (fuel + 2) + 2) nestLimit {} [] [] [] (framed as) =
      some (⟨anchored as, (ofItems (atomItems as)).depth + 2⟩, [], []) := by
  let start : Option Reading := some ⟨.look .textStart, 0⟩
  calc
    _ = sequence (as.length + (fuel + 2) + 1) nestLimit {} [] [] [start]
          ('(' :: '?' :: ':' :: (as ++ [')', '$'])) := rfl
    _ = sequence (as.length + (fuel + 2)) nestLimit {} [] []
          [some ⟨.group false (ofItems (atomItems as)).pattern,
            (ofItems (atomItems as)).depth + 1⟩, start] ['$'] :=
      sequence_plainGroup (sequence_group ha (fuel + 1) 249 ['$'])
    _ = _ := by
      rw [pattern_atomItems, ← Nat.add_assoc]
      rfl

/-- Between its anchors, an entry is read as its characters one after another. -/
theorem ofText?_framed {as : List Char} (ha : ∀ c ∈ as, Path.isPathChar c = true) :
    ofText? (framed as) = if (anchored as).hasRoom then some (anchored as) else none := by
  have hf : 2 * (framed as).length + 4 = as.length + (as.length + 12 + 2) + 2 := by
    simp only [framed, List.length_cons, List.length_append, List.length_nil]
    omega
  have hd : (ofItems (atomItems as)).depth + 2 ≤ nestLimit :=
    Nat.le_trans (Nat.add_le_add_right (depth_atomItems as) 2) (by decide)
  rw [ofText?, hf, sequence_framed ha]
  simp [hd]

end RecordFilter.Pattern
