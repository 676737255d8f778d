import RecordFilter.Character.FoldTable

/-!
# Sets of code points

A `CodeSet` is a set of code points as closed ranges, in ascending order and with a gap between
each two. `ofText` reads the notation of the tables, `mem` decides membership, and `anyCase` closes
a set under case.
-/

namespace RecordFilter.Character

abbrev CodeRange := Nat × Nat

structure CodeSet where
  ranges : List CodeRange
deriving DecidableEq, Repr, Inhabited

namespace CodeSet

/-- Ranges in ascending order of their starts, those that meet or overlap made one. -/
def glue : CodeRange → List CodeRange → List CodeRange
  | r, [] => [r]
  | (a, b), (c, d) :: rest =>
    if c ≤ b + 1 then glue (a, max b d) rest else (a, b) :: glue (c, d) rest

def ofRanges (rs : List CodeRange) : CodeSet :=
  match rs.mergeSort fun r s => r.1 ≤ s.1 with
  | [] => ⟨[]⟩
  | r :: rest => ⟨glue r rest⟩

def empty : CodeSet := ⟨[]⟩

def range (lo hi : Nat) : CodeSet := ⟨[(lo, hi)]⟩

def single (c : Char) : CodeSet := range c.toNat c.toNat

def last : Nat := 0x10FFFF

def full : CodeSet := range 0 last

def ascii : CodeSet := range 0 0x7F

def isEmpty (s : CodeSet) : Bool := s.ranges.isEmpty

def mem (s : CodeSet) (c : Char) : Bool :=
  s.ranges.any fun r => r.1 ≤ c.toNat && c.toNat ≤ r.2

def isAscii (s : CodeSet) : Bool := s.ranges.all fun r => r.2 ≤ 0x7F

def single? (s : CodeSet) : Option Char :=
  match s.ranges with
  | [(a, b)] => if a = b then some (Char.ofNat a) else none
  | _ => none

/-! ## Operations -/

def union (s t : CodeSet) : CodeSet := ofRanges (s.ranges ++ t.ranges)

def clip (r s : CodeRange) : Option CodeRange :=
  let lo := max r.1 s.1
  let hi := min r.2 s.2
  if lo ≤ hi then some (lo, hi) else none

def inter (s t : CodeSet) : CodeSet := ⟨s.ranges.flatMap fun r => t.ranges.filterMap (clip r)⟩

/-- The code point of the character after that of a code point; there is none between U+D7FF and
U+E000. -/
def next (n : Nat) : Nat := if n = 0xD7FF then 0xE000 else n + 1

def previous (n : Nat) : Nat := if n = 0xE000 then 0xD7FF else n - 1

/-- The ranges that ascending ranges leave free from a code point on. -/
def gaps : Nat → List CodeRange → List CodeRange
  | n, [] => if n ≤ last then [(n, last)] else []
  | n, (a, b) :: rest =>
    if n < a then (n, previous a) :: gaps (next b) rest else gaps (next b) rest

def complement (s : CodeSet) : CodeSet := ⟨gaps 0 s.ranges⟩

def diff (s t : CodeSet) : CodeSet := s.inter t.complement

def symmDiff (s t : CodeSet) : CodeSet := (s.union t).diff (s.inter t)

def unions (ss : List CodeSet) : CodeSet := ofRanges (ss.flatMap (·.ranges))

/-! ## Notation -/

def hexNumber (cs : List Char) : Nat :=
  cs.foldl (fun n c => 16 * n + (if c.isDigit then c.toNat - 48 else c.toNat - 55)) 0

/-- The ranges of one item: a code point, a range, or a range of which every so many code points
are meant. -/
def itemRanges (item : List Char) : List CodeRange :=
  match item.span (· != '-') with
  | (first, []) => [(hexNumber first, hexNumber first)]
  | (first, _ :: rest) =>
    let lo := hexNumber first
    match rest.span (· != '/') with
    | (final, []) => [(lo, hexNumber final)]
    | (final, _ :: step) =>
      let step := hexNumber step
      (List.range ((hexNumber final - lo) / step + 1)).map fun k => (lo + k * step, lo + k * step)

def items (cs : List Char) : List (List Char) :=
  let (item, done) := cs.foldr (fun c (item, done) =>
    if c = ' ' || c = '\n' then ([], item :: done) else (c :: item, done)) ([], [])
  (item :: done).filter (!·.isEmpty)

/-- Reads code points and ranges in hexadecimal with blanks between them; `A-B/S` means every `S`th
code point from `A` to `B`. -/
def ofText (s : String) : CodeSet := ofRanges ((items s.toList).flatMap itemRanges)

/-! ## Case -/

/-- The members of a set among every `step`th code point from `lo` to `hi`. -/
def membersOf (lo hi step : Nat) (s : CodeSet) : List CodeRange :=
  (s.ranges.filterMap (clip (lo, hi))).flatMap fun (a, b) =>
    if step = 1 then [(a, b)]
    else
      let first := lo + (a - lo + step - 1) / step * step
      if first ≤ b then
        (List.range ((b - first) / step + 1)).map fun k => (first + k * step, first + k * step)
      else []

def shift (distance : Int) (r : CodeRange) : CodeRange :=
  ((r.1 + distance).toNat, (r.2 + distance).toNat)

/-- The set with the case form of every member. -/
def withForms (s : CodeSet) : CodeSet :=
  ofRanges (s.ranges ++ foldRows.flatMap fun (lo, hi, step, distance) =>
    (s.membersOf lo hi step).map (shift distance))

/-- The set with every character the case form of which is a member. -/
def withOtherForms (s : CodeSet) : CodeSet :=
  ofRanges (s.ranges ++ foldRows.flatMap fun (lo, hi, step, distance) =>
    (s.membersOf (shift distance (lo, hi)).1 (shift distance (lo, hi)).2 step).map
      (shift (-distance)))

def withAsciiCases (s : CodeSet) : CodeSet :=
  ofRanges (s.ranges ++ (s.membersOf 0x41 0x5A 1).map (shift 32) ++
    (s.membersOf 0x61 0x7A 1).map (shift (-32)))

/-- The set with all cases of its members; only those of ASCII letters if `ascii`. -/
def anyCase (ascii : Bool) (s : CodeSet) : CodeSet :=
  if ascii then s.withAsciiCases else s.withForms.withOtherForms

theorem mem_iff {s : CodeSet} {c : Char} :
    s.mem c = true ↔ ∃ r ∈ s.ranges, r.1 ≤ c.toNat ∧ c.toNat ≤ r.2 := by
  simp [mem]

end CodeSet

end RecordFilter.Character
