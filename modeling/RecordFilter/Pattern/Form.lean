import RecordFilter.Character.Utf8
import RecordFilter.Pattern.Basic

/-!
# Patterns in normal form

The room that a pattern takes is that of its normal form: sequences and alternatives are lists
without others of their kind among them, neighbouring characters are one literal, alternatives of
single characters are one set, and what all alternatives begin with stands before them.
`Pattern.form` makes it from a pattern.
-/

namespace RecordFilter.Pattern

open Character (CodeSet ByteRange)

/-- A set of characters with the bytes that write them; `ascii` if it was written where only ASCII
counts. -/
structure ByteSet where
  ascii : Bool
  members : CodeSet
  sequences : List (List ByteRange) := members.byteSequences
  sequences_eq : sequences = members.byteSequences := by rfl

inductive Form
  | empty
  /-- One or more characters. -/
  | literal (cs : List Char)
  | set (s : ByteSet)
  | look (l : Look)
  | repeated (f : Form) (least : Nat) (most : Option Nat) (lazy : Bool)
  | capture (f : Form)
  | seq (fs : List Form)
  | alt (fs : List Form)
deriving Inhabited

namespace Form

/-! ## Traits -/

structure Traits where
  /-- No match has a character. -/
  matchesNothing : Bool
  /-- Every match has a character; unknown if a part never matches. -/
  consumes : Option Bool
  /-- Every match begins at the start of the text. -/
  fromStart : Bool
  /-- Every match ends at the end of the text. -/
  toEnd : Bool
deriving DecidableEq, Repr

def Traits.andThen (a b : Traits) : Traits where
  matchesNothing := a.matchesNothing && b.matchesNothing
  consumes := a.consumes.bind fun x => b.consumes.map (x || ·)
  fromStart := a.fromStart || (a.matchesNothing && b.fromStart)
  toEnd := b.toEnd || (b.matchesNothing && a.toEnd)

def Traits.orElse (a b : Traits) : Traits where
  matchesNothing := a.matchesNothing && b.matchesNothing
  consumes := a.consumes.bind fun x => b.consumes.map (x && ·)
  fromStart := a.fromStart && b.fromStart
  toEnd := a.toEnd && b.toEnd

mutual

def traits : Form → Traits
  | empty => ⟨true, some false, false, false⟩
  | literal _ => ⟨false, some true, false, false⟩
  | set s => ⟨false, if s.members.isEmpty then none else some true, false, false⟩
  | look l => ⟨true, some false, l == .textStart, l == .textEnd⟩
  | repeated f least most _ =>
    let t := f.traits
    { matchesNothing := most.isSome && t.matchesNothing
      consumes := t.consumes.map fun x => least != 0 && x
      fromStart := least != 0 && t.fromStart
      toEnd := least != 0 && t.toEnd }
  | capture f => f.traits
  | seq fs => seqTraits fs
  | alt fs => altTraits fs

def seqTraits : List Form → Traits
  | [] => ⟨true, some false, false, false⟩
  | f :: fs => f.traits.andThen (seqTraits fs)

/-- The traits of one of some forms; those of no form are neutral. -/
def altTraits : List Form → Traits
  | [] => ⟨true, some true, true, true⟩
  | f :: fs => f.traits.orElse (altTraits fs)

end

/-! ## Likeness -/

mutual

/-- Whether two forms are written alike. No two captures are, since each has its own number. -/
def same : Form → Form → Bool
  | empty, empty => true
  | literal cs, literal ds => cs == ds
  | set s, set t => s.ascii == t.ascii && s.members == t.members
  | look l, look m => l == m
  | repeated f least most lazy, repeated g least' most' lazy' =>
    f.same g && least == least' && most == most' && lazy == lazy'
  | seq fs, seq gs => sameAll fs gs
  | alt fs, alt gs => sameAll fs gs
  | _, _ => false

def sameAll : List Form → List Form → Bool
  | [], [] => true
  | f :: fs, g :: gs => f.same g && sameAll fs gs
  | _, _ => false

end

mutual

def size : Form → Nat
  | repeated f _ _ _ => f.size + 1
  | capture f => f.size + 1
  | seq fs => totalSize fs + 1
  | alt fs => totalSize fs + 1
  | _ => 1

def totalSize : List Form → Nat
  | [] => 0
  | f :: fs => f.size + totalSize fs

end

/-! ## Making forms -/

/-- One character of a set. A set of one is a literal; the empty set is the same wherever it was
written. -/
def ofSet (ascii : Bool) (s : CodeSet) : Form :=
  match s.single? with
  | some c => literal [c]
  | none => set { ascii := ascii || s.isEmpty, members := s }

def parts : Form → List Form
  | empty => []
  | seq fs => fs
  | f => [f]

/-- Puts a form before others, joined to the first of them if both are literals. -/
def consPart : Form → List Form → List Form
  | literal cs, literal ds :: fs => literal (cs ++ ds) :: fs
  | f, fs => f :: fs

def andThen (f g : Form) : Form :=
  match f.parts.foldr consPart g.parts with
  | [] => empty
  | [f] => f
  | fs => seq fs

def ofParts (fs : List Form) : Form := fs.foldr andThen empty

def choices : Form → List Form
  | alt fs => fs
  | f => [f]

def character? : Form → Option Char
  | literal [c] => some c
  | _ => none

def set? : Form → Option CodeSet
  | set s => some s.members
  | _ => none

def seq? : Form → Option (List Form)
  | seq fs => some fs
  | _ => none

def commonLength : List Form → List Form → Nat
  | f :: fs, g :: gs => if f.same g then commonLength fs gs + 1 else 0
  | _, _ => 0

/-- One of some forms. At most `fuel` times a common beginning is taken out. -/
def ofChoices : Nat → List Form → Form
  | fuel, fs =>
    match fs.flatMap choices with
    | [f] => f
    | fs =>
      match fs.mapM character?, fs.mapM set?, fs.mapM seq?, fuel with
      | some cs, _, _, _ => ofSet false (.ofRanges (cs.map fun c => (c.toNat, c.toNat)))
      | _, some ss, _, _ => ofSet false (.unions ss)
      | _, _, some (first :: rest), fuel + 1 =>
        let n := rest.foldl (fun n gs => min n (commonLength first gs)) first.length
        if n = 0 then alt fs
        else
          ofParts (first.take n ++
            [ofChoices fuel ((first :: rest).map fun gs => ofParts (gs.drop n))])
      | _, _, _, _ => alt fs

/-- A repetition of a form. What matches nothing need not be repeated. -/
def ofRepeated (f : Form) (least : Nat) (most : Option Nat) (lazy : Bool) : Form :=
  let (least, most) :=
    if f.traits.matchesNothing then (min least 1, some (min (most.getD 1) 1)) else (least, most)
  if most = some 0 ∧ least = 0 then empty
  else if most = some 1 ∧ least = 1 then f
  else repeated f least most lazy

end Form

def oneOf : List Form → Form
  | [f] => f
  | fs => .ofChoices (Form.totalSize fs) fs

def alternatives : Pattern → List Form
  | empty => [.empty]
  | char c => [.literal [c]]
  | set ascii s => [.ofSet ascii s]
  | look l => [.look l]
  | seq p q => [(oneOf p.alternatives).andThen (oneOf q.alternatives)]
  | alt p q => p.alternatives ++ q.alternatives
  | repeated p least most lazy => [.ofRepeated (oneOf p.alternatives) least most lazy]
  | group captures p =>
    let f := oneOf p.alternatives
    [if captures then .capture f else f]

def form (p : Pattern) : Form := oneOf p.alternatives

end RecordFilter.Pattern
