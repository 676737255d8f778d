import RecordFilter.Character.Utf8
import RecordFilter.Pattern.Form
import Std.Data.TreeMap.Basic

/-!
# The room that a pattern takes

A pattern is run as an automaton over the bytes of a text, forwards and backwards, and each of the
two may take no more than `Room.limit`. An automaton is made from the normal form of the pattern,
part by part, with the states of a repeated part written out as often as it is repeated. Only the
room is kept here: `Room` counts the states and the bytes that they hold beside.
-/

namespace RecordFilter.Pattern

open Character (ByteRange utf8)

structure Room where
  states : Nat
  /-- Bytes for the transitions of states. -/
  extra : Nat
deriving DecidableEq, Repr, Inhabited

namespace Room

def stateSize : Nat := 32

def rangeSize : Nat := 8

def linkSize : Nat := 4

def limit : Nat := 10 * 1024 * 1024

def bytes (r : Room) : Nat := stateSize * r.states + r.extra

end Room

/-- The making of an automaton, which fails when it takes too much room. -/
abbrev Build := StateT Room Option

namespace Build

def check (r : Room) : Option Room := if r.bytes ≤ Room.limit then some r else none

def place (extra : Nat) : Build Nat := fun r =>
  (check ⟨r.states + 1, r.extra + extra⟩).map fun r' => (r.states, r')

def states : Nat → Build Unit
  | 0 => pure ()
  | n + 1 => do
    let _ ← place 0
    states n

def links (n : Nat) : Build Unit := fun r =>
  (check ⟨r.states, r.extra + n * Room.linkSize⟩).map fun r => ((), r)

/-- Leads on from the end of a part; if the end is open it needs a link for that. -/
def leave (isOpen : Bool) : Build Unit := if isOpen then links 1 else pure ()

/-! ## Sets -/

def mix (h : UInt64) (n : Nat) : UInt64 := (h ^^^ n.toUInt64) * 1099511628211

def slot (size : Nat) (ns : List Nat) : Nat :=
  (ns.foldl mix 14695981039346656037).toNat % size

/-- States that may be used again, each with what it was made for, by their places in a table. A
state takes the place of an earlier one. -/
abbrev Slots (α : Type) := Std.TreeMap Nat (α × Nat)

/-- The state that was made for a key, if the table still holds it; else a new one. -/
def reuse {α : Type} [DecidableEq α] (size : Nat) (numbers : α → List Nat) (extra : Nat)
    (key : α) : StateT (Slots α) Build Nat := fun slots =>
  let i := slot size (numbers key)
  let fresh : Build (Nat × Slots α) := do
    let state ← place extra
    pure (state, slots.insert i (key, state))
  match slots[i]? with
  | some (key', state) => if key' = key then pure (state, slots) else fresh
  | none => fresh

/-- Adds a sequence before others that are grouped by their first ranges. -/
def addSequence (s : List ByteRange) (groups : List (ByteRange × List (List ByteRange))) :
    List (ByteRange × List (List ByteRange)) :=
  match s, groups with
  | [], groups => groups
  | r :: s, (r', ss) :: more =>
    if r = r' then (r', s :: ss) :: more else (r, [s]) :: (r', ss) :: more
  | r :: s, [] => [(r, [s])]

/-- The state that reads one of some sequences and goes on to a target. Sequences of bytes are no
longer than `depth`. -/
def forwardState (target : Nat) :
    Nat → List (List ByteRange) → StateT (Slots (List (ByteRange × Nat))) Build Nat
  | 0, _ => pure target
  | depth + 1, ss => do
    let groups := ss.foldr addSequence []
    let transitions ← groups.mapM fun (r, ss) => do
      if ss.all (·.isEmpty) then pure (r, target)
      else
        let state ← forwardState target depth ss
        pure (r, state)
    reuse 10000 (fun ts => ts.flatMap fun ((a, b), state) => [a, b, state])
      (transitions.length * Room.rangeSize) transitions

def backwardStates (target : Nat) (s : List ByteRange) :
    StateT (Slots (Nat × ByteRange)) Build Nat :=
  s.foldlM (fun next r => reuse 1000 (fun (next, (a, b)) => [next, a, b]) 0 (next, r)) target

def ofSet (back : Bool) (s : ByteSet) : Build Unit := do
  if s.members.isAscii then
    states 1
    let _ ← place (s.members.ranges.length * Room.rangeSize)
  else if back then
    let _ ← place 0
    let target ← place 0
    let readAll : StateT (Slots (Nat × ByteRange)) Build Unit := s.sequences.forM fun s => do
      let _ ← backwardStates target s
      links 1
    let _ ← readAll.run ∅
  else
    let target ← place 0
    let _ ← (forwardState target 4 s.sequences).run ∅

/-! ## Alternatives of literals -/

/-- Words with the words of no letters between them, which part them into runs. -/
def runs (words : List (List Nat)) : List (List (List Nat)) :=
  let (run, done) := words.foldr (fun w (run, done) =>
    if w.isEmpty then ([], run :: done) else (w :: run, done)) ([], [])
  run :: done

/-- The words without those of no letters that only repeat the one at the start. -/
def dropRepeated : List (List Nat) → List (List Nat)
  | [] :: [] :: words => dropRepeated ([] :: words)
  | words => words

def ofWords : Nat → List (List Nat) → Build Unit
  | 0, _ => pure ()
  | depth + 1, words =>
    if words.all (·.isEmpty) then pure ()
    else do
      let runs := runs (dropRepeated words)
      runs.forM fun run => do
        let letters := (run.filterMap List.head?).eraseDups
        letters.forM fun a =>
          ofWords depth (run.filterMap fun w => if w.head? = some a then some w.tail else none)
        if letters.isEmpty then pure ()
        else
          let _ ← place (if letters.length = 1 then 0 else letters.length * Room.rangeSize)
      let _ ← place (((runs.filter (!·.isEmpty)).length + runs.length - 1) * Room.linkSize)

/-! ## Repetitions -/

/-- A part as often as given, one time after another, after an end that may be open. -/
def copies (part : Build Bool) : Nat → Bool → Build Bool
  | 0, isOpen => pure isOpen
  | n + 1, isOpen => do
    leave isOpen
    let isOpen ← part
    copies part n isOpen

def exactly (part : Build Bool) (n : Nat) : Build Bool := do
  if n = 0 then states 1
  copies part n false

def atMost (part : Build Bool) : Nat → Bool → Build Unit
  | 0, isOpen => leave isOpen
  | n + 1, isOpen => do
    states 1
    leave isOpen
    let isOpen ← part
    links 2
    atMost part n isOpen

/-- A part as often as given or more; `consumes` if it never matches nothing. -/
def atLeast (part : Build Bool) (consumes : Bool) (least : Nat) : Build Bool := do
  if least = 0 then
    if consumes then
      states 1
      let isOpen ← part
      links 1
      leave isOpen
      pure true
    else
      let isOpen ← part
      states 3
      leave isOpen
      links 4
      pure false
  else
    let isOpen ← copies part least false
    states 1
    leave isOpen
    links 1
    pure true

def ofRepeated (part : Build Bool) (consumes : Bool) (least : Nat) : Option Nat → Build Bool
  | none => atLeast part consumes least
  | some most => do
    if least = 0 ∧ most = 1 then
      states 1
      let isOpen ← part
      states 1
      links 2
      leave isOpen
      pure false
    else if least = most then exactly part least
    else
      let isOpen ← exactly part least
      states 1
      atMost part (most - least) isOpen
      pure false

end Build

/-! ## Forms -/

namespace Form

def literal? : Form → Option (List Nat)
  | literal cs => some (cs.flatMap utf8)
  | _ => none

mutual

/-- Makes the part of the automaton for a form; gives whether its end is open. -/
def build (back : Bool) : Form → Build Bool
  | empty => do
    Build.states 1
    pure false
  | literal cs => do
    Build.states (cs.flatMap utf8).length
    pure false
  | set s => do
    Build.ofSet back s
    pure false
  | look _ => do
    Build.states 1
    pure false
  | repeated f least most _ =>
    Build.ofRepeated (f.build back) (f.traits.consumes.getD false) least most
  | capture f =>
    if back then f.build back
    else do
      Build.states 1
      let isOpen ← f.build back
      Build.states 1
      Build.leave isOpen
      pure false
  | seq fs => buildSeq back fs false
  | alt fs => do
    match fs.mapM literal? with
    | some words =>
      Build.states 1
      Build.ofWords (words.foldl (fun n w => max n w.length) 0 + 1)
        (if back then words.map List.reverse else words)
    | none => buildAlt back fs 0
    pure false

/-- Makes a sequence, after an end that may be open. Backwards the last part comes first. -/
def buildSeq (back : Bool) : List Form → Bool → Build Bool
  | [], isOpen => pure isOpen
  | f :: fs, isOpen => do
    if back then
      let isOpen ← buildSeq back fs isOpen
      Build.leave isOpen
      f.build back
    else
      Build.leave isOpen
      let isOpen ← f.build back
      buildSeq back fs isOpen

/-- Makes alternatives after so many others. The states that part and join them come after the
second. -/
def buildAlt (back : Bool) : List Form → Nat → Build Unit
  | [], _ => pure ()
  | f :: fs, k => do
    let isOpen ← f.build back
    if k = 1 then Build.states 2
    Build.links 1
    Build.leave isOpen
    buildAlt back fs (k + 1)

end

/-- Makes the automaton of a form. One that may match anywhere begins with a loop over any bytes;
forwards the whole match is captured. -/
def automaton (back : Bool) (f : Form) : Build Unit := do
  let t := f.traits
  if if back then t.toEnd else t.fromStart then Build.states 1
  else
    Build.states 2
    let _ ← Build.place Room.rangeSize
    Build.links 2
  let isOpen ← if back then f.build back else (capture f).build back
  Build.states 1
  Build.leave isOpen

def hasRoom (back : Bool) (f : Form) : Bool := ((f.automaton back).run ⟨0, 0⟩).isSome

end Form

def hasRoom (p : Pattern) : Bool :=
  let f := p.form
  f.hasRoom false && f.hasRoom true

end RecordFilter.Pattern
