import RecordFilter.Character.CodeSet
import RecordFilter.Text.Word

/-!
# Patterns

A `Pattern` describes texts. `lengths` says, for each place of a text, how long the matches are
that begin there; a set of lengths is a number, the bit `k` of which stands for `k` characters.
`matchesWithin` asks for a match anywhere.
-/

namespace RecordFilter

open Character (CodeSet)

inductive Pattern.Edge
  /-- A word begins or ends here. -/
  | both
  /-- No word begins or ends here. -/
  | neither
  | start
  | stop
  /-- No word character stands before. -/
  | startHalf
  /-- No word character stands after. -/
  | stopHalf
deriving DecidableEq, Repr

/-- What an assertion asks of a place. -/
inductive Pattern.Look
  | textStart
  | textEnd
  | lineStart (crlf : Bool)
  | lineEnd (crlf : Bool)
  | edge (kind : Edge) (ascii : Bool)
deriving DecidableEq, Repr

inductive Pattern
  | empty
  | char (c : Char)
  /-- One character of a set; `ascii` if the set was written where only ASCII counts. -/
  | set (ascii : Bool) (s : CodeSet)
  | look (l : Pattern.Look)
  | seq (p q : Pattern)
  | alt (p q : Pattern)
  /-- At least `least` times, and at most `most` times if there is a limit; `lazy` if fewer times
  come first, which makes no difference to what matches. -/
  | repeated (p : Pattern) (least : Nat) (most : Option Nat) (lazy : Bool)
  /-- A pattern in parentheses, which may capture what it matches. -/
  | group (captures : Bool) (p : Pattern)
deriving Repr, Inhabited

namespace Pattern

namespace Edge

/-- Whether there is such an edge between a word character or not and a word character or not. -/
def holds (before after : Bool) : Edge → Bool
  | both => before != after
  | neither => before == after
  | start => !before && after
  | stop => before && !after
  | startHalf => !before
  | stopHalf => !after

end Edge

namespace Look

def holds (before after : Option Char) : Look → Bool
  | textStart => before.isNone
  | textEnd => after.isNone
  | lineStart crlf =>
    before.isNone || before == some '\n' ||
      (crlf && before == some '\r' && after != some '\n')
  | lineEnd crlf =>
    after.isNone || (after == some '\n' && !(crlf && before == some '\r')) ||
      (crlf && after == some '\r')
  | edge kind ascii =>
    let isWord (c : Option Char) : Bool :=
      c.any fun c => Text.isWord c && (!ascii || c.toNat < 128)
    kind.holds (isWord before) (isWord after)

end Look

/-! ## Matching -/

/-- Lengths of matches, a set for each place of a text, from before the first character to after
the last. -/
abbrev Lengths := List Nat

/-- What holds at each place of a text, by the characters before and after it. -/
def perPlace (f : Option Char → Option Char → Nat) : Option Char → List Char → Lengths
  | before, [] => [f before none]
  | before, c :: cs => f before (some c) :: perPlace f (some c) cs

/-- The lengths of one of some matches and a match that begins where it ends. -/
def extend (first : Nat) : Lengths → Nat
  | [] => 0
  | next :: later =>
    if first = 0 then 0
    else (if first % 2 = 1 then next else 0) ||| 2 * extend (first / 2) later

def andThen : Lengths → Lengths → Lengths
  | first :: firsts, next :: later => extend first (next :: later) :: andThen firsts later
  | _, _ => []

def orElse (a b : Lengths) : Lengths := List.zipWith (· ||| ·) a b

def nothing (a : Lengths) : Lengths := a.map fun _ => 1

def times (a : Lengths) : Nat → Lengths
  | 0 => nothing a
  | k + 1 => andThen a (times a k)

def upTo (a : Lengths) : Nat → Lengths
  | 0 => nothing a
  | k + 1 => orElse (nothing a) (andThen a (upTo a k))

/-- The lengths of any number of matches after another. What matches nothing leads nowhere, so the
first match ends at a later place, for which the answer is known. -/
def anyTimes : Lengths → Lengths
  | [] => []
  | a :: later =>
    let done := anyTimes later
    (1 ||| 2 * extend (a / 2) done) :: done

/-- The lengths of the matches of a pattern in a text. Among more repetitions than the text has
places one matches nothing, so that more of them make no difference. -/
def lengths (text : List Char) : Pattern → Lengths
  | empty => perPlace (fun _ _ => 1) none text
  | char c => perPlace (fun _ after => if after = some c then 2 else 0) none text
  | set _ s => perPlace (fun _ after => if after.any s.mem then 2 else 0) none text
  | look l => perPlace (fun before after => if l.holds before after then 1 else 0) none text
  | seq p q => andThen (p.lengths text) (q.lengths text)
  | alt p q => orElse (p.lengths text) (q.lengths text)
  | repeated p least most _ =>
    let a := p.lengths text
    let limit := text.length + 1
    let rest := match most with
      | some m => upTo a (min (m - least) limit)
      | none => anyTimes a
    andThen (times a (min least limit)) rest
  | group _ p => p.lengths text

def matchesWithin (p : Pattern) (text : List Char) : Bool := (p.lengths text).any (· != 0)

end Pattern

end RecordFilter
