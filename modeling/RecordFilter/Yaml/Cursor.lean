import RecordFilter.Json.Parser

/-!
# Places in a YAML text

A `Cursor` is the text still to be read and the place where it starts. The kinds of characters that
the structure of a text depends on stand here too.
-/

namespace RecordFilter.Yaml

def isAllowed (c : Char) : Bool :=
  let n := c.toNat
  n == 0x09 || n == 0x0A || n == 0x0D || (0x20 ≤ n && n ≤ 0x7E) || n == 0x85 ||
    (0xA0 ≤ n && n ≤ 0xFFFD) || 0x10000 ≤ n

/-- The mark of the order of bytes, which may start a line and counts as a column of it. -/
def orderMark : Char := '\ufeff'

def isBreak (c : Char) : Bool :=
  c == '\n' || c == '\r' || c == '\u0085' || c == '\u2028' || c == '\u2029'

def isBlank (c : Char) : Bool := c == ' ' || c == '\t'

def isNameChar (c : Char) : Bool := c.isAlphanum || c == '_' || c == '-'

/-- Whether a word ends before a character: at a blank, a line break or the end of the text. -/
def endsWord : Option Char → Bool
  | none => true
  | some c => isBlank c || isBreak c

structure Cursor where
  rest : List Char
  /-- The number of characters before. -/
  index : Nat := 0
  line : Nat := 0
  /-- The number of characters before on the line. -/
  column : Nat := 0
deriving Repr, Inhabited

namespace Cursor

def head (c : Cursor) : Option Char := c.rest.head?

def advance (n : Nat) (c : Cursor) : Cursor :=
  { c with rest := c.rest.drop n, index := c.index + n, column := c.column + n }

def skipWhile (p : Char → Bool) (c : Cursor) : Cursor := c.advance (c.rest.takeWhile p).length

/-- A line break as it counts in a text, and the place after it. A carriage return and a line feed
are one break, and all but the separators of lines and paragraphs count as a line feed. -/
def takeBreak (c : Cursor) : Char × Cursor :=
  let next (k : Nat) : Cursor :=
    { rest := c.rest.drop k, index := c.index + k, line := c.line + 1 }
  match c.rest with
  | '\r' :: '\n' :: _ => ('\n', next 2)
  | b :: _ => (if b == '\u2028' || b == '\u2029' then b else '\n', next 1)
  | [] => ('\n', c)

def atMarks (mark : Char) (c : Cursor) : Bool :=
  c.column == 0 && c.rest.take 3 == [mark, mark, mark] && endsWord c.rest[3]?

def atDocumentMark (c : Cursor) : Bool := c.atMarks '-' || c.atMarks '.'

def skipComment (c : Cursor) : Cursor :=
  if c.head == some '#' then c.skipWhile fun ch => !isBreak ch else c

def endLine (c : Cursor) : Option Cursor :=
  let c := (c.skipWhile isBlank).skipComment
  match c.head with
  | none => some c
  | some ch => if isBreak ch then some c.takeBreak.2 else none

end Cursor

end RecordFilter.Yaml
