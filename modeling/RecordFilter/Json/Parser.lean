import RecordFilter.Json.Numeral

/-!
# Reading JSON text

`Draft` is a document as it is written: repeated keys are still there, a number out of range or a
string with half a surrogate pair is only marked. `Draft.ofText` reads one by the JSON grammar.
`Draft.value?` is the value of a draft whose nesting is within a limit and whose marks are clear,
and `Json.parse` does both.
-/

namespace RecordFilter

namespace Json

/-- A JSON document as it is written. -/
inductive Draft
  | null
  | bool (b : Bool)
  /-- A number; `none` if it is out of range. -/
  | number (n : Option Numeric)
  /-- A string; `none` if half of a surrogate pair stands alone in it. -/
  | text (s : Option String)
  | list (items : List Draft)
  | object (members : List (Option String × Draft))
deriving Repr, Inhabited

def skipBlanks (cs : List Char) : List Char :=
  cs.dropWhile fun c => c == ' ' || c == '\n' || c == '\t' || c == '\r'

def hexValue? (c : Char) : Option Nat :=
  if '0' ≤ c ∧ c ≤ '9' then some (c.toNat - '0'.toNat)
  else if 'a' ≤ c ∧ c ≤ 'f' then some (c.toNat - 'a'.toNat + 10)
  else if 'A' ≤ c ∧ c ≤ 'F' then some (c.toNat - 'A'.toNat + 10)
  else none

def codeUnit? (a b c d : Char) : Option Nat :=
  (hexValue? a).bind fun a => (hexValue? b).bind fun b => (hexValue? c).bind fun c =>
    (hexValue? d).map fun d => ((a * 16 + b) * 16 + c) * 16 + d

def isHighSurrogate (n : Nat) : Bool := 0xD800 ≤ n && n < 0xDC00
def isLowSurrogate (n : Nat) : Bool := 0xDC00 ≤ n && n < 0xE000

def pairChar (high low : Nat) : Char :=
  Char.ofNat (0x10000 + (high - 0xD800) * 0x400 + (low - 0xDC00))

def shortEscape? : Char → Option Char
  | '"' => some '"'
  | '\\' => some '\\'
  | '/' => some '/'
  | 'b' => some '\x08'
  | 'f' => some '\x0c'
  | 'n' => some '\n'
  | 'r' => some '\r'
  | 't' => some '\t'
  | _ => none

/-- Puts a character, or the mark of a lone surrogate, in front of a string that was read. -/
def prepend (c : Option Char) : Option (Option (List Char) × List Char) →
    Option (Option (List Char) × List Char)
  | none => none
  | some (s, rest) => some (c.bind fun c => s.map (c :: ·), rest)

/-- Marks a string that was read if a high surrogate before it stood alone. -/
def afterLone (high : Option Nat) (s : Option (Option (List Char) × List Char)) :
    Option (Option (List Char) × List Char) :=
  if high.isSome then prepend none s else s

/-- The characters of a string up to its closing quote, and the text after that. `high` is the
high surrogate written just before, which waits for its other half. -/
def takeString (high : Option Nat) : List Char → Option (Option (List Char) × List Char)
  | [] => none
  | '"' :: rest => afterLone high (some (some [], rest))
  | '\\' :: 'u' :: a :: b :: c :: d :: rest =>
    match codeUnit? a b c d with
    | none => none
    | some n =>
      if isLowSurrogate n then prepend (high.map (pairChar · n)) (takeString none rest)
      else if isHighSurrogate n then afterLone high (takeString (some n) rest)
      else afterLone high (prepend (some (Char.ofNat n)) (takeString none rest))
  | '\\' :: c :: rest =>
    match shortEscape? c with
    | none => none
    | some e => afterLone high (prepend (some e) (takeString none rest))
  | c :: rest =>
    if c.toNat < 32 ∨ c = '\\' then none
    else afterLone high (prepend (some c) (takeString none rest))

namespace Draft

def takeText (cs : List Char) : Option (Option String × List Char) :=
  (takeString none cs).map fun (s, rest) => (s.map String.ofList, rest)

mutual

def take : Nat → List Char → Option (Draft × List Char)
  | 0, _ => none
  | fuel + 1, cs =>
    match skipBlanks cs with
    | 'n' :: 'u' :: 'l' :: 'l' :: rest => some (.null, rest)
    | 't' :: 'r' :: 'u' :: 'e' :: rest => some (.bool true, rest)
    | 'f' :: 'a' :: 'l' :: 's' :: 'e' :: rest => some (.bool false, rest)
    | '"' :: rest => (takeText rest).map fun (s, rest) => (.text s, rest)
    | '[' :: rest =>
      match skipBlanks rest with
      | ']' :: rest => some (.list [], rest)
      | _ => (takeItems fuel rest).map fun (items, rest) => (.list items, rest)
    | '\x7b' :: rest =>
      match skipBlanks rest with
      | '\x7d' :: rest => some (.object [], rest)
      | _ => (takeMembers fuel rest).map fun (members, rest) => (.object members, rest)
    | cs => (Numeral.take cs).map fun (n, rest) => (.number n.value?, rest)

def takeItems : Nat → List Char → Option (List Draft × List Char)
  | 0, _ => none
  | fuel + 1, cs =>
    match take fuel cs with
    | none => none
    | some (item, rest) =>
      match skipBlanks rest with
      | ']' :: rest => some ([item], rest)
      | ',' :: rest => (takeItems fuel rest).map fun (items, rest) => (item :: items, rest)
      | _ => none

def takeMembers : Nat → List Char → Option (List (Option String × Draft) × List Char)
  | 0, _ => none
  | fuel + 1, cs =>
    match skipBlanks cs with
    | '"' :: rest =>
      match takeText rest with
      | none => none
      | some (key, rest) =>
        match skipBlanks rest with
        | ':' :: rest =>
          match take fuel rest with
          | none => none
          | some (value, rest) =>
            match skipBlanks rest with
            | '\x7d' :: rest => some ([(key, value)], rest)
            | ',' :: rest =>
              (takeMembers fuel rest).map fun (members, rest) => ((key, value) :: members, rest)
            | _ => none
        | _ => none
    | _ => none

end

/-- Reads a whole text as one document with nothing but blanks around it. -/
def ofText (s : String) : Option Draft :=
  match take (2 * s.toList.length + 2) s.toList with
  | some (d, rest) => if (skipBlanks rest).isEmpty then some d else none
  | none => none

mutual

/-- The value of a draft, if it nests at most `limit` deep and no mark is set in it. -/
def value? (limit : Nat) : Draft → Option Json
  | .null => some .null
  | .bool b => some (.bool b)
  | .number n => n.map .number
  | .text s => s.map .text
  | .list items =>
    match limit with
    | 0 => none
    | limit + 1 => (values? limit items).map .list
  | .object members =>
    match limit with
    | 0 => none
    | limit + 1 => (memberValues? limit members).map fun ms => .object (settle ms)

def values? (limit : Nat) : List Draft → Option (List Json)
  | [] => some []
  | d :: ds =>
    match value? limit d, values? limit ds with
    | some v, some vs => some (v :: vs)
    | _, _ => none

def memberValues? (limit : Nat) : List (Option String × Draft) → Option (List (String × Json))
  | [] => some []
  | (k, d) :: ms =>
    match k, value? limit d, memberValues? limit ms with
    | some k, some v, some vs => some ((k, v) :: vs)
    | _, _, _ => none

end

end Draft

def nestingLimit : Nat := 127

def parse (s : String) : Option Json := (Draft.ofText s).bind (·.value? nestingLimit)

mutual

def draft : Json → Draft
  | .null => .null
  | .bool b => .bool b
  | .number n => .number (some n)
  | .text s => .text (some s)
  | .list items => .list (drafts items)
  | .object members => .object (memberDrafts members)

def drafts : List Json → List Draft
  | [] => []
  | v :: vs => draft v :: drafts vs

def memberDrafts : List (String × Json) → List (Option String × Draft)
  | [] => []
  | (k, v) :: ms => (some k, draft v) :: memberDrafts ms

end

end Json

end RecordFilter
