import RecordFilter.Yaml.Scalar

/-!
# Tokens of a YAML text

`Token.scan?` cuts a text into tokens. Indentation opens and closes block structures, and a token
turns out to be a key only when a colon follows it: then the key mark, and the start of a block
mapping where one is due, are put in front of it.
-/

namespace RecordFilter.Yaml

inductive Style
  | plain
  /-- A block whose line breaks are kept. -/
  | literal
  | other
deriving DecidableEq, Repr, Inhabited

inductive Token
  | version (major minor : Nat)
  | tagHandle (handle : List Char) (start : List UInt8)
  | documentStart
  | documentEnd
  | blockSequence
  | blockMapping
  | blockEnd
  | flowSequence
  | flowSequenceEnd
  | flowMapping
  | flowMappingEnd
  | blockEntry
  | flowEntry
  | key
  | value
  | reference (name : List Char)
  | anchor (name : List Char)
  /-- A tag by its handle and the bytes of the rest of it; a whole tag has an empty handle. -/
  | tag (handle : List Char) (rest : List UInt8)
  | scalar (text : List Char) (style : Style)
deriving DecidableEq, Repr, Inhabited

/-! ## Tags, anchors and directives -/

def isTagChar (c : Char) : Bool := isNameChar c || ";/?:@&=+$.%!~*'()".toList.contains c

def percentByte? : List Char → Option (Nat × List Char)
  | '%' :: a :: b :: rest =>
    (Json.hexValue? a).bind fun a => (Json.hexValue? b).map fun b => (16 * a + b, rest)
  | _ => none

def laterBytes? : Nat → List Char → Option (List UInt8 × List Char)
  | 0, cs => some ([], cs)
  | k + 1, cs =>
    (percentByte? cs).bind fun (n, rest) =>
      if n / 64 = 2 then (laterBytes? k rest).map fun (bs, rest) => (n.toUInt8 :: bs, rest)
      else none

def laterCount? (first : Nat) : Option Nat :=
  if first < 0x80 then some 0
  else if first < 0xC0 then none
  else if first < 0xE0 then some 1
  else if first < 0xF0 then some 2
  else if first < 0xF8 then some 3
  else none

/-- The bytes that percent escapes write, as many as the first of them asks for. -/
def percentBytes? (cs : List Char) : Option (List UInt8 × List Char) :=
  (percentByte? cs).bind fun (n, rest) =>
    (laterCount? n).bind fun k =>
      (laterBytes? k rest).map fun (bs, rest) => (n.toUInt8 :: bs, rest)

def asciiBytes (cs : List Char) : List UInt8 := cs.map fun c => c.toNat.toUInt8

/-- The bytes of a tag; inside angle brackets it may hold commas and square brackets. -/
def takeTagBytes (isWhole : Bool) : Nat → List UInt8 → Cursor → Option (List UInt8 × Cursor)
  | 0, _, _ => none
  | fuel + 1, bytes, c =>
    match c.head with
    | some ch =>
      if ch == '%' then
        match percentBytes? c.rest with
        | some (bs, rest) =>
          takeTagBytes isWhole fuel (bytes ++ bs) (c.advance (c.rest.length - rest.length))
        | none => none
      else if isTagChar ch || (isWhole && (ch == ',' || ch == '[' || ch == ']')) then
        takeTagBytes isWhole fuel (bytes ++ asciiBytes [ch]) (c.advance 1)
      else some (bytes, c)
    | none => some (bytes, c)

/-- A handle: an exclamation mark, a name, and mostly another exclamation mark. -/
def takeHandle (c : Cursor) : Option (List Char × Cursor) :=
  match c.rest with
  | '!' :: cs =>
    let name := cs.takeWhile isNameChar
    let c := c.advance (1 + name.length)
    if c.head == some '!' then some ('!' :: name ++ ['!'], c.advance 1)
    else some ('!' :: name, c)
  | _ => none

def isClosedHandle (handle : List Char) : Bool :=
  2 ≤ handle.length && handle.getLast? == some '!'

/-- A tag. One of which only the exclamation mark counts is a whole tag. -/
def takeTag (inFlow : Bool) (c : Cursor) : Option (Token × Cursor) :=
  let fuel := c.rest.length + 1
  let read : Option (Token × Cursor) :=
    match c.rest with
    | '!' :: '<' :: _ =>
      (takeTagBytes true fuel [] (c.advance 2)).bind fun (bytes, c) =>
        if bytes.isEmpty || c.head != some '>' then none else some (.tag [] bytes, c.advance 1)
    | _ =>
      (takeHandle c).bind fun (handle, c) =>
        (takeTagBytes false fuel [] c).bind fun (bytes, c) =>
          if isClosedHandle handle then
            if bytes.isEmpty then none else some (.tag handle bytes, c)
          else
            let rest := asciiBytes (handle.drop 1) ++ bytes
            some (if rest.headD 0 = 0 then .tag [] (asciiBytes ['!']) else .tag ['!'] rest, c)
  read.bind fun (t, c) =>
    if endsWord c.head || (inFlow && c.head == some ',') then some (t, c) else none

def takeName (c : Cursor) : Option (List Char × Cursor) :=
  let name := c.rest.takeWhile isNameChar
  let c := c.advance name.length
  if !name.isEmpty && (endsWord c.head || c.head.any fun ch => "?:,]\x7d%@`".toList.contains ch)
  then some (name, c)
  else none

def takeVersionNumber (c : Cursor) : Option (Nat × Cursor) :=
  let digits := c.rest.takeWhile Char.isDigit
  if digits.isEmpty || 9 < digits.length then none
  else some (Number.ofDigits digits, c.advance digits.length)

def takeDirective (c : Cursor) : Option (Token × Cursor) :=
  let name := c.rest.takeWhile isNameChar
  let c := c.advance name.length
  let read : Option (Token × Cursor) :=
    if !endsWord c.head then none
    else if name = "YAML".toList then
      (takeVersionNumber (c.skipWhile isBlank)).bind fun (major, c) =>
        if c.head != some '.' then none
        else (takeVersionNumber (c.advance 1)).map fun (minor, c) => (.version major minor, c)
    else if name = "TAG".toList then
      (takeHandle (c.skipWhile isBlank)).bind fun (handle, c) =>
        if !(isClosedHandle handle || handle.length = 1) || !c.head.any isBlank then none
        else
          let c := c.skipWhile isBlank
          (takeTagBytes true (c.rest.length + 1) [] c).bind fun (start, c) =>
            if start.isEmpty || !endsWord c.head then none else some (.tagHandle handle start, c)
    else none
  read.bind fun (t, c) => c.endLine.map fun c => (t, c)

/-! ## Scanning -/

/-- A token that may turn out to be a key. -/
structure KeyMark where
  position : Nat
  /-- Whether nothing but a key can stand there. -/
  isRequired : Bool
  cursor : Cursor
deriving Repr, Inhabited

structure Scanner where
  cursor : Cursor
  /-- The columns of the open block structures, the innermost first. -/
  columns : List Nat := []
  /-- The possible keys of the open brackets, the innermost first, and of the block outside. -/
  key : Option KeyMark := none
  outerKeys : List (Option KeyMark) := []
  keyAllowed : Bool := true
  tokens : List Token := []
deriving Inhabited

namespace Scanner

def inFlow (s : Scanner) : Bool := !s.outerKeys.isEmpty

def push (t : Token) (s : Scanner) : Scanner := { s with tokens := t :: s.tokens }

def insert (position : Nat) (t : Token) (s : Scanner) : Scanner :=
  let later := s.tokens.length - position
  { s with tokens := s.tokens.take later ++ t :: s.tokens.drop later }

/-- The most characters from the start of a key to its colon. -/
def keyLimit : Nat := 1024

def isStale (c : Cursor) (k : KeyMark) : Bool :=
  k.cursor.line < c.line || k.cursor.index + keyLimit < c.index

/-- Drops a key mark that is too far back; a required key must not be. -/
def freshKey (c : Cursor) : Option KeyMark → Option (Option KeyMark)
  | none => some none
  | some k => if isStale c k then if k.isRequired then none else some none else some (some k)

def dropStale (s : Scanner) : Option Scanner :=
  (freshKey s.cursor s.key).bind fun key =>
    (s.outerKeys.mapM (freshKey s.cursor)).map fun outerKeys => { s with key, outerKeys }

def dropKey (s : Scanner) : Option Scanner :=
  if s.key.any KeyMark.isRequired then none else some { s with key := none }

def markKey (s : Scanner) : Option Scanner :=
  if s.keyAllowed then
    s.dropKey.map fun s =>
      { s with key := some {
          position := s.tokens.length
          isRequired := !s.inFlow && s.columns.head? == some s.cursor.column
          cursor := s.cursor } }
  else some s

/-- Opens a block structure at a column, if that is deeper than the present one. -/
def openBlock (column position : Nat) (t : Token) (s : Scanner) : Scanner :=
  if s.inFlow then s
  else
    let isDeeper : Bool := match s.columns.head? with
      | some n => n < column
      | none => true
    if isDeeper then { s.insert position t with columns := column :: s.columns } else s

/-- Closes the block structures deeper than a column, or all of them. -/
def closeBlocks (column : Option Nat) (s : Scanner) : Scanner :=
  if s.inFlow then s
  else
    let kept := s.columns.dropWhile fun n => match column with
      | some k => k < n
      | none => true
    let closed := s.columns.length - kept.length
    { s with columns := kept, tokens := List.replicate closed .blockEnd ++ s.tokens }

def toNext : Nat → Scanner → Scanner
  | 0, s => s
  | fuel + 1, s =>
    let tabs := s.inFlow || !s.keyAllowed
    let start :=
      if s.cursor.column == 0 && s.cursor.head == some orderMark then s.cursor.advance 1
      else s.cursor
    let c := (start.skipWhile fun ch => ch == ' ' || (tabs && ch == '\t')).skipComment
    if c.head.any isBreak then
      toNext fuel { s with cursor := c.takeBreak.2, keyAllowed := s.keyAllowed || !s.inFlow }
    else { s with cursor := c }

def indicator (n : Nat) (keyAllowed : Bool) (t : Token) (s : Scanner) : Scanner :=
  { s.push t with cursor := s.cursor.advance n, keyAllowed }

def openFlow (t : Token) (s : Scanner) : Option Scanner :=
  s.markKey.map fun s =>
    { s.indicator 1 true t with key := none, outerKeys := s.key :: s.outerKeys }

def closeFlow (t : Token) (s : Scanner) : Option Scanner :=
  s.dropKey.map fun s =>
    let s := match s.outerKeys with
      | [] => s
      | key :: outerKeys => { s with key, outerKeys }
    s.indicator 1 false t

def entry (s : Scanner) : Option Scanner :=
  if !s.inFlow && !s.keyAllowed then none
  else
    (s.openBlock s.cursor.column s.tokens.length .blockSequence).dropKey.map fun s =>
      s.indicator 1 true .blockEntry

def explicitKey (s : Scanner) : Option Scanner :=
  if !s.inFlow && !s.keyAllowed then none
  else
    (s.openBlock s.cursor.column s.tokens.length .blockMapping).dropKey.map fun s =>
      s.indicator 1 (!s.inFlow) .key

/-- A colon: the token marked before it is a key, or else an explicit key has been given. -/
def colon (s : Scanner) : Option Scanner :=
  match s.key with
  | some k =>
    let s := (s.insert k.position .key).openBlock k.cursor.column k.position .blockMapping
    some { s.indicator 1 false .value with key := none }
  | none =>
    if !s.inFlow && !s.keyAllowed then none
    else
      let s := s.openBlock s.cursor.column s.tokens.length .blockMapping
      some (s.indicator 1 (!s.inFlow) .value)

/-- A token with a text of its own, which may be a key. -/
def worded (read : Cursor → Option (Token × Cursor)) (s : Scanner) : Option Scanner :=
  s.markKey.bind fun s =>
    (read s.cursor).map fun (t, cursor) => { s.push t with cursor, keyAllowed := false }

/-- A plain scalar. One that ends after a line break leaves room for a key. -/
def plain (s : Scanner) : Option Scanner :=
  s.markKey.bind fun s =>
    let least := match s.columns.head? with
      | some n => n + 1
      | none => 0
    (takePlain s.inFlow least (s.cursor.rest.length + 1) [] {} s.cursor).map
      fun (text, keyAllowed, cursor) =>
        { s.push (.scalar text .plain) with cursor, keyAllowed }

def quoted (isSingle : Bool) (s : Scanner) : Option Scanner :=
  s.worded fun c =>
    (takeQuoted isSingle (c.rest.length + 1) [] (c.advance 1)).map fun (text, c) =>
      (.scalar text .other, c)

def block (isLiteral : Bool) (s : Scanner) : Option Scanner :=
  s.dropKey.bind fun s =>
    (takeBlock isLiteral s.columns.head? (s.cursor.advance 1)).map fun (text, cursor) =>
      { s.push (.scalar text (if isLiteral then .literal else .other)) with
        cursor, keyAllowed := true }

def documentMark (t : Token) (s : Scanner) : Option Scanner :=
  (s.closeBlocks none).dropKey.map fun s => s.indicator 3 false t

def directive (s : Scanner) : Option Scanner :=
  (s.closeBlocks none).dropKey.bind fun s =>
    (takeDirective (s.cursor.advance 1)).map fun (t, cursor) =>
      { s.push t with cursor, keyAllowed := false }

def startsPlain (inFlow : Bool) (ch : Char) (next : Option Char) : Bool :=
  !"-?:,[]\x7b\x7d#&*!|>'\"%@`".toList.contains ch ||
    (ch == '-' && !next.any isBlank) ||
    (!inFlow && (ch == '?' || ch == ':') && !endsWord next)

def token (s : Scanner) (ch : Char) : Option Scanner :=
  let next := s.cursor.rest[1]?
  let c := s.cursor
  if c.column == 0 && ch == '%' then s.directive
  else if c.atMarks '-' then s.documentMark .documentStart
  else if c.atMarks '.' then s.documentMark .documentEnd
  else if ch == '[' then s.openFlow .flowSequence
  else if ch == '\x7b' then s.openFlow .flowMapping
  else if ch == ']' then s.closeFlow .flowSequenceEnd
  else if ch == '\x7d' then s.closeFlow .flowMappingEnd
  else if ch == ',' then s.dropKey.map (indicator 1 true .flowEntry)
  else if ch == '-' && endsWord next then s.entry
  else if ch == '?' && (s.inFlow || endsWord next) then s.explicitKey
  else if ch == ':' && (s.inFlow || endsWord next) then s.colon
  else if ch == '*' then
    s.worded fun c => (takeName (c.advance 1)).map fun (name, c) => (.reference name, c)
  else if ch == '&' then
    s.worded fun c => (takeName (c.advance 1)).map fun (name, c) => (.anchor name, c)
  else if ch == '!' then s.worded (takeTag s.inFlow)
  else if ch == '|' && !s.inFlow then s.block true
  else if ch == '>' && !s.inFlow then s.block false
  else if ch == '\'' then s.quoted true
  else if ch == '"' then s.quoted false
  else if startsPlain s.inFlow ch next && !isBlank ch then s.plain
  else none

def run : Nat → Scanner → Option (List Token)
  | 0, _ => none
  | fuel + 1, s =>
    let s := toNext (s.cursor.rest.length + 1) s
    s.dropStale.bind fun s =>
      let s := s.closeBlocks (some s.cursor.column)
      match s.cursor.head with
      | none => ((s.closeBlocks none).dropKey).map fun s => s.tokens.reverse
      | some ch => (s.token ch).bind (run fuel)

end Scanner

def Token.scan? (text : String) : Option (List Token) :=
  let cs := text.toList
  if cs.all isAllowed then Scanner.run (cs.length + 2) { cursor := { rest := cs } } else none

end RecordFilter.Yaml
