import RecordFilter.Yaml.Cursor

/-!
# Texts of scalars

A scalar is written plain, between quotes, or as a block of lines. Line breaks within the first two
are folded: one break is a blank, and of several breaks the first counts for nothing. Each function
here takes a scalar at a cursor and leaves the cursor after it.
-/

namespace RecordFilter.Yaml

/-! ## Gaps -/

structure Gap where
  /-- The blanks, as long as no line has been broken. -/
  blanks : List Char := []
  isFolded : Bool := false
  /-- The first break, unless it was escaped. -/
  first : Option Char := none
  /-- The breaks after the first. -/
  more : List Char := []
deriving Repr, Inhabited

namespace Gap

def text (g : Gap) : List Char :=
  if !g.isFolded then g.blanks
  else
    match g.first with
    | none => g.more
    | some '\n' => if g.more.isEmpty then [' '] else g.more
    | some b => b :: g.more

/-- Takes blanks and breaks. A tab before the column `least` of a new line is refused. -/
def take (least : Nat) : Nat → Gap → Cursor → Option (Gap × Cursor)
  | 0, g, c => some (g, c)
  | fuel + 1, g, c =>
    match c.head with
    | none => some (g, c)
    | some ch =>
      if isBlank ch then
        if !g.isFolded then take least fuel { g with blanks := g.blanks ++ [ch] } (c.advance 1)
        else if ch == '\t' && c.column < least then none
        else take least fuel g (c.advance 1)
      else if isBreak ch then
        let (b, c) := c.takeBreak
        if g.isFolded then take least fuel { g with more := g.more ++ [b] } c
        else take least fuel { isFolded := true, first := some b } c
      else some (g, c)

end Gap

/-! ## Plain scalars -/

/-- The characters of a plain scalar up to a blank or an indicator. Within brackets some indicators
may not follow a colon. -/
def plainWord (inFlow : Bool) : List Char → Option (List Char)
  | [] => some []
  | c :: cs =>
    let next := cs.head?
    if endsWord (some c) then some []
    else if inFlow && c == ':' && next.any fun d => ",?[]\x7b\x7d".toList.contains d then none
    else if c == ':' && endsWord next then some []
    else if inFlow && ",[]\x7b\x7d".toList.contains c then some []
    else (plainWord inFlow cs).map (c :: ·)

/-- The rest of a plain scalar after some text and a gap. `least` is the column that its lines have
to reach outside brackets. Says too whether it ends after a line break. -/
def takePlain (inFlow : Bool) (least : Nat) :
    Nat → List Char → Gap → Cursor → Option (List Char × Bool × Cursor)
  | 0, _, _, _ => none
  | fuel + 1, text, gap, c =>
    if c.atDocumentMark || c.head == some '#' then some (text, gap.isFolded, c)
    else
      match plainWord inFlow c.rest with
      | none => none
      | some [] => some (text, gap.isFolded, c)
      | some word =>
        let text := text ++ gap.text ++ word
        let c := c.advance word.length
        if !c.head.any fun ch => isBlank ch || isBreak ch then some (text, false, c)
        else
          match Gap.take least (c.rest.length + 1) {} c with
          | none => none
          | some (gap, c) =>
            if !inFlow && c.column < least then some (text, gap.isFolded, c)
            else takePlain inFlow least fuel text gap c

/-! ## Quoted scalars -/

def shortEscape? : Char → Option Char
  | '0' => some '\x00'
  | 'a' => some '\x07'
  | 'b' => some '\x08'
  | 't' | '\t' => some '\t'
  | 'n' => some '\n'
  | 'v' => some '\x0b'
  | 'f' => some '\x0c'
  | 'r' => some '\r'
  | 'e' => some '\x1b'
  | ' ' => some ' '
  | '"' => some '"'
  | '/' => some '/'
  | '\\' => some '\\'
  | 'N' => some '\u0085'
  | '_' => some '\u00a0'
  | 'L' => some '\u2028'
  | 'P' => some '\u2029'
  | _ => none

def escapeWidth? : Char → Option Nat
  | 'x' => some 2
  | 'u' => some 4
  | 'U' => some 8
  | _ => none

def charOfDigits? (digits : List Char) : Option Char :=
  (digits.foldl (fun n c => n.bind fun n => (Json.hexValue? c).map (16 * n + ·)) (some 0)).bind
    fun n => if n < 0xD800 ∨ (0xE000 ≤ n ∧ n < 0x110000) then some (Char.ofNat n) else none

def singleWord : Nat → List Char → Cursor → Option (List Char × Cursor)
  | 0, _, _ => none
  | fuel + 1, word, c =>
    match c.rest with
    | '\'' :: '\'' :: _ => singleWord fuel (word ++ ['\'']) (c.advance 2)
    | ch :: _ =>
      if ch == '\'' || endsWord (some ch) then some (word, c)
      else singleWord fuel (word ++ [ch]) (c.advance 1)
    | [] => some (word, c)

/-- The characters of a scalar between double quotes up to a blank or the end. Says too whether an
escaped line break ends them. -/
def doubleWord : Nat → List Char → Cursor → Option (List Char × Bool × Cursor)
  | 0, _, _ => none
  | fuel + 1, word, c =>
    match c.rest with
    | [] => some (word, false, c)
    | ['\\'] => none
    | '\\' :: e :: rest =>
      if isBreak e then some (word, true, (c.advance 1).takeBreak.2)
      else
        match shortEscape? e, escapeWidth? e with
        | some ch, _ => doubleWord fuel (word ++ [ch]) (c.advance 2)
        | none, some width =>
          if rest.length < width then none
          else
            match charOfDigits? (rest.take width) with
            | some ch => doubleWord fuel (word ++ [ch]) (c.advance (2 + width))
            | none => none
        | none, none => none
    | ch :: _ =>
      if ch == '"' || endsWord (some ch) then some (word, false, c)
      else doubleWord fuel (word ++ [ch]) (c.advance 1)

def takeQuoted (isSingle : Bool) : Nat → List Char → Cursor → Option (List Char × Cursor)
  | 0, _, _ => none
  | fuel + 1, text, c =>
    if c.atDocumentMark || c.rest.isEmpty then none
    else
      let word : Option (List Char × Bool × Cursor) :=
        if isSingle then
          (singleWord (c.rest.length + 1) [] c).map fun (word, c) => (word, false, c)
        else doubleWord (c.rest.length + 1) [] c
      match word with
      | none => none
      | some (word, isFolded, c) =>
        let text := text ++ word
        if c.head == some (if isSingle then '\'' else '"') then
          some (text, c.advance 1)
        else
          match Gap.take 0 (c.rest.length + 1) { isFolded } c with
          | none => none
          | some (gap, c) => takeQuoted isSingle fuel (text ++ gap.text) c

/-! ## Blocks of lines -/

inductive Chomping
  | strip
  /-- One is kept. -/
  | clip
  | keep
deriving DecidableEq, Repr

/-- The marks after the indicator of a block: its chomping and its indentation, in either order. -/
def blockHeader (c : Cursor) : Option (Chomping × Option Nat × Cursor) :=
  let chomping (c : Cursor) : Option Chomping × Cursor :=
    match c.head with
    | some '+' => (some .keep, c.advance 1)
    | some '-' => (some .strip, c.advance 1)
    | _ => (none, c)
  let indentation (c : Cursor) : Option (Option Nat × Cursor) :=
    match c.head with
    | some ch =>
      if ch == '0' then none
      else if ch.isDigit then some (some (ch.toNat - '0'.toNat), c.advance 1)
      else some (none, c)
    | none => some (none, c)
  match chomping c with
  | (some chomp, c) => (indentation c).map fun (n, c) => (chomp, n, c)
  | (none, c) =>
    (indentation c).map fun (n, c) =>
      if n.isNone then (.clip, none, c)
      else
        let (chomp, c) := chomping c
        (chomp.getD .clip, n, c)

/-- Takes the indentation and the empty lines before a line of a block. `indent` is the column of
the block, if it is known already. Hands back the breaks and the deepest column reached. -/
def blockBreaks (indent : Option Nat) :
    Nat → List Char → Nat → Cursor → Option (List Char × Nat × Cursor)
  | 0, _, _, _ => none
  | fuel + 1, breaks, deepest, c =>
    let spaces := (c.rest.takeWhile (· == ' ')).length
    let c := c.advance (match indent with
      | some n => min spaces (n - c.column)
      | none => spaces)
    let deepest := max deepest c.column
    let isBefore : Bool := match indent with
      | some n => c.column < n
      | none => true
    match c.head with
    | some ch =>
      if isBefore && ch == '\t' then none
      else if isBreak ch then
        let (b, c) := c.takeBreak
        blockBreaks indent fuel (breaks ++ [b]) deepest c
      else some (breaks, deepest, c)
    | none => some (breaks, deepest, c)

/-- The lines of a block at a column. `first` is the break that ended the line before and `more`
the empty lines after it; `wasBlank` says whether that line started with a blank. -/
def blockLines (isLiteral : Bool) (chomp : Chomping) (indent : Nat) :
    Nat → List Char → Option Char → List Char → Bool → Cursor → Option (List Char × Cursor)
  | 0, _, _, _, _, _ => none
  | fuel + 1, text, first, more, wasBlank, c =>
    if c.column == indent && !c.rest.isEmpty then
      let isBlankLine := c.head.any isBlank
      let text :=
        if !isLiteral && first == some '\n' && !wasBlank && !isBlankLine then
          if more.isEmpty then text ++ [' '] else text ++ more
        else text ++ first.toList ++ more
      let line := c.rest.takeWhile fun ch => !isBreak ch
      let c := c.advance line.length
      let (first, c) : Option Char × Cursor :=
        if c.rest.isEmpty then (none, c)
        else
          let (b, c) := c.takeBreak
          (some b, c)
      match blockBreaks (some indent) (c.rest.length + 1) [] 0 c with
      | none => none
      | some (more, _, c) =>
        blockLines isLiteral chomp indent fuel (text ++ line) first more isBlankLine c
    else
      let tail : List Char := match chomp with
        | .strip => []
        | .clip => first.toList
        | .keep => first.toList ++ more
      some (text ++ tail, c)

def takeBlock (isLiteral : Bool) (outer : Option Nat) (c : Cursor) :
    Option (List Char × Cursor) :=
  match blockHeader c with
  | none => none
  | some (chomp, increment, c) =>
    match c.endLine with
    | none => none
    | some c =>
      let fuel := c.rest.length + 1
      let given := increment.map fun n => outer.getD 0 + n
      match blockBreaks given fuel [] 0 c with
      | none => none
      | some (breaks, deepest, c) =>
        let least := match outer with
          | some n => n + 1
          | none => 0
        let indent := given.getD (max deepest (max least 1))
        blockLines isLiteral chomp indent (fuel + 1) [] none breaks false c

end RecordFilter.Yaml
