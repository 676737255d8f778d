import RecordFilter.Character.Breaking
import RecordFilter.Character.Letter
import RecordFilter.Json.Parser
import RecordFilter.Number.Decimal
import RecordFilter.Pattern.Room
import RecordFilter.Text.Blank
import RecordFilter.Text.Split

/-!
# Reading patterns

`Pattern.ofText?` reads the usual notation: alternatives, groups with flags, repetitions,
bracketed classes with set operations, escapes and assertions. Back references and assertions
about what follows or precedes are not part of it. A text that does not read, that is nested too
deeply, or that would take too much room, is no pattern.
-/

namespace RecordFilter.Pattern

open Character (CodeSet CodeRange)

structure Flags where
  /-- Letters count in either case. -/
  ignoreCase : Bool := false
  /-- `^` and `$` stand for the ends of lines. -/
  multiLine : Bool := false
  /-- The dot stands for line breaks too. -/
  dotAll : Bool := false
  /-- A carriage return breaks a line too. -/
  crlf : Bool := false
  /-- Only ASCII counts. -/
  ascii : Bool := false
  /-- Blanks and comments are skipped. -/
  extended : Bool := false
  /-- A repetition prefers fewer times, unless it is marked. -/
  swapped : Bool := false
deriving DecidableEq, Repr

/-- The text after blanks and comments; `inComment` if a comment is being skipped. -/
def skipComments (inComment : Bool) : List Char → List Char
  | [] => []
  | c :: cs =>
    if inComment then skipComments (c != '\n') cs
    else if Text.isBlank c then skipComments false cs
    else if c = '#' then skipComments true cs
    else c :: cs

def Flags.skip (fl : Flags) (cs : List Char) : List Char :=
  if fl.extended then skipComments false cs else cs

def Flags.fold (fl : Flags) (s : CodeSet) : CodeSet :=
  if fl.ignoreCase then s.anyCase fl.ascii else s

/-- A set or its complement. Where only ASCII counts there are no complements, which would hold
more than that. -/
def Flags.signed (fl : Flags) (negated : Bool) (s : CodeSet) : Option CodeSet :=
  if negated then if fl.ascii then none else some s.complement else some s

/-! ## Sets -/

def digits : CodeSet := Character.Category.sets ["Nd"]

def blanks : CodeSet := Character.Property.listed "White_Space"

def asciiBlanks : CodeSet := .ofText "9-D 20"

def asciiWords : CodeSet := .ofText "30-39 41-5A 5F 61-7A"

def words : CodeSet := asciiWords.union ⟨Text.wordRanges⟩

def digitSet (ascii : Bool) : CodeSet := if ascii then .range 0x30 0x39 else digits

def blankSet (ascii : Bool) : CodeSet := if ascii then asciiBlanks else blanks

def wordSet (ascii : Bool) : CodeSet := if ascii then asciiWords else words

def asciiClass? : String → Option CodeSet
  | "alnum" => some (.ofText "30-39 41-5A 61-7A")
  | "alpha" => some (.ofText "41-5A 61-7A")
  | "ascii" => some .ascii
  | "blank" => some (.ofText "9 20")
  | "cntrl" => some (.ofText "0-1F 7F")
  | "digit" => some (digitSet true)
  | "graph" => some (.ofText "21-7E")
  | "lower" => some (.ofText "61-7A")
  | "print" => some (.ofText "20-7E")
  | "punct" => some (.ofText "21-2F 3A-40 5B-60 7B-7E")
  | "space" => some (blankSet true)
  | "upper" => some (.ofText "41-5A")
  | "word" => some (wordSet true)
  | "xdigit" => some (.ofText "30-39 41-46 61-66")
  | _ => none

/-- Everything but line breaks; a carriage return is one of them if `crlf`. -/
def notLineBreak (crlf : Bool) : CodeSet :=
  (CodeSet.ofText (if crlf then "A D" else "A")).complement

/-! ## Escapes -/

inductive Escape
  | char (c : Char)
  | set (s : CodeSet)
  | look (l : Look)

def isMeta (c : Char) : Bool := "\\.+*?()|[]\x7b\x7d^$#&-~".toList.contains c

def hexNumber? (digits : List Char) : Option Nat :=
  digits.foldl (fun n c => n.bind fun n => (Json.hexValue? c).map (16 * n + ·)) (some 0)

def charAt? (n : Nat) : Option Char :=
  if n < 0xD800 ∨ (0xE000 ≤ n ∧ n < 0x110000) then some (Char.ofNat n) else none

def upToBrace (fl : Flags) : Nat → List Char → Option (List Char × List Char)
  | 0, _ => none
  | fuel + 1, cs =>
    match fl.skip cs with
    | [] => none
    | '\x7d' :: rest => some ([], rest)
    | c :: rest => (upToBrace fl fuel rest).map fun (s, rest) => (c :: s, rest)

def takeCounted (fl : Flags) : Nat → List Char → Option (List Char × List Char)
  | 0, cs => some ([], cs)
  | k + 1, cs =>
    match fl.skip cs with
    | [] => none
    | c :: rest => (takeCounted fl k rest).map fun (s, rest) => (c :: s, rest)

/-- A character by its code point: `width` digits, or any number of them between braces. Two digits
without braces stand for a byte, which is no character of its own beyond ASCII. -/
def hexEscape (fl : Flags) (width : Nat) (cs : List Char) : Option (Escape × List Char) :=
  let read := match fl.skip cs with
    | '\x7b' :: rest =>
      (upToBrace fl (rest.length + 1) rest).bind fun r =>
        if r.1.isEmpty then none else some (false, r)
    | cs => (takeCounted fl width cs).map fun r => (width = 2, r)
  read.bind fun (isByte, digits, rest) =>
    (hexNumber? digits).bind fun n =>
      if fl.ascii && isByte && 0x7F < n then none
      else (charAt? n).map fun c => (.char c, fl.skip rest)

/-- The set that a property in braces names, and whether its complement is meant. -/
def propertySet? (name : List Char) : Option (CodeSet × Bool) :=
  match Text.cutAt ['!', '='] name with
  | some (property, value) => (Character.valued? property value).map (·, true)
  | none =>
    match (Text.cut ':' name).orElse fun _ => Text.cut '=' name with
    | some (property, value) => (Character.valued? property value).map (·, false)
    | none => (Character.named? name).map (·, false)

def propertyEscape (fl : Flags) (negated : Bool) (cs : List Char) :
    Option (Escape × List Char) :=
  let read := match fl.skip cs with
    | '\x7b' :: rest =>
      (upToBrace fl (rest.length + 1) rest).bind fun (name, rest) =>
        (propertySet? name).map (·, rest)
    | '\\' :: _ => none
    | c :: rest => (Character.named? [c]).map fun s => ((s, false), fl.skip rest)
    | [] => none
  if fl.ascii then none
  else
    read.bind fun ((s, isComplement), rest) =>
      (fl.signed (negated != isComplement) (fl.fold s)).map fun s => (.set s, rest)

/-- The edge that a word between braces after `\b` asks for; `none` if what stands there is no
such word but a repetition. -/
def edgeWord (fl : Flags) (cs : List Char) : Option (Option (Edge × List Char)) :=
  let isPart (c : Char) : Bool := c.isAlpha || c == '-'
  match fl.skip cs with
  | [] => none
  | c :: _ =>
    if !isPart c then some none
    else
      (upToBrace fl (cs.length + 1) cs).bind fun (word, rest) =>
        match String.ofList word with
        | "start" => some (some (.start, rest))
        | "end" => some (some (.stop, rest))
        | "start-half" => some (some (.startHalf, rest))
        | "end-half" => some (some (.stopHalf, rest))
        | _ => none

def escape (fl : Flags) : List Char → Option (Escape × List Char)
  | [] => none
  | c :: rest =>
    let usual (negated : Bool) (s : CodeSet) : Option (Escape × List Char) :=
      (fl.signed negated s).map fun s => (.set s, rest)
    match c with
    | 'x' => hexEscape fl 2 rest
    | 'u' => hexEscape fl 4 rest
    | 'U' => hexEscape fl 8 rest
    | 'p' => propertyEscape fl false rest
    | 'P' => propertyEscape fl true rest
    | 'd' => usual false (digitSet fl.ascii)
    | 's' => usual false (blankSet fl.ascii)
    | 'w' => usual false (wordSet fl.ascii)
    | 'D' => usual true (digitSet fl.ascii)
    | 'S' => usual true (blankSet fl.ascii)
    | 'W' => usual true (wordSet fl.ascii)
    | 'a' => some (.char '\x07', rest)
    | 'f' => some (.char '\x0c', rest)
    | 't' => some (.char '\t', rest)
    | 'n' => some (.char '\n', rest)
    | 'r' => some (.char '\r', rest)
    | 'v' => some (.char '\x0b', rest)
    | 'A' => some (.look .textStart, rest)
    | 'z' => some (.look .textEnd, rest)
    | 'B' => some (.look (.edge .neither fl.ascii), rest)
    | '<' => some (.look (.edge .start fl.ascii), rest)
    | '>' => some (.look (.edge .stop fl.ascii), rest)
    | 'b' =>
      match rest with
      | '\x7b' :: inner =>
        (edgeWord fl inner).map fun
          | some (kind, rest) => (.look (.edge kind fl.ascii), rest)
          | none => (.look (.edge .both fl.ascii), rest)
      | _ => some (.look (.edge .both fl.ascii), rest)
    | c =>
      if isMeta c || (c.toNat < 128 && !c.isAlphanum) then some (.char c, rest) else none

/-! ## Bracketed classes -/

inductive Operation
  | inter
  | diff
  | either

def Operation.apply : Operation → CodeSet → CodeSet → CodeSet
  | inter => .inter
  | diff => .diff
  | either => .symmDiff

structure ClassItems where
  ranges : List CodeRange := []
  count : Nat := 0
  /-- The depth of the deepest item. -/
  depth : Nat := 0

namespace ClassItems

def add (items : ClassItems) (s : CodeSet) (depth : Nat) : ClassItems :=
  ⟨s.ranges ++ items.ranges, items.count + 1, max items.depth depth⟩

def set (items : ClassItems) : CodeSet := .ofRanges items.ranges

def height (items : ClassItems) : Nat := if 2 ≤ items.count then items.depth + 1 else items.depth

end ClassItems

/-- What was read before the last operation of a class: the operation, its left side, and the depth
of that. -/
abbrev ClassLeft := Option (Operation × CodeSet × Nat)

def joinItems (fl : Flags) (left : ClassLeft) (items : ClassItems) : CodeSet × Nat :=
  match left with
  | none => (items.set, items.height)
  | some (op, s, depth) =>
    (op.apply (fl.fold s) (fl.fold items.set), max depth items.height + 1)

/-- One character of a class, or a set by an escape. Where only ASCII counts there are no other
characters. -/
def classItem (fl : Flags) (cs : List Char) : Option (Escape × List Char) :=
  let read := match cs with
    | [] => none
    | '\\' :: rest => escape fl rest
    | c :: rest => some (.char c, rest)
  match read with
  | some (.char c, rest) => if fl.ascii && 128 ≤ c.toNat then none else some (.char c, rest)
  | read => read

/-- The character that decides whether a dash stands for itself: the next that counts, but a
comment hides no more than its sign. -/
def afterDash? (fl : Flags) (cs : List Char) : Option Char :=
  if fl.extended then
    let rest := match Text.trimLeft cs with
      | '#' :: rest => Text.trimLeft rest
      | rest => rest
    rest.head?.orElse fun _ => cs.head?
  else cs.head?

def classRange (fl : Flags) (cs : List Char) : Option (CodeSet × List Char) :=
  match classItem fl cs with
  | none => none
  | some (first, rest) =>
    let rest := fl.skip rest
    let alone : Option (CodeSet × List Char) :=
      match first with
      | .char c => some (.single c, rest)
      | .set s => some (s, rest)
      | .look _ => none
    match rest with
    | [] => none
    | '-' :: after =>
      match afterDash? fl after with
      | some ']' => alone
      | some '-' => alone
      | _ =>
        match first, classItem fl (fl.skip after) with
        | .char lo, some (.char hi, rest) =>
          if lo ≤ hi then some (.range lo.toNat hi.toNat, rest) else none
        | _, _ => none
    | _ => alone

def namedClass (fl : Flags) : List Char → Option (Option CodeSet × List Char)
  | ':' :: cs =>
    let (negated, cs) := match cs with
      | '^' :: cs => (true, cs)
      | cs => (false, cs)
    match cs.span (· != ':') with
    | (name, ':' :: ']' :: rest) =>
      (asciiClass? (String.ofList name)).map fun s => (fl.signed negated (fl.fold s), rest)
    | _ => none
  | _ => none

/-- Dashes at the start of a class, which stand for themselves. -/
def leadingDashes (fl : Flags) : Nat → ClassItems → List Char → ClassItems × List Char
  | 0, items, cs => (items, cs)
  | fuel + 1, items, cs =>
    match cs with
    | '-' :: rest => leadingDashes fl fuel (items.add (.single '-') 0) (fl.skip rest)
    | cs => (items, cs)

def nestLimit : Nat := 250

abbrev ClassRest := (CodeSet × Nat) × List Char

mutual

def classOpen (fl : Flags) : Nat → Nat → List Char → Option ClassRest
  | 0, _, _ => none
  | _, 0, _ => none
  | fuel + 1, nest + 1, cs =>
    let (negated, cs) := match fl.skip cs with
      | '^' :: cs => (true, fl.skip cs)
      | cs => (false, cs)
    let (items, cs) := leadingDashes fl cs.length {} cs
    let (items, cs) := match items.count, cs with
      | 0, ']' :: rest => (items.add (.single ']') 0, rest)
      | _, cs => (items, cs)
    (classParts fl fuel nest none items cs).bind fun ((s, depth), rest) =>
      (fl.signed negated (fl.fold s)).map fun s => ((s, depth + 1), rest)

def classParts (fl : Flags) :
    Nat → Nat → ClassLeft → ClassItems → List Char → Option ClassRest
  | 0, _, _, _, _ => none
  | fuel + 1, nest, left, items, cs =>
    let after (op : Operation) (rest : List Char) : Option ClassRest :=
      let (s, depth) := joinItems fl left items
      classParts fl fuel nest (some (op, s, depth)) {} rest
    match fl.skip cs with
    | [] => none
    | ']' :: rest => some (joinItems fl left items, rest)
    | '&' :: '&' :: rest => after .inter rest
    | '-' :: '-' :: rest => after .diff rest
    | '~' :: '~' :: rest => after .either rest
    | '[' :: rest =>
      match namedClass fl rest with
      | some (some s, rest) => classParts fl fuel nest left (items.add s 0) rest
      | some (none, _) => none
      | none =>
        match classOpen fl fuel nest rest with
        | some ((s, depth), rest) => classParts fl fuel nest left (items.add s depth) rest
        | none => none
    | cs =>
      match classRange fl cs with
      | some (s, rest) => classParts fl fuel nest left (items.add s 0) rest
      | none => none

end

/-! ## Repetitions -/

def countNumber (fl : Flags) (cs : List Char) : Option (Option Nat × List Char) :=
  let cs := cs.dropWhile Text.isBlank
  let rec digits : Nat → List Char → List Char × List Char
    | 0, cs => ([], cs)
    | fuel + 1, cs =>
      match cs with
      | c :: rest =>
        if c.isDigit then
          let (ds, rest) := digits fuel (fl.skip rest)
          (c :: ds, rest)
        else ([], cs)
      | [] => ([], [])
  let (ds, rest) := digits cs.length cs
  let rest := fl.skip (rest.dropWhile Text.isBlank)
  if ds.isEmpty then some (none, rest)
  else
    let n := Number.ofDigits ds
    if n < UInt32.size then some (some n, rest) else none

def counts (fl : Flags) (cs : List Char) : Option ((Nat × Option Nat) × List Char) :=
  match countNumber fl (fl.skip cs) with
  | some (some least, '\x7d' :: rest) => some ((least, some least), rest)
  | some (some least, ',' :: rest) =>
    match fl.skip rest with
    | '\x7d' :: rest => some ((least, none), rest)
    | rest =>
      match countNumber fl rest with
      | some (some most, '\x7d' :: rest) =>
        if least ≤ most then some ((least, some most), rest) else none
      | _ => none
  | _ => none

/-- Whether a repetition prefers fewer times, which a question mark after it says, and the text
after that. -/
def lazyMark (fl : Flags) : List Char → Bool × List Char
  | '?' :: rest => (!fl.swapped, rest)
  | cs => (fl.swapped, cs)

/-! ## Groups -/

def setFlag (fl : Flags) (on : Bool) : Char → Option Flags
  | 'i' => some { fl with ignoreCase := on }
  | 'm' => some { fl with multiLine := on }
  | 's' => some { fl with dotAll := on }
  | 'R' => some { fl with crlf := on }
  | 'u' => some { fl with ascii := !on }
  | 'x' => some { fl with extended := on }
  | 'U' => some { fl with swapped := on }
  | _ => none

/-- Flag letters up to the mark that ends them: the flags, whether any were written, the mark, and
the text after it. A letter or the minus sign may come once, and the sign not last. -/
def flagLetters (seen : List Char) (on : Bool) (fl : Flags) :
    List Char → Option (Flags × Bool × Char × List Char)
  | [] => none
  | c :: rest =>
    if c = ':' ∨ c = ')' then
      if seen.head? = some '-' then none else some (fl, !seen.isEmpty, c, rest)
    else if c ∈ seen then none
    else if c = '-' then flagLetters (c :: seen) false fl rest
    else (setFlag fl on c).bind fun fl => flagLetters (c :: seen) on fl rest

def isGroupNameChar (isFirst : Bool) (c : Char) : Bool :=
  c == '_' || (if isFirst then Character.isLetter c
    else c == '.' || c == '[' || c == ']' || Character.isAlphanumeric c)

def groupName (cs : List Char) : Option (List Char × List Char) :=
  match cs.span (· != '>') with
  | (name, '>' :: rest) =>
    match name with
    | [] => none
    | c :: more =>
      if isGroupNameChar true c && more.all (isGroupNameChar false) then some (name, rest)
      else none
  | _ => none

inductive Opening
  /-- A group with its flags, and its name if it has one. -/
  | group (captures : Bool) (fl : Flags) (name : Option (List Char))
  /-- Flags for the rest of the group around. -/
  | setting (fl : Flags)

def opening (fl : Flags) (cs : List Char) : Option (Opening × List Char) :=
  match fl.skip cs with
  | '?' :: 'P' :: '<' :: rest =>
    (groupName rest).map fun (name, rest) => (.group true fl (some name), rest)
  | '?' :: '<' :: '=' :: _ => none
  | '?' :: '<' :: '!' :: _ => none
  | '?' :: '<' :: rest =>
    (groupName rest).map fun (name, rest) => (.group true fl (some name), rest)
  | '?' :: rest =>
    match flagLetters [] true fl rest with
    | some (fl', written, c, rest) =>
      if c = ':' then some (.group false fl' none, rest)
      else if written then some (.setting fl', rest)
      else none
    | none => none
  | rest => some (.group true fl none, rest)

/-! ## Sequences -/

/-- A pattern that was read, and how deep it is nested. -/
structure Reading where
  pattern : Pattern
  depth : Nat

/-- The items of a sequence read so far, the last first; a flag setting is none that could be
repeated. -/
abbrev Items := List (Option Reading)

def height (depths : List Nat) : Nat :=
  if 2 ≤ depths.length then depths.foldl max 0 + 1 else depths.headD 0

def ofItems (items : Items) : Reading where
  pattern := items.foldl (fun q item => match item with
    | some r => match q with
      | .empty => r.pattern
      | q => .seq r.pattern q
    | none => q) .empty
  depth := height (items.map fun item => (item.map (·.depth)).getD 0)

def ofAlternatives (before : List Reading) (items : Items) : Reading :=
  let final := ofItems items
  { pattern := before.foldl (fun q r => .alt r.pattern q) final.pattern
    depth := height (final.depth :: before.map (·.depth)) }

def repeatLast (least : Nat) (most : Option Nat) (isLazy : Bool) : Items → Option Items
  | some r :: items => some (some ⟨.repeated r.pattern least most isLazy, r.depth + 1⟩ :: items)
  | _ => none

def charItem (fl : Flags) (c : Char) : Pattern :=
  let s := fl.fold (.single c)
  if s.single?.isSome then .char c else .set fl.ascii s

def escapeItem (fl : Flags) : Escape → Pattern
  | .char c => charItem fl c
  | .set s => .set fl.ascii s
  | .look l => .look l

/-- The dot as a pattern. It stands for more than ASCII. -/
def dotItem (fl : Flags) : Option Pattern :=
  if fl.ascii then none
  else some (.set false (if fl.dotAll then .full else notLineBreak fl.crlf))

abbrev Rest := Reading × List (List Char) × List Char

/-- Alternatives up to a closing parenthesis or the end, in which groups may be nested so deep. -/
def sequence :
    Nat → Nat → Flags → List (List Char) → List Reading → Items → List Char → Option Rest
  | 0, _, _, _, _, _, _ => none
  | fuel + 1, nest, fl, names, before, items, cs =>
    let push (p : Pattern) (depth : Nat) (rest : List Char) : Option Rest :=
      sequence fuel nest fl names before (some ⟨p, depth⟩ :: items) rest
    let again (least : Nat) (most : Option Nat) (rest : List Char) : Option Rest :=
      let (isLazy, rest) := lazyMark fl rest
      match repeatLast least most isLazy items with
      | some items => sequence fuel nest fl names before items rest
      | none => none
    match fl.skip cs with
    | [] => some (ofAlternatives before items, names, [])
    | ')' :: rest => some (ofAlternatives before items, names, ')' :: rest)
    | '|' :: rest => sequence fuel nest fl names (ofItems items :: before) [] rest
    | '?' :: rest => again 0 (some 1) rest
    | '*' :: rest => again 0 none rest
    | '+' :: rest => again 1 none rest
    | '\x7b' :: rest =>
      match counts fl rest with
      | some ((least, most), rest) => again least most (fl.skip rest)
      | none => none
    | '[' :: rest =>
      match classOpen fl (2 * rest.length + 4) nestLimit rest with
      | some ((s, depth), rest) => push (.set fl.ascii s) depth rest
      | none => none
    | '\\' :: rest =>
      match escape fl rest with
      | some (e, rest) => push (escapeItem fl e) 0 rest
      | none => none
    | '.' :: rest =>
      match dotItem fl with
      | some p => push p 0 rest
      | none => none
    | '^' :: rest => push (.look (if fl.multiLine then .lineStart fl.crlf else .textStart)) 0 rest
    | '$' :: rest => push (.look (if fl.multiLine then .lineEnd fl.crlf else .textEnd)) 0 rest
    | '(' :: rest =>
      match opening fl rest, nest with
      | some (.setting fl', rest), _ =>
        sequence fuel nest fl' names before (none :: items) rest
      | some (.group captures fl' name, rest), nest' + 1 =>
        if name.any names.contains then none
        else
          match sequence fuel nest' fl' (name.toList ++ names) [] [] rest with
          | some (r, names, ')' :: rest) =>
            sequence fuel nest fl names before
              (some ⟨.group captures r.pattern, r.depth + 1⟩ :: items) rest
          | _ => none
      | _, _ => none
    | c :: rest => push (charItem fl c) 0 rest

def ofText? (cs : List Char) : Option Pattern :=
  match sequence (2 * cs.length + 4) nestLimit {} [] [] [] cs with
  | some (r, _, []) => if r.depth ≤ nestLimit && r.pattern.hasRoom then some r.pattern else none
  | _ => none

end RecordFilter.Pattern
