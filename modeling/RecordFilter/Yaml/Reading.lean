import RecordFilter.Yaml.Node

/-!
# Values of YAML nodes

How a node is read where a value of a known kind is expected. Any scalar is a text. Truth values,
numbers and null have to be written plain; nothing at all counts as null, as an empty list and as
an empty mapping. Reading may not follow aliases without end: `Reader` counts them.
-/

namespace RecordFilter.Yaml

/-- Reading that may still follow so many aliases. -/
abbrev Reader := StateT Nat Option

/-- How many aliases may be followed for each mark of a document. -/
def aliasLimit : Nat := 100

namespace Document

def readWith {α : Type} (d : Document) (read : Node → Reader α) : Option α :=
  (read d.root).run' (aliasLimit * d.root.marks)

def deref (d : Document) : Node → Reader Node
  | .reference n => fun left =>
    if left = 0 then none else (d.node? n).map fun m => (m, left - 1)
  | n => pure n

def standardTag (kind : String) : Tag := .text ("tag:yaml.org,2002:" ++ kind)

/-- The text of a scalar that is written plain, or as a block with the tag of its kind. -/
def plainText (d : Document) (kind : String) (n : Node) : Reader String := do
  match ← d.deref n with
  | .scalar text .plain _ => pure text
  | .scalar text .literal tag => if tag = some (standardTag kind) then pure text else failure
  | _ => failure

def text (d : Document) (n : Node) : Reader String := do
  match ← d.deref n with
  | .scalar text _ _ => pure text
  | _ => failure

def bool (d : Document) (n : Node) : Reader Bool := do
  match ← d.plainText "bool" n with
  | "true" | "True" | "TRUE" => pure true
  | "false" | "False" | "FALSE" => pure false
  | _ => failure

def isNull (s : String) : Bool := s == "null" || s == "Null" || s == "NULL" || s == "~"

def digits? (base : Nat) (cs : List Char) : Option Nat :=
  let cs := match cs with
    | '+' :: cs => cs
    | cs => cs
  if cs.isEmpty then none
  else
    (cs.foldl (fun n c => n.bind fun n =>
      (Json.hexValue? c).bind fun v => if v < base then some (base * n + v) else none)
      (some 0)).bind fun n => if n < UInt64.size then some n else none

/-- A whole number in decimal, hexadecimal, octal or binary digits. Decimal digits after a leading
zero are no number. -/
def natOfText? (s : String) : Option Nat :=
  let signed (cs : List Char) : Bool := cs.head? == some '+' || cs.head? == some '-'
  let cs := match s.toList with
    | '+' :: cs => cs
    | cs => cs
  let based : Option (Option Nat) := match cs with
    | '0' :: 'x' :: rest => if signed rest then some none else (digits? 16 rest).map some
    | '0' :: 'o' :: rest => if signed rest then some none else (digits? 8 rest).map some
    | '0' :: 'b' :: rest => if signed rest then some none else (digits? 2 rest).map some
    | _ => none
  match based with
  | some n => n
  | none =>
    if signed cs then none
    else if 1 < cs.length && cs.head? == some '0' && cs.all Char.isDigit then none
    else digits? 10 cs

def nat (d : Document) (n : Node) : Reader Nat := do
  (natOfText? (← d.plainText "int" n) : Option Nat)

def nullable {α : Type} (d : Document) (read : Node → Reader α) (n : Node) :
    Reader (Option α) := do
  let n ← d.deref n
  match n with
  | .scalar text .plain none =>
    if text = "" || isNull text then pure none else some <$> read n
  | .scalar text .plain (some tag) =>
    if tag = standardTag "null" then if isNull text then pure none else failure
    else some <$> read n
  | n => some <$> read n

def isBlank : Node → Bool
  | .scalar "" .plain _ => true
  | _ => false

def each {α : Type} (d : Document) (read : Node → Reader α) (n : Node) : Reader (List α) := do
  match ← d.deref n with
  | .list _ items => items.mapM read
  | n => if isBlank n then pure [] else failure

def entries (d : Document) (n : Node) : Reader (List (String × Node)) := do
  match ← d.deref n with
  | .mapping _ entries => entries.mapM fun (k, v) => (·, v) <$> d.text k
  | n => if isBlank n then pure [] else failure

/-- The values of a structure with named fields. Each is given at most once; there may be others. -/
def fields (d : Document) (names : List String) (n : Node) : Reader (List (String × Node)) := do
  let own := (← d.entries n).filter fun e => e.1 ∈ names
  if (own.map Prod.fst).Nodup then pure own else failure

/-- A choice by name: a scalar, or nothing behind a tag of its own. -/
def word (d : Document) (n : Node) : Reader String := do
  match ← d.deref n with
  | .scalar text style (some (.text tag)) =>
    match tag.toList with
    | '!' :: rest =>
      if style = .plain && (text = "" || isNull text) then
        pure (String.ofList (if rest.isEmpty then ['!'] else rest))
      else failure
    | _ => pure text
  | .scalar text _ _ => pure text
  | _ => failure

def choice {α : Type} (d : Document) (ofWord? : String → Option α) (n : Node) : Reader α := do
  (ofWord? (← d.word n) : Option α)

end Document

def fieldD {α : Type} (name : String) (read : Node → Reader α) (default : α)
    (fields : List (String × Node)) : Reader α :=
  match Json.find? name fields with
  | some n => read n
  | none => pure default

def field {α : Type} (name : String) (read : Node → Reader α)
    (fields : List (String × Node)) : Reader α :=
  match Json.find? name fields with
  | some n => read n
  | none => failure

end RecordFilter.Yaml
