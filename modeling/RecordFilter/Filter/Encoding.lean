import RecordFilter.Filter.Basic
import RecordFilter.Json.Printer
import RecordFilter.Request.Decode

/-!
# Filters as JSON

A comparison is an object with the members `left`, `op` and `right`, a group one with `join` and
`items`; `type` tells the two apart. The list of the type and the values in this order stands for
the same. An operand is an object with one member, or the text `null`. Other members are skipped.
-/

namespace RecordFilter

open Json (Draft)

/-! ## Writing -/

def Operand.encode : Operand → Json
  | field path => .object [("field", .text path)]
  | text s => .object [("text", .text s)]
  | number x => .object [("number", .number (.real x))]
  | bool b => .object [("bool", .bool b)]
  | null => .text "null"

def Sql.Connective.word : Sql.Connective → String
  | and => "and"
  | or => "or"

mutual

def Filter.encode : Filter → Json
  | comparison left c right =>
    .object [("type", .text "comparison"), ("left", left.encode), ("op", .text c.sign),
      ("right", right.encode)]
  | group connective items =>
    .object [("type", .text "group"), ("join", .text connective.word),
      ("items", .list (Filter.encodeAll items))]

def Filter.encodeAll : List Filter → List Json
  | [] => []
  | f :: fs => f.encode :: Filter.encodeAll fs

end

/-! ## Reading -/

/-- A choice by name: the name alone, or an object with the name as its only key. -/
def choice? : Draft → Option (String × Option Draft)
  | .text (some s) => some (s, none)
  | .object [(some key, d)] => some (key, some d)
  | _ => none

/-- A choice that carries no value: nothing, null or the empty object stands beside the name. -/
def bareChoice? (d : Draft) : Option String :=
  match choice? d with
  | some (name, none) | some (name, some .null) | some (name, some (.object [])) => some name
  | _ => none

def Json.Draft.real? : Draft → Option Number.Binary64
  | .number (some (.int n)) => some (Number.Binary64.ofInt n)
  | .number (some (.real x)) => some x
  | _ => none

def Operand.decode (d : Draft) : Option Operand :=
  match choice? d with
  | some ("field", some d) => d.text?.map field
  | some ("text", some d) => d.text?.map text
  | some ("number", some d) => d.real?.map number
  | some ("bool", some d) => d.bool?.map bool
  | some ("null", _) => if bareChoice? d = some "null" then some null else none
  | _ => none

def Comparator.decode (d : Draft) : Option Comparator := (bareChoice? d).bind ofSign?

def Sql.Connective.ofWord? : String → Option Sql.Connective
  | "and" => some and
  | "or" => some or
  | _ => none

def Sql.Connective.decode (d : Draft) : Option Sql.Connective := (bareChoice? d).bind ofWord?

namespace Filter

inductive Kind
  | comparison
  | group
deriving DecidableEq, Repr

/-- The kind that a draft names; inside a group its number does as well. -/
def Kind.decode (inGroup : Bool) : Draft → Option Kind
  | .text (some "comparison") => some comparison
  | .text (some "group") => some group
  | .number (some (.int 0)) => if inGroup then some comparison else none
  | .number (some (.int 1)) => if inGroup then some group else none
  | _ => none

def Kind.fields : Kind → List String
  | comparison => ["left", "op", "right"]
  | group => ["join", "items"]

/-- A value of a filter, and the filters that it lists if it is a list of filters. -/
abbrev Part := Draft × Option (List Filter)

def assemble (kind : Kind) (parts : List (String × Part)) : Option Filter :=
  match kind with
  | .comparison =>
    match (Json.find? "left" parts).bind fun p => Operand.decode p.1,
      (Json.find? "op" parts).bind fun p => Comparator.decode p.1,
      (Json.find? "right" parts).bind fun p => Operand.decode p.1 with
    | some left, some c, some right => some (comparison left c right)
    | _, _, _ => none
  | .group =>
    match (Json.find? "join" parts).bind fun p => Sql.Connective.decode p.1,
      (Json.find? "items" parts).bind Prod.snd with
    | some connective, some items => some (group connective items)
    | _, _ => none

/-- A filter from the members of an object; none of those that it reads may be repeated. -/
def ofMembers (inGroup : Bool) (parts : List (String × Part)) : Option Filter :=
  match (parts.filter fun p => p.1 == "type").map fun p => Kind.decode inGroup p.2.1 with
  | [some kind] =>
    let own := parts.filter fun p => kind.fields.contains p.1
    if (own.map Prod.fst).Nodup then assemble kind own else none
  | _ => none

def ofValues (inGroup : Bool) : List Part → Option Filter
  | [] => none
  | tag :: values =>
    (Kind.decode inGroup tag.1).bind fun kind =>
      if values.length = kind.fields.length then assemble kind (kind.fields.zip values) else none

mutual

def read (inGroup : Bool) : Draft → Option Filter
  | .object members => (readMembers members).bind (ofMembers inGroup)
  | .list items => ofValues inGroup (readValues items)
  | _ => none

def readItems : Draft → Option (List Filter)
  | .list items => readAll items
  | _ => none

def readAll : List Draft → Option (List Filter)
  | [] => some []
  | d :: ds =>
    match read true d, readAll ds with
    | some f, some fs => some (f :: fs)
    | _, _ => none

def readMembers : List (Option String × Draft) → Option (List (String × Part))
  | [] => some []
  | (k, d) :: ms =>
    match k, readMembers ms with
    | some k, some parts => some ((k, d, readItems d) :: parts)
    | _, _ => none

def readValues : List Draft → List Part
  | [] => []
  | d :: ds => (d, readItems d) :: readValues ds

end

def decode (d : Draft) : Option Filter := read false d

/-- Reads a filter from JSON text; every part of it has to be readable. -/
def ofText? (s : String) : Option Filter :=
  (Draft.ofText s).bind fun d => if (d.value? Json.nestingLimit).isSome then decode d else none

end Filter

end RecordFilter
