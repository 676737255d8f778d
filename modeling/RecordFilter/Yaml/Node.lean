import RecordFilter.Json.Basic
import RecordFilter.Yaml.Token

/-!
# YAML documents

A `Node` is a scalar, a list, a mapping or the reference of an alias to an anchored node.
`Document.ofTokens?` reads the tokens of a text that holds one document at most; a text without any
is `Document.empty`.
-/

namespace RecordFilter.Yaml

inductive Tag
  | text (s : String)
  /-- Bytes that are no text. -/
  | garbled
deriving DecidableEq, Repr, Inhabited

/-- The tag that some bytes make; a NUL ends it. -/
def Tag.ofBytes (bs : List UInt8) : Tag :=
  match String.fromUTF8? ⟨(bs.takeWhile (· != 0)).toArray⟩ with
  | some s => .text s
  | none => .garbled

/-- A value as it is written, before anything is said of what it stands for. -/
inductive Node
  | scalar (text : String) (style : Style) (tag : Option Tag)
  | list (tag : Option Tag) (items : List Node)
  | mapping (tag : Option Tag) (entries : List (Node × Node))
  /-- The node with an anchor of a number. -/
  | reference (number : Nat)
deriving Repr, Inhabited

namespace Node

def blank : Node := .scalar "" .plain none

mutual

/-- The number of marks that a node is made of: one for a scalar or a reference, and one for either
end of a list or a mapping. -/
def marks : Node → Nat
  | scalar _ _ _ => 1
  | list _ items => itemMarks items + 2
  | mapping _ entries => entryMarks entries + 2
  | reference _ => 1

def itemMarks : List Node → Nat
  | [] => 0
  | n :: ns => n.marks + itemMarks ns

def entryMarks : List (Node × Node) → Nat
  | [] => 0
  | (k, v) :: es => k.marks + v.marks + entryMarks es

end

end Node

structure Anchor where
  name : List Char
  /-- The number by which its aliases know it: that of the different names before it. A name that
  is given again takes a number that the next new name takes too. -/
  number : Nat
deriving DecidableEq, Repr, Inhabited

structure Context where
  /-- The handles of tags and what they stand for. -/
  handles : List (List Char × List UInt8)
  /-- The anchors, the last first. -/
  anchors : List Anchor := []
  names : Nat := 0
  /-- The anchored nodes by the number of anchors before. -/
  nodes : List (Nat × Node) := []
deriving Inhabited

structure Document where
  root : Node
  anchors : List Anchor := []
  nodes : List (Nat × Node) := []
deriving Inhabited

def Context.tag? (cx : Context) (handle : List Char) (rest : List UInt8) : Option Tag :=
  if handle.isEmpty then some (.ofBytes rest)
  else
    (cx.handles.find? (·.1 == handle)).map fun (_, start) =>
      .ofBytes (start.takeWhile (· != 0) ++ rest)

/-- Adds an anchor; gives the number of anchors before it. -/
def Context.name (cx : Context) (anchor : List Char) : Nat × Context :=
  let isNew := !cx.anchors.any (·.name == anchor)
  (cx.anchors.length,
    { cx with
      anchors := ⟨anchor, cx.names⟩ :: cx.anchors
      names := if isNew then cx.names + 1 else cx.names })

def Context.keep (cx : Context) (before : Option Nat) (n : Node) : Context :=
  match before with
  | some k => { cx with nodes := (k, n) :: cx.nodes }
  | none => cx

structure Properties where
  anchor : Option (List Char) := none
  tag : Option (List Char × List UInt8) := none

/-- An anchor and a tag, in either order, each at most once. -/
def Properties.take : List Token → Properties × List Token
  | .anchor a :: .tag h r :: ts => ({ anchor := some a, tag := some (h, r) }, ts)
  | .tag h r :: .anchor a :: ts => ({ anchor := some a, tag := some (h, r) }, ts)
  | .anchor a :: ts => ({ anchor := some a }, ts)
  | .tag h r :: ts => ({ tag := some (h, r) }, ts)
  | ts => ({}, ts)

def isAbsent (stops : List Token) : List Token → Bool
  | t :: _ => stops.contains t
  | [] => true

/-- Whether an item of a flow sequence with a key mark has no key before a token. -/
def endsFlowKey (t : Token) : Bool := t == .value || t == .flowEntry || t == .flowSequenceEnd

abbrev Read (α : Type) := Option (α × Context × List Token)

mutual

/-- A node. `inBlock` tells whether block structures may start, `isLoose` whether the entries of a
list may stand at the column of the mapping around. -/
def Node.read (inBlock isLoose : Bool) : Nat → Context → List Token → Read Node
  | 0, _, _ => none
  | fuel + 1, cx, ts =>
    match ts with
    | .reference name :: ts =>
      (cx.anchors.find? (·.name == name)).map fun a => (.reference a.number, cx, ts)
    | ts =>
      let (props, ts) := Properties.take ts
      let tag? : Option (Option Tag) := match props.tag with
        | none => some none
        | some (handle, rest) => (cx.tag? handle rest).map some
      match tag? with
      | none => none
      | some tag =>
        let (before, cx) : Option Nat × Context := match props.anchor with
          | some a => let (k, cx) := cx.name a; (some k, cx)
          | none => (none, cx)
        let keep (r : Read Node) : Read Node :=
          r.map fun (n, cx, ts) => (n, cx.keep before n, ts)
        let list (r : Read (List Node)) : Read Node :=
          keep (r.map fun (items, cx, ts) => (.list tag items, cx, ts))
        let mapping (r : Read (List (Node × Node))) : Read Node :=
          keep (r.map fun (entries, cx, ts) => (.mapping tag entries, cx, ts))
        match ts with
        | .scalar text style :: ts =>
          keep (some (.scalar (String.ofList text) style tag, cx, ts))
        | .flowSequence :: ts => list (flowItems true fuel cx ts)
        | .flowMapping :: ts => mapping (flowEntries true fuel cx ts)
        | .blockEntry :: ts =>
          if isLoose then list (looseItems fuel cx (.blockEntry :: ts))
          else if props.anchor.isSome || props.tag.isSome then
            keep (some (.scalar "" .plain tag, cx, .blockEntry :: ts))
          else none
        | ts =>
          match inBlock, ts with
          | true, .blockSequence :: ts => list (blockItems fuel cx ts)
          | true, .blockMapping :: ts => mapping (blockEntries fuel cx ts)
          | _, ts =>
            if props.anchor.isSome || props.tag.isSome then
              keep (some (.scalar "" .plain tag, cx, ts))
            else none

def nodeOrBlank (inBlock isLoose : Bool) (stops : List Token) :
    Nat → Context → List Token → Read Node
  | 0, _, _ => none
  | fuel + 1, cx, ts =>
    if isAbsent stops ts then some (.blank, cx, ts) else Node.read inBlock isLoose fuel cx ts

def blockItems : Nat → Context → List Token → Read (List Node)
  | 0, _, _ => none
  | fuel + 1, cx, ts =>
    match ts with
    | .blockEnd :: ts => some ([], cx, ts)
    | .blockEntry :: ts =>
      match nodeOrBlank true false [.blockEntry, .blockEnd] fuel cx ts with
      | none => none
      | some (n, cx, ts) =>
        (blockItems fuel cx ts).map fun (ns, cx, ts) => (n :: ns, cx, ts)
    | _ => none

/-- The items of a list at the column of the mapping around it. -/
def looseItems : Nat → Context → List Token → Read (List Node)
  | 0, _, _ => none
  | fuel + 1, cx, ts =>
    match ts with
    | .blockEntry :: ts =>
      match nodeOrBlank true false [.blockEntry, .key, .value, .blockEnd] fuel cx ts with
      | none => none
      | some (n, cx, ts) =>
        (looseItems fuel cx ts).map fun (ns, cx, ts) => (n :: ns, cx, ts)
    | ts => some ([], cx, ts)

/-- The entries of a block mapping up to its end. A key or a value may be missing. -/
def blockEntries : Nat → Context → List Token → Read (List (Node × Node))
  | 0, _, _ => none
  | fuel + 1, cx, ts =>
    let key? : Option (Read Node) := match ts with
      | .key :: ts => some (nodeOrBlank true true [.key, .value, .blockEnd] fuel cx ts)
      | .blockEnd :: _ => none
      | _ => some none
    match key?, ts with
    | none, ts => some ([], cx, ts.drop 1)
    | some none, _ => none
    | some (some (key, cx, ts)), _ =>
      match blockValue fuel cx ts with
      | none => none
      | some (value, cx, ts) =>
        (blockEntries fuel cx ts).map fun (es, cx, ts) => ((key, value) :: es, cx, ts)

def blockValue : Nat → Context → List Token → Read Node
  | 0, _, _ => none
  | fuel + 1, cx, ts =>
    match ts with
    | .value :: ts => nodeOrBlank true true [.key, .value, .blockEnd] fuel cx ts
    | ts => some (.blank, cx, ts)

/-- The items between square brackets; a key mark among them makes a mapping of one entry. Where no
key follows the mark, the token there counts for nothing. -/
def flowItems (isFirst : Bool) : Nat → Context → List Token → Read (List Node)
  | 0, _, _ => none
  | fuel + 1, cx, ts =>
    match ts with
    | .flowSequenceEnd :: ts => some ([], cx, ts)
    | ts =>
      let next? : Option (List Token) := match isFirst, ts with
        | true, ts => some ts
        | false, .flowEntry :: ts => some ts
        | false, _ => none
      match next? with
      | none => none
      | some (.flowSequenceEnd :: ts) => some ([], cx, ts)
      | some (.key :: ts) =>
        let key : Read Node :=
          if ts.head?.any endsFlowKey then some (.blank, cx, ts.drop 1)
          else Node.read false false fuel cx ts
        match key with
        | none => none
        | some (k, cx, ts) =>
          match flowValue [.flowEntry, .flowSequenceEnd] fuel cx ts with
          | none => none
          | some (v, cx, ts) =>
            (flowItems false fuel cx ts).map fun (ns, cx, ts) =>
              (.mapping none [(k, v)] :: ns, cx, ts)
      | some ts =>
        match Node.read false false fuel cx ts with
        | none => none
        | some (n, cx, ts) =>
          (flowItems false fuel cx ts).map fun (ns, cx, ts) => (n :: ns, cx, ts)

/-- The entries between braces; a node without a key mark is a key without a value. -/
def flowEntries (isFirst : Bool) : Nat → Context → List Token → Read (List (Node × Node))
  | 0, _, _ => none
  | fuel + 1, cx, ts =>
    match ts with
    | .flowMappingEnd :: ts => some ([], cx, ts)
    | ts =>
      let next? : Option (List Token) := match isFirst, ts with
        | true, ts => some ts
        | false, .flowEntry :: ts => some ts
        | false, _ => none
      match next? with
      | none => none
      | some (.flowMappingEnd :: ts) => some ([], cx, ts)
      | some (.key :: ts) =>
        match nodeOrBlank false false [.value, .flowEntry, .flowMappingEnd] fuel cx ts with
        | none => none
        | some (k, cx, ts) =>
          match flowValue [.flowEntry, .flowMappingEnd] fuel cx ts with
          | none => none
          | some (v, cx, ts) =>
            (flowEntries false fuel cx ts).map fun (es, cx, ts) => ((k, v) :: es, cx, ts)
      | some ts =>
        match Node.read false false fuel cx ts with
        | none => none
        | some (k, cx, ts) =>
          (flowEntries false fuel cx ts).map fun (es, cx, ts) => ((k, .blank) :: es, cx, ts)

def flowValue (stops : List Token) : Nat → Context → List Token → Read Node
  | 0, _, _ => none
  | fuel + 1, cx, ts =>
    match ts with
    | .value :: ts => nodeOrBlank false false stops fuel cx ts
    | ts => some (.blank, cx, ts)

end

/-! ## Documents -/

def usualHandles : List (List Char × List UInt8) :=
  [("!".toList, asciiBytes "!".toList), ("!!".toList, asciiBytes "tag:yaml.org,2002:".toList)]

/-- The directives before a document: the handles they define, and the tokens after them. The
version may be given once, and a handle defined once. -/
def directives : Bool → List (List Char × List UInt8) → List Token →
    Option (List (List Char × List UInt8) × List Token)
  | hasVersion, handles, .version major minor :: ts =>
    if hasVersion || major != 1 || !(minor == 1 || minor == 2) then none
    else directives true handles ts
  | hasVersion, handles, .tagHandle handle start :: ts =>
    if handles.any (·.1 == handle) then none
    else directives hasVersion (handles ++ [(handle, start)]) ts
  | _, handles, ts => some (handles, ts)

def isOver (ts : List Token) : Bool := ts.all (· == .documentEnd)

def isOutside : Token → Bool
  | .version _ _ | .tagHandle _ _ | .documentStart | .documentEnd => true
  | _ => false

namespace Document

def empty : Document := { root := .blank }

def ofTokens? (ts : List Token) : Option Document :=
  let fuel := 4 * ts.length + 4
  let finish (r : Read Node) : Option Document :=
    r.bind fun (root, cx, ts) =>
      if isOver ts then some { root, anchors := cx.anchors, nodes := cx.nodes } else none
  match ts with
  | [] => some empty
  | t :: _ =>
    (directives false [] ts).bind fun (own, rest) =>
      let handles := own ++ usualHandles.filter fun h => !own.any (·.1 == h.1)
      match rest with
      | .documentStart :: rest =>
        if rest.head?.all isOutside then finish (some (.blank, { handles }, rest))
        else finish (Node.read true false fuel { handles } rest)
      | rest =>
        if isOutside t then none else finish (Node.read true false fuel { handles } rest)

def ofText? (s : String) : Option Document := (Token.scan? s).bind ofTokens?

/-- The node that an alias of a number stands for: that of the last anchor with the number. -/
def node? (d : Document) (number : Nat) : Option Node :=
  match d.anchors.dropWhile (·.number != number) with
  | [] => none
  | _ :: before => (d.nodes.find? (·.1 == before.length)).map (·.2)

end Document

end RecordFilter.Yaml
