import RecordFilter.Path.Modifier
import RecordFilter.Path.Route
import RecordFilter.Request.Coercion
import RecordFilter.Request.Basic

/-!
# Plans of paths

What a path stands for is decided from the path alone, before anything is registered. A `Plan`
lists what has to be bound and joined and says what the path then resolves to. `Plan.ofPath` walks
the segments of a path from its root along relations and back relations to a field.
-/

namespace RecordFilter

open Sql (Expr Join)

structure Resolution where
  value : Expr
  /-- The bound parameters that `value` itself refers to. -/
  params : List String := []
  /-- Whether NULL and the empty text are different values. -/
  isExact : Bool := false
  /-- All values for one record of the base, if there may be several. -/
  listing : Option Sql.Listing := none
  /-- The alias of the record that must show its email. -/
  visibleIn : Option String := none
deriving DecidableEq, Repr, Inhabited

structure Scope where
  catalog : Catalog
  base : Collection
  request : Option Request := none
  showHidden : Bool := false
  maxHops : Nat := 6
deriving Inhabited

/-- What a path comes down to. -/
inductive Outcome
  | fixed (r : Resolution)
  /-- A value to bind under a fresh name, its letters in lower case or as they are. -/
  | bound (value : Json) (lower : Bool)
deriving Repr, Inhabited

structure Plan where
  /-- Values to bind under names of their own. -/
  bindings : List (String × Json) := []
  joins : List Join := []
  outcome : Except PathError Outcome

namespace Plan

def fail (e : PathError) : Plan := { outcome := .error e }

def direct (o : Outcome) : Plan := { outcome := .ok o }

def null : Plan := direct (.fixed { value := .null })

def along (r : Route) (extra : List Join) (outcome : Except PathError Outcome) : Plan :=
  ⟨r.root.bindings, r.joins ++ extra, outcome⟩

/-! ## The end of a path -/

/-- A listing of all values that an expression takes for one record of the base. -/
def listingOf (s : Scope) (value : Expr) (joins : List Join) : Sql.Listing :=
  let baseAlias := Sql.wordPart s.base.name
  { baseAlias, table := s.base.name, tableAlias := Root.listed baseAlias, value, joins }

/-- The value of a path that ends under the alias of a route: `value` makes it from an alias, and
`items` the joins that it needs besides. -/
def finish (s : Scope) (r : Route) (isMany : Bool) (items : String → List Join)
    (value : String → Expr) : Resolution :=
  { value := value r.lastAlias
    listing :=
      if isMany then some (listingOf s (value r.listAlias) (r.listJoins ++ items r.listAlias))
      else none }

/-- What stands for a missing field at the end of a route. -/
def missing (path : String) (r : Route) : Plan :=
  along r [] (if r.root.isLenient then .ok (.fixed { value := .null })
    else .error (.unknownField path))

/-- Whether a field is kept from the author of the path. -/
def isWithheld (s : Scope) (r : Route) (f : Field) : Bool :=
  f.isHidden && !(s.showHidden || r.root.isTrusted)

/-- A step of a JSON path: digits are an index, anything else is a key. -/
def jsonStep (steps segment : String) : String :=
  if segment.toList.all Char.isDigit then steps ++ "[" ++ segment ++ "]"
  else if steps = "" then segment
  else steps ++ "." ++ segment

def jsonSteps (segments : List String) : String := segments.foldl jsonStep ""

/-- A path that reads below a JSON field; only letters may be lowered at its end. -/
def belowJson (s : Scope) (path : String) (r : Route) (f : Field) (segments : List String) :
    Except PathError Outcome :=
  match segments.getLast? with
  | none => .error (.invalidFormat path)
  | some last =>
    (splitModifier last).bind fun (name, modifier) =>
      let steps := jsonSteps (segments.dropLast ++ [name])
      let read (table : String) : Expr := .extract (.column table f.name) steps
      let value? : Except PathError (String → Expr) :=
        match modifier with
        | none => .ok read
        | some .lower => .ok fun table => .lower (read table)
        | some m => .error (.invalidModifier m.label path)
      value?.map fun value =>
        .fixed { finish s r r.isMany (fun _ => []) value with isExact := true }

def eachItems (f : Field) (table : String) : List Join :=
  [itemsJoin (.column table f.name) (itemsAlias (fieldAlias table f.name))]

def fieldValue (f : Field) (table : String) : Expr :=
  if f.kind = .json then .extract (.column table f.name) "" else .column table f.name

/-- The alias of the record that must show its email when a field is read. -/
def emailOwner (s : Scope) (r : Route) (f : Field) : Option String :=
  if f.name = FieldName.email && r.collection.isAuth && !(s.showHidden || r.root.isTrusted) then
    some r.lastAlias
  else none

def atField (s : Scope) (path : String) (r : Route) (f : Field) (modifier : Option Modifier) :
    Plan :=
  let plain (isExact : Bool) (value : String → Expr) : Plan :=
    along r [] (.ok (.fixed
      { finish s r r.isMany (fun _ => []) value with isExact, visibleIn := emailOwner s r f }))
  match modifier with
  | none => plain (f.kind == .json) (fieldValue f)
  | some .lower => plain (f.kind == .json) fun table => .lower (fieldValue f table)
  | some .isset => along r [] (.error (.invalidModifier Modifier.isset.label path))
  | some .length =>
    if f.kind.holdsItems then plain false fun table => .itemCount (.column table f.name)
    else along r [] (.error (.invalidModifier Modifier.length.label path))
  | some .each =>
    if f.kind.holdsItems then
      along r (eachItems f r.lastAlias) (.ok (.fixed
        { finish s r (r.isMany || f.kind.isMultiple) (eachItems f)
            (fun table => itemOf (itemsAlias (fieldAlias table f.name))) with
          visibleIn := emailOwner s r f }))
    else along r [] (.error (.invalidModifier Modifier.each.label path))

def atLast (s : Scope) (path : String) (r : Route) (segment : String) : Plan :=
  match splitModifier segment with
  | .error e => along r [] (.error e)
  | .ok (name, modifier) =>
    match r.collection.field? name with
    | none => missing path r
    | some f =>
      if isWithheld s r f then along r [] (.error (.unknownField path))
      else atField s path r f modifier

/-! ## Links by name -/

def backWord : List Char := "_via_".toList

/-- The collection and the field that a segment names as a back relation. -/
def backParts (segment : String) : Option (String × String) :=
  match Text.cutAt backWord segment.toList with
  | some (collection, field) =>
    if collection.isEmpty || field.isEmpty || Text.occurs backWord field then none
    else some (String.ofList collection, String.ofList field)
  | none => none

/-- The back relation that a segment names, if there is one to the end of the route. -/
def backLink? (s : Scope) (r : Route) (segment : String) : Option Link :=
  (backParts segment).bind fun (collection, field) =>
    (s.catalog.find? collection).bind fun source =>
      (source.field? field).bind fun f =>
        f.kind.reference?.bind fun ref =>
          if ref.target = r.collection.id && !isWithheld s r f then
            some (if ref.unique && !ref.multiple then .backSingle source segment f.name
              else .backMultiple source segment f.name)
          else none

def fieldLink? (s : Scope) (f : Field) (ref : Reference) : Option Link :=
  (s.catalog.find? ref.target).map fun target =>
    if ref.multiple then .multiple target f.name else .single target f.name

/-! ## Walking -/

/-- What a segment that is not the last one leads to. -/
inductive Turn
  /-- Nothing of use. -/
  | missing
  | withheld
  /-- A JSON field, which the segments after it read below. -/
  | json (f : Field)
  /-- A field that holds the id of a record, which is all that the path asks for. -/
  | idColumn (f : Field)
  | link (l : Link)
deriving Repr

def turn (s : Scope) (r : Route) (segment : String) (after : List String) : Turn :=
  match r.collection.field? segment with
  | none => ((backLink? s r segment).map Turn.link).getD .missing
  | some f =>
    if isWithheld s r f then .withheld
    else
      match f.kind with
      | .json => .json f
      | .relation ref =>
        if !ref.multiple && after == [FieldName.id] then .idColumn f
        else ((fieldLink? s f ref).map Turn.link).getD .missing
      | _ => .missing

def walk (s : Scope) (path : String) : Route → List String → Plan
  | r, [] => along r [] (.error (.invalidFormat path))
  | r, [last] => atLast s path r last
  | r, segment :: next :: rest =>
    match turn s r segment (next :: rest) with
    | .missing => missing path r
    | .withheld => along r [] (.error (.unknownField path))
    | .json f => along r [] (belowJson s path r f (next :: rest))
    | .idColumn f =>
      along r [] (.ok (.fixed
        (finish s r r.isMany (fun _ => []) fun table => .column table f.name)))
    | .link l =>
      if s.maxHops ≤ r.hops then along r [] (.error (.tooDeep path s.maxHops))
      else walk s path (r.cross l) (next :: rest)

def hasColon (segment : String) : Bool := segment.toList.contains ':'

/-- The plan of segments below a root; only the last one may carry a modifier. -/
def below (s : Scope) (path : String) (root : Root) (segments : List String) : Plan :=
  if segments.isEmpty || segments.dropLast.any hasColon then
    along ⟨root, []⟩ [] (.error (.invalidFormat path))
  else walk s path ⟨root, []⟩ segments

/-! ## Values of the request -/

/-- What stands for a value that the request does not have. -/
def absent (modifier : Option Modifier) : Plan :=
  if modifier = some .isset then direct (.fixed { value := .bool false }) else null

def withoutModifier (segments : List String) : Except PathError (List String) :=
  match segments.getLast? with
  | none => .ok []
  | some last => (splitModifier last).map fun (name, _) => segments.dropLast ++ [name]

/-- A value of the request, fitted to the kind of a field. -/
def submittedValue (path : String) (value : Option Json) (modifier : Option Modifier)
    (kind : Option FieldKind) : Plan :=
  let bound (lower : Bool) : Plan :=
    match value with
    | none | some .null => null
    | some v =>
      let v := v.fitted kind
      direct (.bound (if lower then .text v.plainText else v) lower)
  match modifier with
  | some .isset => direct (.fixed { value := .bool value.isSome })
  | some .each => fail (.invalidModifier Modifier.each.label path)
  | some .length => fail (.invalidModifier Modifier.length.label path)
  | some .lower => bound true
  | none => bound false

def readRequest (path : String) (request : Request) (segments : List String)
    (modifier : Option Modifier) (kind : Option FieldKind) : Plan :=
  match withoutModifier segments with
  | .error e => fail e
  | .ok segments => submittedValue path (request.value? segments) modifier kind

/-- The fields of the record that signed in which the request itself has. -/
def carriedFields : List String :=
  [FieldName.id, FieldName.collectionId, FieldName.collectionName, FieldName.email,
    FieldName.emailVisibility, FieldName.verified]

def ofAuth (s : Scope) (path : String) (request : Request) (segments : List String)
    (modifier : Option Modifier) : Plan :=
  match segments, request.auth with
  | [], _ => fail (.invalidFormat path)
  | _, none => absent modifier
  | first :: rest, some auth =>
    let collection := s.catalog.find? auth.collectionId
    match splitModifier first with
    | .error e => fail e
    | .ok (name, _) =>
      if modifier = some .isset || (rest.isEmpty && carriedFields.contains name) then
        match withoutModifier segments with
        | .error e => fail e
        | .ok segments =>
          submittedValue path ((Json.object (auth.exported collection)).descend segments) modifier
            none
      else
        match collection with
        | none => null
        | some c => below s path (.auth c auth.id) segments

def itemsParam (name : String) : String := name ++ "__items"

def submittedItems (s : Scope) (request : Request) (key : String) (f : Field) : Plan :=
  let name := itemsAlias ("__dataEach_" ++ Sql.wordPart key)
  let param := itemsParam name
  let join (table : String) : Join := itemsJoin (.param param) table
  let listed := Root.listed name
  let items := Json.list ((request.itemsOf key).map .text)
  { bindings := [(param, .text items.compact)]
    joins := [join name]
    outcome := .ok (.fixed
      { value := itemOf name
        params := [param]
        listing :=
          if f.kind.isMultiple then some (listingOf s (itemOf listed) [join listed])
          else none }) }

def ofBody (s : Scope) (path : String) (request : Request) (segments : List String)
    (modifier : Option Modifier) : Plan :=
  let read (kind : Option FieldKind) : Plan :=
    readRequest path request ("body" :: segments) modifier kind
  match segments with
  | [] => fail (.invalidFormat path)
  | [last] =>
    match splitModifier last with
    | .error e => fail e
    | .ok (key, _) =>
      match s.base.field? key with
      | none => read none
      | some f =>
        match modifier, f.kind.holdsItems with
        | some .each, true => submittedItems s request key f
        | some .length, true =>
          direct (.fixed { value := .numeral (request.itemsOf key).length })
        | _, _ => read (some f.kind)
  | key :: rest =>
    match (s.base.field? key).bind (·.kind.reference?), modifier with
    | none, _ => read none
    | _, some .isset => read none
    | some ref, _ =>
      match s.catalog.find? ref.target with
      | none => null
      | some target =>
        let ids := request.itemsOf key
        if ids.isEmpty then null
        else below s path (.submitted target key ids ref.multiple) rest

def ofRequest (s : Scope) (path : String) (segments : List String) : Plan :=
  match splitModifier (segments.getLast?.getD "") with
  | .error e => fail e
  | .ok (_, modifier) =>
    match s.request, segments with
    | none, _ => absent modifier
    | some request, "auth" :: rest => ofAuth s path request rest modifier
    | some request, "body" :: rest => ofBody s path request rest modifier
    | some request, part :: rest =>
      if ["context", "method", "query", "headers"].contains part then
        readRequest path request (part :: rest) modifier none
      else fail (.invalidFormat path)
    | some _, [] => fail (.invalidFormat path)

def ofCollection (s : Scope) (path : String) : List String → Plan
  | first :: second :: rest =>
    let (name, chosen) : String × Option String :=
      match Text.cut ':' first.toList with
      | some (name, chosen) => (String.ofList name, some (String.ofList chosen))
      | none => (first, none)
    match s.catalog.find? name with
    | none => fail (.unknownField path)
    | some c => below s path (.anyOf c chosen) (second :: rest)
  | _ => fail (.invalidFormat path)

/-! ## Paths -/

def segmentsOf (path : String) : List String :=
  (Text.pieces '.' path.toList).map String.ofList

def ofPath (s : Scope) (path : String) : Plan :=
  let segments := segmentsOf path
  if segments.contains "" then fail (.invalidFormat path)
  else
    match segments with
    | "@request" :: rest => ofRequest s path rest
    | "@collection" :: rest => ofCollection s path rest
    | segments => below s path (.base s.base) segments

end Plan

end RecordFilter
