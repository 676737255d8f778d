import RecordFilter.Filter.Basic
import RecordFilter.Filter.Wildcard
import RecordFilter.Path.Resolver

/-!
# Conditions of filters

A `Builder` turns filters into conditions. It resolves both sides of a comparison, chooses the form
in which they are compared, and adds a guard where a strict comparison has a side with several
values. NULL and the empty text count as one value, except beside a JSON extraction.
-/

namespace RecordFilter

open Sql (Expr Test Condition)

namespace Resolution

def isBlankValue : Option Json → Bool
  | none | some .null => true
  | some (.text s) => s.isEmpty
  | some _ => false

def hasBlankParam (r : Resolution) (params : Sql.Params) : Bool :=
  r.params.any fun name => isBlankValue (params.find? name)

/-- Whether the value is known to be NULL or empty. -/
def isBlank (r : Resolution) (params : Sql.Params) : Bool :=
  r.value.isEmpty || r.hasBlankParam params

/-- Whether the value is taken to be neither NULL nor empty. -/
def isFilled (r : Resolution) (params : Sql.Params) : Bool :=
  r.value.isSolid ||
    (!r.params.isEmpty && !r.hasBlankParam params && !r.value.isEmpty)

end Resolution

/-! ## Forms of comparisons -/

/-- The form of an equality or, if not `equal`, of its negation. -/
def equalityTest (equal : Bool) (left right : Resolution) (params : Sql.Params) : Test :=
  let same : Sql.Relation := if equal then .equal else .distinct
  if left.isExact || right.isExact then
    .relates left.value (if equal then .notDistinct else .distinct) right.value
  else
    let leftBlank := left.isBlank params
    let rightBlank := right.isBlank params
    let shown (r : Resolution) (blank : Bool) : Expr := if blank then .emptyText else r.value
    if leftBlank && rightBlank then .relates .emptyText same .emptyText
    else if left.isFilled params || right.isFilled params then
      .relates (shown left leftBlank) same (shown right rightBlank)
    else if leftBlank then
      if equal then .blankRight right.value else .filledRight right.value
    else if rightBlank then
      if equal then .blankLeft left.value else .filledLeft left.value
    else .relates (.coalesced left.value) same (.coalesced right.value)

/-- The form of a comparison of texts: a bound right side is a pattern, any other one is looked
for inside the left side. -/
def likeTest (negated : Bool) (left right : Resolution) : Test :=
  if right.params.isEmpty then .containsText negated left.value right.value
  else .matchesPattern negated left.value right.value

def comparisonTest (op : Operator) (left right : Resolution) (params : Sql.Params) : Test :=
  match op with
  | .equal => equalityTest true left right params
  | .notEqual => equalityTest false left right params
  | .like => likeTest false left right
  | .notLike => likeTest true left right
  | .greater => .relates left.value .greater right.value
  | .greaterEqual => .relates left.value .greaterEqual right.value
  | .less => .relates left.value .less right.value
  | .lessEqual => .relates left.value .lessEqual right.value

/-- Makes the text of a bound value a pattern; one with a wildcard is left alone. -/
def patternParam (params : Sql.Params) (name : String) : Sql.Params :=
  match params.find? name with
  | none => params
  | some v =>
    let s := v.plainText.toList
    if Wildcard.hasWildcard s then params
    else params.update name (.text (String.ofList (Wildcard.containing s)))

/-- The parameters after a comparison: those of the right side of a text comparison are patterns. -/
def comparisonParams (op : Operator) (right : Resolution) (params : Sql.Params) : Sql.Params :=
  match op with
  | .like | .notLike => right.params.foldl patternParam params
  | _ => params

/-! ## Guards -/

def listedValue (name : String) (isExact : Bool) : Resolution :=
  { value := .column name Sql.Listing.valueColumn, isExact }

/-- The other side of a guard; of its properties only the bound parameters count there. -/
def Resolution.beside (r : Resolution) : Resolution := { value := r.value, params := r.params }

def numberedAlias (stem : String) (n : Nat) : String :=
  stem ++ String.ofList (Nat.toDigits 10 n)

/-- The two sides inside the guard with a number, and the guard as a function of their test. No
guard is needed where neither side is listed. -/
def guardOf (n : Nat) (left right : Resolution) :
    Option (Resolution × Resolution × (Test → Sql.Guard)) :=
  let leftName := numberedAlias "__ml" n
  let rightName := numberedAlias "__mr" n
  let name := numberedAlias "__sm" n
  match left.listing, right.listing with
  | some l, some r =>
    some (listedValue leftName left.isExact, listedValue rightName right.isExact,
      .pairs l leftName r rightName)
  | some l, none => some (listedValue name left.isExact, right.beside, .one l name)
  | none, some r => some (left.beside, listedValue name right.isExact, .one r name)
  | none, none => none

/-! ## Building -/

structure Builder where
  resolver : Resolver
  guards : Nat := 0
deriving Inhabited

namespace Builder

def literal (b : Builder) (value : Json) : Resolution × Builder :=
  let (name, resolver) := b.resolver.bind value
  (Resolver.boundResolution name false, { b with resolver })

def operand (b : Builder) : Operand → Except FilterError Resolution × Builder
  | .field path =>
    match b.resolver.resolve path with
    | (.ok r, resolver) => (.ok r, { b with resolver })
    | (.error e, resolver) => (.error (.path e), { b with resolver })
  | .text s => let (r, b) := b.literal (.text s); (.ok r, b)
  | .number x => let (r, b) := b.literal x.toJson; (.ok r, b)
  | .bool v => (.ok { value := .bool v }, b)
  | .null => (.ok { value := .null }, b)

def compare (b : Builder) (op : Operator) (left right : Resolution) : Test × Builder :=
  let params := comparisonParams op right b.resolver.params
  (comparisonTest op left right b.resolver.params,
    { b with resolver := { b.resolver with params } })

/-- A condition on the records that must show their email. -/
def requireVisible (c : Condition) : List (Option String) → Condition
  | [] => c
  | none :: rest => requireVisible c rest
  | some table :: rest => requireVisible (.visible c table) rest

def comparison (b : Builder) (left : Resolution) (c : Comparator) (right : Resolution) :
    Condition × Builder :=
  let (test, b) := b.compare c.operator left right
  let (condition, b) : Condition × Builder :=
    match c.isAny, guardOf (b.guards + 1) left right with
    | false, some (insideLeft, insideRight, guardWith) =>
      let (inside, b) := { b with guards := b.guards + 1 }.compare c.operator insideLeft insideRight
      (.guarded test (guardWith inside), b)
    | _, _ => (.test test, b)
  (requireVisible condition [left.visibleIn, right.visibleIn], b)

def grouped (connective : Sql.Connective) : List Condition → Except FilterError Condition
  | [] => .error .emptyGroup
  | [c] => .ok c
  | cs => .ok (.group connective cs)

mutual

/-- Builds the condition of a filter; what an error leaves behind stays registered. -/
def build (b : Builder) : Filter → Except FilterError Condition × Builder
  | .comparison left c right =>
    match b.operand left with
    | (.error e, b) => (.error e, b)
    | (.ok l, b) =>
      match b.operand right with
      | (.error e, b) => (.error e, b)
      | (.ok r, b) => let (condition, b) := b.comparison l c r; (.ok condition, b)
  | .group connective items =>
    match b.buildAll items with
    | (.error e, b) => (.error e, b)
    | (.ok cs, b) => (grouped connective cs, b)

/-- Builds the conditions of filters in order, up to the first that fails. -/
def buildAll (b : Builder) : List Filter → Except FilterError (List Condition) × Builder
  | [] => (.ok [], b)
  | f :: fs =>
    match b.build f with
    | (.error e, b) => (.error e, b)
    | (.ok c, b) =>
      match b.buildAll fs with
      | (.error e, b) => (.error e, b)
      | (.ok cs, b) => (.ok (c :: cs), b)

end

end Builder

namespace Filter

def condition (f : Filter) (r : Resolver) : Except FilterError Condition × Resolver :=
  let (c, b) := Builder.build { resolver := r } f
  (c, b.resolver)

/-- Adds a filter to a query, with everything that it needs. -/
def apply (f : Filter) (r : Resolver) (q : Sql.Select) :
    Except FilterError Unit × Resolver × Sql.Select :=
  match f.condition r with
  | (.error e, r) => (.error e, r, q)
  | (.ok c, r) =>
    match r.updateQuery q with
    | (.error e, q) => (.error (.path e), r, q)
    | (.ok (), q) => (.ok (), r, q.addCondition c)

end Filter

end RecordFilter
