import RecordFilter.Number.Binary64
import RecordFilter.Path.Modifier
import RecordFilter.Sql.Condition

/-!
# Filters

A `Filter` is a tree of comparisons between operands, connected in groups. A comparison is strict,
so that every value of a multi-valued side has to satisfy it, or one value is enough: then its sign
starts with a question mark.
-/

namespace RecordFilter

inductive Operator
  | equal
  | notEqual
  | greater
  | greaterEqual
  | less
  | lessEqual
  | like
  | notLike
deriving DecidableEq, Repr, Inhabited

namespace Operator

def sign : Operator → String
  | equal => "="
  | notEqual => "!="
  | greater => ">"
  | greaterEqual => ">="
  | less => "<"
  | lessEqual => "<="
  | like => "~"
  | notLike => "!~"

def all : List Operator :=
  [equal, notEqual, greater, greaterEqual, less, lessEqual, like, notLike]

end Operator

structure Comparator where
  operator : Operator
  /-- Whether one value of a multi-valued side is enough. -/
  isAny : Bool
deriving DecidableEq, Repr, Inhabited

namespace Comparator

def sign (c : Comparator) : String := (if c.isAny then "?" else "") ++ c.operator.sign

def strict (c : Comparator) : Comparator := { c with isAny := false }

def all : List Comparator :=
  Operator.all.map (⟨·, false⟩) ++ Operator.all.map (⟨·, true⟩)

def ofSign? (s : String) : Option Comparator := all.find? (·.sign == s)

theorem ofSign?_sign (c : Comparator) : ofSign? c.sign = some c := by
  obtain ⟨o, a⟩ := c
  cases o <;> cases a <;> decide

end Comparator

inductive Operand
  /-- A field by its path. -/
  | field (path : String)
  | text (s : String)
  /-- A finite number. An infinity or a NaN, which no filter that was read has, is left out: it
  would be compared as NULL. -/
  | number (x : Number.Binary64)
  | bool (b : Bool)
  | null
deriving DecidableEq, Repr, Inhabited

inductive Filter
  | comparison (left : Operand) (comparator : Comparator) (right : Operand)
  | group (connective : Sql.Connective) (items : List Filter)
deriving Repr, Inhabited

inductive FilterError
  | path (e : PathError)
  | emptyGroup
  | invalidOperator (sign : String)
deriving DecidableEq, Repr

def FilterError.message : FilterError → String
  | path e => e.message
  | emptyGroup => "Filter group has no expressions"
  | invalidOperator sign => "Unsupported comparison operator '" ++ sign ++ "'"

def Comparator.ofSign (s : String) : Except FilterError Comparator :=
  match ofSign? s with
  | some c => .ok c
  | none => .error (.invalidOperator s)

end RecordFilter
