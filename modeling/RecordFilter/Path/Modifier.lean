import RecordFilter.Text.Escaped
import RecordFilter.Text.Split

/-!
# Modifiers

The last segment of a path may carry a modifier after a colon. `splitModifier` takes a segment
apart; everything after its first colon has to be the name of one modifier. The reasons for which
a path is refused stand here too, with their texts.
-/

namespace RecordFilter

/-- What is asked of the value at the end of a path. -/
inductive Modifier
  /-- The value with its letters in lower case. -/
  | lower
  /-- Every item by itself. -/
  | each
  | length
  /-- Whether the request has the value at all. -/
  | isset
deriving DecidableEq, Repr, Inhabited

namespace Modifier

def label : Modifier → String
  | lower => "lower"
  | each => "each"
  | length => "length"
  | isset => "isset"

def ofLabel? (s : String) : Option Modifier :=
  [lower, each, length, isset].find? (·.label == s)

theorem ofLabel?_label (m : Modifier) : ofLabel? m.label = some m := by cases m <;> decide

end Modifier

inductive PathError
  | unknownField (path : String)
  | invalidFormat (path : String)
  | tooDeep (path : String) (limit : Nat)
  | invalidModifier (modifier field : String)
  /-- An alias stands for two different joins. -/
  | ambiguousAlias (name : String)
deriving DecidableEq, Repr

def PathError.message : PathError → String
  | unknownField path => "Unknown or not allowed field: " ++ path
  | invalidFormat path => "Invalid field path format: " ++ Text.shown path
  | tooDeep path limit =>
    "Max relation depth of " ++ String.ofList (Text.decimal limit) ++ " exceeded in field path: " ++
      path
  | invalidModifier modifier field =>
    "Invalid modifier ':" ++ modifier ++ "' for field: " ++ field
  | ambiguousAlias name =>
    "Ambiguous table alias '" ++ name ++ "': already used for a different join"

def splitModifier (segment : String) : Except PathError (String × Option Modifier) :=
  match Text.cut ':' segment.toList with
  | none => .ok (segment, none)
  | some (name, modifier) =>
    match Modifier.ofLabel? (String.ofList modifier) with
    | some m => .ok (String.ofList name, some m)
    | none => .error (.invalidModifier (String.ofList modifier) (String.ofList name))

end RecordFilter
