import RecordFilter.Json.Basic
import RecordFilter.Settings
import RecordFilter.Text.Split

/-!
# Command-line arguments

Every argument is an option with two dashes. An option takes its value after an equals sign or from
the next argument, which must not look like an option; a flag takes none. No option may be repeated.
-/

namespace RecordFilter

structure Arguments where
  catalog : Option String := none
  collection : String
  filter : String
  request : Option String := none
  depth : Option Nat := none
  showHidden : Bool := false
  positional : Bool := false
deriving DecidableEq, Repr, Inhabited

namespace Arguments

def valueOptions : List String :=
  ["catalog", "collection", "filter", "request", "max-relation-depth"]

def flags : List String := ["allow-hidden-fields", "positional"]

def isValue (s : String) : Bool := s == "-" || s.toList.head? != some '-'

def splitOption (s : String) : Option (String × Option String) :=
  match s.toList with
  | '-' :: '-' :: cs =>
    match Text.cut '=' cs with
    | some (name, value) => some (String.ofList name, some (String.ofList value))
    | none => some (String.ofList cs, none)
  | _ => none

/-- The options with their values, in order; a flag has the empty value. Two dashes alone end the
options, and nothing may follow them. -/
def collect : List String → Option (List (String × String))
  | [] => some []
  | arg :: rest =>
    if arg = "--" then if rest.isEmpty then some [] else none
    else
      match splitOption arg with
      | none => none
      | some (name, some value) =>
        if valueOptions.contains name then (collect rest).map ((name, value) :: ·) else none
      | some (name, none) =>
        if flags.contains name then (collect rest).map ((name, "") :: ·)
        else if valueOptions.contains name then
          match rest with
          | value :: rest =>
            if isValue value then (collect rest).map ((name, value) :: ·) else none
          | [] => none
        else none

/-- A path, which must not be empty. -/
def readPath (s : String) : Option String := if s = "" then none else some s

def read (words : List String) : Option Arguments :=
  match collect words with
  | none => none
  | some options =>
    let given (name : String) : Option String := Json.find? name options
    let depth : Option (Option Nat) := match given "max-relation-depth" with
      | none => some none
      | some s => (Settings.readNat s).toOption.map some
    let request : Option (Option String) := match given "request" with
      | none => some none
      | some s => (readPath s).map some
    if !(options.map Prod.fst).Nodup then none
    else
      match given "collection", (given "filter").bind readPath, request, depth with
      | some collection, some filter, some request, some depth =>
        some {
          catalog := given "catalog"
          collection
          filter
          request
          depth
          showHidden := (given "allow-hidden-fields").isSome
          positional := (given "positional").isSome }
      | _, _, _, _ => none

def overlay (a : Arguments) : Overlay :=
  { catalogPath := a.catalog, depth := a.depth, showHidden := a.showHidden }

end Arguments

end RecordFilter
