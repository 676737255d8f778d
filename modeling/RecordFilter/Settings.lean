import RecordFilter.Number.Decimal
import RecordFilter.Text.Escaped

/-!
# Settings

`Settings` say where the catalog is, how many relations a path may cross and whether hidden fields
may be read. They come from the environment, from a file or from the command line, which overlays
what is there; `check` holds the depth to its range.
-/

namespace RecordFilter

structure Settings where
  catalogPath : Option String := none
  /-- The most relations that one path may cross. -/
  depth : Nat := 6
  showHidden : Bool := false
deriving DecidableEq, Repr, Inhabited

/-- What the command line sets; the rest stays as it is. -/
structure Overlay where
  catalogPath : Option String := none
  depth : Option Nat := none
  showHidden : Bool := false
deriving DecidableEq, Repr, Inhabited

/-- Why a text is not a value. -/
inductive ValueError
  | emptyNumber
  | badDigit
  | tooLarge
  | notBool
deriving DecidableEq, Repr

def ValueError.message : ValueError → String
  | emptyNumber => "cannot parse integer from empty string"
  | badDigit => "invalid digit found in string"
  | tooLarge => "number too large to fit in target type"
  | notBool => "provided string was not `true` or `false`"

inductive SettingsError
  /-- A variable of the environment has a bad value. -/
  | badVariable (name value : String) (reason : ValueError)
  /-- The file could not be read, or is no settings file. -/
  | badFile
  | depthOutOfRange
deriving DecidableEq, Repr

def SettingsError.message : SettingsError → String
  | badVariable name value reason =>
    "Parse error for " ++ name ++ ": " ++ value ++ " - " ++ reason.message
  | badFile => "Parse error for yaml_file"
  | depthOutOfRange =>
    "Validation error: max_relation_depth: Max relation depth must be between 1 and 6"

namespace Settings

/-! ## Values in texts -/

/-- The digits of a whole number of at most 64 bits, after those that make up `n`. The first
character that is wrong, or that takes the number too far, decides. -/
def readDigits (n : Nat) : List Char → Except ValueError Nat
  | [] => .ok n
  | c :: cs =>
    if !c.isDigit then .error .badDigit
    else
      let n := 10 * n + Number.digitValue c
      if n < UInt64.size then readDigits n cs else .error .tooLarge

/-- A whole number that is not negative, with an optional plus sign. -/
def readNat (s : String) : Except ValueError Nat :=
  match s.toList with
  | [] => .error .emptyNumber
  | ['+'] => .error .badDigit
  | '+' :: cs => readDigits 0 cs
  | cs => readDigits 0 cs

def readBool (s : String) : Except ValueError Bool :=
  if s = "true" then .ok true else if s = "false" then .ok false else .error .notBool

/-! ## The range of the depth -/

def leastDepth : Nat := 1
def mostDepth : Nat := 6

def isValid (s : Settings) : Bool := leastDepth ≤ s.depth && s.depth ≤ mostDepth

def check (s : Settings) : Except SettingsError Unit :=
  if s.isValid then .ok () else .error .depthOutOfRange

def checked (s : Settings) : Except SettingsError Settings := s.check.map fun _ => s

theorem checked_eq_ok_iff {s t : Settings} : s.checked = .ok t ↔ s.isValid = true ∧ t = s := by
  unfold checked check
  by_cases h : s.isValid = true <;> simp [h, Except.map, eq_comm]

/-! ## Sources -/

/-- The variables of the environment. -/
def catalogVariable : String := "RULESQL_CATALOG_PATH"
def depthVariable : String := "RULESQL_MAX_RELATION_DEPTH"
def hiddenVariable : String := "RULESQL_ALLOW_HIDDEN_FIELDS"

def readVariable {α : Type} (read : String → Except ValueError α) (default : α)
    (env : String → Option String) (name : String) : Except SettingsError α :=
  match env name with
  | none => .ok default
  | some value =>
    match read value with
    | .ok a => .ok a
    | .error reason => .error (.badVariable name value reason)

def ofEnvironment (env : String → Option String) : Except SettingsError Settings :=
  match readVariable readNat mostDepth env depthVariable with
  | .error e => .error e
  | .ok depth =>
    match readVariable readBool false env hiddenVariable with
    | .error e => .error e
    | .ok showHidden =>
      Settings.checked { catalogPath := env catalogVariable, depth, showHidden }

def overlaid (s : Settings) (o : Overlay) : Settings :=
  { catalogPath := o.catalogPath.or s.catalogPath
    depth := o.depth.getD s.depth
    showHidden := s.showHidden || o.showHidden }

/-- Lays an overlay on top; the settings take it even if it makes them invalid. -/
def merge (s : Settings) (o : Overlay) : Except SettingsError Unit × Settings :=
  let s := s.overlaid o
  (s.check, s)

/-- The depth for walking paths, brought into its range. -/
def pathDepth (s : Settings) : Nat := max leastDepth (min s.depth mostDepth)

theorem pathDepth_range (s : Settings) : 1 ≤ s.pathDepth ∧ s.pathDepth ≤ 6 := by
  simp only [pathDepth, leastDepth, mostDepth]
  omega

def ofOverlay (o : Overlay) : Except SettingsError Settings := (overlaid {} o).checked

end Settings

end RecordFilter
