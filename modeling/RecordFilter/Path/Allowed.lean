import RecordFilter.Pattern.Parser
import RecordFilter.Text.Split

/-!
# Well-formed and allowed paths

A path is well formed if it has one of the eight shapes of `isWellFormed`. `AllowedPaths` says
which of those may be used: all of them, or those that one of a list of entries admits. An entry
admits itself and whatever its text matches as a pattern; the entry `*` admits everything.
-/

namespace RecordFilter.Path

/-! ## Shapes -/

/-- Characters that may stand after the first one: those of names and the two separators. -/
def isPathChar (c : Char) : Bool := Text.isWord c || c == '.' || c == ':'

def isFieldPath : List Char → Bool
  | [] => false
  | c :: cs => Text.isWord c && cs.all isPathChar

/-- The part of a path after its root: path characters, the last of them that of a name. -/
def isTail (cs : List Char) : Bool := cs.all isPathChar && (cs.getLast?.any Text.isWord)

def requestParts : List String := ["auth", "body", "query", "headers"]

def isRequestPath (cs : List Char) : Bool :=
  requestParts.any fun part =>
    (Text.after? ("@request." ++ part ++ ".").toList cs).any isTail

/-- A path below a collection, with or without an alias for it. -/
def isCollectionPath (cs : List Char) : Bool :=
  match Text.after? "@collection.".toList cs with
  | none => false
  | some cs =>
    let name := cs.takeWhile Text.isWord
    !name.isEmpty &&
      match cs.dropWhile Text.isWord with
      | '.' :: rest => isTail rest
      | ':' :: rest =>
        !(rest.takeWhile Text.isWord).isEmpty &&
          match rest.dropWhile Text.isWord with
          | '.' :: rest => isTail rest
          | _ => false
      | _ => false

def isWellFormed (path : String) : Bool :=
  let cs := path.toList
  isFieldPath cs || path == "@request.context" || path == "@request.method" ||
    isRequestPath cs || isCollectionPath cs

end RecordFilter.Path

namespace RecordFilter

/-! ## Entries -/

def Path.anyPath : String := "*"

/-- The shapes of well-formed paths, written as patterns. -/
def Path.shapeEntries : List String :=
  ["^\\w+[\\w\\.:]*$", "^@request\\.context$", "^@request\\.method$",
    "^@request\\.auth\\.[\\w\\.:]*\\w+$", "^@request\\.body\\.[\\w\\.:]*\\w+$",
    "^@request\\.query\\.[\\w\\.:]*\\w+$", "^@request\\.headers\\.[\\w\\.:]*\\w+$",
    "^@collection\\.\\w+(:\\w+)?\\.[\\w\\.:]*\\w+$"]

def Path.entryMatches (entry path : String) : Bool :=
  match Pattern.ofText? ("^(?:".toList ++ entry.toList ++ ")$".toList) with
  | some p => p.matchesWithin path.toList
  | none => false

def Path.entryAdmits (entry path : String) : Bool :=
  entry == anyPath || entry == path || entryMatches entry path

inductive AllowedPaths
  /-- All of them: the entries are the shapes themselves. -/
  | wellFormed
  /-- Those that one of the entries admits. -/
  | entries (es : List String)
deriving DecidableEq, Repr, Inhabited

namespace AllowedPaths

def toList : AllowedPaths → List String
  | wellFormed => Path.shapeEntries
  | entries es => es

def admits (path : String) : AllowedPaths → Bool
  | wellFormed => true
  | entries es => es.any (Path.entryAdmits · path)

theorem admits_entries_iff {es : List String} {path : String} :
    (entries es).admits path = true ↔ ∃ e ∈ es, Path.entryAdmits e path = true := by
  simp [admits]

end AllowedPaths

end RecordFilter
