import RecordFilter.Character.Letter
import RecordFilter.Json.Basic
import RecordFilter.Text.Blank

/-!
# Files of variables

A file of variables holds one `NAME=value` a line. Values may be quoted, and may name variables
after a dollar sign. `Variables.load?` adds the variables of a file to those that are set, which
win; the first malformed line ends the file. A variable cannot be set to a value with a NUL.
-/

namespace RecordFilter

abbrev Variables := List (String × String)

namespace Variables

/-! ## Lines -/

/-- Where reading stands within a line. -/
inductive LineState
  | text
  /-- After a blank, where a comment may start. -/
  | blank
  | escape
  | single
  | singleEscape
  | double
  | doubleEscape
deriving DecidableEq, Repr

/-- Whether a line may end here. A break is not a blank, so a line that ends in a blank is the last
and has no break; it counts as cut off. -/
def LineState.mayEnd : LineState → Bool
  | text => true
  | _ => false

def isGap (c : Char) : Bool := Text.isBlank c && c != '\n' && c != '\r'

/-- What a character does to the state; `none` at the start of a comment. -/
def LineState.next (s : LineState) (c : Char) : Option LineState :=
  let opened : LineState :=
    if c == '\\' then escape else if c == '"' then double else if c == '\'' then single else text
  match s with
  | blank => if c == '#' then none else some opened
  | text => some (if isGap c then blank else opened)
  | escape => some text
  | single => some (if c == '\\' then singleEscape else if c == '\'' then text else single)
  | singleEscape => some single
  | double => some (if c == '\\' then doubleEscape else if c == '"' then text else double)
  | doubleEscape => some double

/-- A line without its comment, and the state at its end; `none` if a comment ends it. -/
def readLine (s : LineState) : List Char → List Char × Option LineState
  | [] => ([], some s)
  | c :: cs =>
    match s.next c with
    | none => ([], none)
    | some s =>
      let (line, last) := readLine s cs
      (c :: line, last)

def rawLines : List Char → List (List Char)
  | [] => []
  | c :: cs =>
    if c == '\n' then [c] :: rawLines cs
    else
      match rawLines cs with
      | [] => [[c]]
      | l :: ls => (c :: l) :: ls

def withoutBreak (line : List Char) : List Char :=
  match line.reverse with
  | '\n' :: '\r' :: rest => rest.reverse
  | '\n' :: rest => rest.reverse
  | _ => line

/-- Lines with those joined that a quoted value runs through, after the part of such a line. A
quote that is never closed is an error, which stands last. -/
def joinLines (before : List Char) (s : LineState) : List (List Char) → List (Option (List Char))
  | [] => if s.mayEnd then [] else [none]
  | l :: ls =>
    if (Text.trimLeft (before ++ l)).head? == some '#' then some [] :: joinLines [] .text ls
    else
      match readLine s l with
      | (line, none) => some (before ++ line) :: joinLines [] .text ls
      | (line, some s) =>
        if s.mayEnd then some (withoutBreak (before ++ line)) :: joinLines [] .text ls
        else joinLines (before ++ line) s ls

/-! ## Values -/

inductive ValueState
  | plain
  | single
  | double
  /-- After a backslash, within double quotes or not. -/
  | escape (inDouble : Bool)
  /-- The name of a variable. -/
  | name (inDouble : Bool) (n : List Char)
  | braced (inDouble : Bool) (n : List Char)
  /-- After the value. -/
  | over
deriving Repr

def ValueState.back (inDouble : Bool) : ValueState := if inDouble then double else plain

/-- The value of a written text; `find` gives the value of a variable, which is empty if it has
none. -/
def readValue (find : String → String) : ValueState → List Char → Option (List Char)
  | s, [] =>
    match s with
    | .plain | .over => some []
    | .escape inDouble => if inDouble then none else some []
    | .name inDouble n => if inDouble then none else some (find (String.ofList n)).toList
    | .single | .double | .braced _ _ => none
  | s, c :: cs =>
    let put (out : List Char) (s : ValueState) : Option (List Char) :=
      (readValue find s cs).map (out ++ ·)
    match s with
    | .over =>
      if c == ' ' || c == '\t' then readValue find .over cs
      else if c == '#' then some []
      else none
    | .escape inDouble =>
      let back := ValueState.back inDouble
      if c == '\\' || c == '\'' || c == '"' || c == '$' || c == ' ' then put [c] back
      else if c == 'n' then put ['\n'] back
      else none
    | .single => if c == '\'' then put [] .plain else put [c] .single
    | .name inDouble n =>
      if Character.isAlphanumeric c then put [] (.name inDouble (n ++ [c]))
      else if c == '\x7b' && n.isEmpty then put [] (.braced inDouble [])
      else
        let value := (find (String.ofList n)).toList
        if c == '$' then put value (.name inDouble [])
        else put (value ++ [c]) (ValueState.back inDouble)
    | .braced inDouble n =>
      if c == '\x7d' then put (find (String.ofList n)).toList (ValueState.back inDouble)
      else put [] (.braced inDouble (n ++ [c]))
    | .double =>
      if c == '$' then put [] (.name true [])
      else if c == '"' then put [] .plain
      else if c == '\\' then put [] (.escape true)
      else put [c] .double
    | .plain =>
      if c == '$' then put [] (.name false [])
      else if c == '\'' then put [] .single
      else if c == '"' then put [] .double
      else if c == '\\' then put [] (.escape false)
      else if c == ' ' || c == '\t' then put [] .over
      else put [c] .plain

/-! ## Assignments -/

def takeName (cs : List Char) : Option (List Char × List Char) :=
  let isPart (c : Char) : Bool := c.isAlphanum || c == '_' || c == '.'
  match cs with
  | c :: _ =>
    if c.isAlpha || c == '_' then
      some (cs.takeWhile isPart, Text.trimLeft (cs.dropWhile isPart))
    else none
  | [] => none

/-- The name and the written value of a line, which may start with the word `export`. -/
def takeAssignment (cs : List Char) : Option (List Char × List Char) :=
  match takeName cs with
  | none => none
  | some (name, '=' :: rest) => some (name, rest)
  | some (name, rest) =>
    if name = "export".toList then
      match takeName rest with
      | some (name, '=' :: rest) => some (name, rest)
      | _ => none
    else none

inductive Line
  | blank
  | malformed
  | assignment (name value : String)

def Line.read (find : String → String) (cs : List Char) : Line :=
  let cs := Text.trim cs
  if cs.isEmpty || cs.head? == some '#' then blank
  else
    match takeAssignment cs with
    | none => malformed
    | some (name, written) =>
      let written := Text.trimLeft written
      if written.isEmpty || written.head? == some '#' then assignment (String.ofList name) ""
      else
        match readValue find .plain written with
        | some value => assignment (String.ofList name) (String.ofList value)
        | none => malformed

/-- Adds the assignments of lines to the variables that are set. `written` are the values that the
file gave so far, whether they counted or not. Fails at a value that cannot be set. -/
def loadLines? (set written : Variables) : List (Option (List Char)) → Option Variables
  | [] => some set
  | none :: _ => some set
  | some l :: ls =>
    let find (name : String) : String :=
      ((Json.find? name set).or (Json.find? name written)).getD ""
    match Line.read find l with
    | .blank => loadLines? set written ls
    | .malformed => some set
    | .assignment name value =>
      let written := Json.put name value written
      if (Json.find? name set).isSome then loadLines? set written ls
      else if value.toList.contains '\x00' then none
      else loadLines? (set ++ [(name, value)]) written ls

def load? (set : Variables) (file : String) : Option Variables :=
  let cs := match file.toList with
    | '\ufeff' :: cs => cs
    | cs => cs
  loadLines? set [] (joinLines [] .text (rawLines cs))

end Variables

end RecordFilter
