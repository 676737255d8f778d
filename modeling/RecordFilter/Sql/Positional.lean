import RecordFilter.Sql.Identifier
import RecordFilter.Text.Word

/-!
# Numbered placeholders

`Piece.scan` finds the placeholders of named parameters in a text, from left to right and without
overlap. `numbered` gives each name the number of its first occurrence and puts `$1`, `$2`, … in
the places of the names.
-/

namespace RecordFilter.Sql

/-- A character of a text, or the placeholder of a named parameter. -/
inductive Piece
  | char (c : Char)
  | name (n : List Char)
deriving DecidableEq, Repr

namespace Piece

/-- The name of the placeholder at the front of a text: one or more word characters. -/
def nameAt : List Char → Option (List Char)
  | '\x7b' :: ':' :: cs =>
    let n := cs.takeWhile Text.isWord
    match cs.dropWhile Text.isWord with
    | '\x7d' :: _ => if n.isEmpty then none else some n
    | _ => none
  | _ => none

/-- The pieces of a text whose first `skip` characters belong to the piece before. -/
def scanAfter : Nat → List Char → List Piece
  | _, [] => []
  | skip + 1, _ :: cs => scanAfter skip cs
  | 0, c :: cs =>
    match nameAt (c :: cs) with
    | some n => name n :: scanAfter (n.length + 2) cs
    | none => char c :: scanAfter 0 cs

def scan (cs : List Char) : List Piece := scanAfter 0 cs

end Piece

/-- The pieces with their placeholders numbered, after the names that have a number already. The
first name without a value is an error. -/
def number {α : Type} (value? : String → Option α) :
    List (List Char) → List Piece → Except String (List Char × List α)
  | _, [] => .ok ([], [])
  | names, .char c :: ps =>
    match number value? names ps with
    | .error e => .error e
    | .ok (cs, vs) => .ok (c :: cs, vs)
  | names, .name n :: ps =>
    match names.findIdx? (· == n) with
    | some i =>
      match number value? names ps with
      | .error e => .error e
      | .ok (cs, vs) => .ok ('$' :: Nat.toDigits 10 (i + 1) ++ cs, vs)
    | none =>
      match value? (String.ofList n) with
      | none => .error (String.ofList n)
      | some v =>
        match number value? (names ++ [n]) ps with
        | .error e => .error e
        | .ok (cs, vs) => .ok ('$' :: Nat.toDigits 10 (names.length + 1) ++ cs, v :: vs)

def numbered {α : Type} (value? : String → Option α) (text : String) :
    Except String (String × List α) :=
  match number value? [] (Piece.scan text.toList) with
  | .error e => .error e
  | .ok (cs, vs) => .ok (String.ofList cs, vs)

end RecordFilter.Sql
