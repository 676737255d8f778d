import RecordFilter.Json.Basic
import RecordFilter.Number.Shortest

/-!
# JSON texts of values

`compact` writes a value without spaces, `pretty` with one member or item a line and two spaces of
indentation. Only quotes, backslashes and control characters are escaped in a string.
-/

namespace RecordFilter.Json

def hexDigit (n : Nat) : Char := Nat.digitChar (n % 16)

def escapeChar (c : Char) : List Char :=
  if c = '"' then ['\\', '"']
  else if c = '\\' then ['\\', '\\']
  else if c = '\n' then ['\\', 'n']
  else if c = '\r' then ['\\', 'r']
  else if c = '\t' then ['\\', 't']
  else if c = '\x08' then ['\\', 'b']
  else if c = '\x0c' then ['\\', 'f']
  else if c.toNat < 32 then ['\\', 'u', '0', '0', hexDigit (c.toNat / 16), hexDigit c.toNat]
  else [c]

def stringChars (s : String) : List Char := '"' :: s.toList.flatMap escapeChar ++ ['"']

def Numeric.chars : Numeric → List Char
  | .int n => if n < 0 then '-' :: Nat.toDigits 10 n.natAbs else Nat.toDigits 10 n.natAbs
  | .real x => x.text

mutual

def chars : Json → List Char
  | .null => ['n', 'u', 'l', 'l']
  | .bool true => ['t', 'r', 'u', 'e']
  | .bool false => ['f', 'a', 'l', 's', 'e']
  | .number n => n.chars
  | .text s => stringChars s
  | .list [] => ['[', ']']
  | .list (x :: xs) => '[' :: chars x ++ itemsTail xs
  | .object [] => ['\x7b', '\x7d']
  | .object ((k, v) :: ms) => '\x7b' :: stringChars k ++ ':' :: chars v ++ membersTail ms

/-- The items after the first, up to the closing bracket. -/
def itemsTail : List Json → List Char
  | [] => [']']
  | x :: xs => ',' :: chars x ++ itemsTail xs

def membersTail : List (String × Json) → List Char
  | [] => ['\x7d']
  | (k, v) :: ms => ',' :: stringChars k ++ ':' :: chars v ++ membersTail ms

end

def compact (v : Json) : String := String.ofList (chars v)

def newline (depth : Nat) : List Char := '\n' :: List.replicate (2 * depth) ' '

mutual

def prettyChars (depth : Nat) : Json → List Char
  | .list [] => ['[', ']']
  | .list (x :: xs) =>
    '[' :: newline (depth + 1) ++ prettyChars (depth + 1) x ++ prettyItems (depth + 1) xs ++
      newline depth ++ [']']
  | .object [] => ['\x7b', '\x7d']
  | .object ((k, v) :: ms) =>
    '\x7b' :: newline (depth + 1) ++ stringChars k ++ ':' :: ' ' :: prettyChars (depth + 1) v ++
      prettyMembers (depth + 1) ms ++ newline depth ++ ['\x7d']
  | v => chars v

def prettyItems (depth : Nat) : List Json → List Char
  | [] => []
  | x :: xs => ',' :: newline depth ++ prettyChars depth x ++ prettyItems depth xs

def prettyMembers (depth : Nat) : List (String × Json) → List Char
  | [] => []
  | (k, v) :: ms =>
    ',' :: newline depth ++ stringChars k ++ ':' :: ' ' :: prettyChars depth v ++
      prettyMembers depth ms

end

def pretty (v : Json) : String := String.ofList (prettyChars 0 v)

/-- The text of a value where a plain text is wanted: a string stands for itself, null for
nothing, and everything else for its compact text. -/
def plainText : Json → String
  | .null => ""
  | .text s => s
  | v => v.compact

end RecordFilter.Json
