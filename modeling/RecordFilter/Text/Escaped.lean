import RecordFilter.Text.VisibleTable
import RecordFilter.Text.WordTable

/-!
# Texts shown in messages

`shown` puts a text between double quotes in such a way that every character can be read off the
message: quotes, backslashes and line breaks get their short escapes, and a character that would
not show as a glyph of its own is written by its code point.
-/

namespace RecordFilter.Text

def hexadecimal (n : Nat) : List Char := Nat.toDigits 16 n

def decimal (n : Nat) : List Char := Nat.toDigits 10 n

/-- Whether a character has a glyph of its own: ASCII from the blank to the tilde, and beyond
ASCII whatever is neither hidden nor attached to the character before it. -/
def isVisible (c : Char) : Bool :=
  let n := c.toNat
  if n < 128 then 32 ≤ n && n < 127 else !inRanges hiddenRanges n && !inRanges extendingRanges n

def showChar (c : Char) : List Char :=
  if c = '\x00' then ['\\', '0']
  else if c = '\t' then ['\\', 't']
  else if c = '\n' then ['\\', 'n']
  else if c = '\r' then ['\\', 'r']
  else if c = '"' then ['\\', '"']
  else if c = '\\' then ['\\', '\\']
  else if isVisible c then [c]
  else "\\u\x7b".toList ++ hexadecimal c.toNat ++ ['\x7d']

def shown (s : String) : String :=
  String.ofList ('"' :: s.toList.flatMap showChar ++ ['"'])

end RecordFilter.Text
