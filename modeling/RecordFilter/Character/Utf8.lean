import RecordFilter.Character.CodeSet

/-!
# Ranges of characters as bytes

In UTF-8 the characters of a range are those with a first byte in one range, a second byte in
another, and so on, once the range is cut where the number of bytes changes and where a block of
code points with the same leading bytes begins. `byteSequences` gives these sequences of byte
ranges.
-/

namespace RecordFilter.Character

abbrev ByteRange := Nat × Nat

def utf8 (c : Char) : List Nat := (String.utf8EncodeChar c).map UInt8.toNat

/-- Cuts a range where blocks of `size` code points begin, such that each part lies within one
block or consists of whole blocks. -/
def cutBlocks (size : Nat) (r : CodeRange) : List CodeRange :=
  if r.1 / size = r.2 / size then [r]
  else
    let lo := (r.1 + size - 1) / size * size
    let hi := (r.2 + 1) / size * size
    (if r.1 < lo then [(r.1, lo - 1)] else []) ++ (if lo < hi then [(lo, hi - 1)] else []) ++
      (if hi ≤ r.2 then [(hi, r.2)] else [])

/-- The characters of more than one byte, by the number of bytes. -/
def multibyteRanges : List CodeRange :=
  [(0x80, 0x7FF), (0x800, 0xD7FF), (0xE000, 0xFFFF), (0x10000, 0x10FFFF)]

/-- The sequences of byte ranges that make the characters of a range, in ascending order. -/
def byteSequences (r : CodeRange) : List (List ByteRange) :=
  (CodeSet.clip r (0, 0x7F)).toList.map (fun r => [r]) ++
    ((((multibyteRanges.filterMap (CodeSet.clip r)).flatMap (cutBlocks 64)).flatMap
      (cutBlocks 4096)).flatMap (cutBlocks 262144)).map fun r =>
        (utf8 (Char.ofNat r.1)).zip (utf8 (Char.ofNat r.2))

def CodeSet.byteSequences (s : CodeSet) : List (List ByteRange) :=
  s.ranges.flatMap Character.byteSequences

end RecordFilter.Character
