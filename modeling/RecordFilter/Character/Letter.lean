import RecordFilter.Character.Property

/-!
# Letters and digits

`isLetter` and `isAlphanumeric` say what may stand in the name of a group of a pattern and of a
variable. They count what the tables list, and the letters and numbers that version 17 of the
character set added.
-/

namespace RecordFilter.Character

def letters : CodeSet :=
  Property.alphabetic.union
    (.ofText "88F C5C CDC A7CE-A7CF A7D2 A7D4 A7F1 10940-10959 10EC5-10EC7 10EFA-10EFB 11B60-11B67
      11DB0-11DDB 16EA0-16EB8 16EBB-16ED3 16FF2-16FF6 187F8-187FF 18D09-18D1E 18D80-18DF2
      1E6C0-1E6DE 1E6E0-1E6F5 1E6FE-1E6FF 2B73A-2B73F 2CEA2-2CEAD 323B0-33479")

def numbers : CodeSet :=
  (Category.sets ["Nd", "Nl", "No"]).union (.ofText "11DE0-11DE9 16FF4-16FF6")

def isLetter (c : Char) : Bool := if c.toNat < 128 then c.isAlpha else letters.mem c

def isAlphanumeric (c : Char) : Bool :=
  if c.toNat < 128 then c.isAlphanum else letters.mem c || numbers.mem c

end RecordFilter.Character
