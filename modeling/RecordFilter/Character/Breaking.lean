import RecordFilter.Character.Property

/-!
# Breaking of text

The classes of characters by which text is broken into what is seen as one character
(`graphemeBreak?`), into words (`wordBreak?`) and into sentences (`sentenceBreak?`). Each looks a
class up by its name in normal form, short or long; the class of what is in no other has no set.
-/

namespace RecordFilter.Character

open Property (listed)

def namedRow? (rows : List (List String × (Unit → CodeSet))) (name : String) : Option CodeSet :=
  (rows.find? (·.1.contains name)).map fun row => row.2 ()

/-- Marks and what else stays with the character before it, with spacing marks. -/
def attached : CodeSet := Property.graphemeExtend.union (Category.sets ["Mc"])

def prepended : CodeSet := listed "Prepended_Concatenation_Mark"

def numberSigns : CodeSet := .ofText "600-605 6DD 890-891 8E2 110BD 110CD"

/-! ## Graphemes -/

namespace Grapheme

def control : CodeSet :=
  ((CodeSet.unions [Category.sets ["Zl", "Zp", "Cc", "Cf"],
    Category.unassigned.inter (listed "Default_Ignorable_Code_Point")]).diff
      (.ofText "A D 200C-200D")).diff (prepended.union Property.graphemeExtend)

def detached : CodeSet :=
  .ofText "102B-102C 1038 1062-1064 1067-106D 1083 1087-108C 108F 109A-109C 1A61 1A63-1A64 AA7B
    AA7D 11720-11721"

def spacing : CodeSet :=
  (((Category.sets ["Mc"]).diff Property.graphemeExtend).diff detached).union (.ofText "E33 EB3")

/-- The first syllable of each row of syllables, which has no final consonant. -/
def openSyllables : CodeSet := .ofText "AC00-D788/1C"

def rows : List (List String × (Unit → CodeSet)) :=
  [(["cr"], fun _ => .ofText "D"), (["lf"], fun _ => .ofText "A"),
    (["cn", "control"], fun _ => control),
    (["ex", "extend"], fun _ => Property.graphemeExtend.union (listed "Emoji_Modifier")),
    (["zwj"], fun _ => .ofText "200D"),
    (["ri", "regionalindicator"], fun _ => listed "Regional_Indicator"),
    (["pp", "prepend"], fun _ => prepended.union
      (.ofText "D4E 111C2-111C3 113D1 1193F 11941 11A3A 11A84-11A89 11D46 11F02")),
    (["sm", "spacingmark"], fun _ => spacing), (["l"], fun _ => .ofText "1100-115F A960-A97C"),
    (["v"], fun _ => .ofText "1160-11A7 D7B0-D7C6 16D63 16D67-16D6A"),
    (["t"], fun _ => .ofText "11A8-11FF D7CB-D7FB"), (["lv"], fun _ => openSyllables),
    (["lvt"], fun _ => (CodeSet.ofText "AC00-D7A3").diff openSyllables)]

end Grapheme

def graphemeBreak? : String → Option CodeSet := namedRow? Grapheme.rows

/-! ## Words -/

namespace Word

def hebrew : CodeSet :=
  .ofText "5D0-5EA 5EF-5F2 FB1D FB1F-FB28 FB2A-FB36 FB38-FB3C FB3E FB40-FB41 FB43-FB44 FB46-FB4F"

def katakana : CodeSet :=
  .ofText "3031-3035 309B-309C 30A0-30FA 30FC-30FF 31F0-31FF 32D0-32FE 3300-3357 FF66-FF9D
    1AFF0-1AFF3 1AFF5-1AFFB 1AFFD-1AFFE 1B000 1B120-1B122 1B155 1B164-1B167"

def extend : CodeSet := (attached.union (listed "Emoji_Modifier")).diff (.ofText "200D")

def format : CodeSet :=
  (Category.sets ["Cf"]).diff
    (.unions [.ofText "200B-200D", Property.graphemeExtend, prepended])

/-- Letters of the scripts that set no blanks between words. -/
def unspaced : CodeSet :=
  .ofText "E01-E30 E32-E33 E40-E46 E81-E82 E84 E86-E8A E8C-EA3 EA5 EA7-EB0 EB2-EB3 EBD EC0-EC4 EC6
    EDC-EDF 1000-102A 103F 1050-1055 105A-105D 1061 1065-1066 106E-1070 1075-1081 108E 1780-17B3
    17D7 17DC 1950-196D 1970-1974 1980-19AB 19B0-19C9 1A20-1A54 1AA7 A9E0-A9E4 A9E6-A9EF A9FA-A9FE
    AA60-AA76 AA7A AA7E-AAAF AAB1 AAB5-AAB6 AAB9-AABD AAC0 AAC2 AADB-AADD 11700-1171A 11740-11746"

def signs : CodeSet :=
  .ofText "2C2-2C5 2D2-2D7 2DE-2DF 2E5-2EB 2ED 2EF-2FF 55A-55C 55E 58A 5F3 70F A708-A716 A720-A721
    A789-A78A AB5B"

def letter : CodeSet :=
  (Property.alphabetic.union signs).diff
    (.unions [listed "Ideographic", katakana, Script.set "Hira", extend, hebrew, unspaced])

def rows : List (List String × (Unit → CodeSet)) :=
  [(["cr"], fun _ => .ofText "D"), (["lf"], fun _ => .ofText "A"),
    (["nl", "newline"], fun _ => .ofText "B-C 85 2028-2029"), (["extend"], fun _ => extend),
    (["zwj"], fun _ => .ofText "200D"), (["fo", "format"], fun _ => format),
    (["ri", "regionalindicator"], fun _ => listed "Regional_Indicator"),
    (["ka", "katakana"], fun _ => katakana), (["hl", "hebrewletter"], fun _ => hebrew),
    (["le", "aletter"], fun _ => letter), (["sq", "singlequote"], fun _ => .ofText "27"),
    (["dq", "doublequote"], fun _ => .ofText "22"),
    (["ml", "midletter"], fun _ => .ofText "3A B7 387 55F 5F4 2027 FE13 FE55 FF1A"),
    (["mn", "midnum"], fun _ =>
      .ofText "2C 3B 37E 589 60C-60D 66C 7F8 2044 FE10 FE14 FE50 FE54 FF0C FF1B"),
    (["mb", "midnumlet"], fun _ => .ofText "2E 2018-2019 2024 FE52 FF07 FF0E"),
    (["nu", "numeric"], fun _ =>
      .unions [Category.sets ["Nd"], .ofText "66B", numberSigns]),
    (["ex", "extendnumlet"], fun _ => (Category.sets ["Pc"]).union (.ofText "202F")),
    (["wsegspace"], fun _ => .ofText "20 1680 2000-2006 2008-200A 205F 3000")]

end Word

def wordBreak? : String → Option CodeSet := namedRow? Word.rows

/-! ## Sentences -/

namespace Sentence

def extend : CodeSet := attached.union (.ofText "200D")

/-- Letters of a script with two cases that sets both without a meaning. -/
def caseless : CodeSet := .ofText "10D0-10FA 10FD-10FF 1C90-1CBA 1CBD-1CBF"

def lower : CodeSet := Property.lowercase.diff (Property.graphemeExtend.union caseless)

def upper : CodeSet := (Property.uppercase.union (Category.sets ["Lt"])).diff caseless

def stop : CodeSet := .ofText "2E 2024 FE52 FF0E"

def rows : List (List String × (Unit → CodeSet)) :=
  [(["cr"], fun _ => .ofText "D"), (["lf"], fun _ => .ofText "A"),
    (["se", "sep"], fun _ => .ofText "85 2028-2029"), (["ex", "extend"], fun _ => extend),
    (["fo", "format"], fun _ =>
      (Category.sets ["Cf"]).diff (extend.union numberSigns)),
    (["sp"], fun _ => .ofText "9 B-C 20 A0 1680 2000-200A 202F 205F 3000"),
    (["lo", "lower"], fun _ => lower), (["up", "upper"], fun _ => upper),
    (["le", "oletter"], fun _ =>
      (Property.alphabetic.union (.ofText "5F3")).diff (.unions [lower, upper, extend])),
    (["nu", "numeric"], fun _ =>
      .unions [Category.sets ["Nd"], .ofText "66B-66C", numberSigns]),
    (["at", "aterm"], fun _ => stop),
    (["sc", "scontinue"], fun _ =>
      .ofText "2C-2D 3A 55D 60C-60D 7F8 1802 1808 2013-2014 3001 FE10-FE11 FE13 FE31-FE32
        FE50-FE51 FE55 FE58 FE63 FF0C-FF0D FF1A FF64"),
    (["st", "sterm"], fun _ => (listed "Sentence_Terminal").diff stop),
    (["cl", "close"], fun _ =>
      (Category.sets ["Ps", "Pe", "Pi", "Pf"]).union
        (.ofText "22 27 275B-2760 2E00-2E01 2E06-2E08 2E0B 1F676-1F678"))]

end Sentence

def sentenceBreak? : String → Option CodeSet := namedRow? Sentence.rows

/-! ## Sets by name -/

/-- The set of a plain name. The short names of some general categories are those of properties
that have values, and mean the category. -/
def named? (name : List Char) : Option CodeSet :=
  let name := Property.normalize name
  (Property.ofName? name).orElse fun _ =>
    (Category.named? name).orElse fun _ => (Script.canonical? name).map Script.set

def valued? (property value : List Char) : Option CodeSet :=
  let value := Property.normalize value
  match Property.normalize property with
  | "gc" | "generalcategory" => Category.named? value
  | "sc" | "script" => (Script.canonical? value).map Script.set
  | "scx" | "scriptextensions" => (Script.canonical? value).map Script.extension
  | "age" => ageNamed? value
  | "gcb" | "graphemeclusterbreak" => graphemeBreak? value
  | "wb" | "wordbreak" => wordBreak? value
  | "sb" | "sentencebreak" => sentenceBreak? value
  | _ => none

end RecordFilter.Character
