import RecordFilter.Character.AgeTable
import RecordFilter.Character.CategoryTable
import RecordFilter.Character.CodeSet
import RecordFilter.Character.PropertyTable
import RecordFilter.Character.ScriptTable

/-!
# Properties of characters

`Property.named?` and `Property.valued?` give the set of the code points with a property, by the
loose matching of names: blanks, underscores, dashes, case and a leading `is` do not count. A plain
name is that of a property, else of a general category, else of a script.
-/

namespace RecordFilter.Character

/-! ## General categories -/

namespace Category

def sets (names : List String) : CodeSet :=
  .ofRanges (names.flatMap fun name =>
    ((categoryTable.find? (·.1 = name)).map fun row => (CodeSet.ofText row.2).ranges).getD [])

def assigned : CodeSet := sets (categoryTable.map (·.1))

def unassigned : CodeSet := assigned.complement

/-- The names of a category or a group of categories, and the categories in it. -/
def names : List (List String × List String) :=
  [(["l", "letter"], ["Lu", "Ll", "Lt", "Lm", "Lo"]),
    (["lc", "casedletter"], ["Lu", "Ll", "Lt"]), (["lu", "uppercaseletter"], ["Lu"]),
    (["ll", "lowercaseletter"], ["Ll"]), (["lt", "titlecaseletter"], ["Lt"]),
    (["lm", "modifierletter"], ["Lm"]), (["lo", "otherletter"], ["Lo"]),
    (["m", "mark", "combiningmark"], ["Mn", "Mc", "Me"]), (["mn", "nonspacingmark"], ["Mn"]),
    (["mc", "spacingmark"], ["Mc"]), (["me", "enclosingmark"], ["Me"]),
    (["n", "number"], ["Nd", "Nl", "No"]), (["nd", "decimalnumber", "digit"], ["Nd"]),
    (["nl", "letternumber"], ["Nl"]), (["no", "othernumber"], ["No"]),
    (["p", "punctuation", "punct"], ["Pc", "Pd", "Ps", "Pe", "Pi", "Pf", "Po"]),
    (["pc", "connectorpunctuation"], ["Pc"]), (["pd", "dashpunctuation"], ["Pd"]),
    (["ps", "openpunctuation"], ["Ps"]), (["pe", "closepunctuation"], ["Pe"]),
    (["pi", "initialpunctuation"], ["Pi"]), (["pf", "finalpunctuation"], ["Pf"]),
    (["po", "otherpunctuation"], ["Po"]), (["s", "symbol"], ["Sm", "Sc", "Sk", "So"]),
    (["sm", "mathsymbol"], ["Sm"]), (["sc", "currencysymbol"], ["Sc"]),
    (["sk", "modifiersymbol"], ["Sk"]), (["so", "othersymbol"], ["So"]),
    (["z", "separator"], ["Zs", "Zl", "Zp"]), (["zs", "spaceseparator"], ["Zs"]),
    (["zl", "lineseparator"], ["Zl"]), (["zp", "paragraphseparator"], ["Zp"]),
    (["cc", "control", "cntrl"], ["Cc"]), (["cf", "format"], ["Cf"]),
    (["co", "privateuse"], ["Co"])]

/-- The set of a category by a name in normal form. Surrogates have no set. -/
def named? (name : String) : Option CodeSet :=
  match name with
  | "any" => some .full
  | "ascii" => some .ascii
  | "assigned" => some assigned
  | "cn" | "unassigned" => some unassigned
  | "c" | "other" => some ((sets ["Cc", "Cf", "Co"]).union unassigned)
  | name => (names.find? (·.1.contains name)).map fun row => sets row.2

end Category

/-! ## Properties -/

namespace Property

def normalize (name : List Char) : String :=
  let isPrefixed := name.take 2 |>.map Char.toLower |> (· == ['i', 's'])
  let letters := (if isPrefixed then name.drop 2 else name).filter fun c =>
    c.toNat < 128 && !(c == ' ' || c == '_' || c == '-')
  let normal := String.ofList (letters.map Char.toLower)
  if isPrefixed && normal == "c" then "isc" else normal

def listed (name : String) : CodeSet :=
  ((propertyTable.find? (·.1 = name)).map fun row => CodeSet.ofText row.2.2).getD .empty

def alphabetic : CodeSet :=
  (Category.sets ["Lu", "Ll", "Lt", "Lm", "Lo", "Nl"]).union (listed "Other_Alphabetic")

def lowercase : CodeSet := (Category.sets ["Ll"]).union (listed "Other_Lowercase")

def uppercase : CodeSet := (Category.sets ["Lu"]).union (listed "Other_Uppercase")

def cased : CodeSet := .unions [lowercase, uppercase, Category.sets ["Lt"]]

def math : CodeSet := (Category.sets ["Sm"]).union (listed "Other_Math")

/-- What stands between letters without parting them. -/
def caseIgnorable : CodeSet :=
  (Category.sets ["Mn", "Me", "Cf", "Lm", "Sk"]).union
    (.ofText "27 2E 3A B7 387 55F 5F4 2018-2019 2024 2027 FE13 FE52 FE55 FF07 FF0E FF1A")

def changesWhenCasemapped : CodeSet :=
  .unions [listed "Changes_When_Lowercased", listed "Changes_When_Uppercased",
    listed "Changes_When_Titlecased"]

def graphemeExtend : CodeSet := (Category.sets ["Mn", "Me"]).union (listed "Other_Grapheme_Extend")

def graphemeBase : CodeSet :=
  (Category.assigned.diff (Category.sets ["Cc", "Cf", "Co", "Zl", "Zp"])).diff graphemeExtend

def patternCharacters : CodeSet :=
  (listed "Pattern_Syntax").union (listed "Pattern_White_Space")

def idStart : CodeSet :=
  ((Category.sets ["Lu", "Ll", "Lt", "Lm", "Lo", "Nl"]).union
    (listed "Other_ID_Start")).diff patternCharacters

def idContinue : CodeSet :=
  (CodeSet.unions [idStart, Category.sets ["Mn", "Mc", "Nd", "Pc"],
    listed "Other_ID_Continue"]).diff patternCharacters

def xidStart : CodeSet :=
  idStart.diff (.ofText "37A E33 EB3 309B-309C FC5E-FC63 FDFA-FDFB FE70-FE7E/2 FF9E-FF9F")

def xidContinue : CodeSet :=
  idContinue.diff (.ofText "37A 309B-309C FC5E-FC63 FDFA-FDFB FE70-FE7E/2")

def ofName? (name : String) : Option CodeSet :=
  match name with
  | "alphabetic" | "alpha" => some alphabetic
  | "lowercase" | "lower" => some lowercase
  | "uppercase" | "upper" => some uppercase
  | "cased" => some cased
  | "math" => some math
  | "caseignorable" | "ci" => some caseIgnorable
  | "changeswhencasemapped" | "cwcm" => some changesWhenCasemapped
  | "graphemebase" | "grbase" => some graphemeBase
  | "graphemeextend" | "grext" => some graphemeExtend
  | "idstart" | "ids" => some idStart
  | "idcontinue" | "idc" => some idContinue
  | "xidstart" | "xids" => some xidStart
  | "xidcontinue" | "xidc" => some xidContinue
  | "space" => some (listed "White_Space")
  | name =>
    (propertyTable.find? fun row =>
      normalize row.1.toList == name || normalize row.2.1.toList == name).map fun row =>
        CodeSet.ofText row.2.2

end Property

/-! ## Scripts and ages -/

namespace Script

def canonical? (name : String) : Option String :=
  match name with
  | "qaac" => some "Copt"
  | "qaai" => some "Zinh"
  | name =>
    (scriptTable.find? fun row =>
      Property.normalize row.1.toList == name || Property.normalize row.2.1.toList == name).map
        (·.1)

def set (short : String) : CodeSet :=
  ((scriptTable.find? (·.1 = short)).map fun row => CodeSet.ofText row.2.2).getD .empty

/-- The code points of a script and those that it shares with others, by its short name. -/
def extension (short : String) : CodeSet :=
  (set short).symmDiff
    (((extensionTable.find? (·.1 = short)).map fun row => CodeSet.ofText row.2).getD .empty)

end Script

/-- The code points up to a version, by its name in normal form: the number, or `v` and the number
without its point. -/
def ageNamed? (name : String) : Option CodeSet :=
  let isMeant (version : String) : Bool :=
    version == name || "v" ++ String.ofList (version.toList.filter (· != '.')) == name
  if ageTable.any fun row => isMeant row.1 then
    some (.ofRanges ((ageTable.takeWhile fun row => !isMeant row.1).flatMap (fun row =>
      (CodeSet.ofText row.2).ranges) ++
        ((ageTable.find? fun row => isMeant row.1).map fun row =>
          (CodeSet.ofText row.2).ranges).getD []))
  else none

end RecordFilter.Character
