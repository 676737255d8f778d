/-!
# Patterns of texts

In a pattern of SQL's `LIKE` a percent sign stands for any text and an underscore for any
character; a backslash takes the meaning from the character after it. `containing` makes a text
into the pattern of the texts that contain it, unless it is a pattern already.
-/

namespace RecordFilter.Wildcard

def isSpecial (c : Char) : Bool := c == '\\' || c == '%' || c == '_'

/-- Whether a percent sign stands in a text without a backslash that takes its meaning. -/
def hasWildcard : List Char → Bool
  | [] => false
  | '\\' :: cs =>
    match cs with
    | [] => false
    | _ :: rest => hasWildcard rest
  | c :: cs => c == '%' || hasWildcard cs

/-- A text with a backslash before every special character that has none. -/
def escape : List Char → List Char
  | [] => []
  | '\\' :: cs =>
    match cs with
    | [] => ['\\', '\\']
    | c :: rest =>
      if isSpecial c then '\\' :: c :: escape rest else '\\' :: '\\' :: c :: escape rest
  | c :: cs => if isSpecial c then '\\' :: c :: escape cs else c :: escape cs

def containing (s : List Char) : List Char :=
  if hasWildcard s then s else '%' :: escape s ++ ['%']

/-- A pattern made from a text has a wildcard, so it is left alone from then on. -/
theorem hasWildcard_containing (s : List Char) : hasWildcard (containing s) = true := by
  unfold containing
  split
  · assumption
  · simp [hasWildcard]

end RecordFilter.Wildcard
