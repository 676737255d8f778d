import RecordFilter.Number.Decimal
import RecordFilter.Text.Blank
import RecordFilter.Time.Moment

/-!
# Reading moments

`Moment.ofText?` tries the forms in which a moment may be submitted, one after the other: with an
offset from UTC, in the stored form with or without its final `Z`, with a `T` between date and
time, and a date alone. In the forms without an offset blanks may stand before a number and in
place of the blank between date and time, and leading zeros may be left out.
-/

namespace RecordFilter.Time

open Number

/-- The number that at least `low` and at most `high` leading digits write. -/
def takeNumber (low high : Nat) (cs : List Char) : Option (Nat × List Char) :=
  let digits := (cs.take high).takeWhile Char.isDigit
  if digits.length < low then none else some (ofDigits digits, cs.drop digits.length)

def takeChar (c : Char) : List Char → Option (List Char)
  | d :: cs => if d = c then some cs else none
  | [] => none

/-- A fraction of a second in nanoseconds; digits past the ninth do not count. -/
def takeFraction : List Char → Option (Nat × List Char)
  | '.' :: cs =>
    let digits := (cs.take 9).takeWhile Char.isDigit
    if digits.isEmpty then none
    else some (ofDigits digits * Nat.pow 10 (9 - digits.length), cs.dropWhile Char.isDigit)
  | cs => some (0, cs)

def Moment.at? (date : Date) (hour minute second nanosecond : Nat) : Option Moment :=
  if hour < 24 && minute < 60 && second ≤ 60 then some ⟨date, hour, minute, second, nanosecond⟩
  else none

/-! ## With an offset -/

/-- An offset in minutes east of UTC: `Z`, or a sign, two digits of hours and two of minutes. -/
def takeOffset : List Char → Option (Int × List Char)
  | [] => none
  | c :: cs =>
    if c = 'Z' ∨ c = 'z' then some (0, cs)
    else if c = '+' ∨ c = '-' ∨ c = '−' then
      (takeNumber 2 2 cs).bind fun (hours, cs) => (takeChar ':' cs).bind fun cs =>
        (takeNumber 2 2 cs).bind fun (minutes, cs) =>
          if minutes < 60 ∧ hours < 24 then
            let east : Int := (hours * 60 + minutes : Nat)
            some (if c = '+' then east else -east, cs)
          else none
    else none

/-- A moment with an offset from UTC, every part in full width. -/
def readOffset (cs : List Char) : Option Moment :=
  (takeNumber 4 4 cs).bind fun (year, cs) => (takeChar '-' cs).bind fun cs =>
  (takeNumber 2 2 cs).bind fun (month, cs) => (takeChar '-' cs).bind fun cs =>
  (takeNumber 2 2 cs).bind fun (day, cs) =>
    match cs with
    | c :: cs =>
      if c = 'T' ∨ c = 't' ∨ c = ' ' then
        (takeNumber 2 2 cs).bind fun (hour, cs) => (takeChar ':' cs).bind fun cs =>
        (takeNumber 2 2 cs).bind fun (minute, cs) => (takeChar ':' cs).bind fun cs =>
        (takeNumber 2 2 cs).bind fun (second, cs) =>
        (takeFraction cs).bind fun (nanosecond, cs) =>
        (takeOffset cs).bind fun (east, rest) =>
          if rest.isEmpty then
            (Date.of? year month day).bind fun date =>
              (Moment.at? date hour minute second nanosecond).map (·.toUtc east)
          else none
      else none
    | [] => none

/-! ## Without an offset -/

/-- A year after blanks: up to four digits, or any number of them after a sign. -/
def takeYear (cs : List Char) : Option (Int × List Char) :=
  match Text.trimLeft cs with
  | '-' :: cs => (takeNumber 1 cs.length cs).map fun (n, cs) => (-(n : Int), cs)
  | '+' :: cs => (takeNumber 1 cs.length cs).map fun (n, cs) => ((n : Int), cs)
  | cs => (takeNumber 1 4 cs).map fun (n, cs) => ((n : Int), cs)

def takePart (cs : List Char) : Option (Nat × List Char) := takeNumber 1 2 (Text.trimLeft cs)

def takeDate (cs : List Char) : Option (Date × List Char) :=
  (takeYear cs).bind fun (year, cs) => (takeChar '-' cs).bind fun cs =>
  (takePart cs).bind fun (month, cs) => (takeChar '-' cs).bind fun cs =>
  (takePart cs).bind fun (day, cs) => (Date.of? year month day).map fun date => (date, cs)

def takeTime (date : Date) (cs : List Char) : Option (Moment × List Char) :=
  (takePart cs).bind fun (hour, cs) => (takeChar ':' cs).bind fun cs =>
  (takePart cs).bind fun (minute, cs) => (takeChar ':' cs).bind fun cs =>
  (takePart cs).bind fun (second, cs) => (takeFraction cs).bind fun (nanosecond, cs) =>
    (Moment.at? date hour minute second nanosecond).map fun m => (m, cs)

def readSpaced (ending cs : List Char) : Option Moment :=
  (takeDate cs).bind fun (date, cs) => (takeTime date (Text.trimLeft cs)).bind fun (m, cs) =>
    if cs = ending then some m else none

def readJoined (cs : List Char) : Option Moment :=
  (takeDate cs).bind fun (date, cs) => (takeChar 'T' cs).bind fun cs =>
    (takeTime date cs).bind fun (m, cs) => if cs.isEmpty then some m else none

/-- A date alone, which stands for its first moment. -/
def readDate (cs : List Char) : Option Moment :=
  (takeDate cs).bind fun (date, cs) => if cs.isEmpty then some ⟨date, 0, 0, 0, 0⟩ else none

def Moment.ofText? (cs : List Char) : Option Moment :=
  (readOffset cs).or <| (readSpaced ['Z'] cs).or <| (readSpaced [] cs).or <|
    (readJoined cs).or (readDate cs)

def normalize? (s : String) : Option String :=
  (Moment.ofText? (Text.trim s.toList)).map fun m => String.ofList m.text

end RecordFilter.Time
