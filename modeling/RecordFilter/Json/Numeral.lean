import RecordFilter.Json.Basic
import RecordFilter.Number.Decimal

/-!
# JSON number texts

`Numeral.take` reads a number off the front of a text by the JSON grammar; `Numeral.value?` is what
it stands for. A whole number that fits 64 bits stands for itself. Any other number is read as a
significand of at most 64 bits — later digits only count towards the power of ten — which is taken
to the nearest binary64 number and then scaled by a power of ten, rounding once more.
-/

namespace RecordFilter.Json

open Number

structure Numeral where
  negative : Bool
  whole : List Char
  /-- The digits after the point, if there is one. -/
  fraction : Option (List Char)
  /-- The sign and the digits of the exponent, if there is one. -/
  exponent : Option (Bool × List Char)
deriving DecidableEq, Repr

namespace Numeral

/-- The fraction at the front of a text: a point needs digits after it. -/
def takeFraction : List Char → Option (Option (List Char) × List Char)
  | '.' :: cs =>
    let (digits, rest) := takeDigits cs
    if digits.isEmpty then none else some (some digits, rest)
  | cs => some (none, cs)

def takeExponent : List Char → Option (Option (Bool × List Char) × List Char)
  | c :: cs =>
    if c = 'e' ∨ c = 'E' then
      let (negative, cs) := takeSign cs
      let (digits, rest) := takeDigits cs
      if digits.isEmpty then none else some (some (negative, digits), rest)
    else some (none, c :: cs)
  | [] => some (none, [])

/-- The whole part at the front of a text: no zero stands before another digit. -/
def takeWhole (cs : List Char) : Option (List Char × List Char) :=
  let (digits, rest) := takeDigits cs
  match digits with
  | [] => none
  | '0' :: _ :: _ => none
  | _ => some (digits, rest)

def take (cs : List Char) : Option (Numeral × List Char) :=
  let (negative, cs) :=
    match cs with
    | '-' :: cs => (true, cs)
    | cs => (false, cs)
  (takeWhole cs).bind fun (whole, cs) =>
    (takeFraction cs).bind fun (fraction, cs) =>
      (takeExponent cs).map fun (exponent, cs) => (⟨negative, whole, fraction, exponent⟩, cs)

/-- Appends digits to a significand as long as it stays below `2 ^ 64`; the digits that no longer
fit are returned. -/
def fill (significand : Nat) : List Char → Nat × List Char
  | [] => (significand, [])
  | c :: cs =>
    let next := 10 * significand + digitValue c
    if next < UInt64.size then fill next cs else (significand, c :: cs)

def powerOfTen (k : Nat) : Binary64 := (Binary64.round false (Nat.pow 10 k) 1).getD .zero

/-- Scales a number by a power of ten. Powers below `10 ^ -308` are divided out in steps, of which
`steps` are left; `none` past the largest finite number. -/
def scaled (x : Binary64) (k : Int) : Nat → Option Binary64
  | 0 => some { Binary64.zero with negative := x.negative }
  | steps + 1 =>
    if 0 ≤ k then
      if k ≤ 308 then x.mul (powerOfTen k.toNat) else if x.isZero then some x else none
    else if -308 ≤ k then x.div (powerOfTen (-k).toNat)
    else if x.isZero then some x
    else (x.div (powerOfTen 308)).bind fun y => scaled y (k + 308) steps

def exponentValue (e : Bool × List Char) : Option Int :=
  let n := ofDigits e.2
  if n < UInt32.size / 2 then some (if e.1 then -(n : Int) else n) else none

def real? (n : Numeral) : Option Binary64 :=
  let (s, dropped) := fill 0 n.whole
  let fraction := n.fraction.getD []
  let (s, rest) := fill s fraction
  let k : Int := (dropped.length : Int) - ((fraction.length - rest.length : Nat) : Int)
  let magnitude :=
    match n.exponent with
    | none => scaled (Binary64.ofNat s) k 4
    | some e =>
      match exponentValue e with
      | some x => scaled (Binary64.ofNat s) (k + x) 4
      | none => if s = 0 ∨ e.1 then some Binary64.zero else none
  magnitude.map fun x => { x with negative := n.negative }

def value? (n : Numeral) : Option Numeric :=
  let whole := ofDigits n.whole
  if n.fraction.isNone && n.exponent.isNone && !n.negative && whole < UInt64.size then
    some (.int whole)
  else if n.fraction.isNone && n.exponent.isNone && n.negative && 0 < whole &&
      whole ≤ UInt64.size / 2 then
    some (.int (-(whole : Int)))
  else n.real?.map .real

end Numeral

end RecordFilter.Json
