/-!
# Finite binary64 numbers

A `Binary64` is a sign, a significand and a power of two. `round` takes a ratio of naturals to the
nearest one, a half to the even significand, and every operation here rounds exactly once, so each
is the exact result rounded. A result beyond the largest finite number is `none`.
-/

namespace RecordFilter.Number

/-- A finite number `± significand · 2 ^ exponent`, with `significand < 2 ^ 53` and
`-1074 ≤ exponent ≤ 971`; below `2 ^ 52` the exponent is the least one. -/
structure Binary64 where
  negative : Bool
  significand : Nat
  exponent : Int
deriving DecidableEq, Repr, Inhabited

/-- The quotient rounded to the nearest natural, a half to the even one. -/
def roundDiv (num den : Nat) : Nat :=
  let q := num / den
  let r := num % den
  if 2 * r < den then q else if den < 2 * r then q + 1 else q + q % 2

namespace Binary64

def zero : Binary64 := ⟨false, 0, -1074⟩

def isZero (x : Binary64) : Bool := x.significand == 0

def neg (x : Binary64) : Binary64 := { x with negative := !x.negative }

/-- The exponent at which `num / den` has a significand of 53 bits, or the least exponent. -/
def exponentOf (num den : Nat) : Int :=
  let k : Int := (num.log2 : Int) - (den.log2 : Int)
  let reached := if 0 ≤ k then den * Nat.pow 2 k.toNat ≤ num else den ≤ num * Nat.pow 2 (-k).toNat
  max (if reached then k - 52 else k - 53) (-1074)

/-- The magnitude nearest to `num / den`; `none` beyond the largest finite number. -/
def round (negative : Bool) (num den : Nat) : Option Binary64 :=
  if num = 0 then some ⟨negative, 0, -1074⟩
  else
    let e := exponentOf num den
    let m :=
      if 0 ≤ e then roundDiv num (den * Nat.pow 2 e.toNat)
      else roundDiv (num * Nat.pow 2 (-e).toNat) den
    let x : Binary64 :=
      if m = Nat.pow 2 53 then ⟨negative, Nat.pow 2 52, e + 1⟩ else ⟨negative, m, e⟩
    if x.exponent ≤ 971 then some x else none

def roundShifted (negative : Bool) (num den : Nat) (shift : Int) : Option Binary64 :=
  if 0 ≤ shift then round negative (num * Nat.pow 2 shift.toNat) den
  else round negative num (den * Nat.pow 2 (-shift).toNat)

/-- The number nearest to a natural; naturals of at most 64 bits always have one. -/
def ofNat (n : Nat) : Binary64 := (round false n 1).getD zero

def ofInt (n : Int) : Binary64 :=
  if n < 0 then (ofNat n.natAbs).neg else ofNat n.natAbs

/-- The number nearest to `± digits · 10 ^ scale`. Scales that leave no doubt are not computed:
past `10 ^ 310` the number is too large, and below `10 ^ -400` it is zero. -/
def ofDecimal (negative : Bool) (digits : Nat) (scale : Int) : Option Binary64 :=
  let places : Int := (Nat.toDigits 10 digits).length
  if digits = 0 ∨ scale + places < -400 then some ⟨negative, 0, -1074⟩
  else if 400 < scale + places then none
  else if 0 ≤ scale then round negative (digits * Nat.pow 10 scale.toNat) 1
  else round negative digits (Nat.pow 10 (-scale).toNat)

def mul (x y : Binary64) : Option Binary64 :=
  roundShifted (x.negative != y.negative) (x.significand * y.significand) 1
    (x.exponent + y.exponent)

/-- The rounded quotient; the divisor is not zero. -/
def div (x y : Binary64) : Option Binary64 :=
  roundShifted (x.negative != y.negative) x.significand y.significand (x.exponent - y.exponent)

def isWhole (x : Binary64) : Bool :=
  if 0 ≤ x.exponent then true else x.significand % Nat.pow 2 (-x.exponent).toNat == 0

def whole (x : Binary64) : Int :=
  let n := if 0 ≤ x.exponent then x.significand * Nat.pow 2 x.exponent.toNat
    else x.significand / Nat.pow 2 (-x.exponent).toNat
  if x.negative then -(n : Int) else n

end Binary64

end RecordFilter.Number
