import RecordFilter.Number.Binary64

/-!
# Shortest decimal text

`Binary64.shortest` finds the fewest decimal digits that still single a number out: of the decimal
grids with 1, 2, … 17 digits it takes the first with a point in the interval of reals that round
to the number, and there the point nearest to the number. `Binary64.text` writes those digits,
positionally for magnitudes from `10 ^ -5` up to `10 ^ 16` and with an exponent beyond.
-/

namespace RecordFilter.Number

namespace Binary64

/-- The magnitude as a ratio, in quarters of a unit of the last place: `value / scale`. -/
structure Spread where
  /-- Four times the significand, scaled. -/
  value : Nat
  /-- The lower end of the reals that round to the number. -/
  low : Nat
  /-- The upper end. -/
  high : Nat
  /-- The common denominator. -/
  scale : Nat

/-- The number and the ends of its rounding interval over one denominator. The interval is half
as wide below a power of two. -/
def spread (x : Binary64) : Spread :=
  let e := x.exponent - 2
  let unit := if 0 ≤ e then Nat.pow 2 e.toNat else 1
  let scale := if 0 ≤ e then 1 else Nat.pow 2 (-e).toNat
  let below := if x.significand = Nat.pow 2 52 ∧ -1074 < x.exponent then 1 else 2
  { value := 4 * x.significand * unit
    low := (4 * x.significand - below) * unit
    high := (4 * x.significand + 2) * unit
    scale := scale }

/-- Whether `num / den` rounds to the number: the ends count iff the significand is even. -/
def covers (x : Binary64) (num den : Nat) : Bool :=
  let s := x.spread
  if x.significand % 2 = 0 then s.low * den ≤ num * s.scale && num * s.scale ≤ s.high * den
  else s.low * den < num * s.scale && num * s.scale < s.high * den

def reaches (x : Binary64) (k : Int) : Bool :=
  let s := x.spread
  if 0 ≤ k then Nat.pow 10 k.toNat * s.scale ≤ s.value
  else s.scale ≤ s.value * Nat.pow 10 (-k).toNat

def leading (x : Binary64) : Int :=
  let guess := (((x.significand.log2 : Int) + x.exponent) * 30103).fdiv 100000
  if x.reaches (guess + 1) then guess + 1 else if x.reaches guess then guess else guess - 1

/-- The point of the grid `10 ^ k` that singles the number out, if there is one: of the two
neighbours in the interval the nearer, of two equally near the even one. -/
def gridPoint (x : Binary64) (k : Int) : Option Nat :=
  let s := x.spread
  let up := if 0 ≤ k then Nat.pow 10 k.toNat else 1
  let down := if 0 ≤ k then 1 else Nat.pow 10 (-k).toNat
  let den := s.scale * up
  let d := s.value * down / den
  let r := s.value * down % den
  let hits := fun n => x.covers (n * up) down
  let nearDown := 2 * r < den || (2 * r == den && d % 2 == 0)
  match hits d, hits (d + 1) with
  | true, true => some (if nearDown then d else d + 1)
  | true, false => some d
  | false, true => some (d + 1)
  | false, false => none

/-- The first grid with a point, from `count` digits on; at most `fuel` grids are tried. -/
def firstPoint (x : Binary64) (lead : Int) : Nat → Nat → Nat × Int
  | 0, _ => (0, 0)
  | fuel + 1, count =>
    let k := lead - (count - 1 : Int)
    match x.gridPoint k with
    | some d => (d, k)
    | none => firstPoint x lead fuel (count + 1)

def stripZeros : Nat → Nat → Nat × Nat
  | 0, n => (n, 0)
  | fuel + 1, n =>
    if n % 10 = 0 ∧ n ≠ 0 then
      let (m, z) := stripZeros fuel (n / 10)
      (m, z + 1)
    else (n, 0)

/-- The fewest digits that single the number out, and the exponent of the last of them. -/
def shortest (x : Binary64) : Nat × Int :=
  let (d, k) := x.firstPoint x.leading 17 1
  let (m, z) := stripZeros 17 d
  (m, k + z)

def layout (digits : List Char) (k : Int) : List Char :=
  let lead := k + digits.length - 1
  if -5 ≤ lead ∧ lead < 16 then
    if 0 ≤ k then digits ++ List.replicate k.toNat '0' ++ ['.', '0']
    else if 0 ≤ lead then
      let before := (lead + 1).toNat
      digits.take before ++ '.' :: digits.drop before
    else '0' :: '.' :: (List.replicate (-lead - 1).toNat '0' ++ digits)
  else
    let sign := if 0 ≤ lead then '+' else '-'
    let first := digits.take 1
    let rest := digits.drop 1
    first ++ (if rest.isEmpty then [] else '.' :: rest) ++ 'e' :: sign ::
      Nat.toDigits 10 lead.natAbs

def text (x : Binary64) : List Char :=
  let body :=
    if x.isZero then ['0', '.', '0']
    else
      let (d, k) := x.shortest
      layout (Nat.toDigits 10 d) k
  if x.negative then '-' :: body else body

end Binary64

end RecordFilter.Number
