import CommandTree.Decimal.Binary

/-!
# The shortest decimal of a binary fraction

A binary fraction is written with the fewest digits from which rounding finds it again.  Of the
decimals with that many digits the nearest is taken, the larger one of two that are equally near.

* `BinaryFraction.shortest` is that decimal as digits and the place of the point.
-/

namespace CommandTree

namespace BinaryFraction

/-- The numbers that round to a positive fraction: their bounds and the fraction itself over one
denominator, and whether the bounds belong to them. -/
structure Interval where
  /-- The numerator of the lower bound. -/
  low : Nat
  /-- The numerator of the fraction itself. -/
  mid : Nat
  /-- The numerator of the upper bound. -/
  high : Nat
  /-- The common denominator. -/
  den : Nat
  /-- Whether the bounds round to the fraction as well. -/
  closed : Bool

/-- The numbers that round to a positive fraction: half a unit of the last digit on either side,
and a quarter below a power of two, where the digits are twice as dense. -/
def interval (x : BinaryFraction) : Interval :=
  let (num, den) := x.ratio
  let unit := if x.exponent < 0 then 1 else powerOfTwo x.exponent.toNat
  let below := if x.mantissa = powerOfTwo 52 ∧ -1074 < x.exponent then 1 else 2
  ⟨4 * num - below * unit, 4 * num, 4 * num + 2 * unit, 4 * den, x.mantissa % 2 == 0⟩

/-- Whether the decimal `digits * num / den` lies in an interval. -/
def Interval.contains (i : Interval) (digits num den : Nat) : Bool :=
  let value := digits * num * i.den
  if i.closed then i.low * den ≤ value && value ≤ i.high * den
  else i.low * den < value && value < i.high * den

/-- The power of ten that divides the digits before the point from those after it: the least
`point` with `mid / den < 10 ^ point`, searched from above in at most `fuel` steps. -/
def Interval.point (i : Interval) : (fuel : Nat) → (point : Int) → Int
  | 0, point => point
  | fuel + 1, point =>
    let next := point - 1
    let fits := if next < 0 then i.mid * powerOfTen (-next).toNat < i.den
      else i.mid < i.den * powerOfTen next.toNat
    if fits then i.point fuel next else point

/-- The digits of the nearest decimal with `count` digits, if one lies in the interval; if none
does, that with one more digit, up to 17. -/
def Interval.digits (i : Interval) (point : Int) : (fuel count : Nat) → Nat × Nat
  | 0, count => (0, count)
  | fuel + 1, count =>
    let grid := point - count
    let (num, den) := if grid < 0 then (1, powerOfTen (-grid).toNat)
      else (powerOfTen grid.toNat, 1)
    let lower := i.mid * den / (i.den * num)
    let isLower := i.contains lower num den
    let isUpper := i.contains (lower + 1) num den
    let up := i.den * num ≤ 2 * (i.mid * den - lower * (i.den * num))
    if isUpper && (up || !isLower) then (lower + 1, count)
    else if isLower then (lower, count)
    else i.digits point fuel (count + 1)

/-- The digits of the shortest decimal of a positive fraction and the number of them that stand
before the point, which is negative if zeros follow the point. -/
def shortest (x : BinaryFraction) : List Char × Int :=
  let i := x.interval
  let point := i.point 700 310
  let (digits, count) := i.digits point 18 1
  let text := Nat.toDigits 10 digits
  (text, point + (text.length - count))

end BinaryFraction

end CommandTree
