/-!
# Rounding to binary fractions

Decimals are kept as they were written, but two questions about them are answered for the binary
fraction of 64 bits that they stand for: whether it exists, and which one it is.  All arithmetic is
on natural numbers.

* `BinaryFraction.ofRatio?` rounds a quotient to the nearest binary fraction, a half to the even
  neighbour; there is none for quotients that are too large.
* `BinaryFraction.ofDecimal?` is the fraction of `significand * 10 ^ exponent`, reached by
  rounding the significand, rounding the power of ten, and rounding their product or quotient.
-/

namespace CommandTree

/-- The number `mantissa * 2 ^ exponent`. -/
structure BinaryFraction where
  /-- The digits, below `2 ^ 53`. -/
  mantissa : Nat
  /-- The weight of the last digit, between `-1074` and `971`. -/
  exponent : Int
  deriving DecidableEq, Repr

/-- The natural number nearest to a quotient, a half going to the even neighbour. -/
def roundQuotient (num den : Nat) : Nat :=
  let floor := num / den
  let twice := 2 * (num % den)
  if den < twice || (twice == den && floor % 2 == 1) then floor + 1 else floor

/-- A power of two. -/
def powerOfTwo (exponent : Nat) : Nat :=
  Nat.pow 2 exponent

/-- A power of ten. -/
def powerOfTen (exponent : Nat) : Nat :=
  Nat.pow 10 exponent

namespace BinaryFraction

/-- The quotient of two numbers after division by `2 ^ exponent`, as a quotient again. -/
def scale (num den : Nat) (exponent : Int) : Nat × Nat :=
  if exponent < 0 then (num * powerOfTwo (-exponent).toNat, den)
  else (num, den * powerOfTwo exponent.toNat)

/-- The weight of the last of 53 digits of a quotient, but not below the smallest weight. -/
def weight (num den : Nat) : Int :=
  let guess : Int := num.log2 - den.log2 - 52
  let (num', den') := scale num den guess
  max (if num' < powerOfTwo 52 * den' then guess - 1 else guess) (-1074)

/-- The fraction nearest to `num / den`, if it is finite. -/
def ofRatio? (num den : Nat) : Option BinaryFraction :=
  if num = 0 then some ⟨0, -1074⟩
  else
    let exponent := weight num den
    let (num', den') := scale num den exponent
    let mantissa := roundQuotient num' den'
    let rounded : BinaryFraction :=
      if mantissa = powerOfTwo 53 then ⟨powerOfTwo 52, exponent + 1⟩ else ⟨mantissa, exponent⟩
    if 971 < rounded.exponent then none else some rounded

/-- A fraction as a quotient of natural numbers. -/
def ratio (x : BinaryFraction) : Nat × Nat :=
  if x.exponent < 0 then (x.mantissa, powerOfTwo (-x.exponent).toNat)
  else (x.mantissa * powerOfTwo x.exponent.toNat, 1)

/-- The product of two fractions, rounded. -/
def mul? (x y : BinaryFraction) : Option BinaryFraction :=
  let (a, b) := x.ratio
  let (c, d) := y.ratio
  ofRatio? (a * c) (b * d)

/-- The quotient of two fractions, rounded. -/
def div? (x y : BinaryFraction) : Option BinaryFraction :=
  let (a, b) := x.ratio
  let (c, d) := y.ratio
  ofRatio? (a * d) (b * c)

/-- The largest power of ten that is a finite fraction. -/
def greatestPowerOfTen : Nat := 308

/-- Divides by `10 ^ power`, in steps that are finite fractions themselves. -/
def divPowerOfTen? (x : BinaryFraction) (power : Nat) : Option BinaryFraction :=
  if x.mantissa = 0 then some x
  else if power ≤ greatestPowerOfTen then (ofRatio? (powerOfTen power) 1).bind x.div?
  else do
    let step ← ofRatio? (powerOfTen greatestPowerOfTen) 1
    (← x.div? step).divPowerOfTen? (power - greatestPowerOfTen)
termination_by power
decreasing_by simp [greatestPowerOfTen] at *; omega

/-- The fraction of `significand * 10 ^ exponent`, if it is finite. -/
def ofDecimal? (significand : Nat) (exponent : Int) : Option BinaryFraction := do
  let x ← ofRatio? significand 1
  if exponent < 0 then x.divPowerOfTen? (-exponent).toNat
  else if exponent ≤ greatestPowerOfTen then x.mul? (← ofRatio? (powerOfTen exponent.toNat) 1)
  else if significand = 0 then some x
  else none

end BinaryFraction

end CommandTree
