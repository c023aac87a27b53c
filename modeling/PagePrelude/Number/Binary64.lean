/-!
# Binary floating point numbers of 64 bits

A finite number is kept as its sign, significand and exponent, and every operation
is exact arithmetic on natural numbers followed by one rounding to the nearest
number, a tie going to the even significand.
-/

namespace PagePrelude

/-- `significand * 2 ^ exponent`, negated where `negative` says so. The significand is below
`2 ^ 53`, and it is at least `2 ^ 52` unless the exponent is the least one, `-1074`. -/
structure Binary64 where
  negative : Bool
  significand : Nat
  exponent : Int
  deriving DecidableEq, Repr, Inhabited

namespace Binary64

/-- Positive zero. -/
def zero : Binary64 := ⟨false, 0, -1074⟩

/-- The quotient rounded to the nearest natural number, a tie going to the even one. -/
def roundQuotient (num den : Nat) : Nat :=
  let below := num / den
  let twice := 2 * (num % den)
  if twice < den then below
  else if den < twice then below + 1
  else below + below % 2

/-- Numerator and denominator of `num / den / 2 ^ shift`. -/
def shiftRatio (num den : Nat) (shift : Int) : Nat × Nat :=
  if 0 ≤ shift then (num, den * Nat.pow 2 shift.toNat)
  else (num * Nat.pow 2 (-shift).toNat, den)

/-- The positive number nearest to `num / den`, or nothing where that is beyond the largest one. -/
def ofRatio (num den : Nat) : Option Binary64 :=
  if num = 0 then some zero
  else
    let guess : Int := (Nat.log2 num : Int) - (Nat.log2 den : Int) - 53
    let (n, d) := shiftRatio num den guess
    let fitted := max (if n / d < Nat.pow 2 53 then guess else guess + 1) (-1074)
    let (n, d) := shiftRatio num den fitted
    let rounded := roundQuotient n d
    let (significand, exponent) :=
      if rounded = Nat.pow 2 53 then (Nat.pow 2 52, fitted + 1) else (rounded, fitted)
    if 971 < exponent then none else some ⟨false, significand, exponent⟩

/-- Numerator and denominator of the magnitude. -/
def ratio (x : Binary64) : Nat × Nat :=
  if 0 ≤ x.exponent then (x.significand * Nat.pow 2 x.exponent.toNat, 1)
  else (x.significand, Nat.pow 2 (-x.exponent).toNat)

/-- The rounded product of the magnitudes. -/
def mul (x y : Binary64) : Option Binary64 :=
  ofRatio (x.ratio.1 * y.ratio.1) (x.ratio.2 * y.ratio.2)

/-- The rounded quotient of the magnitudes; the second must not be zero. -/
def div (x y : Binary64) : Option Binary64 :=
  ofRatio (x.ratio.1 * y.ratio.2) (x.ratio.2 * y.ratio.1)

/-- The same number with a given sign. -/
def withSign (negative : Bool) (x : Binary64) : Binary64 :=
  { x with negative := negative }

/-- The number nearest to `digits * 10 ^ exponent`. -/
def ofDecimal (digits : Nat) (exponent : Int) : Option Binary64 :=
  if 0 ≤ exponent then ofRatio (digits * Nat.pow 10 exponent.toNat) 1
  else ofRatio digits (Nat.pow 10 (-exponent).toNat)

end Binary64

end PagePrelude
