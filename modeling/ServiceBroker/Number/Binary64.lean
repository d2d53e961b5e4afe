/-!
Finite binary64 numbers as exact integers: a sign, a significand and a power of two. Every operation
takes the exact rational result and rounds it once, to nearest with ties to even.
-/

namespace ServiceBroker

/-- The rounded quotient; a half goes to the even neighbour. -/
def roundDiv (num den : Nat) : Nat :=
  let q := num / den
  match compare (2 * (num % den)) den with
  | .lt => q
  | .gt => q + 1
  | .eq => if q % 2 = 0 then q else q + 1

/-- The number `± significand * 2 ^ exponent`. The significand is below `2 ^ 53`, and it is at least
`2 ^ 52` unless the exponent is the least one, `-1074`. -/
structure Binary64 where
  negative : Bool
  significand : Nat
  exponent : Int
deriving DecidableEq, Repr, Inhabited

namespace Binary64

/-- The least significand above the least exponent. -/
def leastNormal : Nat := Nat.pow 2 52

def zero (negative : Bool) : Binary64 := ⟨negative, 0, -1074⟩

def isZero (x : Binary64) : Bool := x.significand == 0

/-- The numerator of `n * 2 ^ e` over `scaleDown e`. -/
def scaleUp (n : Nat) (e : Int) : Nat := n * Nat.pow 2 e.toNat

/-- The denominator that goes with `scaleUp`. -/
def scaleDown (e : Int) : Nat := Nat.pow 2 (-e).toNat

/-- The least exponent `e` with `num / den < 2 ^ (e + 1)`, for positive `num` and `den`. -/
def binaryOrder (num den : Nat) : Int :=
  let e : Int := (num.log2 : Int) - den.log2
  if num * scaleDown e < den * scaleUp 1 e then e - 1 else e

/-- The nearest number to `num / den`; none when it is too large for the format. -/
def ofRatio? (negative : Bool) (num den : Nat) : Option Binary64 :=
  if num = 0 then some (zero negative)
  else
    let e := max (binaryOrder num den - 52) (-1074)
    let m := roundDiv (num * scaleDown e) (den * scaleUp 1 e)
    let x : Binary64 :=
      if m < 2 * leastNormal then ⟨negative, m, e⟩ else ⟨negative, leastNormal, e + 1⟩
    if x.exponent ≤ 971 then some x else none

/-- The numerator of the magnitude over `den`. -/
def num (x : Binary64) : Nat := scaleUp x.significand x.exponent

def den (x : Binary64) : Nat := scaleDown x.exponent

/-- The magnitude of the product, rounded once. -/
def mul? (x y : Binary64) : Option Binary64 :=
  ofRatio? (x.negative != y.negative) (x.num * y.num) (x.den * y.den)

/-- The quotient by a positive number, rounded once. -/
def div? (x y : Binary64) : Option Binary64 :=
  ofRatio? (x.negative != y.negative) (x.num * y.den) (x.den * y.num)

end Binary64

end ServiceBroker
