import ServiceBroker.Number.Binary64

/-!
The shortest decimal that reads back to a binary64 number, found by exact integer arithmetic: the
coarsest power-of-ten grid that has a point in the rounding interval, and on it the nearest point.
-/

namespace ServiceBroker

/-- The decimal `digits * 10 ^ exponent`. -/
structure Decimal where
  digits : Nat
  exponent : Int
deriving DecidableEq, Repr

namespace Decimal

/-- Compares `a * 10 ^ i` with `n * 2 ^ j`. -/
def compareScaled (a : Nat) (i : Int) (n : Nat) (j : Int) : Ordering :=
  compare (a * Nat.pow 10 i.toNat * Nat.pow 2 (-j).toNat)
    (n * Nat.pow 2 j.toNat * Nat.pow 10 (-i).toNat)

/-- Moves trailing zeros of the digits into the exponent. -/
def strip : Nat → Decimal → Decimal
  | 0, d => d
  | n + 1, d => if d.digits % 10 = 0 then strip n ⟨d.digits / 10, d.exponent + 1⟩ else d

end Decimal

namespace Binary64

/-- The decimal lies among the reals that round to the magnitude of `x`. The gap below a power of
two is half the gap above it, and the ends of the interval belong to it when the significand is
even. -/
def readsBack (x : Binary64) (d : Decimal) : Bool :=
  let m := x.significand
  let narrow := m == leastNormal && x.exponent > -1074
  let low := Decimal.compareScaled d.digits d.exponent (4 * m - if narrow then 1 else 2)
    (x.exponent - 2)
  let high := Decimal.compareScaled d.digits d.exponent (4 * m + 2) (x.exponent - 2)
  let even := m % 2 == 0
  (low == .gt || (even && low == .eq)) && (high == .lt || (even && high == .eq))

/-- The first of the `tries` exponents from `k` on with `x < 10 ^ k`, or the one behind them. -/
def firstAbove (x : Binary64) : (tries : Nat) → (k : Int) → Int
  | 0, k => k
  | tries + 1, k =>
    if Decimal.compareScaled 1 k x.significand x.exponent == .gt then k
    else firstAbove x tries (k + 1)

/-- The least `k` with `x < 10 ^ k`, for nonzero `x`: an estimate from below, corrected upward. -/
def decimalOrder (x : Binary64) : Int :=
  x.firstAbove 4 (((x.significand.log2 : Int) + x.exponent) * 1233 / 4096 - 1)

/-- The nearest point of the grid `10 ^ k` that reads back, if one of the two neighbours does. Of
two neighbours equally near the even one is taken. -/
def onGrid? (x : Binary64) (k : Int) : Option Decimal :=
  let below := (x.significand * Nat.pow 2 x.exponent.toNat * Nat.pow 10 (-k).toNat) /
    (Nat.pow 10 k.toNat * Nat.pow 2 (-x.exponent).toNat)
  let lower : Decimal := ⟨below, k⟩
  let upper : Decimal := ⟨below + 1, k⟩
  match x.readsBack lower, x.readsBack upper with
  | true, false => some lower
  | false, true => some upper
  | false, false => none
  | true, true =>
    match Decimal.compareScaled (2 * below + 1) k (2 * x.significand) x.exponent with
    | .gt => some lower
    | .lt => some upper
    | .eq => some (if below % 2 = 0 then lower else upper)

/-- The fewest digits that read back, without trailing zeros. Seventeen digits always suffice; the
exact value stands behind them. -/
def shortest (x : Binary64) : Decimal :=
  if x.significand = 0 then ⟨0, 0⟩
  else
    let k := x.decimalOrder
    let exact : Decimal :=
      ⟨x.significand * Nat.pow 2 x.exponent.toNat * Nat.pow 5 (-x.exponent).toNat,
        min x.exponent 0⟩
    let d := ((List.range 17).findSome? fun n : Nat => x.onGrid? (k - (n + 1 : Nat))).getD exact
    Decimal.strip 400 d

end Binary64

end ServiceBroker
