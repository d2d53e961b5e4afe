import ServiceBroker.Json.Fault

/-!
Numerals of JSON text. Reading a numeral is separate from finding its number: the first needs the
grammar alone, the second is arithmetic with a bounded significand and powers of ten.
-/

namespace ServiceBroker.Json

/-- The parts of a numeral. A numeral without a point has an empty fraction. -/
structure Numeral where
  negative : Bool
  whole : List Char
  fraction : List Char
  /-- Whether the exponent is negative, and its digits. -/
  exponent : Option (Bool × List Char)
deriving DecidableEq, Repr

namespace Numeral

/-- At least one digit and what follows the digits. -/
def readDigits (cs : List Char) : Except Fault (List Char × List Char) :=
  match cs.span Char.isDigit with
  | ([], []) => .error (.cut .value)
  | ([], _) => .error (.syntactic .invalidNumber)
  | (digits, rest) => .ok (digits, rest)

/-- The digits before the point; a leading zero stands alone. -/
def readWhole (cs : List Char) : Except Fault (List Char × List Char) := do
  let (digits, rest) ← readDigits cs
  if digits.head? = some '0' ∧ digits.length ≠ 1 then .error (.syntactic .invalidNumber)
  else .ok (digits, rest)

def readFraction : List Char → Except Fault (List Char × List Char)
  | '.' :: rest => readDigits rest
  | cs => .ok ([], cs)

def readSign : List Char → Bool × List Char
  | '-' :: rest => (true, rest)
  | '+' :: rest => (false, rest)
  | cs => (false, cs)

def readExponent : List Char → Except Fault (Option (Bool × List Char) × List Char)
  | c :: rest =>
    if c = 'e' ∨ c = 'E' then do
      let (negative, rest) := readSign rest
      let (digits, rest) ← readDigits rest
      .ok (some (negative, digits), rest)
    else .ok (none, c :: rest)
  | [] => .ok (none, [])

/-- Reads a numeral that starts with a digit or a minus sign. -/
def read (cs : List Char) : Except Fault (Numeral × List Char) := do
  let (negative, cs) := match cs with
    | '-' :: rest => (true, rest)
    | _ => (false, cs)
  let (whole, cs) ← readWhole cs
  let (fraction, cs) ← readFraction cs
  let (exponent, cs) ← readExponent cs
  .ok (⟨negative, whole, fraction, exponent⟩, cs)

/-- The greatest significand. -/
def maxSignificand : Nat := 0xFFFFFFFFFFFFFFFF

/-- Takes digits into the significand as long as it stays within its bound. -/
def gather (significand : Nat) : List Char → Nat × List Char
  | [] => (significand, [])
  | c :: rest =>
    let next := significand * 10 + (c.toNat - '0'.toNat)
    if next ≤ maxSignificand then gather next rest else (significand, c :: rest)

def powerOfTen (k : Nat) : Binary64 :=
  (Binary64.ofRatio? false (Nat.pow 10 k) 1).getD (Binary64.zero false)

/-- The greatest exponent of ten in one multiplication or division. -/
def maxStep : Nat := 308

/-- Divides by the greatest power of ten again and again, as long as anything is left. -/
def shrink (x : Binary64) : Nat → Binary64
  | 0 => x
  | n + 1 => if x.isZero then x else shrink ((x.div? (powerOfTen maxStep)).getD x) n

/-- Multiplies by a power of ten, in steps that are each rounded; none when the result is too
large. -/
def scale (x : Binary64) (e : Int) : Option Binary64 :=
  let k := e.natAbs
  if 0 ≤ e then
    if k ≤ maxStep then x.mul? (powerOfTen k) else if x.isZero then some x else none
  else
    let steps := (k - 1) / maxStep
    (shrink x steps).div? (powerOfTen (k - steps * maxStep))

def exponentValue : Option (Bool × List Char) → Int
  | none => 0
  | some (negative, digits) =>
    let n : Int := Nat.ofDigitChars 10 digits 0
    if negative then -n else n

/-- The number of a numeral with a point, an exponent or too many digits. Digits beyond the bound of
the significand only move its exponent. -/
def real? (n : Numeral) : Option Binary64 := do
  let (significand, surplus) := gather 0 n.whole
  let (significand', dropped) := gather significand n.fraction
  let e : Int := surplus.length - (n.fraction.length - dropped.length : Nat) +
    exponentValue n.exponent
  let x ← scale ((Binary64.ofRatio? false significand' 1).getD (Binary64.zero false)) e
  some { x with negative := n.negative }

/-- An integer is a numeral of digits alone that fits 64 bits, signed if it has a minus sign; minus
zero is a real number. -/
def integer? (n : Numeral) : Option Int :=
  let value := Nat.ofDigitChars 10 n.whole 0
  if n.fraction ≠ [] ∨ n.exponent ≠ none then none
  else if n.negative then
    if 0 < value ∧ value ≤ 0x8000000000000000 then some (-value) else none
  else if value ≤ maxSignificand then some value else none

def number (n : Numeral) : Except Fault Number :=
  match n.integer? with
  | some i => .ok (.integer i)
  | none =>
    match n.real? with
    | some x => .ok (.real x)
    | none => .error (.syntactic .numberOutOfRange)

end Numeral

end ServiceBroker.Json
