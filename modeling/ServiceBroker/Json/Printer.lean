import ServiceBroker.Json.Value

/-!
Compact JSON text. Members follow each other without blanks, an integer has its digits alone, and a
real number always shows a point or an exponent.
-/

namespace ServiceBroker.Json

/-- A decimal below `10 ^ 16` and not below `10 ^ (-5)` is written positionally, with at least one
digit on each side of the point; any other has one digit before the point and a signed exponent. -/
def decimalText (d : Decimal) : List Char :=
  let digits := Nat.toDigits 10 d.digits
  let point : Int := digits.length + d.exponent
  if 0 < point ∧ point ≤ 16 then
    let whole := point.toNat
    if digits.length ≤ whole then
      digits ++ List.replicate (whole - digits.length) '0' ++ ['.', '0']
    else digits.take whole ++ '.' :: digits.drop whole
  else if -5 < point ∧ point ≤ 0 then
    '0' :: '.' :: List.replicate (-point).toNat '0' ++ digits
  else
    let order := point - 1
    let fraction := if digits.length = 1 then [] else '.' :: digits.drop 1
    digits.take 1 ++ fraction ++ 'e' :: (if order < 0 then '-' else '+') ::
      Nat.toDigits 10 order.natAbs

def realText (x : Binary64) : List Char :=
  let magnitude := decimalText x.shortest
  if x.negative then '-' :: magnitude else magnitude

def integerText : Int → List Char
  | .ofNat n => Nat.toDigits 10 n
  | .negSucc n => '-' :: Nat.toDigits 10 (n + 1)

def numberText : Number → List Char
  | .integer i => integerText i
  | .real x => realText x

/-- A quote, a backslash and the control characters are escaped; all else stands for itself. -/
def charText (c : Char) : List Char :=
  match c with
  | '"' => ['\\', '"']
  | '\\' => ['\\', '\\']
  | '\x08' => ['\\', 'b']
  | '\x0c' => ['\\', 'f']
  | '\n' => ['\\', 'n']
  | '\r' => ['\\', 'r']
  | '\t' => ['\\', 't']
  | _ =>
    if c.toNat < 0x20 then
      ['\\', 'u', '0', '0', Nat.digitChar (c.toNat / 16), Nat.digitChar (c.toNat % 16)]
    else [c]

def quotedText (s : String) : List Char :=
  '"' :: s.toList.flatMap charText ++ ['"']

/-- The texts of list items, set in brackets with commas between them. -/
def bracketed (opening closing : Char) : List (List Char) → List Char
  | [] => [opening, closing]
  | first :: rest => opening :: first ++ rest.flatMap (',' :: ·) ++ [closing]

def memberText (key : String) (value : List Char) : List Char :=
  quotedText key ++ ':' :: value

namespace Value

mutual

def chars : Value → List Char
  | .null => ['n', 'u', 'l', 'l']
  | .boolean true => ['t', 'r', 'u', 'e']
  | .boolean false => ['f', 'a', 'l', 's', 'e']
  | .number n => numberText n
  | .text s => quotedText s
  | .array items => bracketed '[' ']' (itemChars items)
  | .object members => bracketed '\x7b' '\x7d' (memberChars members)

def itemChars : List Value → List (List Char)
  | [] => []
  | item :: rest => item.chars :: itemChars rest

def memberChars : List (String × Value) → List (List Char)
  | [] => []
  | (key, value) :: rest => memberText key value.chars :: memberChars rest

end

/-- The compact text of a value. -/
def render (v : Value) : String := String.ofList v.chars

end Value

end ServiceBroker.Json
