import ServiceBroker.Instant.Basic
import ServiceBroker.Text.Blank

/-!
Reading a date and time with an offset from UTC. Blanks may stand before each number and before the
signs between them; the date and the time are joined by a T or a blank, and the offset is a Z, the
letters UTC, or a signed number of hours and minutes.
-/

namespace ServiceBroker.Instant

inductive Fault where
  | tooShort
  | invalid
  | outOfRange
  | tooLong
  /-- The local time exists, but the time in UTC lies outside the calendar. -/
  | impossible
deriving DecidableEq, Repr

def Fault.message : Fault → String
  | .tooShort => "premature end of input"
  | .invalid => "input contains invalid characters"
  | .outOfRange => "input is out of range"
  | .tooLong => "trailing input"
  | .impossible => "no possible date and time matching input"

def dropBlanks (cs : List Char) : List Char := cs.dropWhile Text.isBlank

/-- A number of at least one digit and at most `width` digits. -/
def readNumber (width : Nat) (cs : List Char) : Except Fault (Nat × List Char) :=
  match (cs.take width).takeWhile Char.isDigit with
  | [] => .error (if cs.isEmpty then .tooShort else .invalid)
  | digits => .ok (Nat.ofDigitChars 10 digits 0, cs.drop digits.length)

/-- A number within bounds, after blanks. -/
def readBounded (low high : Nat) (cs : List Char) : Except Fault (Nat × List Char) := do
  let (n, rest) ← readNumber 2 (dropBlanks cs)
  if low ≤ n ∧ n ≤ high then .ok (n, rest) else .error .outOfRange

/-- A separator, after blanks. -/
def readSeparator (separator : Char) (cs : List Char) : Except Fault (List Char) :=
  match dropBlanks cs with
  | [] => .error .tooShort
  | c :: rest => if c = separator then .ok rest else .error .invalid

/-- Four digits, or a sign with any number of digits. -/
def readYear (cs : List Char) : Except Fault (Int × List Char) := do
  let (year, rest) ← match dropBlanks cs with
    | '-' :: rest => do
      let (n, rest) ← readNumber rest.length rest
      .ok (-(n : Int), rest)
    | '+' :: rest => do
      let (n, rest) ← readNumber rest.length rest
      .ok ((n : Int), rest)
    | cs => do
      let (n, rest) ← readNumber 4 cs
      .ok ((n : Int), rest)
  if -0x80000000 ≤ year ∧ year < 0x80000000 then .ok (year, rest) else .error .outOfRange

def readDate (cs : List Char) : Except Fault (Date × List Char) := do
  let (year, cs) ← readYear cs
  let (month, cs) ← readBounded 1 12 (← readSeparator '-' cs)
  let (day, cs) ← readBounded 1 31 (← readSeparator '-' cs)
  .ok (⟨year, month, day⟩, cs)

/-- Nanoseconds after a point; digits after the ninth are dropped. -/
def readFraction : List Char → Except Fault (Nat × List Char)
  | '.' :: rest => do
    let (n, after) ← readNumber 9 rest
    .ok (n * Nat.pow 10 (9 - (rest.length - after.length)), after.dropWhile Char.isDigit)
  | cs => .ok (0, cs)

/-- A time of day as seconds and nanoseconds; a sixtieth second is a leap second. -/
def readTime (cs : List Char) : Except Fault (Nat × Nat × List Char) := do
  let (hour, cs) ← readBounded 0 23 cs
  let (minute, cs) ← readBounded 0 59 (← readSeparator ':' cs)
  let (second, cs) ← readBounded 0 60 (← readSeparator ':' cs)
  let (nanosecond, cs) ← readFraction cs
  let leap := second / 60
  .ok (hour * 3600 + minute * 60 + (second - leap), nanosecond + leap * 1000000000, dropBlanks cs)

/-- Two digits, read as they stand. -/
def readPair : List Char → Except Fault (Nat × Nat × List Char)
  | [] => .error .tooShort
  | [c] => .error (if c.toNat < 0x80 then .tooShort else .invalid)
  | a :: b :: rest =>
    if a.isDigit ∧ b.isDigit then .ok (a.toNat - '0'.toNat, b.toNat - '0'.toNat, rest)
    else .error .invalid

/-- Hours and minutes after a sign, in seconds. Colons and blanks may part them. -/
def readOffsetSize (cs : List Char) : Except Fault (Nat × List Char) := do
  let (h, h', cs) ← readPair cs
  let (m, m', cs) ← readPair (cs.dropWhile fun c => c == ':' || Text.isBlank c)
  if 5 < m then .error .outOfRange else .ok ((h * 10 + h') * 3600 + (m * 10 + m') * 60, cs)

/-- The offset of local time from UTC, in seconds. -/
def readOffset : List Char → Except Fault (Int × List Char)
  | [] => .error .tooShort
  | c :: cs =>
    if ((c :: cs).take 3).map Char.toUpper = ['U', 'T', 'C'] then .ok (0, cs.drop 2)
    else if c = 'Z' ∨ c = 'z' then .ok (0, cs)
    else if c = '+' then do
      let (n, rest) ← readOffsetSize cs
      .ok (n, rest)
    else if c = '-' ∨ c = '\u2212' then do
      let (n, rest) ← readOffsetSize cs
      .ok (-n, rest)
    else .error .invalid

def ofLocal (date : Date) (second nanosecond : Nat) (offset : Int) : Except Fault Instant :=
  if date.isValid ∧ offset.natAbs < 86400 then
    let shifted := second - offset
    let t : Instant := ⟨date.toDays + shifted / 86400, (shifted % 86400).toNat, nanosecond⟩
    if (Date.ofDays t.day).isValid then .ok t else .error .impossible
  else .error .outOfRange

def parse (text : String) : Except Fault Instant := do
  let (date, cs) ← readDate text.toList
  match cs with
  | [] => .error .tooShort
  | c :: cs =>
    if c = 't' ∨ c = 'T' ∨ c = ' ' then
      let (second, nanosecond, cs) ← readTime cs
      let (offset, cs) ← readOffset cs
      if dropBlanks cs = [] then ofLocal date second nanosecond offset else .error .tooLong
    else .error .invalid

end ServiceBroker.Instant
