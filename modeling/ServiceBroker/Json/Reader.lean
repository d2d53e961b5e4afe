import ServiceBroker.Json.Numeral
import ServiceBroker.Json.Escape

/-!
Reading JSON text from the left. A reader is given how many more levels of arrays and objects it may
open, and returns what it read with the characters that are left. Loops over the items of an array
or an object carry a budget, one turn for each character from the opening bracket on. Every turn
uses up a character, so the budget never runs out.
-/

namespace ServiceBroker.Json

/-- Reads a value of a type; the first argument bounds the nesting. -/
abbrev Reader (α : Type) := Nat → List Char → Except Fault (α × List Char)

/-- The blanks between the tokens of JSON text. -/
def isSpace (c : Char) : Bool := c == ' ' || c == '\n' || c == '\t' || c == '\r'

def dropSpace (cs : List Char) : List Char := cs.dropWhile isSpace

/-- The rest of a word, letter by letter. -/
def readWord : List Char → List Char → Except Fault (List Char)
  | [], rest => .ok rest
  | _ :: _, [] => .error (.cut .value)
  | w :: word, c :: rest =>
    if c = w then readWord word rest else .error (.syntactic .expectedIdent)

/-- A value that is neither an array nor an object. -/
def readScalar : List Char → Except Fault (Value × List Char)
  | [] => .error (.cut .value)
  | 'n' :: rest => do .ok (.null, ← readWord ['u', 'l', 'l'] rest)
  | 't' :: rest => do .ok (.boolean true, ← readWord ['r', 'u', 'e'] rest)
  | 'f' :: rest => do .ok (.boolean false, ← readWord ['a', 'l', 's', 'e'] rest)
  | '"' :: rest => do
    let (s, rest) ← readText rest
    .ok (.text (String.ofList s), rest)
  | c :: rest =>
    if c = '-' ∨ c.isDigit then do
      let (numeral, rest) ← Numeral.read (c :: rest)
      .ok (.number (← numeral.number), rest)
    else .error (.syntactic .expectedValue)

/-- Where an array or an object stands: closed, or before a further item. -/
inductive Step (α : Type) where
  | closed (rest : List Char)
  | more (item : α) (rest : List Char)

/-- The next step inside an array. -/
def listStep (first : Bool) (cs : List Char) : Except Fault (Step Unit) :=
  match dropSpace cs with
  | [] => .error (.cut .list)
  | ']' :: rest => .ok (.closed rest)
  | c :: rest =>
    if first then .ok (.more () (c :: rest))
    else if c = ',' then
      match dropSpace rest with
      | [] => .error (.cut .value)
      | ']' :: _ => .error (.syntactic .trailingComma)
      | rest => .ok (.more () rest)
    else .error (.syntactic .expectedListCommaOrEnd)

/-- A key, read after its opening quote. -/
def readKey (cs : List Char) : Except Fault (Step String) := do
  let (key, rest) ← readText cs
  .ok (.more (String.ofList key) rest)

/-- The next step inside an object, with the key of the member that follows. -/
def objectStep (first : Bool) (cs : List Char) : Except Fault (Step String) :=
  match dropSpace cs with
  | [] => .error (.cut .object)
  | '\x7d' :: rest => .ok (.closed rest)
  | c :: rest =>
    if first then
      if c = '"' then readKey rest else .error (.syntactic .keyMustBeText)
    else if c = ',' then
      match dropSpace rest with
      | [] => .error (.cut .value)
      | '"' :: rest => readKey rest
      | '\x7d' :: _ => .error (.syntactic .trailingComma)
      | _ => .error (.syntactic .keyMustBeText)
    else .error (.syntactic .expectedObjectCommaOrEnd)

def readColon (cs : List Char) : Except Fault (List Char) :=
  match dropSpace cs with
  | [] => .error (.cut .object)
  | ':' :: rest => .ok rest
  | _ => .error (.syntactic .expectedColon)

/-- The items of an array up to its closing bracket. -/
def readItems {α : Type} (item : List Char → Except Fault (α × List Char)) :
    (budget : List Char) → Bool → List Char → Except Fault (List α × List Char)
  | [], _, _ => .error (.cut .list)
  | _ :: budget, first, cs => do
    match ← listStep first cs with
    | .closed rest => .ok ([], rest)
    | .more _ rest =>
      let (x, rest) ← item rest
      let (xs, rest) ← readItems item budget false rest
      .ok (x :: xs, rest)

/-- The members of an object up to its closing brace. -/
def readMembers {α : Type} (item : List Char → Except Fault (α × List Char)) :
    (budget : List Char) → Bool → List Char → Except Fault (List (String × α) × List Char)
  | [], _, _ => .error (.cut .object)
  | _ :: budget, first, cs => do
    match ← objectStep first cs with
    | .closed rest => .ok ([], rest)
    | .more key rest =>
      let (x, rest) ← item (← readColon rest)
      let (xs, rest) ← readMembers item budget false rest
      .ok ((key, x) :: xs, rest)

/-- Any value. Of two members of an object under one key the later one stays. -/
def readValue : Reader Value
  | 0, cs =>
    match dropSpace cs with
    | '[' :: _ => .error (.syntactic .nestingTooDeep)
    | '\x7b' :: _ => .error (.syntactic .nestingTooDeep)
    | cs => readScalar cs
  | depth + 1, cs =>
    match dropSpace cs with
    | '[' :: rest => do
      let (items, rest) ← readItems (readValue depth) ('[' :: rest) true rest
      .ok (.array items, rest)
    | '\x7b' :: rest => do
      let (members, rest) ← readMembers (readValue depth) ('\x7b' :: rest) true rest
      .ok (.ofDict (Dict.ofList members), rest)
    | cs => readScalar cs

/-- How many arrays and objects a text may nest. -/
def maxNesting : Nat := 127

/-- Reads a whole text: one value and blanks behind it. -/
def readWhole {α : Type} (reader : Reader α) (depth : Nat) (text : String) : Except Fault α := do
  let (x, rest) ← reader depth text.toList
  match dropSpace rest with
  | [] => .ok x
  | _ => .error (.syntactic .trailingCharacters)

end ServiceBroker.Json
