import ServiceBroker.Json.Skip
import ServiceBroker.Json.View

/-!
Codecs: how a type is read from JSON text, viewed in a JSON value and turned into one. Reading goes
from left to right and reports the first fault, whether of syntax or of type, in the order of the
text.
-/

namespace ServiceBroker.Json

/-- The fault of a token that cannot begin a value of the expected type. A malformed scalar is
reported as such. -/
def mismatchAt (expected : String) : List Char → Fault
  | '[' :: _ => .mismatch (.type .sequence expected)
  | '\x7b' :: _ => .mismatch (.type .map expected)
  | cs =>
    match readScalar cs with
    | .error fault => fault
    | .ok (v, _) => .mismatch (.type (.ofValue v) expected)

/-- The nesting that is left inside a container. -/
def enter : Nat → Except Fault Nat
  | 0 => .error (.syntactic .nestingTooDeep)
  | depth + 1 => .ok depth

namespace Reader

variable {α : Type}

def text : Reader String := fun _ cs =>
  match dropSpace cs with
  | '"' :: rest => do
    let (s, rest) ← readText rest
    .ok (String.ofList s, rest)
  | cs => .error (mismatchAt "a string" cs)

def option (item : Reader α) : Reader (Option α) := fun depth cs =>
  match dropSpace cs with
  | 'n' :: rest => do .ok (none, ← readWord ['u', 'l', 'l'] rest)
  | cs => do
    let (x, rest) ← item depth cs
    .ok (some x, rest)

def list (item : Reader α) : Reader (List α) := fun depth cs =>
  match dropSpace cs with
  | '[' :: rest => do readItems (item (← enter depth)) ('[' :: rest) true rest
  | cs => .error (mismatchAt "a sequence" cs)

def dict (item : Reader α) : Reader (Dict α) := fun depth cs =>
  match dropSpace cs with
  | '\x7b' :: rest => do
    let (members, rest) ← readMembers (item (← enter depth)) ('\x7b' :: rest) true rest
    .ok (Dict.ofList members, rest)
  | cs => .error (mismatchAt "a map" cs)

/-- The name of an alternative, read after its opening quote. -/
def alternative (alternatives : List (String × α)) (cs : List Char) :
    Except Fault (α × List Char) := do
  let (name, rest) ← readText cs
  .ok (← (View.named alternatives (String.ofList name)).mapError .mismatch, rest)

/-- The null that stands under the name of an alternative. -/
def nothing (cs : List Char) : Except Fault (List Char) :=
  match dropSpace cs with
  | 'n' :: rest => readWord ['u', 'l', 'l'] rest
  | cs => .error (mismatchAt "unit" cs)

/-- The one member of an object, with the name of an alternative as its key and null as its
value. -/
def alternativeMember (alternatives : List (String × α)) (cs : List Char) :
    Except Fault (α × List Char) :=
  match dropSpace cs with
  | [] => .error (.cut .object)
  | '\x7d' :: _ => .error (.syntactic .expectedValue)
  | '"' :: rest => do
    let (x, rest) ← alternative alternatives rest
    let rest ← nothing (← readColon rest)
    match dropSpace rest with
    | [] => .error (.cut .object)
    | '\x7d' :: rest => .ok (x, rest)
    | _ => .error (.syntactic .expectedValue)
  | _ => .error (.syntactic .keyMustBeText)

/-- An alternative, given by its name alone or as the one member of an object. -/
def choice (alternatives : List (String × α)) : Reader α := fun depth cs =>
  match dropSpace cs with
  | [] => .error (.cut .value)
  | '"' :: rest => alternative alternatives rest
  | '\x7b' :: rest => do
    let _ ← enter depth
    alternativeMember alternatives rest
  | _ => .error (.syntactic .expectedValue)

def parsed (expected : String) (parse : String → Except String α) : Reader α := fun _ cs =>
  match dropSpace cs with
  | '"' :: rest => do
    let (s, rest) ← readText rest
    .ok (← (parse (String.ofList s)).mapError (.mismatch <| .text ·), rest)
  | cs => .error (mismatchAt expected cs)

end Reader

structure Codec (α : Type) where
  read : Reader α
  view : View α
  toValue : α → Value

namespace Codec

variable {α : Type}

def any : Codec Value := ⟨readValue, View.any, id⟩

def text : Codec String := ⟨Reader.text, View.text, .text⟩

def option (item : Codec α) : Codec (Option α) where
  read := Reader.option item.read
  view := View.option item.view
  toValue
    | none => .null
    | some x => item.toValue x

def list (item : Codec α) : Codec (List α) where
  read := Reader.list item.read
  view := View.list item.view
  toValue xs := .array (xs.map item.toValue)

def dict (item : Codec α) : Codec (Dict α) where
  read := Reader.dict item.read
  view := View.dict item.view
  toValue d := .object (d.entries.map fun (key, x) => (key, item.toValue x))

def choice (alternatives : List (String × α)) (name : α → String) : Codec α where
  read := Reader.choice alternatives
  view := View.choice alternatives
  toValue x := .text (name x)

def parsed (expected : String) (parse : String → Except String α)
    (print : α → String) : Codec α where
  read := Reader.parsed expected parse
  view := View.parsed expected parse
  toValue x := .text (print x)

/-- Reads a whole text as a value of the type. -/
def decode (codec : Codec α) (text : String) : Except Fault α :=
  readWhole codec.read maxNesting text

/-- The compact JSON text of a value of the type. -/
def encode (codec : Codec α) (x : α) : String := (codec.toValue x).render

end Codec

end ServiceBroker.Json
