import ServiceBroker.Json.Reader

/-!
Passing over a value that nobody asked for. Skipped values may nest to any depth, so the open arrays
and objects are kept in a list; their grammar is checked with the words of its own that each place
has.
-/

namespace ServiceBroker.Json

inductive Container where
  | list
  | object
deriving DecidableEq, Repr

namespace Container

def cut : Container → Fault
  | .list => .cut .list
  | .object => .cut .object

def commaOrEnd : Container → SyntaxFault
  | .list => .expectedListCommaOrEnd
  | .object => .expectedObjectCommaOrEnd

def closing : Container → Char
  | .list => ']'
  | .object => '\x7d'

end Container

/-- Passes over a value that is no container. -/
def skipScalar : List Char → Except Fault (List Char)
  | [] => .error (.cut .value)
  | 'n' :: rest => readWord ['u', 'l', 'l'] rest
  | 't' :: rest => readWord ['r', 'u', 'e'] rest
  | 'f' :: rest => readWord ['a', 'l', 's', 'e'] rest
  | '"' :: rest => skipText rest
  | c :: rest =>
    if c = '-' ∨ c.isDigit then
      match Numeral.read (c :: rest) with
      | .ok (_, rest) => .ok rest
      | .error _ => .error (.syntactic .invalidNumber)
    else .error (.syntactic .expectedValue)

/-- Passes over what stands before an item of the container: in an object its key and the colon. -/
def skipKey (container : Container) (cs : List Char) : Except Fault (List Char) :=
  match container with
  | .list => .ok cs
  | .object =>
    match dropSpace cs with
    | [] => .error (.cut .object)
    | '"' :: rest => do readColon (← skipText rest)
    | _ => .error (.syntactic .keyMustBeText)

/-- Where a skipped value stands: inside these containers, of which the innermost one is freshly
opened or has been given an item. -/
structure Skipped where
  fresh : Bool
  stack : List Container
deriving DecidableEq, Repr

/-- Passes over a whole scalar or the opening of a container. -/
def skipStart (stack : List Container) (cs : List Char) : Except Fault (Skipped × List Char) :=
  match dropSpace cs with
  | '[' :: rest => .ok (⟨true, .list :: stack⟩, rest)
  | '\x7b' :: rest => .ok (⟨true, .object :: stack⟩, rest)
  | cs => do .ok (⟨false, stack⟩, ← skipScalar cs)

/-- The place of the next item, behind the comma that parts it from the one before it. -/
def skipComma (container : Container) (fresh : Bool) (c : Char) (rest : List Char) :
    Except Fault (List Char) :=
  if fresh then .ok (c :: rest)
  else if c = ',' then .ok rest
  else .error (.syntactic container.commaOrEnd)

/-- Passes over the rest of a value inside the open containers. Every turn uses up a character, and
so it does of the budget. -/
def skipFrom : (budget : List Char) → Skipped → List Char → Except Fault (List Char)
  | _, ⟨_, []⟩, cs => .ok cs
  | [], ⟨_, container :: _⟩, _ => .error container.cut
  | _ :: budget, ⟨fresh, container :: stack⟩, cs =>
    match dropSpace cs with
    | [] => .error container.cut
    | c :: rest =>
      if c = container.closing then skipFrom budget ⟨false, stack⟩ rest
      else do
        let item ← skipKey container (← skipComma container fresh c rest)
        let (skipped, rest) ← skipStart (container :: stack) item
        skipFrom budget skipped rest

/-- Passes over one value. -/
def skipValue (cs : List Char) : Except Fault (List Char) := do
  let (skipped, rest) ← skipStart [] cs
  skipFrom cs skipped rest

end ServiceBroker.Json
