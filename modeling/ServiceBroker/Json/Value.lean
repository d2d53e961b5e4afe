import ServiceBroker.Dict
import ServiceBroker.Number.Shortest

/-!
JSON values. A number keeps whether it was given as an integer or as a real number. The members of
an object have an order: a value that was read has them in ascending key order, each key once.
-/

namespace ServiceBroker.Json

inductive Number where
  | integer (value : Int)
  | real (value : Binary64)
deriving DecidableEq, Repr, Inhabited

inductive Value where
  | null
  | boolean (value : Bool)
  | number (value : Number)
  | text (value : String)
  | array (items : List Value)
  | object (members : List (String × Value))
deriving Repr, Inhabited

namespace Value

/-- The object with the entries of a dictionary. -/
def ofDict (d : Dict Value) : Value := .object d.entries

mutual

/-- The same value with the members of all objects in ascending key order, each key once. -/
def normalize : Value → Value
  | .array items => .array (normalizeItems items)
  | .object members => .ofDict (Dict.ofList (normalizeMembers members))
  | v => v

def normalizeItems : List Value → List Value
  | [] => []
  | item :: rest => item.normalize :: normalizeItems rest

def normalizeMembers : List (String × Value) → List (String × Value)
  | [] => []
  | (key, value) :: rest => (key, value.normalize) :: normalizeMembers rest

end

end Value

end ServiceBroker.Json
