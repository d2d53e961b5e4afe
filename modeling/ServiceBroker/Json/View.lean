import ServiceBroker.Json.Fault

/-!
Typed views of JSON values: each view accepts the values of one type and otherwise says how the
value differs. Members are looked at in key order, and the first difference is the one that is told.
-/

namespace ServiceBroker.Json

abbrev View (α : Type) := Value → Except Mismatch α

namespace View

def any : View Value := .ok

def text : View String
  | .text s => .ok s
  | v => .error (.type (.ofValue v) "a string")

def flag : View Bool
  | .boolean b => .ok b
  | v => .error (.type (.ofValue v) "a boolean")

/-- The greatest size: the greatest number of 64 bits. -/
def maxSize : Nat := 0xFFFFFFFFFFFFFFFF

/-- A natural number up to `maxSize`; real numbers are refused even where they are integral. -/
def size : View Nat
  | .number (.integer i) =>
    if 0 ≤ i ∧ i ≤ maxSize then .ok i.toNat else .error (.value (.number (.integer i)) "usize")
  | v => .error (.type (.ofValue v) "usize")

def option {α : Type} (view : View α) : View (Option α)
  | .null => .ok none
  | v => some <$> view v

def list {α : Type} (view : View α) : View (List α)
  | .array items => items.mapM view
  | v => .error (.type (.ofValue v) "a sequence")

def dict {α : Type} (view : View α) : View (Dict α)
  | .object members => do
    .ok (Dict.ofList (← members.mapM fun (key, v) => do .ok (key, ← view v)))
  | v => .error (.type (.ofValue v) "a map")

/-- The alternative of a given name. -/
def named {α : Type} (alternatives : List (String × α)) (name : String) : Except Mismatch α :=
  match alternatives.lookup name with
  | some x => .ok x
  | none => .error (.unknownVariant name (alternatives.map (·.1)))

/-- One of several named alternatives: its name, or an object that holds null under its name. -/
def choice {α : Type} (alternatives : List (String × α)) : View α
  | .text name => named alternatives name
  | .object [(name, v)] => do
    let x ← named alternatives name
    match v with
    | .null => .ok x
    | v => .error (.type (.ofValue v) "unit")
  | .object _ => .error (.value .map "map with a single key")
  | v => .error (.type (.ofValue v) "string or map")

/-- A text of which another module knows the grammar. -/
def parsed {α : Type} (expected : String) (parse : String → Except String α) : View α
  | .text s => (parse s).mapError .text
  | v => .error (.type (.ofValue v) expected)

end View

/-- A named part of a record, and how a value for it changes the record. -/
structure Setting (S : Type) where
  name : String
  set : Value → Except Mismatch (S → S)

namespace Setting

variable {S α : Type}

def of (name : String) (view : View α) (put : α → S → S) : Setting S :=
  ⟨name, fun v => put <$> view v⟩

end Setting

/-- The words for a record of a given size. -/
def recordOf (name : String) (size : Nat) : String :=
  "struct " ++ name ++ s!" with {size} element" ++ if size = 1 then "" else "s"

namespace View

variable {S : Type}

/-- Applies the members one after another; what happens to an unknown one is left open. -/
def setMembers (settings : List (Setting S)) (unknown : String → Except Mismatch Unit) :
    List (String × Value) → S → Except Mismatch S
  | [], s => .ok s
  | (key, v) :: rest, s => do
    match settings.find? (·.name == key) with
    | some setting => setMembers settings unknown rest ((← setting.set v) s)
    | none =>
      unknown key
      setMembers settings unknown rest s

/-- Applies items to the settings in declaration order and returns the items that are too many. -/
def setItems : List (Setting S) → List Value → S → Except Mismatch (S × List Value)
  | setting :: settings, v :: rest, s => do setItems settings rest ((← setting.set v) s)
  | _, rest, s => .ok (s, rest)

/-- A record in which every setting has a default and no other member is allowed. An array gives the
settings in declaration order. -/
def closed (name : String) (default : S) (settings : List (Setting S)) : View S
  | .object members =>
    setMembers settings (fun key => .error (.unknownField key (settings.map (·.name)))) members
      default
  | .array items => do
    match ← setItems settings items default with
    | (s, []) => .ok s
    | _ => .error (.length items.length "fewer elements in array")
  | v => .error (.type (.ofValue v) ("struct " ++ name))

end View

end ServiceBroker.Json
