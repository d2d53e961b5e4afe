import ServiceBroker.Json.Codec

/-!
Codecs of records. A record becomes an object with all fields in declaration order. It is read from
an object, whose other members are passed over, or from an array of the fields in order; a field
with a default may be missing, and in an array it may be left off the end.
-/

namespace ServiceBroker.Json

/-- A field of a record: its setting, whether it has a default, how it is read and what it
becomes. -/
structure Field (S : Type) extends Setting S where
  optional : Bool
  read : Reader (S → S)
  toValue : S → Value

namespace Field

variable {S α : Type}

/-- The field of a record that `get` returns and `put` replaces. -/
def make (optional : Bool) (name : String) (codec : Codec α) (get : S → α)
    (put : α → S → S) : Field S where
  toSetting := .of name codec.view put
  optional := optional
  read depth cs := do
    let (x, rest) ← codec.read depth cs
    .ok (put x, rest)
  toValue s := codec.toValue (get s)

def required (name : String) (codec : Codec α) (get : S → α) (put : α → S → S) : Field S :=
  make false name codec get put

def defaulted (name : String) (codec : Codec α) (get : S → α) (put : α → S → S) : Field S :=
  make true name codec get put

end Field

variable {S : Type}

/-- The first field without a default that was not given. -/
def missingField? (fields : List (Field S)) (given : List String) : Option String :=
  (fields.find? fun f => !f.optional && !given.contains f.name).map (·.name)

namespace Reader

/-- The members of a record up to the closing brace, with the names of the fields given. -/
def recordMembers (fields : List (Field S)) (depth : Nat) :
    (budget : List Char) → Bool → List String → S → List Char →
      Except Fault (List String × S × List Char)
  | [], _, _, _, _ => .error (.cut .object)
  | _ :: budget, first, given, s, cs => do
    match ← objectStep first cs with
    | .closed rest => .ok (given, s, rest)
    | .more key rest =>
      match fields.find? (·.name == key) with
      | none =>
        recordMembers fields depth budget false given s (← skipValue (← readColon rest))
      | some field =>
        if given.contains key then .error (.mismatch (.repeatedField key))
        else
          let (change, rest) ← field.read depth (← readColon rest)
          recordMembers fields depth budget false (key :: given) (change s) rest

/-- The end of an array whose items have all been read. -/
def closeItems (cs : List Char) : Except Fault (List Char) :=
  match dropSpace cs with
  | [] => .error (.cut .list)
  | ']' :: rest => .ok rest
  | ',' :: rest =>
    match dropSpace rest with
    | ']' :: _ => .error (.syntactic .trailingComma)
    | _ => .error (.syntactic .trailingCharacters)
  | _ => .error (.syntactic .trailingCharacters)

/-- The items of a record up to the closing bracket; `expected` describes the whole record. -/
def recordItems (expected : String) (depth : Nat) :
    List (Field S) → Nat → S → List Char → Except Fault (S × List Char)
  | [], _, s, cs => do .ok (s, ← closeItems cs)
  | field :: fields, index, s, cs => do
    match ← listStep (index == 0) cs with
    | .closed rest =>
      match (field :: fields).findIdx? (!·.optional) with
      | some i => .error (.mismatch (.length (index + i) expected))
      | none => .ok (s, rest)
    | .more _ rest =>
      let (change, rest) ← field.read depth rest
      recordItems expected depth fields (index + 1) (change s) rest

def record (name : String) (blank : S) (fields : List (Field S)) : Reader S := fun depth cs =>
  match dropSpace cs with
  | '[' :: rest => do
    recordItems (recordOf name fields.length) (← enter depth) fields 0 blank rest
  | '\x7b' :: rest => do
    let (given, s, rest) ←
      recordMembers fields (← enter depth) ('\x7b' :: rest) true [] blank rest
    match missingField? fields given with
    | some field => .error (.mismatch (.missingField field))
    | none => .ok (s, rest)
  | cs => .error (mismatchAt ("struct " ++ name) cs)

end Reader

namespace View

def record (name : String) (blank : S) (fields : List (Field S)) : View S
  | .object members => do
    let s ← setMembers (fields.map (·.toSetting)) (fun _ => .ok ()) members blank
    match missingField? fields (members.map (·.1)) with
    | some field => .error (.missingField field)
    | none => .ok s
  | .array items => do
    let (s, surplus) ← setItems (fields.map (·.toSetting)) items blank
    match (fields.drop items.length).findIdx? (!·.optional) with
    | some i => .error (.length (items.length + i) (recordOf name fields.length))
    | none =>
      if surplus.isEmpty then .ok s
      else .error (.length items.length "fewer elements in array")
  | v => .error (.type (.ofValue v) ("struct " ++ name))

end View

/-- The codec of a record. The blank record holds the defaults; what it holds for a field without a
default is never returned. -/
def Codec.record (name : String) (blank : S) (fields : List (Field S)) : Codec S where
  read := Reader.record name blank fields
  view := View.record name blank fields
  toValue s := .object (fields.map fun f => (f.name, f.toValue s))

end ServiceBroker.Json
