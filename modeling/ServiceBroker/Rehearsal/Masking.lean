import ServiceBroker.Json.Value

/-!
Masking of secrets. A random secret is shown by a number and its length, the same number wherever
the same secret stands, so that what is shown does not depend on chance.
-/

namespace ServiceBroker.Rehearsal

open Json (Value)

/-- Secrets in the order in which they were first met. -/
abbrev Secrets := List String

namespace Secrets

/-- The number of a secret; a new one is added. -/
def number (secrets : Secrets) (s : String) : Nat × Secrets :=
  match secrets.idxOf? s with
  | some i => (i, secrets)
  | none => (secrets.length, secrets ++ [s])

end Secrets

/-- The keys under which secrets stand. -/
def isSecretKey (key : String) : Bool :=
  ["security.user.name", "security.user.password", "clientSecret"].contains key ||
    key.endsWith ".client-secret"

/-- What is shown for the text under a secret key. -/
def maskText (secrets : Secrets) (s : String) : String × Secrets :=
  let (n, secrets) := secrets.number s
  (s!"random#{n}:{s.length}", secrets)

mutual

/-- Masks the secrets in a value, in the order of its parts. -/
def mask (secrets : Secrets) : Value → Value × Secrets
  | .array items =>
    let (items, secrets) := maskItems secrets items
    (.array items, secrets)
  | .object members =>
    let (members, secrets) := maskMembers secrets members
    (.object members, secrets)
  | v => (v, secrets)

def maskItems (secrets : Secrets) : List Value → List Value × Secrets
  | [] => ([], secrets)
  | item :: rest =>
    let (item, secrets) := mask secrets item
    let (rest, secrets) := maskItems secrets rest
    (item :: rest, secrets)

def maskMembers (secrets : Secrets) : List (String × Value) → List (String × Value) × Secrets
  | [] => ([], secrets)
  | (key, .text s) :: rest =>
    let (s, secrets) := if isSecretKey key then maskText secrets s else (s, secrets)
    let (rest, secrets) := maskMembers secrets rest
    ((key, .text s) :: rest, secrets)
  | (key, value) :: rest =>
    let (value, secrets) := mask secrets value
    let (rest, secrets) := maskMembers secrets rest
    ((key, value) :: rest, secrets)

end

end ServiceBroker.Rehearsal
