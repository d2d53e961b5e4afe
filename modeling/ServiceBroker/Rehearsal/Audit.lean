import ServiceBroker.Credential.Generator

/-!
An audit of the random generator. It looks at secrets from outside and compares each with what was
issued and deleted under the same key before.
-/

namespace ServiceBroker.Rehearsal

inductive SecretKind where
  | user
  | string
deriving DecidableEq, Repr

/-- The texts of an issued secret: a user name and a password, or one text. -/
abbrev Issue := List String

/-- What an audit tells of an issued secret. -/
structure Finding where
  issue : Issue
  /-- It is the secret already held; none if none was held. -/
  sameAsHeld : Option Bool
  /-- It differs from the last deleted one; none if there is none, or one is too short to tell. -/
  differsFromDeleted : Option Bool
deriving DecidableEq, Repr

/-- The generator with the secrets that were seen and not deleted since, and the last deleted
ones. -/
structure Audit where
  generator : Generator := {}
  held : Table (SecretKind × CredentialKey) Issue := .empty
  deleted : Table (SecretKind × CredentialKey) Issue := .empty
deriving Inhabited

namespace Audit

/-- Two random texts of this length are taken to differ. -/
def telling : Nat := 12

def differs? (a b : Issue) : Option Bool :=
  if (a ++ b).all fun s => telling ≤ s.length then some (a != b) else none

/-- A text of this length is taken to show its whole alphabet. -/
def exhausting : Nat := 4000

/-- The different characters of a long text, by code point. -/
def alphabet? (s : String) : Option String :=
  if s.length < exhausting then none
  else
    let chars := s.toList.eraseDups
    some (String.ofList (chars.mergeSort fun a b => a.toNat ≤ b.toNat))

def draw (entropy : Entropy) (generator : Generator) (kind : SecretKind) (key : CredentialKey)
    (charset : Charset) : Except GeneratorError Issue × Generator :=
  match kind with
  | .user =>
    let (result, generator) := generator.generateUser entropy key charset
    (result.map fun user => [user.username, user.password], generator)
  | .string =>
    let (result, generator) := generator.generateString entropy key charset
    (result.map fun s => [s], generator)

def generate (entropy : Entropy) (audit : Audit) (kind : SecretKind) (key : CredentialKey)
    (charset : Charset) : Except GeneratorError Finding × Audit :=
  match draw entropy audit.generator kind key charset with
  | (.error e, generator) => (.error e, { audit with generator })
  | (.ok issue, generator) =>
    let finding : Finding :=
      { issue
        sameAsHeld := (audit.held.get? (kind, key)).map (issue == ·)
        differsFromDeleted := (audit.deleted.get? (kind, key)).bind (differs? issue) }
    (.ok finding, { audit with generator, held := audit.held.put (kind, key) issue })

def delete (audit : Audit) (kind : SecretKind) (key : CredentialKey) : Audit :=
  { generator :=
      match kind with
      | .user => audit.generator.deleteUser key
      | .string => audit.generator.deleteString key
    held := audit.held.erase (kind, key)
    deleted :=
      match audit.held.get? (kind, key) with
      | some issue => audit.deleted.put (kind, key) issue
      | none => audit.deleted }

end Audit

end ServiceBroker.Rehearsal
