import ServiceBroker.Json.Codec
import ServiceBroker.Rehearsal.Script

/-!
The record of a rehearsal: what was asked, in order, and when answers that took time came. What the
random generator was asked is left out.
-/

namespace ServiceBroker

open Json (Value)

namespace Json.Value

def ofNat (n : Nat) : Value := .number (.integer n)

def texts (items : List String) : Value := .array (items.map .text)

def ofTexts (d : Dict String) : Value := .object (d.entries.map fun (key, s) => (key, .text s))

end Json.Value

/-- One letter for each enabled class of characters, and a hyphen for each other one. -/
def Charset.flags (charset : Charset) : String :=
  String.ofList
    [if charset.upper then 'U' else '-', if charset.lower then 'L' else '-',
     if charset.numeric then 'N' else '-', if charset.special then 'S' else '-']

def CredentialKey.values (key : CredentialKey) : List Value :=
  [.text key.application, .text key.instanceId, .text key.descriptor]

def OAuth2Client.toValue (client : OAuth2Client) : Value :=
  .object
    [("clientId", .text client.clientId), ("clientName", .text client.clientName),
     ("clientSecret", .text client.clientSecret), ("scopes", .texts client.scopes),
     ("authorities", .texts client.authorities), ("grantTypes", .texts client.grantTypes)]

namespace Rehearsal

def artifactValues (artifact : Artifact) : List Value :=
  [.text artifact.name, .ofTexts artifact.properties]

/-- A request as the record shows it. -/
def requestValues : Request → List Value
  | .lookup instanceId => [.text "lookup", .text instanceId]
  | .describe artifact => .text "get" :: artifactValues artifact
  | .perform action artifact => .text action.name :: artifactValues artifact
  | .generateUser key charset =>
    .text "generate_user" :: key.values ++ [.ofNat charset.length, .text charset.flags]
  | .generateString key charset =>
    .text "generate_string" :: key.values ++ [.ofNat charset.length, .text charset.flags]
  | .deleteUser key => .text "delete_user" :: key.values
  | .deleteString key => .text "delete_string" :: key.values
  | .createClient client => [.text "create_client", client.toValue]
  | .deleteClient clientId => [.text "delete_client", .text clientId]
  | .extension work => [.text "custom", .text work.extension, .text work.verb, .text work.entity]

namespace Script

/-- The script gives the request a time, be it zero. -/
def isTimed (script : Script) : Request → Bool
  | .extension work => 0 < work.delay
  | r => script.delays.contains r.id

/-- What the record shows of an event. -/
def shown? (script : Script) : Event → Option Value
  | .issued r => if script.isRandom r then none else some (.array (requestValues r))
  | .answered r _ =>
    if script.isRandom r then none
    else if script.isTimed r then some (.texts ["finished", r.id])
    else none
  | .ended => none

def record (script : Script) (log : List LogEntry) : List Value :=
  log.filterMap fun entry => script.shown? entry.event

end Script

end Rehearsal

end ServiceBroker
