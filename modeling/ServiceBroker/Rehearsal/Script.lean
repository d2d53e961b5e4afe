import ServiceBroker.Credential.Keeper

/-!
Scripted collaborators, to rehearse a broker without a platform. A script says what is there, which
requests fail and which take time; all else is answered at once, and secrets are numbered in the
order in which they are asked for.
-/

namespace ServiceBroker

/-- The request by its kind and the name of what it is about. -/
def Request.id : Request → String
  | .lookup instanceId => "lookup:" ++ instanceId
  | .describe artifact => "get:" ++ artifact.name
  | .perform action artifact => action.name ++ ":" ++ artifact.name
  | .generateUser key _ => "generate_user:" ++ key.application
  | .generateString key _ => "generate_string:" ++ key.application
  | .deleteUser key => "delete_user:" ++ key.application
  | .deleteString key => "delete_string:" ++ key.application
  | .createClient client => "create_client:" ++ client.clientId
  | .deleteClient clientId => "delete_client:" ++ clientId
  | .extension work => work.verb ++ ":" ++ work.entity

namespace Rehearsal

/-- A fixed supply of numbers in which no pattern shows: every position is scrambled by
multiplications and shifts of 64-bit words. -/
def entropy : Entropy := fun position =>
  let a : UInt64 := (position.toUInt64 + 1) * 0x9e3779b97f4a7c15
  let b := (a ^^^ (a >>> 30)) * 0xbf58476d1ce4e5b9
  let c := (b ^^^ (b >>> 27)) * 0x94d049bb133111eb
  (c ^^^ (c >>> 31)).toNat

/-- What the collaborators know and how they behave. Failures and delays are listed by request. -/
structure Script where
  instances : Dict PlanReference := .empty
  failures : Dict Failure := .empty
  delays : Dict Nat := .empty
  deployed : Dict DeployedApplication := .empty
  /-- Client ids that the authorization server replaces by others. -/
  renames : Dict String := .empty
  authorizationServer : Bool := false
  /-- Secrets come from a random generator instead of the script. -/
  random : Bool := false
deriving Inhabited

/-- What changes while a script is played: the random generator, and the number of secrets that the
script itself has issued. -/
abbrev State := Generator × Nat

def State.start : State := ({}, 0)

namespace Script

/-- The listed failure of a request; extensions bring their failures along. -/
def failure? (script : Script) : Request → Option Failure
  | .extension work => work.failure
  | r => script.failures.get? r.id

def delay (script : Script) : Request → Nat
  | .extension work => work.delay
  | r => (script.delays.get? r.id).getD 0

/-- The answer to a request that is not listed as failing; `issued` secrets came before. -/
def reply (script : Script) (issued : Nat) : (r : Request) → Answer r × Nat
  | .lookup instanceId =>
    match script.instances.get? instanceId with
    | some plan => (.ok plan, issued)
    | none => (.error ⟨"unknown service instance " ++ instanceId, []⟩, issued)
  | .describe artifact =>
    (.ok ((script.deployed.get? artifact.name).getD { name := artifact.name }), issued)
  | .perform _ _ => (.ok (), issued)
  | .generateUser _ _ => (.ok ⟨s!"user{issued}", s!"pass{issued}"⟩, issued + 1)
  | .generateString _ _ => (.ok s!"secret{issued}", issued + 1)
  | .deleteUser _ => (.ok (), issued)
  | .deleteString _ => (.ok (), issued)
  | .createClient client =>
    let clientId := (script.renames.get? client.clientId).getD client.clientId
    (.ok { client with clientId }, issued)
  | .deleteClient _ => (.ok (), issued)
  | .extension _ => (.ok (), issued)

/-- The collaborators of the script, without the random generator. -/
def players (script : Script) : Collaborators Nat :=
  .timed script.delay fun r issued =>
    match script.failure? r with
    | some failure => (.error failure, issued)
    | none => script.reply issued r

def collaborators (script : Script) : Collaborators State :=
  if script.random then script.players.withGenerator entropy
  else
    .timed script.delay fun r (generator, issued) =>
      let (answer, issued) := script.players.answer r issued
      (answer, generator, issued)

/-- The request is answered by the random generator. -/
def isRandom (script : Script) (r : Request) : Bool := script.random && r.isForSecret

end Script

end Rehearsal

end ServiceBroker
