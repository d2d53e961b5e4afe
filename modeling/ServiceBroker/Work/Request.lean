import ServiceBroker.Catalog.Entry

/-!
What the engine asks of others while it works: the platform that runs applications, the keeper of
credentials, the authorization server, and extensions that bring work of their own.
-/

namespace ServiceBroker

/-- The failure of a collaborator: what it says, and the causes behind it, outermost first. -/
structure Failure where
  message : String
  causes : List String := []
deriving DecidableEq, Repr, Inhabited

namespace Failure

def texts (failure : Failure) : List String := failure.message :: failure.causes

/-- The message with all causes. -/
def chain (failure : Failure) : String := ": ".intercalate failure.texts

end Failure

/-- What can be done to a deployed application. -/
inductive Action where
  | start
  | stop
  | restart
  | restage
deriving DecidableEq, Repr, Inhabited

def Action.name : Action → String
  | .start => "start"
  | .stop => "stop"
  | .restart => "restart"
  | .restage => "restage"

/-- Whom a secret belongs to: an application of a service instance, and the kind of its use. -/
structure CredentialKey where
  application : String
  instanceId : String
  descriptor : String
deriving DecidableEq, Repr, Inhabited

/-- The length of a secret and the classes its characters come from. -/
structure Charset where
  length : Nat := 12
  upper : Bool := true
  lower : Bool := true
  numeric : Bool := true
  special : Bool := false
deriving DecidableEq, Repr, Inhabited

structure UserCredentials where
  username : String
  password : String
deriving DecidableEq, Repr, Inhabited

/-- A client of the authorization server. -/
structure OAuth2Client where
  clientId : String
  clientName : String
  clientSecret : String
  scopes : List String
  authorities : List String
  grantTypes : List String
deriving DecidableEq, Repr, Inhabited

/-- The service and the plan that a service instance was made for. -/
structure PlanReference where
  serviceName : String
  planName : String
deriving DecidableEq, Repr, Inhabited

/-- Work of an extension that is not built in: what it does to which entity, how many ticks it
takes, and how it fails. -/
structure ExtensionWork where
  extension : String
  verb : String
  entity : String
  delay : Nat := 0
  failure : Option Failure := none
deriving DecidableEq, Repr, Inhabited

inductive Request where
  | lookup (instanceId : String)
  | describe (artifact : Artifact)
  | perform (action : Action) (artifact : Artifact)
  | generateUser (key : CredentialKey) (charset : Charset)
  | generateString (key : CredentialKey) (charset : Charset)
  | deleteUser (key : CredentialKey)
  | deleteString (key : CredentialKey)
  | createClient (client : OAuth2Client)
  | deleteClient (clientId : String)
  | extension (work : ExtensionWork)
deriving Inhabited

/-- The requests to the keeper of credentials. -/
def Request.isForSecret : Request → Bool
  | .generateUser _ _ => true
  | .generateString _ _ => true
  | .deleteUser _ => true
  | .deleteString _ => true
  | _ => false

/-- What a successful request answers with. -/
def Response : Request → Type
  | .lookup _ => PlanReference
  | .describe _ => DeployedApplication
  | .generateUser _ _ => UserCredentials
  | .generateString _ _ => String
  | .createClient _ => OAuth2Client
  | _ => Unit

end ServiceBroker
