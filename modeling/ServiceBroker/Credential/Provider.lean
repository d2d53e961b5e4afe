import ServiceBroker.Extension.Chain

/-!
Credential providers write secrets into the environment of an application before it is deployed, and
release them when the service instance goes.
-/

namespace ServiceBroker

open Json (Value View Setting)

/-- What a provider does for an application of a service instance, in either phase. -/
structure CredentialProvider where
  add : (instanceId : String) → Work Application
  delete : (instanceId : String) → Work Application

/-- A user with a password of its own. -/
structure BasicAuthConfig where
  charset : Charset := {}
deriving DecidableEq, Repr, Inhabited

/-- The settings of a character set within a larger configuration. -/
def Charset.settings {S : Type} (change : (Charset → Charset) → S → S) : List (Setting S) :=
  [.of "length" View.size fun x => change fun s => { s with length := x },
   .of "includeUppercaseAlpha" View.flag fun x => change fun s => { s with upper := x },
   .of "includeLowercaseAlpha" View.flag fun x => change fun s => { s with lower := x },
   .of "includeNumeric" View.flag fun x => change fun s => { s with numeric := x },
   .of "includeSpecial" View.flag fun x => change fun s => { s with special := x }]

namespace BasicAuthConfig

def settings : List (Setting BasicAuthConfig) :=
  Charset.settings fun f s => { s with charset := f s.charset }

def view : View BasicAuthConfig := View.closed "BasicAuthConfig" {} settings

end BasicAuthConfig

/-- A client of the authorization server, and the registration under which the application finds
it. -/
structure OAuth2Config where
  registration : String := ""
  clientId : Option String := none
  clientName : Option String := none
  scopes : List String := []
  authorities : List String := []
  grantTypes : List String := ["client_credentials"]
  charset : Charset := {}
deriving DecidableEq, Repr, Inhabited

namespace OAuth2Config

def settings : List (Setting OAuth2Config) :=
  [.of "registration" View.text fun x s => { s with registration := x },
   .of "clientId" (View.option View.text) fun x s => { s with clientId := x },
   .of "clientName" (View.option View.text) fun x s => { s with clientName := x },
   .of "scopes" Extension.stringOrList fun x s => { s with scopes := x },
   .of "authorities" Extension.stringOrList fun x s => { s with authorities := x },
   .of "grantTypes" Extension.stringOrList fun x s => { s with grantTypes := x }] ++
  Charset.settings fun f s => { s with charset := f s.charset }

def view : View OAuth2Config := View.closed "OAuth2Config" {} settings

/-- The configured client id, or one made of the application and the service instance. -/
def clientIdFor (config : OAuth2Config) (application instanceId : String) : String :=
  config.clientId.getD (application ++ "-" ++ instanceId)

/-- The environment entry for a field of the registration. -/
def entry (config : OAuth2Config) (field : String) : String :=
  "security.oauth2.client.registration." ++ config.registration ++ "." ++ field

end OAuth2Config

namespace Credential

def userEntry : String := "security.user.name"

def passwordEntry : String := "security.user.password"

def basicKey (app : Application) (instanceId : String) : CredentialKey :=
  ⟨app.name, instanceId, "basic"⟩

def oauth2Key (app : Application) (instanceId : String) : CredentialKey :=
  ⟨app.name, instanceId, "oauth2"⟩

/-- Gives the application a user name and a password. -/
def basicAuth (config : BasicAuthConfig) : CredentialProvider where
  add instanceId app :=
    (Program.ask (.generateUser (basicKey app instanceId) config.charset)).andThen fun user =>
      .done <| .ok <| (app.withEnvironment userEntry (.text user.username)).withEnvironment
        passwordEntry (.text user.password)
  delete instanceId app :=
    (Program.ask (.deleteUser (basicKey app instanceId))).andThen fun _ => .done (.ok app)

/-- Registers a client with a new secret. The environment gets the id under which the authorization
server knows the client, which need not be the requested one. -/
def oauth2 (config : OAuth2Config) : CredentialProvider where
  add instanceId app :=
    if config.registration = "" then
      .done (.error ⟨"oauth2 credential provider requires a registration name", []⟩)
    else
      let clientId := config.clientIdFor app.name instanceId
      (Program.ask
        (.generateString (oauth2Key app instanceId) config.charset)).andThen fun secret =>
        (Program.ask (.createClient
          { clientId := clientId
            clientName := config.clientName.getD clientId
            clientSecret := secret
            scopes := config.scopes
            authorities := config.authorities
            grantTypes := config.grantTypes })).andThen fun client =>
          .done <| .ok <| (app.withEnvironment (config.entry "client-id")
            (.text client.clientId)).withEnvironment (config.entry "client-secret") (.text secret)
  delete instanceId app :=
    (Program.ask (.deleteClient (config.clientIdFor app.name instanceId))).andThen fun _ =>
      (Program.ask (.deleteString (oauth2Key app instanceId))).andThen fun _ => .done (.ok app)

/-- The providers that every broker has; the second one needs an authorization server. -/
def builtin (authorizationServer : Bool) : List (Factory CredentialProvider) :=
  .of "basic-auth" BasicAuthConfig.view basicAuth ::
    if authorizationServer then [.of "oauth2" OAuth2Config.view oauth2] else []

/-- The two things done with credentials. -/
inductive Phase where
  | add
  | delete
deriving DecidableEq, Repr

def Phase.work (phase : Phase) (instanceId : String) (provider : CredentialProvider) :
    Work Application :=
  match phase with
  | .add => provider.add instanceId
  | .delete => provider.delete instanceId

/-- The chain of the providers that an application lists. -/
def applicationChain (providers : Registry CredentialProvider) (phase : Phase) (instanceId : String)
    (app : Application) : Program (Except PipelineError Application) :=
  chain providers (phase.work instanceId) (·.name) app.credentialProviders app

variable {σ : Type}

def run (c : Collaborators σ) (providers : Registry CredentialProvider) (phase : Phase)
    (instanceId : String) (apps : List Application) :
    Session σ (Except PipelineError (List Application)) :=
  chains c (applicationChain providers phase instanceId) apps

end Credential

end ServiceBroker
