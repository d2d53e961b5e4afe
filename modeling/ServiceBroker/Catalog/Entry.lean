import ServiceBroker.Json.Value

/-!
The catalog of brokered services: for each service and plan the applications and service instances
that back it, and the extensions that adapt them to one service instance.
-/

namespace ServiceBroker

open Json (Value)

/-- Request parameters, and arguments of an extension. -/
abbrev Parameters := Dict Value

/-- An extension by name, with the arguments it is to be configured with. -/
structure ExtensionSpec where
  name : String
  args : Parameters := .empty
deriving Inhabited

/-- A deployable unit that backs a service instance. -/
structure Application where
  name : String
  path : String := ""
  /-- Properties for the platform. -/
  properties : Dict String := .empty
  environment : Dict Value := .empty
  transformers : List ExtensionSpec := []
  credentialProviders : List ExtensionSpec := []
  /-- Names of the service instances that the application binds to. -/
  services : List String := []
deriving Inhabited

/-- A service of the platform's marketplace that is provisioned beside the applications. -/
structure Service where
  name : String
  instanceName : String
  plan : String
  parameters : Dict Value := .empty
  properties : Dict String := .empty
  transformers : List ExtensionSpec := []
deriving Inhabited

/-- What backs one plan of one service. -/
structure CatalogEntry where
  serviceName : String
  planName : String
  applications : List Application := []
  services : List Service := []
  target : Option ExtensionSpec := none
deriving Inhabited

structure Catalog where
  entries : List CatalogEntry
deriving Inhabited

/-- A final name with final properties. -/
structure Artifact where
  name : String
  properties : Dict String
deriving DecidableEq, Inhabited

/-- An application as the platform describes it while it runs. -/
structure DeployedApplication where
  name : String
  environment : Dict Value := .empty
  services : List String := []
deriving Inhabited

namespace ExtensionSpec

def withArg (spec : ExtensionSpec) (key : String) (value : Value) : ExtensionSpec :=
  { spec with args := spec.args.insert key value }

end ExtensionSpec

namespace Application

def withProperty (app : Application) (key value : String) : Application :=
  { app with properties := app.properties.insert key value }

def withEnvironment (app : Application) (key : String) (value : Value) : Application :=
  { app with environment := app.environment.insert key value }

def withTransformer (app : Application) (spec : ExtensionSpec) : Application :=
  { app with transformers := app.transformers ++ [spec] }

def withCredentialProvider (app : Application) (spec : ExtensionSpec) : Application :=
  { app with credentialProviders := app.credentialProviders ++ [spec] }

def withService (app : Application) (instanceName : String) : Application :=
  { app with services := app.services ++ [instanceName] }

def artifact (app : Application) : Artifact := ⟨app.name, app.properties⟩

def withArtifact (app : Application) (artifact : Artifact) : Application :=
  { app with name := artifact.name, properties := artifact.properties }

end Application

namespace Service

def withParameter (service : Service) (key : String) (value : Value) : Service :=
  { service with parameters := service.parameters.insert key value }

def withTransformer (service : Service) (spec : ExtensionSpec) : Service :=
  { service with transformers := service.transformers ++ [spec] }

def artifact (service : Service) : Artifact := ⟨service.instanceName, service.properties⟩

def withArtifact (service : Service) (artifact : Artifact) : Service :=
  { service with instanceName := artifact.name, properties := artifact.properties }

end Service

namespace CatalogEntry

def withApplication (entry : CatalogEntry) (app : Application) : CatalogEntry :=
  { entry with applications := entry.applications ++ [app] }

def withService (entry : CatalogEntry) (service : Service) : CatalogEntry :=
  { entry with services := entry.services ++ [service] }

def withTarget (entry : CatalogEntry) (target : ExtensionSpec) : CatalogEntry :=
  { entry with target := some target }

def isFor (entry : CatalogEntry) (serviceName planName : String) : Bool :=
  entry.serviceName == serviceName && entry.planName == planName

end CatalogEntry

namespace Catalog

/-- The first entry for a service and a plan. -/
def find? (catalog : Catalog) (serviceName planName : String) : Option CatalogEntry :=
  catalog.entries.find? (·.isFor serviceName planName)

/-- The position of the entry that `find?` returns. -/
def findIdx? (catalog : Catalog) (serviceName planName : String) : Option Nat :=
  catalog.entries.findIdx? (·.isFor serviceName planName)

def size (catalog : Catalog) : Nat := catalog.entries.length

def isEmpty (catalog : Catalog) : Bool := catalog.entries.isEmpty

/-- How many entries belong to one of the services. -/
def countServices (catalog : Catalog) (serviceNames : List String) : Nat :=
  catalog.entries.countP fun entry => serviceNames.contains entry.serviceName

end Catalog

/-- The application as far as its live description tells it. -/
def DeployedApplication.toApplication (deployed : DeployedApplication) : Application :=
  { name := deployed.name, environment := deployed.environment, services := deployed.services }

end ServiceBroker
