import ServiceBroker.Catalog.Entry
import ServiceBroker.Json.Record

/-!
Catalogs as JSON text. A catalog is a list of entries; every part of it is a record whose fields
after the identifying ones have empty defaults.
-/

namespace ServiceBroker

open Json

def ExtensionSpec.codec : Codec ExtensionSpec :=
  .record "ExtensionSpec" default
    [.required "name" .text (·.name) fun x s => { s with name := x },
     .defaulted "args" (.dict .any) (·.args) fun x s => { s with args := x }]

/-- A binding to a service instance is a record with the name alone. -/
def Application.serviceCodec : Codec String :=
  .record "ServicesSpec" ""
    [.required "serviceInstanceName" .text id fun x _ => x]

def Application.codec : Codec Application :=
  .record "BackingApplication" default
    [.required "name" .text (·.name) fun x s => { s with name := x },
     .defaulted "path" .text (·.path) fun x s => { s with path := x },
     .defaulted "properties" (.dict .text) (·.properties) fun x s => { s with properties := x },
     .defaulted "environment" (.dict .any) (·.environment) fun x s => { s with environment := x },
     .defaulted "parametersTransformers" (.list ExtensionSpec.codec) (·.transformers)
       fun x s => { s with transformers := x },
     .defaulted "credentialProviders" (.list ExtensionSpec.codec) (·.credentialProviders)
       fun x s => { s with credentialProviders := x },
     .defaulted "services" (.list serviceCodec) (·.services) fun x s => { s with services := x }]

def Service.codec : Codec Service :=
  .record "BackingService" default
    [.required "name" .text (·.name) fun x s => { s with name := x },
     .required "serviceInstanceName" .text (·.instanceName) fun x s => { s with instanceName := x },
     .required "plan" .text (·.plan) fun x s => { s with plan := x },
     .defaulted "parameters" (.dict .any) (·.parameters) fun x s => { s with parameters := x },
     .defaulted "properties" (.dict .text) (·.properties) fun x s => { s with properties := x },
     .defaulted "parametersTransformers" (.list ExtensionSpec.codec) (·.transformers)
       fun x s => { s with transformers := x }]

def CatalogEntry.codec : Codec CatalogEntry :=
  .record "BrokeredService" default
    [.required "serviceName" .text (·.serviceName) fun x s => { s with serviceName := x },
     .required "planName" .text (·.planName) fun x s => { s with planName := x },
     .defaulted "apps" (.list Application.codec) (·.applications)
       fun x s => { s with applications := x },
     .defaulted "services" (.list Service.codec) (·.services) fun x s => { s with services := x },
     .defaulted "target" (.option ExtensionSpec.codec) (·.target) fun x s => { s with target := x }]

def Artifact.codec : Codec Artifact :=
  .record "ArtifactDetails" default
    [.required "name" .text (·.name) fun x s => { s with name := x },
     .required "properties" (.dict .text) (·.properties) fun x s => { s with properties := x }]

def DeployedApplication.codec : Codec DeployedApplication :=
  .record "DeployedApplication" default
    [.required "name" .text (·.name) fun x s => { s with name := x },
     .defaulted "environment" (.dict .any) (·.environment) fun x s => { s with environment := x },
     .defaulted "services" (.list .text) (·.services) fun x s => { s with services := x }]

namespace Catalog

def entriesCodec : Codec (List CatalogEntry) := .list CatalogEntry.codec

/-- Reads a catalog from its JSON text. -/
def decode (text : String) : Except Fault Catalog := Catalog.mk <$> entriesCodec.decode text

/-- The compact JSON text of a catalog. -/
def encode (catalog : Catalog) : String := entriesCodec.encode catalog.entries

/-- What is told of a text that is no catalog. -/
def faultMessage (fault : Fault) : String := "invalid brokered services catalog: " ++ fault.message

end Catalog

end ServiceBroker
