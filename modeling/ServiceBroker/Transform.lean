import ServiceBroker.Extension.Chain
import ServiceBroker.Json.Printer

/-!
Transformers carry request parameters over to what is about to be deployed. The built-in ones copy
the parameters of an allow-list; a request value replaces an older one, and a key that the request
does not carry is passed over.
-/

namespace ServiceBroker

open Json (Value View Setting)

abbrev Transformer := Parameters → Work Application

abbrev ServiceTransformer := Parameters → Work Service

/-- The parameters that a mapping may copy, in the order in which it copies them. -/
structure MappingConfig where
  included : List String := []
deriving DecidableEq, Repr, Inhabited

namespace MappingConfig

def settings : List (Setting MappingConfig) :=
  [.of "include" Extension.stringOrList fun x s => { s with included := x }]

def view : View MappingConfig := View.closed "MappingConfig" {} settings

/-- The included parameters that the request carries. -/
def selected (config : MappingConfig) (parameters : Parameters) : List (String × Value) :=
  config.included.filterMap fun key => (parameters.get? key).map (key, ·)

/-- Puts the selected parameters into an entity one after another. -/
def copyInto {α : Type} (config : MappingConfig) (put : α → String → Value → α)
    (parameters : Parameters) (entity : α) : α :=
  (config.selected parameters).foldl (fun entity (key, value) => put entity key value) entity

end MappingConfig

namespace Transform

/-- The text of a parameter as a property: a text as it is, any other value as compact JSON. -/
def propertyText : Value → String
  | .text s => s
  | v => v.render

def mapEnvironment (config : MappingConfig) (parameters : Parameters) (app : Application) :
    Application :=
  config.copyInto Application.withEnvironment parameters app

def mapProperties (config : MappingConfig) (parameters : Parameters) (app : Application) :
    Application :=
  config.copyInto (fun app key value => app.withProperty key (propertyText value)) parameters app

def mapParameters (config : MappingConfig) (parameters : Parameters) (service : Service) :
    Service :=
  config.copyInto Service.withParameter parameters service

/-- The transformers of applications that every broker has. -/
def builtin : List (Factory Transformer) :=
  [.of "env-mapping" MappingConfig.view fun config parameters app =>
     .done (.ok (mapEnvironment config parameters app)),
   .of "property-mapping" MappingConfig.view fun config parameters app =>
     .done (.ok (mapProperties config parameters app))]

/-- The transformers of services that every broker has. -/
def builtinForServices : List (Factory ServiceTransformer) :=
  [.of "parameter-mapping" MappingConfig.view fun config parameters service =>
     .done (.ok (mapParameters config parameters service))]

variable {σ : Type}

/-- The chain of the transformers that an application lists. -/
def applicationChain (transformers : Registry Transformer) (parameters : Parameters)
    (app : Application) : Program (Except PipelineError Application) :=
  chain transformers (fun t => t parameters) (·.name) app.transformers app

def serviceChain (transformers : Registry ServiceTransformer) (parameters : Parameters)
    (service : Service) : Program (Except PipelineError Service) :=
  chain transformers (fun t => t parameters) (·.instanceName) service.transformers service

def applications (c : Collaborators σ) (transformers : Registry Transformer)
    (parameters : Parameters) (apps : List Application) :
    Session σ (Except PipelineError (List Application)) :=
  chains c (applicationChain transformers parameters) apps

def services (c : Collaborators σ) (transformers : Registry ServiceTransformer)
    (parameters : Parameters) (services : List Service) :
    Session σ (Except PipelineError (List Service)) :=
  chains c (serviceChain transformers parameters) services

end Transform

end ServiceBroker
