import ServiceBroker.Lifecycle
import ServiceBroker.Operation.Repository
import ServiceBroker.Provisioning

/-!
A broker: its configuration, its catalog, the extensions it was built with, and what it remembers of
the operations on its service instances.
-/

namespace ServiceBroker

open Json (View Setting)

inductive LogFormat where
  | plain
  | json
deriving DecidableEq, Repr, Inhabited

structure BrokerConfig where
  maxNameLength : Nat := 50
  actionFailurePolicy : FailurePolicy := .propagate
  queryFailurePolicy : FailurePolicy := .logAndSkip
  logFormat : LogFormat := .plain
deriving DecidableEq, Repr, Inhabited

namespace BrokerConfig

def policies : List (String × FailurePolicy) :=
  [("propagate", .propagate), ("log-and-skip", .logAndSkip)]

def logFormats : List (String × LogFormat) := [("plain", .plain), ("json", .json)]

def settings : List (Setting BrokerConfig) :=
  [.of "maxNameLength" View.size fun x s => { s with maxNameLength := x },
   .of "actionFailurePolicy" (View.choice policies) fun x s => { s with actionFailurePolicy := x },
   .of "queryFailurePolicy" (View.choice policies) fun x s => { s with queryFailurePolicy := x },
   .of "logFormat" (View.choice logFormats) fun x s => { s with logFormat := x }]

def view : View BrokerConfig := View.closed "EngineConfig" {} settings

end BrokerConfig

/-- Factories of all kinds that are registered after the built-in ones. -/
structure CustomExtensions where
  targets : List (Factory Target) := []
  transformers : List (Factory Transformer) := []
  serviceTransformers : List (Factory ServiceTransformer) := []
  credentialProviders : List (Factory CredentialProvider) := []

/-- Registers the built-in and the custom extensions, one kind after another. -/
def Extensions.build (maxNameLength : Nat) (authorizationServer : Bool)
    (custom : CustomExtensions) : Except ExtensionError Extensions := do
  let targets ← Registry.ofFactories (Target.builtin maxNameLength ++ custom.targets)
  let transformers ← Registry.ofFactories (Transform.builtin ++ custom.transformers)
  let serviceTransformers ←
    Registry.ofFactories (Transform.builtinForServices ++ custom.serviceTransformers)
  let credentialProviders ←
    Registry.ofFactories (Credential.builtin authorizationServer ++ custom.credentialProviders)
  .ok { targets, transformers, serviceTransformers, credentialProviders }

structure Broker where
  config : BrokerConfig
  catalog : Catalog
  extensions : Extensions
  instances : Repository String
  bindings : Repository BindingKey

namespace Broker

def build (config : BrokerConfig) (catalog : Catalog) (authorizationServer : Bool)
    (custom : CustomExtensions) : Except ExtensionError Broker := do
  let extensions ← Extensions.build config.maxNameLength authorizationServer custom
  .ok
    { config, catalog, extensions
      instances := .forInstances
      bindings := .forBindings }

/-- The lifecycle operations work on the catalog and the targets of the broker. -/
def lifecycle (broker : Broker) : Lifecycle where
  catalog := broker.catalog
  targets := broker.extensions.targets
  actionPolicy := broker.config.actionFailurePolicy
  queryPolicy := broker.config.queryFailurePolicy

/-! ## What is recorded -/

/-- What is recorded for a key, in the repository for keys of its kind. -/
def getState (broker : Broker) : StateKey → Except StateError OperationRecord
  | .serviceInstance instanceId => broker.instances.get instanceId
  | .binding key => broker.bindings.get key

def saveState (broker : Broker) (now : Instant) (key : StateKey) (state : OperationState)
    (description : String) : OperationRecord × Broker :=
  match key with
  | .serviceInstance instanceId =>
    let (record, instances) := broker.instances.save now instanceId state description
    (record, { broker with instances })
  | .binding key =>
    let (record, bindings) := broker.bindings.save now key state description
    (record, { broker with bindings })

def removeState (broker : Broker) : StateKey → Except StateError OperationRecord × Broker
  | .serviceInstance instanceId =>
    let (removed, instances) := broker.instances.remove instanceId
    (removed, { broker with instances })
  | .binding key =>
    let (removed, bindings) := broker.bindings.remove key
    (removed, { broker with bindings })

/-- What a call returns, and the broker after it. -/
def serve (broker : Broker) : StateCall → Except StateError OperationRecord × Broker
  | .save key state description now =>
    let (record, broker) := broker.saveState now key state description
    (.ok record, broker)
  | .get key => (broker.getState key, broker)
  | .remove key => broker.removeState key

/-- The calls one after another, with what they return. -/
def serveAll (broker : Broker) : List StateCall → List StateEvent × Broker
  | [] => ([], broker)
  | call :: rest =>
    let (result, broker) := broker.serve call
    let (events, broker) := broker.serveAll rest
    (⟨call, result⟩ :: events, broker)

end Broker

end ServiceBroker
