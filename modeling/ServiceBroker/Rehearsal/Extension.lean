import ServiceBroker.Broker

/-!
Extensions for rehearsals. They are told by their arguments what to do, how long to take and how to
fail, so a catalog can stage any course of events.
-/

namespace ServiceBroker.Rehearsal

open Json (Value View Setting)

/-- The target that marks a name and leaves a property. -/
def markingTarget (extension : String) : Target := fun _ artifact =>
  ⟨extension ++ ":" ++ artifact.name, artifact.properties.insert "custom" extension⟩

/-- What an extension does: it puts a text under a key, and may rename the entity. -/
structure Conduct where
  key : String := ""
  value : String := ""
  failure : List String := []
  delay : Nat := 0
  rename : Option String := none
deriving DecidableEq, Repr, Inhabited

namespace Conduct

def settings : List (Setting Conduct) :=
  [.of "key" View.text fun x s => { s with key := x },
   .of "value" View.text fun x s => { s with value := x },
   .of "fail" Extension.stringOrList fun x s => { s with failure := x },
   .of "delay" View.size fun x s => { s with delay := x },
   .of "rename" (View.option View.text) fun x s => { s with rename := x }]

def view : View Conduct := View.closed "Conduct" {} settings

def failure? (conduct : Conduct) : Option Failure :=
  match conduct.failure with
  | [] => none
  | message :: causes => some ⟨message, causes⟩

/-- The work of an extension on an entity, which is changed when the work has succeeded. -/
def work {α : Type} (conduct : Conduct) (extension verb : String) (name : α → String)
    (change : α → α) : Work α := fun entity =>
  (Program.ask (.extension
    { extension, verb
      entity := name entity
      delay := conduct.delay
      failure := conduct.failure? })).andThen fun _ => .done (.ok (change entity))

def changeApplication (conduct : Conduct) (app : Application) : Application :=
  let app := app.withEnvironment conduct.key (.text conduct.value)
  { app with name := conduct.rename.getD app.name }

def changeService (conduct : Conduct) (service : Service) : Service :=
  let service := service.withParameter conduct.key (.text conduct.value)
  { service with instanceName := conduct.rename.getD service.instanceName }

/-- Takes away what `changeApplication` puts into the environment. -/
def clearApplication (conduct : Conduct) (app : Application) : Application :=
  { app with environment := app.environment.erase conduct.key }

end Conduct

/-- Names of the extensions of each kind. -/
structure Cast where
  targets : List String := []
  transformers : List String := []
  serviceTransformers : List String := []
  credentialProviders : List String := []
deriving Inhabited

namespace Cast

def target (extension : String) : Factory Target :=
  .of extension Extension.noConfig fun _ => markingTarget extension

def transformer (extension : String) : Factory Transformer :=
  .of extension Conduct.view fun conduct _ =>
    conduct.work extension "transform" (·.name) conduct.changeApplication

def serviceTransformer (extension : String) : Factory ServiceTransformer :=
  .of extension Conduct.view fun conduct _ =>
    conduct.work extension "transform" (·.instanceName) conduct.changeService

def credentialProvider (extension : String) : Factory CredentialProvider :=
  .of extension Conduct.view fun conduct =>
    { add := fun _ => conduct.work extension "add" (·.name) conduct.changeApplication
      delete := fun _ => conduct.work extension "delete" (·.name) conduct.clearApplication }

/-- The factories of all the extensions. -/
def extensions (cast : Cast) : CustomExtensions where
  targets := cast.targets.map target
  transformers := cast.transformers.map transformer
  serviceTransformers := cast.serviceTransformers.map serviceTransformer
  credentialProviders := cast.credentialProviders.map credentialProvider

end Cast

end ServiceBroker.Rehearsal
