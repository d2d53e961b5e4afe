import ServiceBroker.Credential.Provider
import ServiceBroker.Target
import ServiceBroker.Transform

/-!
Preparing what backs a service instance: the target gives the final names, the transformers bring in
the request parameters, and the credential providers have the last word on the environment.
-/

namespace ServiceBroker

/-- The extensions that a broker works with. -/
structure Extensions where
  targets : Registry Target
  transformers : Registry Transformer
  serviceTransformers : Registry ServiceTransformer
  credentialProviders : Registry CredentialProvider

namespace CatalogEntry

def context (entry : CatalogEntry) (instanceId : String) : TargetContext :=
  ⟨instanceId, entry.serviceName, entry.planName⟩

end CatalogEntry

namespace Extensions

variable {σ : Type}

/-- The applications of an entry under their final names. -/
def targetedApplications (extensions : Extensions) (entry : CatalogEntry) (instanceId : String) :
    Except PipelineError (List Application) :=
  (extensions.targets.targetApplications entry.target (entry.context instanceId)
    entry.applications).mapError .unresolved

def targetedServices (extensions : Extensions) (entry : CatalogEntry) (instanceId : String) :
    Except PipelineError (List Service) :=
  (extensions.targets.targetServices entry.target (entry.context instanceId)
    entry.services).mapError .unresolved

/-- The applications to deploy for a service instance. No stage begins unless the one before it has
succeeded for all applications. -/
def prepareApplications (extensions : Extensions) (c : Collaborators σ) (entry : CatalogEntry)
    (instanceId : String) (parameters : Parameters) :
    Session σ (Except PipelineError (List Application)) := do
  match extensions.targetedApplications entry instanceId with
  | .error e => return .error e
  | .ok apps =>
    match ← Transform.applications c extensions.transformers parameters apps with
    | .error e => return .error e
    | .ok apps => Credential.run c extensions.credentialProviders .add instanceId apps

/-- The services to provision for a service instance. -/
def prepareServices (extensions : Extensions) (c : Collaborators σ) (entry : CatalogEntry)
    (instanceId : String) (parameters : Parameters) :
    Session σ (Except PipelineError (List Service)) := do
  match extensions.targetedServices entry instanceId with
  | .error e => return .error e
  | .ok services => Transform.services c extensions.serviceTransformers parameters services

/-- The applications to remove with a service instance, after their credentials are released. -/
def prepareDeletion (extensions : Extensions) (c : Collaborators σ) (entry : CatalogEntry)
    (instanceId : String) : Session σ (Except PipelineError (List Application)) := do
  match extensions.targetedApplications entry instanceId with
  | .error e => return .error e
  | .ok apps => Credential.run c extensions.credentialProviders .delete instanceId apps

end Extensions

end ServiceBroker
