import ServiceBroker.Proofs.Mapping

/-!
The stages of preparing what backs a service instance. Built-in transformers ask nothing, and they
keep the names and the credential providers of the applications; so credentials are issued for the
applications that the target has named.
-/

namespace ServiceBroker

variable {σ : Type}

/-- Credentials see no difference between the applications. -/
structure Application.SameOwner (app app' : Application) : Prop where
  name : app'.name = app.name
  providers : app'.credentialProviders = app.credentialProviders

theorem Application.Mapped.sameOwner {parameters : Parameters} {specs : List ExtensionSpec}
    {app changed : Application} (h : app.Mapped parameters specs changed) : app.SameOwner changed :=
  ⟨h.name, h.providers⟩

namespace Extensions

/-- The target works on each application by itself, and on its name and properties only. -/
theorem of_targetedApplications {extensions : Extensions} {entry : CatalogEntry}
    {instanceId : String} {apps : List Application}
    (h : extensions.targetedApplications entry instanceId = .ok apps) :
    ∃ target, extensions.targets.targetFor entry.target (entry.context instanceId) = .ok target ∧
      apps = entry.applications.map fun app => app.withArtifact (target app.artifact) := by
  obtain ⟨target, htarget, hmap⟩ := exists_of_bind_eq_ok (eq_ok_of_mapError_eq_ok h)
  cases hmap
  exact ⟨target, htarget, rfl⟩

theorem of_targetedServices {extensions : Extensions} {entry : CatalogEntry} {instanceId : String}
    {services : List Service} (h : extensions.targetedServices entry instanceId = .ok services) :
    ∃ target, extensions.targets.targetFor entry.target (entry.context instanceId) = .ok target ∧
      services = entry.services.map fun service =>
        service.withArtifact (target service.artifact) := by
  obtain ⟨target, htarget, hmap⟩ := exists_of_bind_eq_ok (eq_ok_of_mapError_eq_ok h)
  cases hmap
  exact ⟨target, htarget, rfl⟩

/-! ## Stages -/

/-- Runs the chains of the entities, unless what comes before has failed. -/
def chainsAfter {α : Type} (c : Collaborators σ) (chainOf : α → Program (Except PipelineError α)) :
    Except PipelineError (List α) → Session σ (Except PipelineError (List α))
  | .error error => pure (.error error)
  | .ok entities => chains c chainOf entities

theorem of_chainsAfter_ok {α : Type} {c : Collaborators σ}
    {chainOf : α → Program (Except PipelineError α)} {before : Except PipelineError (List α)}
    {s : σ} {results : List α} (h : (chainsAfter c chainOf before s).value = .ok results) :
    ∃ entities, before = .ok entities ∧ (chains c chainOf entities s).value = .ok results := by
  cases before with
  | error error => cases h
  | ok entities => exact ⟨entities, rfl, h⟩

theorem prepareApplications_eq (extensions : Extensions) (c : Collaborators σ)
    (entry : CatalogEntry) (instanceId : String) (parameters : Parameters) :
    extensions.prepareApplications c entry instanceId parameters =
      chainsAfter c (Transform.applicationChain extensions.transformers parameters)
          (extensions.targetedApplications entry instanceId) >>=
        chainsAfter c (Credential.applicationChain extensions.credentialProviders
          .add instanceId) := by
  rw [prepareApplications]
  cases extensions.targetedApplications entry instanceId with
  | error error => rfl
  | ok apps =>
    refine congrArg (chains c _ apps >>= ·) (funext fun transformed => ?_)
    cases transformed <;> rfl

theorem of_prepareApplications_ok {extensions : Extensions} {c : Collaborators σ}
    {entry : CatalogEntry} {instanceId : String} {parameters : Parameters} {s : σ}
    {results : List Application}
    (h : (extensions.prepareApplications c entry instanceId parameters s).value = .ok results) :
    ∃ apps transformed, extensions.targetedApplications entry instanceId = .ok apps ∧
      (Transform.applications c extensions.transformers parameters apps s).value = .ok transformed ∧
      ∃ t, (Credential.run c extensions.credentialProviders .add instanceId transformed t).value =
          .ok results ∧
        (extensions.prepareApplications c entry instanceId parameters s).state =
          (Credential.run c extensions.credentialProviders .add instanceId
            transformed t).state := by
  rw [prepareApplications_eq, Session.bind_apply] at h ⊢
  obtain ⟨transformed, htransformed, hrun⟩ := of_chainsAfter_ok h
  obtain ⟨apps, htarget, htransform⟩ := of_chainsAfter_ok htransformed
  refine ⟨apps, transformed, htarget, htransform, _, hrun, ?_⟩
  simp only [htransformed]
  rfl

theorem prepareServices_eq (extensions : Extensions) (c : Collaborators σ) (entry : CatalogEntry)
    (instanceId : String) (parameters : Parameters) :
    extensions.prepareServices c entry instanceId parameters =
      chainsAfter c (Transform.serviceChain extensions.serviceTransformers parameters)
        (extensions.targetedServices entry instanceId) := by
  rw [prepareServices]
  cases extensions.targetedServices entry instanceId <;> rfl

theorem prepareDeletion_eq (extensions : Extensions) (c : Collaborators σ) (entry : CatalogEntry)
    (instanceId : String) :
    extensions.prepareDeletion c entry instanceId =
      chainsAfter c (Credential.applicationChain extensions.credentialProviders .delete instanceId)
        (extensions.targetedApplications entry instanceId) := by
  rw [prepareDeletion]
  cases extensions.targetedApplications entry instanceId <;> rfl

end Extensions

namespace Extensions.BuiltFrom

variable {extensions : Extensions} {maxNameLength : Nat} {authorizationServer : Bool}

/-- Transforming applications asks nothing and gives applications with the same owners. -/
theorem transformed (built : extensions.BuiltFrom maxNameLength authorizationServer {})
    (c : Collaborators σ) (parameters : Parameters) (apps : List Application) (s : σ) :
    let outcome := Transform.applications c extensions.transformers parameters apps s
    outcome.state = s ∧ ∀ results, outcome.value = .ok results →
      ∀ changed ∈ results, ∃ app ∈ apps, app.SameOwner changed := by
  intro outcome
  constructor
  · exact chains_state_of_silent c
      (fun app _ => (built.applicationChain_mapped parameters app).asks) s
  · intro results hresults changed hchanged
    have hmapped := chains_ok_ensures hresults fun app _ =>
      built.applicationChain_mapped parameters app
    obtain ⟨i, hi, rfl⟩ := List.getElem_of_mem hchanged
    have happ : i < apps.length := hmapped.length_eq ▸ hi
    exact ⟨apps[i], List.getElem_mem happ, (hmapped.get happ hi).sameOwner⟩

theorem transformedServices_state
    (built : extensions.BuiltFrom maxNameLength authorizationServer {}) (c : Collaborators σ)
    (parameters : Parameters) (services : List Service) (s : σ) :
    (Transform.services c extensions.serviceTransformers parameters services s).state = s :=
  chains_state_of_silent c
    (fun service _ => (built.serviceChain_instanceName parameters service).asks) s

/-! ## What a preparation does to the collaborators -/

theorem prepareServices_state
    (built : extensions.BuiltFrom maxNameLength authorizationServer {}) (c : Collaborators σ)
    (entry : CatalogEntry) (instanceId : String) (parameters : Parameters) (s : σ) :
    (extensions.prepareServices c entry instanceId parameters s).state = s := by
  rw [prepareServices]
  cases extensions.targetedServices entry instanceId with
  | error e => rfl
  | ok services => exact built.transformedServices_state c parameters services s

/-- Preparing applications issues credentials for the applications of the target, or does
nothing. -/
theorem prepareApplications_state
    (built : extensions.BuiltFrom maxNameLength authorizationServer {}) (c : Collaborators σ)
    (entry : CatalogEntry) (instanceId : String) (parameters : Parameters) (s : σ) :
    (extensions.prepareApplications c entry instanceId parameters s).state = s ∨
      ∃ apps results, extensions.targetedApplications entry instanceId = .ok apps ∧
        (∀ changed ∈ results, ∃ app ∈ apps, app.SameOwner changed) ∧
        (extensions.prepareApplications c entry instanceId parameters s).state =
          (Credential.run c extensions.credentialProviders .add instanceId results s).state := by
  rw [prepareApplications_eq, Session.bind_apply]
  cases htarget : extensions.targetedApplications entry instanceId with
  | error e => exact .inl rfl
  | ok apps =>
    obtain ⟨hstate, hresults⟩ := built.transformed c parameters apps s
    simp only [chainsAfter]
    cases hvalue : (chains c (Transform.applicationChain extensions.transformers parameters) apps
      s).value with
    | error e => exact .inl hstate
    | ok results =>
      refine .inr ⟨apps, results, rfl, hresults results hvalue, ?_⟩
      exact congrArg (fun s => (chains c _ results s).state) hstate

end Extensions.BuiltFrom

end ServiceBroker
