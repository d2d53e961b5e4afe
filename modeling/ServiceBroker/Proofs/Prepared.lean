import ServiceBroker.Proofs.Provisioning

/-!
What becomes of the applications and services that the target has named. Transformers and credential
providers leave their names alone, and the names of the services that an application binds to; of
the properties they change those that some mapping copies from the request.
-/

namespace ServiceBroker

variable {σ α β γ : Type}

theorem forall₂_trans {R : α → β → Prop} {S : β → γ → Prop} {T : α → γ → Prop} {xs : List α}
    {ys : List β} {zs : List γ} (h : List.Forall₂ R xs ys) (h' : List.Forall₂ S ys zs)
    (htrans : ∀ x y z, R x y → S y z → T x z) : List.Forall₂ T xs zs := by
  induction h generalizing zs with
  | nil =>
    cases h'
    exact .nil
  | cons hxy _ ih =>
    cases h' with
    | cons hyz hrest => exact .cons (htrans _ _ _ hxy hyz) (ih hrest)

def Application.SameButEnvironment (app app' : Application) : Prop :=
  app' = { app with environment := app'.environment }

namespace Application

variable {parameters : Parameters} {specs : List ExtensionSpec} {app changed result : Application}

theorem SameButEnvironment.trans (h : app.SameButEnvironment changed)
    (h' : changed.SameButEnvironment result) : app.SameButEnvironment result := by
  have hchanged : { changed with environment := result.environment } =
      { app with environment := result.environment } := by rw [h]
  exact Eq.trans h' hchanged

theorem Mapped.sameButEnvironment (h : app.Mapped parameters specs changed)
    (h' : changed.SameButEnvironment result) : app.Mapped parameters specs result := by
  rw [h']
  exact ⟨h.name, h.services, h.providers, h.property⟩

end Application

namespace Extensions.BuiltFrom

variable {extensions : Extensions} {maxNameLength : Nat} {authorizationServer : Bool}

/-! ## Credential providers -/

theorem add_sameButEnvironment
    (built : extensions.BuiltFrom maxNameLength authorizationServer {}) {spec : ExtensionSpec}
    {provider : CredentialProvider}
    (hprovider : extensions.credentialProviders.resolveSpec spec = .ok provider)
    (instanceId : String) (entity : Application) :
    (provider.add instanceId entity).Ensures (fun _ => True)
      fun r => ∀ changed, r = .ok changed → entity.SameButEnvironment changed := by
  rcases built.provider hprovider with ⟨-, config, -, rfl⟩ | ⟨-, config, -, rfl⟩
  · refine Program.ensures_ask_andThen trivial (fun _ _ h => nomatch h) fun user => ?_
    rintro _ ⟨⟩
    rfl
  · change (ite _ _ _ : Program (Except Failure Application)).Ensures _ _
    split
    · exact fun _ h => nomatch h
    · refine Program.ensures_ask_andThen trivial (fun _ _ h => nomatch h) fun secret => ?_
      refine Program.ensures_ask_andThen trivial (fun _ _ h => nomatch h) fun client => ?_
      rintro _ ⟨⟩
      rfl

theorem addChain_sameButEnvironment
    (built : extensions.BuiltFrom maxNameLength authorizationServer {}) (instanceId : String)
    (app : Application) :
    (Credential.applicationChain extensions.credentialProviders .add instanceId app).Ensures
      (fun _ => True) fun r => ∀ changed, r = .ok changed → app.SameButEnvironment changed := by
  refine chain_ensures (I := app.SameButEnvironment) _ _ _ _
    (fun spec _ provider hprovider entity h => ?_) app rfl
  exact (built.add_sameButEnvironment hprovider instanceId entity).mono (fun _ hr => hr)
    fun r hr changed hchanged => h.trans (hr changed hchanged)

/-! ## Both preparations -/

variable {c : Collaborators σ} {entry : CatalogEntry} {instanceId : String}
  {parameters : Parameters} {s : σ}

/-- Prepared applications are what the transformers make of those that the target has named. -/
theorem preparedApplications
    (built : extensions.BuiltFrom maxNameLength authorizationServer {})
    {prepared : List Application}
    (hok : (extensions.prepareApplications c entry instanceId parameters s).value =
      .ok prepared) :
    ∃ apps, extensions.targetedApplications entry instanceId = .ok apps ∧
      List.Forall₂ (fun app => app.Mapped parameters app.transformers) apps prepared := by
  obtain ⟨apps, transformed, htarget, htransform, _, hok, -⟩ := of_prepareApplications_ok hok
  have hmapped := chains_ok_ensures htransform fun app _ =>
    built.applicationChain_mapped parameters app
  have hadded := chains_ok_ensures hok fun app _ =>
    built.addChain_sameButEnvironment instanceId app
  exact ⟨apps, htarget, forall₂_trans hmapped hadded fun _ _ _ h h' => h.sameButEnvironment h'⟩

theorem preparedServices (built : extensions.BuiltFrom maxNameLength authorizationServer {})
    {prepared : List Service}
    (hok : (extensions.prepareServices c entry instanceId parameters s).value = .ok prepared) :
    ∃ services, extensions.targetedServices entry instanceId = .ok services ∧
      List.Forall₂ (fun service service' => service'.instanceName = service.instanceName)
        services prepared := by
  rw [prepareServices_eq] at hok
  obtain ⟨services, htarget, hok⟩ := of_chainsAfter_ok hok
  exact ⟨services, htarget, chains_ok_ensures hok fun service _ =>
    built.serviceChain_instanceName parameters service⟩

end Extensions.BuiltFrom

end ServiceBroker
