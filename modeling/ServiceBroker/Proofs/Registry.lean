import ServiceBroker.Broker
import ServiceBroker.Proofs.Outcome

/-!
What a registry resolves a name to was made by a factory of that name. The registries of a broker
without custom extensions resolve to built-in extensions only.
-/

namespace ServiceBroker

namespace Registry

variable {α : Type}

theorem get?_register {factories : List (Factory α)} {start registry : Registry α}
    (h : start.register factories = .ok registry) {name : String}
    {create : Parameters → Except Extension.BindingFault α}
    (hget : registry.factories.get? name = some create) :
    start.factories.get? name = some create ∨ ⟨name, create⟩ ∈ factories := by
  induction factories generalizing start with
  | nil =>
    cases h
    exact .inl hget
  | cons factory rest ih =>
    rw [register] at h
    split at h
    · cases h
    · rcases ih h with hstart | hrest
      · rw [Dict.get?_insert] at hstart
        split at hstart
        · rename_i hname
          cases hname
          cases hstart
          exact .inr List.mem_cons_self
        · exact .inl hstart
      · exact .inr (List.mem_cons_of_mem _ hrest)

theorem get?_of_register {factories : List (Factory α)} {start registry : Registry α}
    (h : start.register factories = .ok registry) :
    (∀ name create, start.factories.get? name = some create →
      registry.factories.get? name = some create) ∧
    ∀ factory ∈ factories, registry.factories.get? factory.name = some factory.create := by
  induction factories generalizing start with
  | nil =>
    cases h
    exact ⟨fun _ _ hget => hget, fun _ hmem => nomatch hmem⟩
  | cons factory rest ih =>
    rw [register] at h
    split at h
    · cases h
    · rename_i hfree
      obtain ⟨hkept, hrest⟩ := ih h
      constructor
      · intro name create hget
        have hne : name ≠ factory.name := by
          rintro rfl
          exact hfree (by rw [Dict.contains, hget]; rfl)
        exact hkept name create (by rw [Dict.get?_insert, if_neg hne]; exact hget)
      · intro other hmem
        rcases List.mem_cons.mp hmem with rfl | hmem
        · exact hkept _ _ (by rw [Dict.get?_insert, if_pos rfl])
        · exact hrest other hmem

theorem resolve_of_mem {factories : List (Factory α)} {registry : Registry α}
    (h : ofFactories factories = .ok registry) {factory : Factory α} (hmem : factory ∈ factories)
    (args : Parameters) :
    registry.resolve factory.name args =
      (factory.create args).mapError (.invalidConfiguration factory.name) := by
  simp only [resolve, (get?_of_register h).2 factory hmem]

theorem resolve_of {S : Type} {factories : List (Factory α)} {registry : Registry α}
    (h : ofFactories factories = .ok registry) {name : String} {view : Json.View S} {make : S → α}
    (hmem : .of name view make ∈ factories) (args : Parameters) :
    registry.resolve name args =
      ((Extension.bind view args).map make).mapError (.invalidConfiguration name) := by
  have hresolve := resolve_of_mem h hmem args
  exact hresolve

/-- Of the registered factories, the one of the name makes the extension from the arguments. -/
theorem exists_factory_of_resolve {factories : List (Factory α)} {registry : Registry α}
    (h : ofFactories factories = .ok registry) {name : String} {args : Parameters} {x : α}
    (hx : registry.resolve name args = .ok x) :
    ∃ factory ∈ factories, factory.name = name ∧ factory.create args = .ok x := by
  rw [resolve] at hx
  cases hget : registry.factories.get? name with
  | none =>
    rw [hget] at hx
    cases hx
  | some create =>
    simp only [hget] at hx
    rcases get?_register h hget with hempty | hmem
    · cases hempty
    · exact ⟨_, hmem, rfl, eq_ok_of_mapError_eq_ok hx⟩

/-- A built-in name resolves to what the built-in factory makes, whatever else is registered. -/
theorem create_of_resolve {builtin custom : List (Factory α)} {registry : Registry α}
    (h : ofFactories (builtin ++ custom) = .ok registry) {name : String} {args : Parameters} {x : α}
    (hname : name ∈ builtin.map (·.name)) (hx : registry.resolve name args = .ok x) :
    ∃ factory ∈ builtin, factory.name = name ∧ factory.create args = .ok x := by
  obtain ⟨factory, hfactory, rfl⟩ := List.mem_map.mp hname
  rw [resolve_of_mem h (List.mem_append_left _ hfactory)] at hx
  exact ⟨factory, hfactory, rfl, eq_ok_of_mapError_eq_ok hx⟩

theorem exists_config_of_create {S : Type} {name : String} {view : Json.View S} {make : S → α}
    {args : Parameters} {x : α} (h : (Factory.of name view make).create args = .ok x) :
    ∃ config, Extension.bind view args = .ok config ∧ x = make config := by
  change make <$> Extension.bind view args = .ok x at h
  cases hbind : Extension.bind view args with
  | error fault =>
    rw [hbind] at h
    cases h
  | ok config =>
    rw [hbind] at h
    cases h
    exact ⟨config, rfl, rfl⟩

end Registry

namespace Transform

variable {args : Parameters}

theorem of_builtin {factory : Factory Transformer} {transformer : Transformer}
    (hfactory : factory ∈ builtin) (hcreate : factory.create args = .ok transformer) :
    ∃ config, Extension.bind MappingConfig.view args = .ok config ∧
      ((factory.name = "env-mapping" ∧ transformer = fun parameters app =>
          .done (.ok (mapEnvironment config parameters app))) ∨
        (factory.name = "property-mapping" ∧ transformer = fun parameters app =>
          .done (.ok (mapProperties config parameters app)))) := by
  rcases List.mem_cons.mp hfactory with rfl | hfactory
  · obtain ⟨config, hbind, rfl⟩ := Registry.exists_config_of_create hcreate
    exact ⟨config, hbind, .inl ⟨rfl, rfl⟩⟩
  · obtain rfl := List.mem_singleton.mp hfactory
    obtain ⟨config, hbind, rfl⟩ := Registry.exists_config_of_create hcreate
    exact ⟨config, hbind, .inr ⟨rfl, rfl⟩⟩

theorem of_builtinForServices {factory : Factory ServiceTransformer}
    {transformer : ServiceTransformer} (hfactory : factory ∈ builtinForServices)
    (hcreate : factory.create args = .ok transformer) :
    ∃ config, Extension.bind MappingConfig.view args = .ok config ∧
      transformer = fun parameters service =>
        .done (.ok (mapParameters config parameters service)) := by
  obtain rfl := List.mem_singleton.mp hfactory
  obtain ⟨config, hbind, rfl⟩ := Registry.exists_config_of_create hcreate
  exact ⟨config, hbind, rfl⟩

end Transform

namespace Credential

/-! Applications of one name share the keys of their secrets. -/

theorem basicKey_eq_iff (app other : Application) (instanceId : String) :
    basicKey app instanceId = basicKey other instanceId ↔ app.name = other.name := by
  simp [basicKey]

theorem oauth2Key_eq_iff (app other : Application) (instanceId : String) :
    oauth2Key app instanceId = oauth2Key other instanceId ↔ app.name = other.name := by
  simp [oauth2Key]

theorem of_builtin {authorizationServer : Bool} {args : Parameters}
    {factory : Factory CredentialProvider} {provider : CredentialProvider}
    (hfactory : factory ∈ builtin authorizationServer)
    (hcreate : factory.create args = .ok provider) :
    (factory.name = "basic-auth" ∧ ∃ config, Extension.bind BasicAuthConfig.view args = .ok config ∧
        provider = basicAuth config) ∨
      (factory.name = "oauth2" ∧ ∃ config, Extension.bind OAuth2Config.view args = .ok config ∧
        provider = oauth2 config) := by
  rw [builtin] at hfactory
  rcases List.mem_cons.mp hfactory with rfl | hfactory
  · obtain ⟨config, hbind, rfl⟩ := Registry.exists_config_of_create hcreate
    exact .inl ⟨rfl, config, hbind, rfl⟩
  · cases authorizationServer with
    | false => cases hfactory
    | true =>
      obtain rfl := List.mem_singleton.mp hfactory
      obtain ⟨config, hbind, rfl⟩ := Registry.exists_config_of_create hcreate
      exact .inr ⟨rfl, config, hbind, rfl⟩

end Credential

namespace Extensions

/-- Each registry holds the built-in factories and the custom ones of its kind. -/
structure BuiltFrom (extensions : Extensions) (maxNameLength : Nat) (authorizationServer : Bool)
    (custom : CustomExtensions) : Prop where
  targets : Registry.ofFactories (Target.builtin maxNameLength ++ custom.targets) =
    .ok extensions.targets
  transformers : Registry.ofFactories (Transform.builtin ++ custom.transformers) =
    .ok extensions.transformers
  serviceTransformers :
    Registry.ofFactories (Transform.builtinForServices ++ custom.serviceTransformers) =
      .ok extensions.serviceTransformers
  credentialProviders :
    Registry.ofFactories (Credential.builtin authorizationServer ++ custom.credentialProviders) =
      .ok extensions.credentialProviders

theorem builtFrom_of_build {extensions : Extensions} {maxNameLength : Nat}
    {authorizationServer : Bool} {custom : CustomExtensions}
    (h : build maxNameLength authorizationServer custom = .ok extensions) :
    extensions.BuiltFrom maxNameLength authorizationServer custom := by
  obtain ⟨targets, htargets, h⟩ := exists_of_bind_eq_ok h
  obtain ⟨transformers, htransformers, h⟩ := exists_of_bind_eq_ok h
  obtain ⟨serviceTransformers, hserviceTransformers, h⟩ := exists_of_bind_eq_ok h
  obtain ⟨credentialProviders, hcredentialProviders, h⟩ := exists_of_bind_eq_ok h
  cases h
  exact ⟨htargets, htransformers, hserviceTransformers, hcredentialProviders⟩

variable {extensions : Extensions} {maxNameLength : Nat} {authorizationServer : Bool}

theorem BuiltFrom.target (built : extensions.BuiltFrom maxNameLength authorizationServer {})
    {name : String} {args : Parameters} {target : Target}
    (h : extensions.targets.resolve name args = .ok target) :
    (name = "per-instance-grouping" ∧ target = Target.perInstanceGrouping) ∨
      (name = "per-plan-grouping" ∧ target = Target.perPlanGrouping) ∨
      (name = "instance-suffix" ∧ target = Target.instanceSuffix maxNameLength) := by
  obtain ⟨factory, hfactory, rfl, hcreate⟩ := Registry.exists_factory_of_resolve built.targets h
  rw [List.append_nil, Target.builtin] at hfactory
  rcases List.mem_cons.mp hfactory with rfl | hfactory
  · obtain ⟨_, -, rfl⟩ := Registry.exists_config_of_create hcreate
    exact .inl ⟨rfl, rfl⟩
  · rcases List.mem_cons.mp hfactory with rfl | hfactory
    · obtain ⟨_, -, rfl⟩ := Registry.exists_config_of_create hcreate
      exact .inr (.inl ⟨rfl, rfl⟩)
    · obtain rfl := List.mem_singleton.mp hfactory
      obtain ⟨_, -, rfl⟩ := Registry.exists_config_of_create hcreate
      exact .inr (.inr ⟨rfl, rfl⟩)

theorem BuiltFrom.transformer (built : extensions.BuiltFrom maxNameLength authorizationServer {})
    {spec : ExtensionSpec} {transformer : Transformer}
    (h : extensions.transformers.resolveSpec spec = .ok transformer) :
    ∃ config, Extension.bind MappingConfig.view spec.args = .ok config ∧
      ((spec.name = "env-mapping" ∧ transformer = fun parameters app =>
          .done (.ok (Transform.mapEnvironment config parameters app))) ∨
        (spec.name = "property-mapping" ∧ transformer = fun parameters app =>
          .done (.ok (Transform.mapProperties config parameters app)))) := by
  obtain ⟨factory, hfactory, hname, hcreate⟩ :=
    Registry.exists_factory_of_resolve built.transformers h
  rw [List.append_nil] at hfactory
  rw [← hname]
  exact Transform.of_builtin hfactory hcreate

theorem BuiltFrom.serviceTransformer
    (built : extensions.BuiltFrom maxNameLength authorizationServer {}) {spec : ExtensionSpec}
    {transformer : ServiceTransformer}
    (h : extensions.serviceTransformers.resolveSpec spec = .ok transformer) :
    ∃ config, Extension.bind MappingConfig.view spec.args = .ok config ∧
      transformer = fun parameters service =>
        .done (.ok (Transform.mapParameters config parameters service)) := by
  obtain ⟨factory, hfactory, -, hcreate⟩ :=
    Registry.exists_factory_of_resolve built.serviceTransformers h
  rw [List.append_nil] at hfactory
  exact Transform.of_builtinForServices hfactory hcreate

theorem BuiltFrom.provider (built : extensions.BuiltFrom maxNameLength authorizationServer {})
    {spec : ExtensionSpec} {provider : CredentialProvider}
    (h : extensions.credentialProviders.resolveSpec spec = .ok provider) :
    (spec.name = "basic-auth" ∧ ∃ config,
        Extension.bind BasicAuthConfig.view spec.args = .ok config ∧
          provider = Credential.basicAuth config) ∨
      (spec.name = "oauth2" ∧ ∃ config, Extension.bind OAuth2Config.view spec.args = .ok config ∧
        provider = Credential.oauth2 config) := by
  obtain ⟨factory, hfactory, hname, hcreate⟩ :=
    Registry.exists_factory_of_resolve built.credentialProviders h
  rw [List.append_nil] at hfactory
  rw [← hname]
  exact Credential.of_builtin hfactory hcreate

end Extensions

end ServiceBroker
