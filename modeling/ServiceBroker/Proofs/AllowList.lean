import ServiceBroker.Proofs.Provisioning
import ServiceBroker.Rehearsal.Script

/-!
Request parameters reach what is prepared through the mappings of an entry and in no other way. Two
requests that agree on all keys which some mapping includes lead to the same course of events,
whatever the targets, the credential providers and the collaborators do.
-/

namespace ServiceBroker

variable {σ : Type}

namespace CatalogEntry

def transformers (entry : CatalogEntry) : List ExtensionSpec :=
  entry.applications.flatMap (·.transformers) ++ entry.services.flatMap (·.transformers)

/-- The request parameters that some mapping of the entry may copy. -/
def includedKeys (entry : CatalogEntry) : List String :=
  entry.transformers.flatMap (·.includedKeys)

theorem mem_includedKeys_of_application {entry : CatalogEntry} {app : Application}
    (happ : app ∈ entry.applications) {spec : ExtensionSpec} (hspec : spec ∈ app.transformers)
    {key : String} (hkey : key ∈ spec.includedKeys) : key ∈ entry.includedKeys :=
  List.mem_flatMap.mpr
    ⟨spec, List.mem_append_left _ (List.mem_flatMap.mpr ⟨app, happ, hspec⟩), hkey⟩

theorem mem_includedKeys_of_service {entry : CatalogEntry} {service : Service}
    (hservice : service ∈ entry.services) {spec : ExtensionSpec}
    (hspec : spec ∈ service.transformers) {key : String} (hkey : key ∈ spec.includedKeys) :
    key ∈ entry.includedKeys :=
  List.mem_flatMap.mpr
    ⟨spec, List.mem_append_right _ (List.mem_flatMap.mpr ⟨service, hservice, hspec⟩), hkey⟩

end CatalogEntry

/-! ## Two requests -/

namespace Extensions.BuiltFrom

variable {extensions : Extensions} {maxNameLength : Nat} {authorizationServer : Bool}
  {custom : CustomExtensions} {parameters parameters' : Parameters}

/-- The chain of an application is the same program for both requests. -/
theorem applicationChain_congr
    (built : extensions.BuiltFrom maxNameLength authorizationServer custom) {app : Application}
    (hnames : ∀ spec ∈ app.transformers, spec.name ∈ Transform.builtin.map (·.name))
    (hagree : ∀ spec ∈ app.transformers, parameters.AgreeOn spec.includedKeys parameters') :
    Transform.applicationChain extensions.transformers parameters app =
      Transform.applicationChain extensions.transformers parameters' app := by
  refine chain_congr (·.name) (fun spec hspec transformer htransformer => ?_) app
  obtain ⟨factory, hfactory, -, hcreate⟩ :=
    Registry.create_of_resolve built.transformers (hnames spec hspec) htransformer
  have hincluded := hagree spec hspec
  obtain ⟨config, hbind, ⟨-, rfl⟩ | ⟨-, rfl⟩⟩ := Transform.of_builtin hfactory hcreate
  · rw [ExtensionSpec.includedKeys_of_bind hbind] at hincluded
    simp only [Transform.mapEnvironment, config.copyInto_congr hincluded]
  · rw [ExtensionSpec.includedKeys_of_bind hbind] at hincluded
    simp only [Transform.mapProperties, config.copyInto_congr hincluded]

theorem serviceChain_congr
    (built : extensions.BuiltFrom maxNameLength authorizationServer custom) {service : Service}
    (hnames : ∀ spec ∈ service.transformers,
      spec.name ∈ Transform.builtinForServices.map (·.name))
    (hagree : ∀ spec ∈ service.transformers, parameters.AgreeOn spec.includedKeys parameters') :
    Transform.serviceChain extensions.serviceTransformers parameters service =
      Transform.serviceChain extensions.serviceTransformers parameters' service := by
  refine chain_congr (·.instanceName) (fun spec hspec transformer htransformer => ?_) service
  obtain ⟨factory, hfactory, -, hcreate⟩ :=
    Registry.create_of_resolve built.serviceTransformers (hnames spec hspec) htransformer
  have hincluded := hagree spec hspec
  obtain ⟨config, hbind, rfl⟩ := Transform.of_builtinForServices hfactory hcreate
  rw [ExtensionSpec.includedKeys_of_bind hbind] at hincluded
  simp only [Transform.mapParameters, config.copyInto_congr hincluded]

variable {entry : CatalogEntry}

/-- The target changes neither which transformers run nor what they include. -/
theorem prepareApplications_congr
    (built : extensions.BuiltFrom maxNameLength authorizationServer custom)
    (hnames : ∀ app ∈ entry.applications, ∀ spec ∈ app.transformers,
      spec.name ∈ Transform.builtin.map (·.name))
    (hagree : parameters.AgreeOn entry.includedKeys parameters') (c : Collaborators σ)
    (instanceId : String) :
    extensions.prepareApplications c entry instanceId parameters =
      extensions.prepareApplications c entry instanceId parameters' := by
  rw [prepareApplications, prepareApplications]
  cases htarget : extensions.targetedApplications entry instanceId with
  | error e => rfl
  | ok apps =>
    obtain ⟨target, -, rfl⟩ := of_targetedApplications htarget
    have hstage : ∀ targeted ∈ entry.applications.map fun app =>
        app.withArtifact (target app.artifact),
        Transform.applicationChain extensions.transformers parameters targeted =
          Transform.applicationChain extensions.transformers parameters' targeted := by
      intro targeted htargeted
      obtain ⟨app, happ, rfl⟩ := List.mem_map.mp htargeted
      exact built.applicationChain_congr (hnames app happ) fun spec hspec =>
        hagree.mono fun key hkey => CatalogEntry.mem_includedKeys_of_application happ hspec hkey
    simp only [Transform.applications, chains_congr c hstage]

theorem prepareServices_congr
    (built : extensions.BuiltFrom maxNameLength authorizationServer custom)
    (hnames : ∀ service ∈ entry.services, ∀ spec ∈ service.transformers,
      spec.name ∈ Transform.builtinForServices.map (·.name))
    (hagree : parameters.AgreeOn entry.includedKeys parameters') (c : Collaborators σ)
    (instanceId : String) :
    extensions.prepareServices c entry instanceId parameters =
      extensions.prepareServices c entry instanceId parameters' := by
  rw [prepareServices, prepareServices]
  cases htarget : extensions.targetedServices entry instanceId with
  | error e => rfl
  | ok services =>
    obtain ⟨target, -, rfl⟩ := of_targetedServices htarget
    have hstage : ∀ targeted ∈ entry.services.map fun service =>
        service.withArtifact (target service.artifact),
        Transform.serviceChain extensions.serviceTransformers parameters targeted =
          Transform.serviceChain extensions.serviceTransformers parameters' targeted := by
      intro targeted htargeted
      obtain ⟨service, hservice, rfl⟩ := List.mem_map.mp htargeted
      exact built.serviceChain_congr (hnames service hservice) fun spec hspec =>
        hagree.mono fun key hkey => CatalogEntry.mem_includedKeys_of_service hservice hspec hkey
    simp only [Transform.services, chains_congr c hstage]

end Extensions.BuiltFrom

/-- Where the transformers of an entry are the built-in mappings, both preparations have the same
result and the same log for any two requests that agree on the included keys. In particular a
parameter under any other key makes no difference. -/
theorem preparations_depend_on_includedKeys {extensions : Extensions} {maxNameLength : Nat}
    {authorizationServer : Bool} {custom : CustomExtensions}
    (hbuild : Extensions.build maxNameLength authorizationServer custom = .ok extensions)
    {entry : CatalogEntry}
    (happs : ∀ app ∈ entry.applications, ∀ spec ∈ app.transformers,
      spec.name ∈ Transform.builtin.map (·.name))
    (hservices : ∀ service ∈ entry.services, ∀ spec ∈ service.transformers,
      spec.name ∈ Transform.builtinForServices.map (·.name))
    (instanceId : String) (c : Collaborators σ) (s : σ) :
    (∀ parameters parameters' : Parameters, parameters.AgreeOn entry.includedKeys parameters' →
      extensions.prepareApplications c entry instanceId parameters s =
          extensions.prepareApplications c entry instanceId parameters' s ∧
        extensions.prepareServices c entry instanceId parameters s =
          extensions.prepareServices c entry instanceId parameters' s) ∧
    ∀ (parameters : Parameters) (key : String) (value : Json.Value), key ∉ entry.includedKeys →
      extensions.prepareApplications c entry instanceId (parameters.insert key value) s =
          extensions.prepareApplications c entry instanceId parameters s ∧
        extensions.prepareServices c entry instanceId (parameters.insert key value) s =
          extensions.prepareServices c entry instanceId parameters s := by
  have built := Extensions.builtFrom_of_build hbuild
  have hboth : ∀ parameters parameters' : Parameters,
      parameters.AgreeOn entry.includedKeys parameters' →
        extensions.prepareApplications c entry instanceId parameters s =
            extensions.prepareApplications c entry instanceId parameters' s ∧
          extensions.prepareServices c entry instanceId parameters s =
            extensions.prepareServices c entry instanceId parameters' s := by
    intro parameters parameters' hagree
    exact ⟨congrFun (built.prepareApplications_congr happs hagree c instanceId) s,
      congrFun (built.prepareServices_congr hservices hagree c instanceId) s⟩
  refine ⟨hboth, fun parameters key value hkey => hboth _ _ fun other hother => ?_⟩
  have hne : other ≠ key := fun e => hkey (e ▸ hother)
  rw [Dict.get?_insert, if_neg hne]

/-- A request for a database of some size and an application of some color; that it claims to be an
administrator's reaches neither. -/
theorem preparations_depend_on_includedKeys_staged :
    ∃ extensions, Extensions.build 50 true {} = .ok extensions ∧
      let app : Application :=
        { name := "web", transformers := [⟨"env-mapping", .ofList [("include", .text "color")]⟩]
          credentialProviders := [⟨"basic-auth", .empty⟩] }
      let service : Service :=
        { name := "mysql", instanceName := "db", plan := "small"
          transformers := [⟨"parameter-mapping", .ofList [("include", .text "size, mode")]⟩] }
      let entry : CatalogEntry :=
        { serviceName := "queue", planName := "small", applications := [app], services := [service]
          target := some ⟨"instance-suffix", .empty⟩ }
      let request : Parameters :=
        .ofList [("color", .text "blue"), ("size", .number (.integer 3))]
      let claiming := request.insert "admin" (.boolean true)
      let c := Rehearsal.Script.collaborators {}
      entry.includedKeys = ["color", "size", "mode"] ∧
        (extensions.prepareApplications c entry "7" request .start).value.isOk ∧
        extensions.prepareApplications c entry "7" claiming .start =
          extensions.prepareApplications c entry "7" request .start ∧
        (extensions.prepareServices c entry "7" request .start).value.isOk ∧
        extensions.prepareServices c entry "7" claiming .start =
          extensions.prepareServices c entry "7" request .start := by
  refine ⟨_, rfl, ?_⟩
  intro app service entry request claiming c
  have hbuild : Extensions.build 50 true {} = .ok _ := rfl
  have hkeys : entry.includedKeys = ["color", "size", "mode"] := by decide +kernel
  have happs : ∀ app ∈ entry.applications, ∀ spec ∈ app.transformers,
      spec.name ∈ Transform.builtin.map (·.name) := by
    simp [entry, app, Transform.builtin, Factory.of]
  have hservices : ∀ service ∈ entry.services, ∀ spec ∈ service.transformers,
      spec.name ∈ Transform.builtinForServices.map (·.name) := by
    simp [entry, service, Transform.builtinForServices, Factory.of]
  obtain ⟨-, hother⟩ := preparations_depend_on_includedKeys hbuild happs hservices "7" c
    Rehearsal.State.start
  have hadmin : "admin" ∉ entry.includedKeys := by
    rw [hkeys]
    decide
  obtain ⟨heqApps, heqServices⟩ := hother request "admin" (.boolean true) hadmin
  exact ⟨hkeys, by decide +kernel, heqApps, by decide +kernel, heqServices⟩

end ServiceBroker
