import ServiceBroker.Proofs.Completion
import ServiceBroker.Proofs.Provisioning
import ServiceBroker.Rehearsal.Extension
import ServiceBroker.Rehearsal.Script

/-!
The stages of a preparation: targets, transformers, credential providers. A stage begins only when
the one before it has succeeded for all, and of several failures the one that counts is that of the
earliest stage and, within it, of the first application.
-/

namespace ServiceBroker

variable {σ α ε : Type}

def FirstFailure (results : List (Except ε α)) (e : ε) : Prop :=
  ∃ i : Nat, results[i]? = some (.error e) ∧ ∀ j < i, ∃ a, results[j]? = some (.ok a)

theorem SideBySide.asks {c : Collaborators σ} {chainOf : α → Program (Except PipelineError α)}
    {entities : List α} {log : List LogEntry} {results : List (Except PipelineError α)}
    {P : Request → Prop} (ran : SideBySide c chainOf entities log results)
    (hchains : ∀ entity ∈ entities, (chainOf entity).Asks P) {r : Request}
    (hr : r ∈ requestsIn log) : P r := by
  obtain ⟨task, hentry⟩ := mem_requestsIn.mp hr
  have htask : task < entities.length := ran.others _ hentry
  obtain ⟨_, -, course⟩ := ran.course task _ (List.getElem?_eq_getElem htask)
  exact course.asks (hchains _ (List.getElem_mem htask)) (mem_eventsOf.mpr hentry)

/-- A stage of chains after an earlier stage. If that one has failed no chain begins, and the
failure stays. -/
inductive StageAfter (c : Collaborators σ) (chainOf : α → Program (Except PipelineError α)) :
    Except PipelineError (List α) → List LogEntry → Except PipelineError (List α) → Prop where
  | skipped (error : PipelineError) : StageAfter c chainOf (.error error) [] (.error error)
  | failed {entities : List α} {log : List LogEntry} {results : List (Except PipelineError α)}
      {error : PipelineError} (ran : SideBySide c chainOf entities log results)
      (first : FirstFailure results error) : StageAfter c chainOf (.ok entities) log (.error error)
  | succeeded {entities results : List α} {log : List LogEntry}
      (ran : SideBySide c chainOf entities log (results.map .ok)) :
      StageAfter c chainOf (.ok entities) log (.ok results)

theorem stageAfter_chains (c : Collaborators σ) (chainOf : α → Program (Except PipelineError α))
    (before : Except PipelineError (List α)) (s : σ) :
    let outcome := Extensions.chainsAfter c chainOf before s
    StageAfter c chainOf before outcome.log outcome.value := by
  intro outcome
  cases before with
  | error error => exact .skipped error
  | ok entities =>
    obtain ⟨results, ran, hvalue⟩ := chains_sideBySide c chainOf entities s
    have hvalue : outcome.value = results.mapM id := hvalue
    rw [hvalue]
    cases hresults : results.mapM id with
    | error error => exact .failed ran (mapM_id_eq_error_iff.mp hresults)
    | ok values =>
      obtain rfl := mapM_id_eq_ok_iff.mp hresults
      exact .succeeded ran

namespace StageAfter

variable {c : Collaborators σ} {chainOf : α → Program (Except PipelineError α)}
  {before after : Except PipelineError (List α)} {log : List LogEntry}

theorem length_eq {results : List α} (h : StageAfter c chainOf before log (.ok results)) :
    ∃ entities, before = .ok entities ∧ results.length = entities.length := by
  cases h with
  | succeeded ran => exact ⟨_, rfl, (List.length_map ..).symm.trans ran.length⟩

theorem of_error {error : PipelineError} (h : StageAfter c chainOf (.error error) log after) :
    log = [] ∧ after = .error error := by
  cases h
  exact ⟨rfl, rfl⟩

theorem asks {P : Request → Prop} (h : StageAfter c chainOf before log after)
    (hchains : ∀ entity, (chainOf entity).Asks P) {r : Request}
    (hr : r ∈ requestsIn log) : P r := by
  cases h with
  | skipped error => cases hr
  | failed ran first => exact ran.asks (fun entity _ => hchains entity) hr
  | succeeded ran => exact ran.asks (fun entity _ => hchains entity) hr

end StageAfter

/-! ## Requests for credentials -/

/-- Requests for secrets, and for clients of the authorization server. -/
def Request.isForCredentials : Request → Bool
  | .createClient _ => true
  | .deleteClient _ => true
  | r => r.isForSecret

/-- None of the transformers ever makes such a request. -/
def Registry.Avoids (transformers : Registry (Parameters → Work α)) (avoided : Request → Bool) :
    Prop :=
  ∀ spec transformer, transformers.resolveSpec spec = .ok transformer →
    ∀ parameters entity, (transformer parameters entity).Asks fun r => avoided r = false

theorem Registry.Avoids.chain {transformers : Registry (Parameters → Work α)}
    {avoided : Request → Bool} (h : transformers.Avoids avoided) (parameters : Parameters)
    (name : α → String) (specs : List ExtensionSpec) (entity : α) :
    (chain transformers (fun t => t parameters) name specs entity).Asks
      fun r => avoided r = false := by
  refine (chain_ensures (I := fun _ => True) _ _ _ _ (fun spec _ x hx entity _ => ?_) entity
    trivial).asks
  exact (h spec x hx parameters entity).mono (fun _ hr => hr) fun _ _ _ _ => trivial

def Factory.Avoids (factory : Factory (Parameters → Work α)) (avoided : Request → Bool) : Prop :=
  ∀ args transformer, factory.create args = .ok transformer →
    ∀ parameters entity, (transformer parameters entity).Asks fun r => avoided r = false

theorem Registry.avoids_of_factories {factories : List (Factory (Parameters → Work α))}
    {transformers : Registry (Parameters → Work α)} {avoided : Request → Bool}
    (hok : Registry.ofFactories factories = .ok transformers)
    (h : ∀ factory ∈ factories, factory.Avoids avoided) : transformers.Avoids avoided := by
  intro spec transformer hresolve
  obtain ⟨factory, hfactory, -, hcreate⟩ := exists_factory_of_resolve hok hresolve
  exact h factory hfactory spec.args transformer hcreate

/-- The built-in transformers request nothing, so that it depends on the custom ones what is
avoided. -/
theorem Extensions.BuiltFrom.avoids {extensions : Extensions} {maxNameLength : Nat}
    {authorizationServer : Bool} {custom : CustomExtensions}
    (built : extensions.BuiltFrom maxNameLength authorizationServer custom)
    {avoided : Request → Bool} (happs : ∀ factory ∈ custom.transformers, factory.Avoids avoided)
    (hservices : ∀ factory ∈ custom.serviceTransformers, factory.Avoids avoided) :
    extensions.transformers.Avoids avoided ∧ extensions.serviceTransformers.Avoids avoided := by
  constructor
  · refine Registry.avoids_of_factories built.transformers fun factory hfactory => ?_
    rcases List.mem_append.mp hfactory with hbuiltin | hcustom
    · intro args transformer hcreate
      obtain ⟨config, -, ⟨-, rfl⟩ | ⟨-, rfl⟩⟩ := Transform.of_builtin hbuiltin hcreate
      · exact fun _ _ => trivial
      · exact fun _ _ => trivial
    · exact happs factory hcustom
  · refine Registry.avoids_of_factories built.serviceTransformers fun factory hfactory => ?_
    rcases List.mem_append.mp hfactory with hbuiltin | hcustom
    · intro args transformer hcreate
      obtain ⟨config, -, rfl⟩ := Transform.of_builtinForServices hbuiltin hcreate
      exact fun _ _ => trivial
    · exact hservices factory hcustom

theorem Rehearsal.Cast.transformer_avoids (extension : String) :
    (Rehearsal.Cast.transformer extension).Avoids Request.isForCredentials := by
  intro args transformer hcreate parameters app
  obtain ⟨conduct, -, rfl⟩ := Registry.exists_config_of_create hcreate
  exact Program.ensures_ask_andThen rfl (fun _ => trivial) fun _ => trivial

/-! ## Preparations -/

namespace Extensions

variable {extensions : Extensions} {c : Collaborators σ} {entry : CatalogEntry}
  {instanceId : String} {parameters : Parameters} {s : σ}

/-- How applications are prepared: `transformed` is what the transformers have come to, with the log
`first`, and `second` is the log of the credential providers. -/
structure Staged (extensions : Extensions) (c : Collaborators σ) (entry : CatalogEntry)
    (instanceId : String) (parameters : Parameters) (s : σ)
    (transformed : Except PipelineError (List Application)) (first second : List LogEntry)
    (outcome : Outcome σ (Except PipelineError (List Application))) : Prop where
  transforms : StageAfter c (Transform.applicationChain extensions.transformers parameters)
    (extensions.targetedApplications entry instanceId) first transformed
  credentials : StageAfter c
    (Credential.applicationChain extensions.credentialProviders .add instanceId) transformed second
    outcome.value
  log : outcome.log = first ++ second
  length : ∀ prepared, outcome.value = .ok prepared → prepared.length = entry.applications.length
  /-- If the target is not known no transformer has a part in the outcome, and no provider. -/
  untargeted : ∀ error, extensions.targetedApplications entry instanceId = .error error →
    ∀ transformers credentialProviders,
      { extensions with transformers, credentialProviders }.prepareApplications c entry instanceId
        parameters s = ⟨.error error, [], s⟩
  /-- If some chain of transformers fails no provider has a part in the outcome. -/
  untransformed : ∀ error, transformed = .error error → outcome.value = .error error ∧
    second = [] ∧ ∀ credentialProviders,
      { extensions with credentialProviders }.prepareApplications c entry instanceId parameters s =
        outcome
  /-- Unless it is for a transformer, a credential is asked for when all chains of transformers have
  succeeded. -/
  asked : extensions.transformers.Avoids Request.isForCredentials → ∀ r ∈ requestsIn outcome.log,
    r.isForCredentials → r ∈ requestsIn second ∧ ∃ results, transformed = .ok results

theorem prepareApplications_staged (extensions : Extensions) (c : Collaborators σ)
    (entry : CatalogEntry) (instanceId : String) (parameters : Parameters) (s : σ) :
    ∃ transformed first second, extensions.Staged c entry instanceId parameters s transformed first
      second (extensions.prepareApplications c entry instanceId parameters s) := by
  let before := extensions.targetedApplications entry instanceId
  let first := chainsAfter c (Transform.applicationChain extensions.transformers parameters)
    before s
  let second := chainsAfter c
    (Credential.applicationChain extensions.credentialProviders .add instanceId) first.value
    first.state
  have hfirst : StageAfter c _ before first.log first.value := stageAfter_chains c _ before s
  have hsecond : StageAfter c _ first.value second.log second.value :=
    stageAfter_chains c _ first.value first.state
  have houtcome : extensions.prepareApplications c entry instanceId parameters s =
      ⟨second.value, first.log ++ second.log, second.state⟩ := by
    rw [prepareApplications_eq]
    rfl
  refine ⟨first.value, first.log, second.log, ?_⟩
  rw [houtcome]
  constructor
  case transforms => exact hfirst
  case credentials => exact hsecond
  case log => rfl
  case length =>
    rintro prepared hok
    obtain ⟨transformed, htransformed, hlength⟩ := (hok ▸ hsecond).length_eq
    obtain ⟨apps, htarget, hlength'⟩ := (htransformed ▸ hfirst).length_eq
    obtain ⟨target, -, rfl⟩ := of_targetedApplications htarget
    rw [hlength, hlength', List.length_map]
  case untargeted =>
    intro error htarget transformers credentialProviders
    rw [prepareApplications_eq]
    change (chainsAfter c _ (extensions.targetedApplications entry instanceId) >>= _) s = _
    rw [htarget]
    rfl
  case untransformed =>
    intro error herror
    have hnone : ∀ chainOf, chainsAfter c chainOf first.value first.state =
        ⟨.error error, [], first.state⟩ := by
      intro chainOf
      rw [herror]
      rfl
    refine ⟨congrArg Outcome.value (hnone _), congrArg Outcome.log (hnone _), fun providers => ?_⟩
    rw [prepareApplications_eq]
    exact congrArg (fun last : Outcome σ _ =>
      (⟨last.value, first.log ++ last.log, last.state⟩ : Outcome σ _))
      ((hnone _).trans (hnone _).symm)
  case asked =>
    intro havoids r hr hcredential
    rw [requestsIn_append, List.mem_append] at hr
    rcases hr with hr | hr
    · have hother : r.isForCredentials = false :=
        hfirst.asks (fun app => havoids.chain parameters (·.name) app.transformers app) hr
      rw [hother] at hcredential
      cases hcredential
    · refine ⟨hr, ?_⟩
      cases hvalue : first.value with
      | error error =>
        obtain ⟨hnil, -⟩ := (hvalue ▸ hsecond).of_error
        rw [hnil] at hr
        cases hr
      | ok results => exact ⟨results, rfl⟩

/-- Applications are prepared stage by stage, and each stage waits until the one before it has
succeeded for all of them. Services are prepared without credential providers, and deletions without
transformers. -/
theorem preparations_gated (extensions : Extensions) (c : Collaborators σ) (entry : CatalogEntry)
    (instanceId : String) (parameters : Parameters) (s : σ) :
    let applications := extensions.prepareApplications c entry instanceId parameters s
    let services := extensions.prepareServices c entry instanceId parameters s
    let deletion := extensions.prepareDeletion c entry instanceId s
    (∃ transformed first second, extensions.Staged c entry instanceId parameters s transformed first
      second applications) ∧
    (StageAfter c (Transform.serviceChain extensions.serviceTransformers parameters)
        (extensions.targetedServices entry instanceId) services.log services.value ∧
      (∀ credentialProviders, { extensions with credentialProviders }.prepareServices c entry
        instanceId parameters s = services) ∧
      (extensions.serviceTransformers.Avoids Request.isForCredentials →
        ∀ r ∈ requestsIn services.log, r.isForCredentials = false)) ∧
    StageAfter c (Credential.applicationChain extensions.credentialProviders .delete instanceId)
        (extensions.targetedApplications entry instanceId) deletion.log deletion.value ∧
      ∀ transformers serviceTransformers,
        { extensions with transformers, serviceTransformers }.prepareDeletion c entry instanceId s =
          deletion := by
  intro applications services deletion
  have hservices : services = chainsAfter c _ _ s :=
    congrFun (extensions.prepareServices_eq c entry instanceId parameters) s
  have hdeletion : deletion = chainsAfter c _ _ s :=
    congrFun (extensions.prepareDeletion_eq c entry instanceId) s
  refine ⟨extensions.prepareApplications_staged c entry instanceId parameters s, ?_, ?_⟩
  · rw [hservices]
    have hstage := stageAfter_chains c
      (Transform.serviceChain extensions.serviceTransformers parameters)
      (extensions.targetedServices entry instanceId) s
    refine ⟨hstage, fun credentialProviders => ?_, fun havoids r hr => ?_⟩
    · rw [prepareServices_eq]
      rfl
    · exact hstage.asks (fun service =>
        havoids.chain parameters (·.instanceName) service.transformers service) hr
  · rw [hdeletion]
    refine ⟨stageAfter_chains c _ _ s, fun transformers serviceTransformers => ?_⟩
    rw [prepareDeletion_eq]
    rfl

/-- A custom transformer makes a request before the user of the application is generated. -/
theorem preparations_gated_staged :
    let custom : CustomExtensions := { transformers := [Rehearsal.Cast.transformer "stage"] }
    ∃ extensions, build 50 true custom = .ok extensions ∧
      let web : Application :=
        { name := "web"
          transformers := [⟨"stage", .ofList [("delay", .number (.integer 3))]⟩]
          credentialProviders := [⟨"basic-auth", .empty⟩] }
      let entry : CatalogEntry :=
        { serviceName := "queue", planName := "small", applications := [web] }
      let c := Rehearsal.Script.collaborators {}
      let outcome := extensions.prepareApplications c entry "7" .empty .start
      ∃ transformed first second,
        extensions.Staged c entry "7" .empty .start transformed first second outcome ∧
          (∃ r ∈ requestsIn second, r.isForCredentials) ∧ ∃ results, transformed = .ok results := by
  intro custom
  have hbuild : build 50 true custom = .ok _ := rfl
  refine ⟨_, hbuild, ?_⟩
  intro web entry c outcome
  obtain ⟨⟨transformed, first, second, staged⟩, -⟩ :=
    preparations_gated _ c entry "7" .empty .start
  obtain ⟨havoids, -⟩ := (builtFrom_of_build hbuild).avoids
    (List.forall_mem_singleton.mpr (Rehearsal.Cast.transformer_avoids "stage"))
    (fun _ h => absurd h List.not_mem_nil)
  have hany : (requestsIn outcome.log).any Request.isForCredentials := by decide +kernel
  obtain ⟨r, hr, hcredential⟩ := List.any_eq_true.mp hany
  obtain ⟨hsecond, hresults⟩ := staged.asked havoids r hr hcredential
  exact ⟨transformed, first, second, staged, ⟨r, hsecond, hcredential⟩, hresults⟩

/-- A transformer that fails late for one application keeps the other one from getting a secret. -/
example :
    let custom : CustomExtensions := { transformers := [Rehearsal.Cast.transformer "stage"] }
    let web : Application := { name := "web", credentialProviders := [⟨"basic-auth", .empty⟩] }
    let late : Application :=
      { name := "late"
        transformers :=
          [⟨"stage", .ofList [("delay", .number (.integer 3)), ("fail", .text "stuck")]⟩] }
    let entry : CatalogEntry :=
      { serviceName := "queue", planName := "small", applications := [web, late] }
    let asked := (build 50 true custom).toOption.map fun extensions =>
      (requestsIn (extensions.prepareApplications (Rehearsal.Script.collaborators {})
        entry "7" .empty .start).log).map Request.id
    asked = some ["transform:late"] := by
  decide +kernel

end Extensions

end ServiceBroker
