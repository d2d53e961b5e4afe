import ServiceBroker.Proofs.Addresses
import ServiceBroker.Proofs.Gating
import ServiceBroker.Proofs.Keeper
import ServiceBroker.Proofs.NameLength
import ServiceBroker.Proofs.Wiring

/-!
Two service instances of one broker. Every built-in target puts the instance id at the end of a
name, so instances whose ids are equally long never share a name, however names are cut; and
operations on one instance ask for nothing that belongs to the other one. With a group for each
instance the places differ even where the names are the same.
-/

namespace ServiceBroker

variable {σ : Type}

/-! ## Names and places -/

namespace Target

def EndsNames (target : Target) : Prop :=
  ∀ context artifact, ("-" ++ context.instanceId).toList <:+ (target context artifact).name.toList

/-- Names that end in different ids of the same length are different, whatever comes before the
ids. -/
theorem ne_of_ends {instanceId other name name' : String}
    (hlength : instanceId.length = other.length) (hne : instanceId ≠ other)
    (h : ("-" ++ instanceId).toList <:+ name.toList)
    (h' : ("-" ++ other).toList <:+ name'.toList) : name ≠ name' := by
  rintro rfl
  have hends : ("-" ++ instanceId).toList.length = ("-" ++ other).toList.length := by
    simp only [String.length_toList, String.length_append, hlength]
  have hsuffix := List.suffix_of_suffix_length_le h h' (Nat.le_of_eq hends)
  have hsame := hsuffix.eq_of_length hends
  exact hne ((String.append_right_inj _).mp (String.toList_inj.mp hsame))

theorem instanceSuffix_endsNames (maxLength : Nat) : (instanceSuffix maxLength).EndsNames :=
  fun context artifact => (suffixed_fitted maxLength artifact.name context.instanceId).ends

theorem perInstanceGrouping_endsNames : perInstanceGrouping.EndsNames :=
  fun context artifact => ends_append artifact.name context.instanceId

theorem perPlanGrouping_endsNames : perPlanGrouping.EndsNames :=
  fun context artifact => ends_append artifact.name context.instanceId

/-- The group is that of the instance, whatever group a template asks for. -/
theorem perInstanceGrouping_group (context : TargetContext) (artifact : Artifact) :
    (perInstanceGrouping context artifact).properties.get? "target" = some context.instanceId := by
  have hkeys : "target" ≠ "keep-target-on-delete" := by decide
  rw [perInstanceGrouping, grouped, Dict.get?_insert, if_neg hkeys, Dict.get?_insert, if_pos rfl]

end Target

/-- The configured clients apart, the authorization server knows no client by the same id for both
instances. -/
theorem OAuth2Config.clientIdFor_ne {config config' : OAuth2Config}
    (hconfig : config.clientId = none) (hconfig' : config'.clientId = none)
    {instanceId other : String} (hlength : instanceId.length = other.length)
    (hne : instanceId ≠ other) (name name' : String) :
    config.clientIdFor name instanceId ≠ config'.clientIdFor name' other := by
  rw [clientIdFor, clientIdFor, hconfig, hconfig']
  exact Target.ne_of_ends hlength hne (Target.ends_append name instanceId)
    (Target.ends_append name' other)

/-- A built-in target is found under its name, and puts the instance id at the end of every name. -/
theorem Extensions.BuiltFrom.exists_endsNames {extensions : Extensions} {maxNameLength : Nat}
    {authorizationServer : Bool} {custom : CustomExtensions}
    (built : extensions.BuiltFrom maxNameLength authorizationServer custom) {spec : ExtensionSpec}
    (h : spec.name ∈ (Target.builtin maxNameLength).map (·.name)) :
    ∃ target : Target, target.EndsNames ∧
      (∀ context, extensions.targets.targetFor (some spec) context = .ok (target context)) ∧
      (spec.name = "per-instance-grouping" → target = Target.perInstanceGrouping) := by
  rcases built.resolve_target h with ⟨-, hresolve⟩ | ⟨hname, hresolve⟩ | ⟨hname, hresolve⟩
  · exact ⟨_, Target.perInstanceGrouping_endsNames, Registry.targetFor_of_resolve hresolve,
      fun _ => rfl⟩
  · refine ⟨_, Target.perPlanGrouping_endsNames, Registry.targetFor_of_resolve hresolve, ?_⟩
    intro hgrouping
    exact absurd (hname.symm.trans hgrouping) (by decide)
  · refine ⟨_, Target.instanceSuffix_endsNames maxNameLength,
      Registry.targetFor_of_resolve hresolve, ?_⟩
    intro hgrouping
    exact absurd (hname.symm.trans hgrouping) (by decide)

theorem Extensions.targetedApplications_eq {extensions : Extensions} {entry : CatalogEntry}
    {instanceId : String} {target : Target}
    (h : extensions.targets.targetFor entry.target (entry.context instanceId) =
      .ok (target (entry.context instanceId))) :
    extensions.targetedApplications entry instanceId = .ok (entry.namedBy instanceId target) := by
  rw [targetedApplications, Registry.targetApplications, h]
  rfl

/-! ## What operations ask for -/

namespace Request

def artifact? : Request → Option Artifact
  | .describe artifact => some artifact
  | .perform _ artifact => some artifact
  | _ => none

def application? (r : Request) : Option String :=
  (r.artifact?.map (·.name)).or (r.key?.map (·.application))

/-- If the request is about an application at all, it has one of the names. -/
def Within (names : List String) (r : Request) : Prop :=
  ∀ name, r.application? = some name → name ∈ names

def Spares (apps : List Application) (r : Request) : Prop :=
  ∀ app ∈ apps, r.application? ≠ some app.name

theorem within_of_some {r : Request} {name : String} (h : r.application? = some name) :
    r.Within [name] := by
  intro other hother
  rw [h] at hother
  cases hother
  exact List.mem_singleton_self name

theorem within_of_none {r : Request} (h : r.application? = none) (names : List String) :
    r.Within names := by
  intro name hname
  rw [h] at hname
  cases hname

theorem Within.spares {apps others : List Application} {r : Request}
    (h : r.Within (apps.map (·.name)))
    (hapart : ∀ app ∈ apps, ∀ other ∈ others, app.name ≠ other.name) : r.Spares others := by
  intro other hother heq
  obtain ⟨app, happ, hname⟩ := List.mem_map.mp (h other.name heq)
  exact hapart app happ other hother hname

end Request

namespace Lifecycle

/-- The operations on what is deployed for a service instance ask only what `P` allows. Operations
that are not told the plan look it up before. -/
structure Asks (lifecycle : Lifecycle) (c : Collaborators σ) (instanceId : String)
    (plan : PlanReference) (P : Request → Prop) : Prop where
  performFor : ∀ action s,
    ∀ r ∈ requestsIn (lifecycle.performFor c action instanceId plan s).log, P r
  deployedFor : ∀ s, ∀ r ∈ requestsIn (lifecycle.deployedFor c instanceId plan s).log, P r
  perform : ∀ action s, (Session.alone c (Program.ask (.lookup instanceId)) s).value = .ok plan →
    ∀ r ∈ requestsIn (lifecycle.perform c action instanceId s).log, P r
  deployed : ∀ s, (Session.alone c (Program.ask (.lookup instanceId)) s).value = .ok plan →
    ∀ r ∈ requestsIn (lifecycle.deployed c instanceId s).log, P r

theorem Asks.mono {lifecycle : Lifecycle} {c : Collaborators σ} {instanceId : String}
    {plan : PlanReference} {P Q : Request → Prop} (h : lifecycle.Asks c instanceId plan P)
    (hPQ : ∀ r, P r → Q r) : lifecycle.Asks c instanceId plan Q where
  performFor action s r hr := hPQ r (h.performFor action s r hr)
  deployedFor s r hr := hPQ r (h.deployedFor s r hr)
  perform action s hplan r hr := hPQ r (h.perform action s hplan r hr)
  deployed s hplan r hr := hPQ r (h.deployed s hplan r hr)

/-- What operations may ask about the applications of a service instance. -/
inductive Own (apps : List Application) : Request → Prop where
  | lookup (instanceId : String) : Own apps (.lookup instanceId)
  | perform (action : Action) {app : Application} (mem : app ∈ apps) :
      Own apps (.perform action app.artifact)
  | describe {app : Application} (mem : app ∈ apps) : Own apps (.describe app.artifact)

theorem Own.within {apps : List Application} {r : Request} (h : Own apps r) :
    r.Within (apps.map (·.name)) := by
  intro name hname
  cases h with
  | lookup instanceId => cases hname
  | perform action mem =>
    cases hname
    exact List.mem_map_of_mem mem
  | describe mem =>
    cases hname
    exact List.mem_map_of_mem mem

theorem Own.exists_artifact {apps : List Application} {r : Request} (h : Own apps r)
    {artifact : Artifact} (hartifact : r.artifact? = some artifact) :
    ∃ app ∈ apps, artifact = app.artifact := by
  cases h with
  | lookup instanceId => cases hartifact
  | perform action mem => exact ⟨_, mem, (Option.some.inj hartifact).symm⟩
  | describe mem => exact ⟨_, mem, (Option.some.inj hartifact).symm⟩

theorem asks_own {lifecycle : Lifecycle} {instanceId : String} {plan : PlanReference}
    {apps : List Application} (h : lifecycle.resolve instanceId plan = .ok apps)
    (c : Collaborators σ) : lifecycle.Asks c instanceId plan (Own apps) := by
  have hperformed : ∀ action s,
      ∀ r ∈ requestsIn (lifecycle.performFor c action instanceId plan s).log, Own apps r := by
    intro action s
    rw [requestsIn_performFor c h, List.forall_mem_map]
    exact fun app happ => .perform action happ
  have hdescribed : ∀ s,
      ∀ r ∈ requestsIn (lifecycle.deployedFor c instanceId plan s).log, Own apps r := by
    intro s
    rw [requestsIn_deployedFor c h, List.forall_mem_map]
    exact fun app happ => .describe happ
  refine ⟨hperformed, hdescribed, fun action s hplan => ?_, fun s hplan => ?_⟩
  · obtain ⟨t, ht⟩ := requestsIn_withPlan c (lifecycle.performFor c action instanceId) hplan
    rw [Lifecycle.perform, ht, List.forall_mem_cons]
    exact ⟨.lookup instanceId, hperformed action t⟩
  · obtain ⟨t, ht⟩ := requestsIn_withPlan c (lifecycle.deployedFor c instanceId) hplan
    rw [Lifecycle.deployed, ht, List.forall_mem_cons]
    exact ⟨.lookup instanceId, hdescribed t⟩

end Lifecycle

/-! ## Credentials -/

namespace Program

variable {ε : Type}

/-- The program asks for no application but this one, and does not give it another name. -/
def KeepsName (p : Program (Except ε Application)) (app : Application) : Prop :=
  p.Ensures (Request.Within [app.name]) fun r =>
    ∀ changed, r = .ok changed → changed.name = app.name

theorem keepsName_error (e : ε) (app : Application) : (done (.error e)).KeepsName app := by
  intro changed h
  cases h

theorem keepsName_ask_andThen {r : Request} {f : Response r → Program (Except Failure Application)}
    {app : Application} (hr : r.Within [app.name]) (hf : ∀ response, (f response).KeepsName app) :
    ((ask r).andThen f).KeepsName app :=
  ensures_ask_andThen hr (fun failure => keepsName_error failure app) hf

end Program

def Work.KeepsName (work : Work Application) : Prop := ∀ app, (work app).KeepsName app

/-- What an extension does to an application is up to the extension. These ones leave its name
alone. -/
structure CustomExtensions.KeepNames (custom : CustomExtensions) : Prop where
  transformers : ∀ factory ∈ custom.transformers, ∀ args transformer,
    factory.create args = .ok transformer → ∀ parameters, Work.KeepsName (transformer parameters)
  credentialProviders : ∀ factory ∈ custom.credentialProviders, ∀ args provider,
    factory.create args = .ok provider →
      ∀ (phase : Credential.Phase) instanceId, Work.KeepsName (phase.work instanceId provider)

theorem CustomExtensions.keepNames_empty : CustomExtensions.KeepNames {} :=
  ⟨fun _ h => absurd h List.not_mem_nil, fun _ h => absurd h List.not_mem_nil⟩

namespace Transform

theorem builtin_keepsName {factory : Factory Transformer} {args : Parameters}
    {transformer : Transformer} (hfactory : factory ∈ builtin)
    (hcreate : factory.create args = .ok transformer) (parameters : Parameters) :
    Work.KeepsName (transformer parameters) := by
  obtain ⟨config, -, ⟨-, rfl⟩ | ⟨-, rfl⟩⟩ := of_builtin hfactory hcreate
  · rintro app _ ⟨⟩
    rw [mapEnvironment_eq]
  · rintro app _ ⟨⟩
    rw [mapProperties_eq]

end Transform

namespace Credential

theorem basicAuth_keepsName (config : BasicAuthConfig) (phase : Phase) (instanceId : String) :
    Work.KeepsName (phase.work instanceId (basicAuth config)) := by
  intro app
  cases phase with
  | add =>
    apply Program.keepsName_ask_andThen (Request.within_of_some rfl)
    rintro user _ ⟨⟩
    rfl
  | delete =>
    apply Program.keepsName_ask_andThen (Request.within_of_some rfl)
    rintro _ _ ⟨⟩
    rfl

theorem oauth2_keepsName (config : OAuth2Config) (phase : Phase) (instanceId : String) :
    Work.KeepsName (phase.work instanceId (oauth2 config)) := by
  intro app
  cases phase with
  | add =>
    simp only [Phase.work, oauth2]
    split
    · exact Program.keepsName_error _ app
    · apply Program.keepsName_ask_andThen (Request.within_of_some rfl)
      intro secret
      apply Program.keepsName_ask_andThen (Request.within_of_none rfl _)
      rintro client _ ⟨⟩
      rfl
  | delete =>
    apply Program.keepsName_ask_andThen (Request.within_of_none rfl _)
    intro _
    apply Program.keepsName_ask_andThen (Request.within_of_some rfl)
    rintro _ _ ⟨⟩
    rfl

theorem builtin_keepsName {authorizationServer : Bool} {factory : Factory CredentialProvider}
    {args : Parameters} {provider : CredentialProvider}
    (hfactory : factory ∈ builtin authorizationServer)
    (hcreate : factory.create args = .ok provider) (phase : Phase) (instanceId : String) :
    Work.KeepsName (phase.work instanceId provider) := by
  rcases of_builtin hfactory hcreate with ⟨-, config, -, rfl⟩ | ⟨-, config, -, rfl⟩
  · exact basicAuth_keepsName config phase instanceId
  · exact oauth2_keepsName config phase instanceId

end Credential

theorem chain_keepsName {χ : Type} {registry : Registry χ} {work : χ → Work Application}
    {specs : List ExtensionSpec}
    (hwork : ∀ spec ∈ specs, ∀ x, registry.resolveSpec spec = .ok x → Work.KeepsName (work x))
    (app : Application) :
    (chain registry work (·.name) specs app).KeepsName app := by
  refine chain_ensures (I := fun changed : Application => changed.name = app.name) _ _ _ _
    (fun spec hspec x hx entity hentity => ?_) app rfl
  rw [← hentity]
  exact hwork spec hspec x hx entity

/-- In a stage whose chains leave names alone, no names come up but those from before it. -/
theorem StageAfter.keepsNames {c : Collaborators σ}
    {chainOf : Application → Program (Except PipelineError Application)}
    {before after : Except PipelineError (List Application)} {log : List LogEntry}
    (h : StageAfter c chainOf before log after)
    (hchains : ∀ app, (chainOf app).KeepsName app)
    {names : List String} (hbefore : ∀ apps, before = .ok apps → ∀ app ∈ apps, app.name ∈ names) :
    (∀ r ∈ requestsIn log, r.Within names) ∧
      ∀ apps, after = .ok apps → ∀ app ∈ apps, app.name ∈ names := by
  have hasks : ∀ {apps results}, before = .ok apps → SideBySide c chainOf apps log results →
      ∀ r ∈ requestsIn log, r.Within names := by
    intro apps results happs ran r hr
    refine ran.asks (fun app happ => ?_) hr
    refine (hchains app).asks.mono (fun r hwithin name hname => ?_) fun _ h => h
    rw [List.mem_singleton.mp (hwithin name hname)]
    exact hbefore apps happs app happ
  cases h with
  | skipped error =>
    constructor
    · exact fun _ hr => nomatch hr
    · exact fun _ h => nomatch h
  | failed ran first => exact ⟨hasks rfl ran, fun _ h => nomatch h⟩
  | succeeded ran =>
    refine ⟨hasks rfl ran, ?_⟩
    rintro _ ⟨⟩ changed hchanged
    obtain ⟨i, hi⟩ := List.getElem?_of_mem (List.mem_map_of_mem hchanged)
    obtain ⟨app, happ, course⟩ := ran.exists_entity hi
    rw [course.ensures (hchains app) changed rfl]
    exact hbefore _ rfl app (List.mem_of_getElem? happ)

namespace Extensions

/-- What is asked for while applications are prepared for a service instance, or for their deletion,
is what `P` allows. -/
structure Asks (extensions : Extensions) (c : Collaborators σ) (entry : CatalogEntry)
    (instanceId : String) (P : Request → Prop) : Prop where
  preparation : ∀ parameters s,
    ∀ r ∈ requestsIn (extensions.prepareApplications c entry instanceId parameters s).log, P r
  deletion : ∀ s, ∀ r ∈ requestsIn (extensions.prepareDeletion c entry instanceId s).log, P r

theorem Asks.mono {extensions : Extensions} {c : Collaborators σ} {entry : CatalogEntry}
    {instanceId : String} {P Q : Request → Prop} (h : extensions.Asks c entry instanceId P)
    (hPQ : ∀ r, P r → Q r) : extensions.Asks c entry instanceId Q where
  preparation parameters s r hr := hPQ r (h.preparation parameters s r hr)
  deletion s r hr := hPQ r (h.deletion s r hr)

/-- Credentials are asked for under the names that the target has given. -/
theorem BuiltFrom.asks_within {extensions : Extensions} {maxNameLength : Nat}
    {authorizationServer : Bool} {custom : CustomExtensions}
    (built : extensions.BuiltFrom maxNameLength authorizationServer custom)
    (hcustom : custom.KeepNames) (c : Collaborators σ) {entry : CatalogEntry} {instanceId : String}
    {apps : List Application}
    (htargeted : extensions.targetedApplications entry instanceId = .ok apps) :
    extensions.Asks c entry instanceId (Request.Within (apps.map (·.name))) := by
  have htransformers : ∀ parameters app,
      (Transform.applicationChain extensions.transformers parameters app).KeepsName app := by
    intro parameters app
    apply chain_keepsName
    intro spec _ transformer htransformer
    obtain ⟨factory, hfactory, -, hcreate⟩ :=
      Registry.exists_factory_of_resolve built.transformers htransformer
    rcases List.mem_append.mp hfactory with hbuiltin | hother
    · exact Transform.builtin_keepsName hbuiltin hcreate parameters
    · exact hcustom.transformers factory hother _ transformer hcreate parameters
  have hproviders : ∀ phase app,
      (Credential.applicationChain extensions.credentialProviders phase instanceId app).KeepsName
        app := by
    intro phase app
    apply chain_keepsName
    intro spec _ provider hprovider
    obtain ⟨factory, hfactory, -, hcreate⟩ :=
      Registry.exists_factory_of_resolve built.credentialProviders hprovider
    rcases List.mem_append.mp hfactory with hbuiltin | hother
    · exact Credential.builtin_keepsName hbuiltin hcreate phase instanceId
    · exact hcustom.credentialProviders factory hother _ provider hcreate phase instanceId
  have hnames : ∀ targeted, extensions.targetedApplications entry instanceId = .ok targeted →
      ∀ app ∈ targeted, app.name ∈ apps.map (·.name) := by
    intro targeted h app happ
    obtain rfl := Except.ok.inj (htargeted.symm.trans h)
    exact List.mem_map_of_mem happ
  constructor
  case preparation =>
    intro parameters s r hr
    obtain ⟨transformed, first, second, staged⟩ :=
      extensions.prepareApplications_staged c entry instanceId parameters s
    obtain ⟨hfirst, htransformed⟩ := staged.transforms.keepsNames (htransformers parameters) hnames
    obtain ⟨hsecond, -⟩ := staged.credentials.keepsNames (hproviders .add) htransformed
    rw [staged.log, requestsIn_append, List.mem_append] at hr
    exact hr.elim (hfirst r) (hsecond r)
  case deletion =>
    intro s
    rw [prepareDeletion_eq]
    exact ((stageAfter_chains c _ _ s).keepsNames (hproviders .delete) hnames).1

end Extensions

/-! ## Two service instances -/

namespace Broker

/-- Two service instances do not share anything that is deployed under a name of a built-in target.
If their ids are equally long, no name is given for both of them, and no operation on one of them
asks for an application of the other one; here custom extensions must leave names alone. With a
group for each instance, ids of any length lead to different places. -/
theorem instances_kept_apart {config : BrokerConfig} {catalog : Catalog}
    {authorizationServer : Bool} {custom : CustomExtensions} {broker : Broker}
    (hbuild : build config catalog authorizationServer custom = .ok broker)
    {entry entry' : CatalogEntry} {spec spec' : ExtensionSpec} (htarget : entry.target = some spec)
    (htarget' : entry'.target = some spec')
    (hspec : spec.name ∈ (Target.builtin config.maxNameLength).map (·.name))
    (hspec' : spec'.name ∈ (Target.builtin config.maxNameLength).map (·.name))
    {instanceId other : String} (hne : instanceId ≠ other) (c : Collaborators σ) :
    ∃ (apply apply' : Artifact → Artifact) (others : List Application),
      broker.extensions.targets.targetFor entry.target (entry.context instanceId) = .ok apply ∧
      broker.extensions.targets.targetFor entry'.target (entry'.context other) = .ok apply' ∧
      broker.extensions.targetedApplications entry' other = .ok others ∧
      (instanceId.length = other.length →
        (∀ artifact artifact', (apply artifact).name ≠ (apply' artifact').name) ∧
        (∀ config config' : OAuth2Config, config.clientId = none →
          config'.clientId = none → ∀ name name',
            config.clientIdFor name instanceId ≠ config'.clientIdFor name' other) ∧
        (∀ plan, broker.catalog.find? plan.serviceName plan.planName = some entry →
          broker.lifecycle.Asks c instanceId plan (·.Spares others)) ∧
        (custom.KeepNames → broker.extensions.Asks c entry instanceId (·.Spares others))) ∧
      (spec.name = "per-instance-grouping" → spec'.name = "per-instance-grouping" →
        (∀ artifact artifact', apply artifact ≠ apply' artifact') ∧
        ∀ plan, broker.catalog.find? plan.serviceName plan.planName = some entry →
          broker.lifecycle.Asks c instanceId plan
            fun r => ∀ app ∈ others, r.artifact? ≠ some app.artifact) := by
  obtain ⟨extensions, hextensions, hbroker⟩ := exists_of_bind_eq_ok hbuild
  cases hbroker
  have built := Extensions.builtFrom_of_build hextensions
  obtain ⟨target, hends, hfound, hgroup⟩ := built.exists_endsNames hspec
  obtain ⟨target', hends', hfound', hgroup'⟩ := built.exists_endsNames hspec'
  have hfound := htarget ▸ hfound (entry.context instanceId)
  have hfound' := htarget' ▸ hfound' (entry'.context other)
  have htargeted := Extensions.targetedApplications_eq hfound
  have htargeted' := Extensions.targetedApplications_eq hfound'
  refine ⟨_, _, _, hfound, hfound', htargeted', fun hlength => ?_, fun hgrouped hgrouped' => ?_⟩
  · have hnames : ∀ artifact artifact', (target (entry.context instanceId) artifact).name ≠
        (target' (entry'.context other) artifact').name := by
      intro artifact artifact'
      have hend := hends (entry.context instanceId) artifact
      have hend' := hends' (entry'.context other) artifact'
      exact Target.ne_of_ends hlength hne hend hend'
    have hapart : ∀ app ∈ entry.namedBy instanceId target, ∀ app' ∈ entry'.namedBy other target',
        app.name ≠ app'.name := by
      simp only [CatalogEntry.namedBy, List.forall_mem_map]
      exact fun app _ app' _ => hnames app.artifact app'.artifact
    refine ⟨hnames, fun config config' hconfig hconfig' name name' => ?_, fun plan hentry => ?_,
      fun hcustom => ?_⟩
    · exact OAuth2Config.clientIdFor_ne hconfig hconfig' hlength hne name name'
    · have hresolve := resolve_eq _ plan hentry htargeted
      exact (Lifecycle.asks_own hresolve c).mono fun r hr => hr.within.spares hapart
    · exact (built.asks_within hcustom c htargeted).mono fun r hr => hr.spares hapart
  · have hplaces : ∀ artifact artifact', target (entry.context instanceId) artifact ≠
        target' (entry'.context other) artifact' := by
      intro artifact artifact' heq
      rw [hgroup hgrouped, hgroup' hgrouped'] at heq
      have hgroups := congrArg (fun place => place.properties.get? "target") heq
      simp only [Target.perInstanceGrouping_group] at hgroups
      exact hne (Option.some.inj hgroups)
    refine ⟨hplaces, fun plan hentry => ?_⟩
    have hresolve := resolve_eq _ plan hentry htargeted
    refine (Lifecycle.asks_own hresolve c).mono fun r hr app' happ' heq => ?_
    obtain ⟨app, happ, hartifact⟩ := hr.exists_artifact heq
    obtain ⟨template, -, rfl⟩ := List.mem_map.mp happ
    obtain ⟨template', -, rfl⟩ := List.mem_map.mp happ'
    exact hplaces template.artifact template'.artifact hartifact.symm

/-- Ids of different lengths may lead to the same name. -/
example : Target.suffixed 50 "web" "1-1" = Target.suffixed 50 "web-1" "1" := by decide

/-- Two plans with different targets, and instances of one of them whose names coincide. -/
theorem instances_kept_apart_staged :
    let small : CatalogEntry :=
      { serviceName := "queue", planName := "small", applications := [{ name := "incoming" }]
        target := some ⟨"instance-suffix", .empty⟩ }
    let large : CatalogEntry :=
      { serviceName := "queue", planName := "large"
        applications := [{ name := "web" }, { name := "web-1" }]
        target := some ⟨"per-instance-grouping", .empty⟩ }
    let c := Rehearsal.Script.collaborators {}
    ∃ broker, build { maxNameLength := 6 } ⟨[small, large]⟩ false {} = .ok broker ∧
      (∃ others, broker.extensions.targetedApplications large "i-2" = .ok others ∧
        broker.lifecycle.Asks c "i-1" ⟨"queue", "small"⟩ (·.Spares others) ∧
        broker.extensions.Asks c small "i-1" (·.Spares others)) ∧
      ∃ others, broker.extensions.targetedApplications large "1" = .ok others ∧
        broker.lifecycle.Asks c "1-1" ⟨"queue", "large"⟩
          fun r => ∀ app ∈ others, r.artifact? ≠ some app.artifact := by
  intro small large c
  obtain ⟨broker, hbuild⟩ : ∃ broker,
      build { maxNameLength := 6 } ⟨[small, large]⟩ false {} = .ok broker := ⟨_, rfl⟩
  obtain ⟨hcatalog, -⟩ := equipped_of_build hbuild
  have hsmall : broker.catalog.find? "queue" "small" = some small := by
    rw [hcatalog]
    rfl
  have hlarge : broker.catalog.find? "queue" "large" = some large := by
    rw [hcatalog]
    rfl
  have hids : "i-1" ≠ "i-2" := by decide
  have hlengths : "1-1" ≠ "1" := by decide
  refine ⟨broker, hbuild, ?_, ?_⟩
  · obtain ⟨_, _, others, -, -, hothers, hapart, -⟩ :=
      instances_kept_apart hbuild (rfl : small.target = _) (rfl : large.target = _) (by decide)
        (by decide) hids c
    obtain ⟨-, -, hlifecycle, hcredentials⟩ := hapart (by decide)
    exact ⟨others, hothers, hlifecycle ⟨"queue", "small"⟩ hsmall,
      hcredentials CustomExtensions.keepNames_empty⟩
  · obtain ⟨_, _, others, -, -, hothers, -, hapart⟩ :=
      instances_kept_apart hbuild (rfl : large.target = _) (rfl : large.target = _) (by decide)
        (by decide) hlengths c
    obtain ⟨-, hlifecycle⟩ := hapart rfl rfl
    exact ⟨others, hothers, hlifecycle ⟨"queue", "large"⟩ hlarge⟩

end Broker

end ServiceBroker
