import ServiceBroker.Proofs.Deployed
import ServiceBroker.Proofs.Prepared

/-!
Operations on a service instance and the applications that were prepared for it. Both sides take the
applications of the entry through the same target, so the operations find them under their names;
but a mapping may put a property of the request in the place of one that the target has given.
-/

namespace ServiceBroker

variable {σ : Type}

/-- The properties that say in which group an application is deployed. -/
def Target.groupingKeys : List String := ["target", "keep-target-on-delete"]

structure Artifact.SamePlace (artifact other : Artifact) : Prop where
  name : artifact.name = other.name
  grouping : ∀ key ∈ Target.groupingKeys, artifact.properties.get? key = other.properties.get? key

/-- One request for each application, in their order; `R` says what the artifact that is asked for
has in common with the application. -/
def AskedFor (request : Artifact → Request) (R : Artifact → Artifact → Prop)
    (requests : List Request) (apps : List Application) : Prop :=
  List.Forall₂
    (fun r (app : Application) => ∃ artifact, r = request artifact ∧ R artifact app.artifact)
    requests apps

namespace Lifecycle

/-- Every operation on the service instance asks for the applications and for nothing else.
Operations that are not told the plan look it up before. -/
structure Addresses (lifecycle : Lifecycle) (c : Collaborators σ) (instanceId : String)
    (plan : PlanReference) (R : Artifact → Artifact → Prop) (apps : List Application) : Prop where
  performFor : ∀ action s,
    AskedFor (.perform action) R (requestsIn (lifecycle.performFor c action instanceId plan s).log)
      apps
  deployedFor : ∀ s,
    AskedFor .describe R (requestsIn (lifecycle.deployedFor c instanceId plan s).log) apps
  perform : ∀ action s, (Session.alone c (Program.ask (.lookup instanceId)) s).value = .ok plan →
    ∃ requests, requestsIn (lifecycle.perform c action instanceId s).log =
      .lookup instanceId :: requests ∧ AskedFor (.perform action) R requests apps
  deployed : ∀ s, (Session.alone c (Program.ask (.lookup instanceId)) s).value = .ok plan →
    ∃ requests, requestsIn (lifecycle.deployed c instanceId s).log =
      .lookup instanceId :: requests ∧ AskedFor .describe R requests apps

/-! ## The requests of the operations -/

theorem performOn_single (action : Action) (app : Application) :
    (performOn action app).Single (.perform action app.artifact) :=
  ⟨failureOf app, performOn_eq action app⟩

theorem describeOne_single (app : Application) :
    (describeOne app).Single (.describe app.artifact) :=
  ⟨described app, describeOne_eq app⟩

theorem forall₂_single {α : Type} {request : Application → Request}
    {program : Application → Program α} (h : ∀ app, (program app).Single (request app))
    (apps : List Application) :
    List.Forall₂ Program.Single (apps.map request) (apps.map program) := by
  rw [List.forall₂_map_left_iff, List.forall₂_map_right_iff, List.forall₂_same]
  exact fun app _ => h app

section Requests

variable {lifecycle : Lifecycle} {instanceId : String} {plan : PlanReference}
  {apps : List Application} (c : Collaborators σ)

theorem requestsIn_performFor (h : lifecycle.resolve instanceId plan = .ok apps) (action : Action)
    (s : σ) :
    requestsIn (lifecycle.performFor c action instanceId plan s).log =
      apps.map fun app => .perform action app.artifact := by
  rw [performFor_of_resolve h]
  exact Session.together_requests c (forall₂_single (performOn_single action) apps) s

theorem requestsIn_deployedFor (h : lifecycle.resolve instanceId plan = .ok apps) (s : σ) :
    requestsIn (lifecycle.deployedFor c instanceId plan s).log =
      apps.map fun app => .describe app.artifact := by
  rw [deployedFor_of_resolve h]
  exact Session.together_requests c (forall₂_single describeOne_single apps) s

/-- After the plan has been looked up, the operation goes on as if it had been told. -/
theorem requestsIn_withPlan {α : Type} (next : PlanReference → Session σ (Report α)) {s : σ}
    (h : (Session.alone c (Program.ask (.lookup instanceId)) s).value = .ok plan) :
    ∃ t, requestsIn (withPlan c instanceId next s).log =
      .lookup instanceId :: requestsIn (next plan t).log := by
  refine ⟨(Session.alone c (Program.ask (.lookup instanceId)) s).state, ?_⟩
  have hlookup : requestsIn (Session.alone c (Program.ask (.lookup instanceId)) s).log =
      [.lookup instanceId] := by
    rw [Session.alone_ask]
    rfl
  have hlog : (withPlan c instanceId next s).log =
      (Session.alone c (Program.ask (.lookup instanceId)) s).log ++
        (next plan (Session.alone c (Program.ask (.lookup instanceId)) s).state).log := by
    simp only [withPlan, Session.bind_apply]
    rw [h]
  rw [hlog, requestsIn_append, hlookup]
  rfl

end Requests

/-! ## Resolved and prepared applications -/

theorem askedFor_map_iff {request : Artifact → Request} (hrequest : Function.Injective request)
    {R : Artifact → Artifact → Prop} {resolved apps : List Application} :
    AskedFor request R (resolved.map fun app => request app.artifact) apps ↔
      List.Forall₂ (fun app app' : Application => R app.artifact app'.artifact) resolved apps := by
  rw [AskedFor, List.forall₂_map_left_iff]
  constructor
  · intro h
    refine h.imp fun app app' ⟨artifact, heq, hR⟩ => ?_
    exact hrequest heq ▸ hR
  · intro h
    exact h.imp fun app app' hR => ⟨app.artifact, rfl, hR⟩

theorem perform_injective (action : Action) : Function.Injective (Request.perform action) :=
  fun _ _ h => (Request.perform.inj h).2

theorem describe_injective : Function.Injective Request.describe :=
  fun _ _ h => Request.describe.inj h

theorem addresses_iff {lifecycle : Lifecycle} {instanceId : String} {plan : PlanReference}
    {resolved : List Application} (h : lifecycle.resolve instanceId plan = .ok resolved)
    (c : Collaborators σ) (s : σ) {R : Artifact → Artifact → Prop} {apps : List Application} :
    lifecycle.Addresses c instanceId plan R apps ↔
      List.Forall₂ (fun app app' : Application => R app.artifact app'.artifact) resolved apps := by
  constructor
  · intro haddresses
    -- All operations ask for the same applications, so any one of them tells which.
    have hdescribed := haddresses.deployedFor s
    rw [requestsIn_deployedFor c h] at hdescribed
    exact (askedFor_map_iff describe_injective).mp hdescribed
  · intro hrelated
    have hperformed : ∀ action s, AskedFor (.perform action) R
        (requestsIn (lifecycle.performFor c action instanceId plan s).log) apps := by
      intro action s
      rw [requestsIn_performFor c h]
      exact (askedFor_map_iff (perform_injective action)).mpr hrelated
    have hdescribed : ∀ s, AskedFor .describe R
        (requestsIn (lifecycle.deployedFor c instanceId plan s).log) apps := by
      intro s
      rw [requestsIn_deployedFor c h]
      exact (askedFor_map_iff describe_injective).mpr hrelated
    refine ⟨hperformed, hdescribed, fun action s hlookup => ?_, fun s hlookup => ?_⟩
    · obtain ⟨t, ht⟩ := requestsIn_withPlan c (lifecycle.performFor c action instanceId) hlookup
      exact ⟨_, ht, hperformed action t⟩
    · obtain ⟨t, ht⟩ := requestsIn_withPlan c (lifecycle.deployedFor c instanceId) hlookup
      exact ⟨_, ht, hdescribed t⟩

end Lifecycle

/-- An application stays in the place that the target has given it, unless a mapping copies another
group from the request. -/
theorem Application.Mapped.samePlace_iff {parameters : Parameters} {specs : List ExtensionSpec}
    {app changed : Application} (h : app.Mapped parameters specs changed) :
    app.artifact.SamePlace changed.artifact ↔
      ∀ key ∈ Target.groupingKeys, ∀ value, key ∈ Transform.propertyKeys specs →
        parameters.get? key = some value →
          app.properties.get? key = some (Transform.propertyText value) := by
  have hkey : ∀ key, app.properties.get? key = changed.properties.get? key ↔
      ∀ value, key ∈ Transform.propertyKeys specs → parameters.get? key = some value →
        app.properties.get? key = some (Transform.propertyText value) := by
    intro key
    rw [h.property]
    by_cases hcopied : key ∈ Transform.propertyKeys specs
    · cases hvalue : parameters.get? key <;> simp [hcopied]
    · simp [hcopied]
  constructor
  · intro hplace key hgrouping
    exact (hkey key).mp (hplace.grouping key hgrouping)
  · intro hgrouping
    exact ⟨h.name.symm, fun key hmem => (hkey key).mpr (hgrouping key hmem)⟩

theorem forall₂_iff_forall_mem {α β : Type} {R S : α → β → Prop} {Q : α → Prop} {xs : List α}
    {ys : List β} (h : List.Forall₂ R xs ys) (hiff : ∀ x y, R x y → (S x y ↔ Q x)) :
    List.Forall₂ S xs ys ↔ ∀ x ∈ xs, Q x := by
  induction h with
  | nil => simp
  | cons hxy _ ih => simp [hiff _ _ hxy, ih]

theorem CatalogEntry.context_of_find? {catalog : Catalog} {plan : PlanReference}
    {entry : CatalogEntry} (h : catalog.find? plan.serviceName plan.planName = some entry)
    (instanceId : String) :
    entry.context instanceId = ⟨instanceId, plan.serviceName, plan.planName⟩ := by
  have hfor := List.find?_some h
  simp only [isFor, Bool.and_eq_true, beq_iff_eq] at hfor
  rw [context, hfor.1, hfor.2]

namespace Broker

variable {entry : CatalogEntry}

theorem resolve_eq (broker : Broker) (plan : PlanReference)
    (hentry : broker.catalog.find? plan.serviceName plan.planName = some entry)
    {instanceId : String} {apps : List Application}
    (h : broker.extensions.targetedApplications entry instanceId = .ok apps) :
    broker.lifecycle.resolve instanceId plan = .ok apps := by
  have htargets : broker.extensions.targets.targetApplications entry.target
      ⟨instanceId, plan.serviceName, plan.planName⟩ entry.applications = .ok apps := by
    rw [← CatalogEntry.context_of_find? hentry]
    exact eq_ok_of_mapError_eq_ok h
  simp only [Lifecycle.resolve, lifecycle, hentry, htargets]
  rfl

/-- Operations on a service instance find the prepared applications, in their order and under their
names. They find them in their groups exactly if no mapping has copied another group from the
request. -/
theorem operations_address_prepared_iff {config : BrokerConfig} {catalog : Catalog}
    {authorizationServer : Bool} {broker : Broker}
    (hbuild : build config catalog authorizationServer {} = .ok broker) (plan : PlanReference)
    (hentry : broker.catalog.find? plan.serviceName plan.planName = some entry)
    {instanceId : String} {parameters : Parameters} {c : Collaborators σ} {s : σ}
    {prepared : List Application}
    (hok : (broker.extensions.prepareApplications c entry instanceId parameters s).value =
      .ok prepared) :
    broker.lifecycle.Addresses c instanceId plan (fun artifact other => artifact.name = other.name)
        prepared ∧
      ∃ target, broker.extensions.targets.targetFor entry.target (entry.context instanceId) =
          .ok target ∧
        (broker.lifecycle.Addresses c instanceId plan Artifact.SamePlace prepared ↔
          ∀ app ∈ entry.applications, ∀ key ∈ Target.groupingKeys, ∀ value,
            key ∈ Transform.propertyKeys app.transformers → parameters.get? key = some value →
              (target app.artifact).properties.get? key = some (Transform.propertyText value)) := by
  obtain ⟨extensions, hextensions, hbroker⟩ := exists_of_bind_eq_ok hbuild
  cases hbroker
  have built := Extensions.builtFrom_of_build hextensions
  obtain ⟨targeted, htargeted, hmapped⟩ := built.preparedApplications hok
  have hresolve := resolve_eq _ plan hentry htargeted
  obtain ⟨target, htarget, rfl⟩ := Extensions.of_targetedApplications htargeted
  refine ⟨?_, target, htarget, ?_⟩
  · rw [Lifecycle.addresses_iff hresolve c s]
    exact hmapped.imp fun app app' h => h.name.symm
  · rw [Lifecycle.addresses_iff hresolve c s,
      forall₂_iff_forall_mem hmapped fun app app' h => h.samePlace_iff, List.forall_mem_map]
    rfl

/-- A mapping that copies the group which the target has given. -/
theorem operations_address_prepared_staged :
    let app : Application :=
      { name := "web"
        transformers := [⟨"property-mapping", .ofList [("include", .text "target")]⟩] }
    let entry : CatalogEntry :=
      { serviceName := "queue", planName := "small", applications := [app]
        target := some ⟨"per-instance-grouping", .empty⟩ }
    ∃ broker, build {} ⟨[entry]⟩ false {} = .ok broker ∧
      let request : Parameters := .ofList [("target", .text "7")]
      let c := Rehearsal.Script.collaborators {}
      let preparation := broker.extensions.prepareApplications c entry "7" request .start
      ∃ prepared, preparation.value = .ok prepared ∧
        broker.lifecycle.Addresses c "7" ⟨"queue", "small"⟩ Artifact.SamePlace prepared := by
  intro app entry
  refine ⟨_, rfl, ?_⟩
  intro request c preparation
  have hbuild : build {} ⟨[entry]⟩ false {} = .ok _ := rfl
  obtain ⟨prepared, hprepared⟩ := exists_of_isOk (r := preparation.value) (by decide +kernel)
  obtain ⟨-, target, htarget, hiff⟩ := operations_address_prepared_iff hbuild ⟨"queue", "small"⟩
    rfl hprepared
  cases htarget
  have hcopied : Transform.propertyKeys app.transformers = ["target"] := by decide +kernel
  refine ⟨prepared, hprepared, hiff.mpr fun app happ key hkey value hkeys hvalue => ?_⟩
  obtain rfl := List.mem_singleton.mp happ
  rw [hcopied] at hkeys
  obtain rfl := List.mem_singleton.mp hkeys
  cases hvalue
  decide +kernel

/-- A request that asks for another group: the application is prepared for that group, and the
operations look for it in the group of the service instance. -/
theorem group_taken_from_request :
    let app : Application :=
      { name := "web", path := "p"
        transformers := [⟨"property-mapping", .ofList [("include", .text "target")]⟩] }
    let entry : CatalogEntry :=
      { serviceName := "queue", planName := "small", applications := [app]
        target := some ⟨"per-instance-grouping", .empty⟩ }
    ∃ broker, build {} ⟨[entry]⟩ false {} = .ok broker ∧
      let request : Parameters := .ofList [("target", .text "elsewhere")]
      let c := Rehearsal.Script.collaborators {}
      let preparation := broker.extensions.prepareApplications c entry "7" request .start
      let stopping := broker.lifecycle.performFor c .stop "7" ⟨"queue", "small"⟩ .start
      ∃ app' artifact, preparation.value = .ok [app'] ∧
        app'.properties.get? "target" = some "elsewhere" ∧
        requestsIn stopping.log = [.perform .stop artifact] ∧
        artifact.properties.get? "target" = some "7" ∧
        ¬broker.lifecycle.Addresses c "7" ⟨"queue", "small"⟩ Artifact.SamePlace [app'] := by
  intro app entry
  refine ⟨_, rfl, ?_⟩
  intro request c preparation stopping
  have hbuild : Extensions.build 50 false {} = .ok _ := rfl
  have built := Extensions.builtFrom_of_build hbuild
  obtain ⟨prepared, hprepared⟩ := exists_of_isOk (r := preparation.value) (by decide +kernel)
  obtain ⟨targeted, htargeted, hmapped⟩ := built.preparedApplications hprepared
  have hresolve := resolve_eq ⟨{}, ⟨[entry]⟩, _, .forInstances, .forBindings⟩ ⟨"queue", "small"⟩ rfl
    htargeted
  cases htargeted
  cases hmapped with
  | cons happ hrest =>
    cases hrest
    rename_i app'
    have hcopied : "target" ∈ Transform.propertyKeys app.transformers := by decide +kernel
    have htarget : app'.properties.get? "target" = some "elsewhere" := by
      rw [happ.property "target"]
      exact (if_pos hcopied).trans rfl
    refine ⟨_, _, hprepared, htarget, Lifecycle.requestsIn_performFor c hresolve .stop .start, rfl,
      fun haddresses => ?_⟩
    obtain ⟨hplace, -⟩ :=
      List.forall₂_cons.mp ((Lifecycle.addresses_iff hresolve c .start).mp haddresses)
    have hsame := (hplace.grouping "target" (by decide)).trans htarget
    exact absurd hsame (by decide +kernel)

end Broker

end ServiceBroker
