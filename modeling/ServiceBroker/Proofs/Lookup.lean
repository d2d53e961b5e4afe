import ServiceBroker.Proofs.Addresses

/-!
Operations that are told the plan of a service instance, and operations that look it up. The latter
ask the platform once, before all else, and then go on as the former. An operation for a plan that
leaves nothing to do asks for nothing.
-/

namespace ServiceBroker

variable {σ α : Type}

namespace Lifecycle

/-- What the platform answers when it is asked for the plan, and its state after that. -/
def lookup (c : Collaborators σ) (instanceId : String) (s : σ) : Answer (.lookup instanceId) × σ :=
  c.answer (.lookup instanceId) (c.accept (.lookup instanceId) s).2

def lookupLog (instanceId : String) (answer : Answer (.lookup instanceId)) : List LogEntry :=
  [⟨0, .issued (.lookup instanceId)⟩, ⟨0, .answered (.lookup instanceId) answer⟩, ⟨0, .ended⟩]

/-- An operation that looks the plan up, beside one that is told it. -/
structure LooksUp (c : Collaborators σ) (instanceId : String) (request : Artifact → Request)
    (operation : Session σ (Report α)) (told : PlanReference → Session σ (Report α)) : Prop where
  /-- The plan is asked for first, and then only applications are. -/
  once : ∀ s, ∃ rest, requestsIn (operation s).log = .lookup instanceId :: rest ∧
    ∀ r ∈ rest, ∃ artifact, r = request artifact
  failed : ∀ s failure, (lookup c instanceId s).1 = .error failure → operation s =
    ⟨{ result := .error (.platform failure) }, lookupLog instanceId (.error failure),
      (lookup c instanceId s).2⟩
  answered : ∀ s plan, (lookup c instanceId s).1 = .ok plan →
    let rest := told plan (lookup c instanceId s).2
    operation s = ⟨rest.value, lookupLog instanceId (.ok plan) ++ rest.log, rest.state⟩

/-- What an operation does that is told a plan for which there is nothing to do. `nothing` is its
result if that is no error. -/
structure EndsEarly (lifecycle : Lifecycle) (instanceId : String) (nothing : α)
    (told : Lifecycle → PlanReference → Session σ (Report α)) : Prop where
  noEntry : ∀ plan s, lifecycle.catalog.find? plan.serviceName plan.planName = none →
    told lifecycle plan s = ⟨{ result := .ok nothing }, [], s⟩
  /-- An unknown target is told even if there is no application that it could be applied to. -/
  unknownTarget : ∀ plan entry spec s,
    lifecycle.catalog.find? plan.serviceName plan.planName = some entry →
    entry.target = some spec → lifecycle.targets.contains spec.name = false →
    told lifecycle plan s =
      ⟨{ result := .error (.target (.unknown spec.name lifecycle.targets.names)) }, [], s⟩
  noApplications : ∀ plan entry s,
    lifecycle.catalog.find? plan.serviceName plan.planName = some entry → entry.applications = [] →
    (told lifecycle plan s).log = [] ∧ (told lifecycle plan s).state = s ∧
      (told lifecycle plan s).value.warnings = [] ∧
      ∀ target, lifecycle.targets.targetFor entry.target
        ⟨instanceId, plan.serviceName, plan.planName⟩ = .ok target →
          (told lifecycle plan s).value.result = .ok nothing
  /-- Of several entries for the plan the first one counts, as if it were the only one. -/
  first : ∀ plan before entry after s, lifecycle.catalog.entries = before ++ entry :: after →
    (∀ earlier ∈ before, earlier.isFor plan.serviceName plan.planName = false) →
    entry.isFor plan.serviceName plan.planName = true →
    told lifecycle plan s = told { lifecycle with catalog := ⟨[entry]⟩ } plan s

/-! ## What the catalog resolves to -/

section Resolve

variable {lifecycle : Lifecycle} {instanceId : String} {plan : PlanReference} {entry : CatalogEntry}

theorem resolve_of_no_entry
    (h : lifecycle.catalog.find? plan.serviceName plan.planName = none) :
    lifecycle.resolve instanceId plan = .ok [] := by
  simp only [resolve, h]

theorem resolve_of_unknown_target {spec : ExtensionSpec}
    (hentry : lifecycle.catalog.find? plan.serviceName plan.planName = some entry)
    (hspec : entry.target = some spec) (hunknown : lifecycle.targets.contains spec.name = false) :
    lifecycle.resolve instanceId plan =
      .error (.target (.unknown spec.name lifecycle.targets.names)) := by
  have hnone : lifecycle.targets.factories.get? spec.name = none :=
    Option.not_isSome_iff_eq_none.mp (Bool.eq_false_iff.mp hunknown)
  simp only [resolve, hentry, Registry.targetApplications, Registry.targetFor, hspec,
    Registry.resolve, hnone]
  rfl

/-- An entry without applications resolves to none, or to an error of its target. -/
theorem resolve_of_no_applications
    (hentry : lifecycle.catalog.find? plan.serviceName plan.planName = some entry)
    (happs : entry.applications = []) (instanceId : String) :
    (∃ target, lifecycle.targets.targetFor entry.target
        ⟨instanceId, plan.serviceName, plan.planName⟩ = .ok target ∧
      lifecycle.resolve instanceId plan = .ok []) ∨
    ∃ e, lifecycle.targets.targetFor entry.target
        ⟨instanceId, plan.serviceName, plan.planName⟩ = .error e ∧
      lifecycle.resolve instanceId plan = .error (.target e) := by
  simp only [resolve, hentry, Registry.targetApplications, happs]
  cases lifecycle.targets.targetFor entry.target ⟨instanceId, plan.serviceName, plan.planName⟩ with
  | ok target => exact .inl ⟨target, rfl, rfl⟩
  | error e => exact .inr ⟨e, rfl, rfl⟩

/-- Only the first entry for the plan counts. -/
theorem resolve_eq_of_first {before after : List CatalogEntry}
    (hentries : lifecycle.catalog.entries = before ++ entry :: after)
    (hbefore : ∀ earlier ∈ before, earlier.isFor plan.serviceName plan.planName = false)
    (hentry : entry.isFor plan.serviceName plan.planName = true) (instanceId : String) :
    lifecycle.resolve instanceId plan =
      { lifecycle with catalog := ⟨[entry]⟩ }.resolve instanceId plan := by
  have hnone : before.find? (·.isFor plan.serviceName plan.planName) = none :=
    List.find?_eq_none.mpr fun earlier h => by rw [hbefore earlier h]; exact Bool.false_ne_true
  simp only [resolve, Catalog.find?, hentries, List.find?_append, hnone, Option.none_or,
    List.find?_cons, hentry]

end Resolve

/-- An operation that is told a plan goes by what the plan resolves to. -/
structure GoesByResolve (instanceId : String) (request : Artifact → Request) (nothing : α)
    (told : Lifecycle → PlanReference → Session σ (Report α)) : Prop where
  error : ∀ {lifecycle plan e} s, lifecycle.resolve instanceId plan = .error e →
    told lifecycle plan s = ⟨{ result := .error e }, [], s⟩
  nil : ∀ {lifecycle plan} s, lifecycle.resolve instanceId plan = .ok [] →
    told lifecycle plan s = ⟨{ result := .ok nothing }, [], s⟩
  asks : ∀ {lifecycle plan apps} s, lifecycle.resolve instanceId plan = .ok apps →
    requestsIn (told lifecycle plan s).log = apps.map fun app => request app.artifact
  congr : ∀ {lifecycle plan} catalog s,
    lifecycle.resolve instanceId plan = { lifecycle with catalog }.resolve instanceId plan →
    told lifecycle plan s = told { lifecycle with catalog } plan s

section Operations

variable {c : Collaborators σ} {instanceId : String} {request : Artifact → Request} {nothing : α}
  {told : Lifecycle → PlanReference → Session σ (Report α)}

theorem performFor_goesByResolve (c : Collaborators σ) (action : Action) (instanceId : String) :
    GoesByResolve instanceId (.perform action) ()
      fun lifecycle => lifecycle.performFor c action instanceId where
  error s h := by
    simp only [performFor, h]
    rfl
  nil s h := by
    rw [performFor_of_resolve h, List.map_nil, Session.together_nil]
    rfl
  asks s h := requestsIn_performFor c h action s
  congr catalog s h := by
    simp only [performFor, ← h]
    rfl

theorem deployedFor_goesByResolve (c : Collaborators σ) (instanceId : String) :
    GoesByResolve instanceId .describe [] fun lifecycle => lifecycle.deployedFor c instanceId where
  error s h := by
    simp only [deployedFor, h]
    rfl
  nil s h := by
    rw [deployedFor_of_resolve h, List.map_nil, Session.together_nil]
    rfl
  asks s h := requestsIn_deployedFor c h s
  congr catalog s h := by
    simp only [deployedFor, ← h]

theorem GoesByResolve.endsEarly (goes : GoesByResolve instanceId request nothing told)
    (lifecycle : Lifecycle) : EndsEarly lifecycle instanceId nothing told := by
  constructor
  case noEntry => exact fun plan s h => goes.nil s (resolve_of_no_entry h)
  case unknownTarget =>
    exact fun plan entry spec s hentry hspec hunknown =>
      goes.error s (resolve_of_unknown_target hentry hspec hunknown)
  case noApplications =>
    intro plan entry s hentry happs
    rcases resolve_of_no_applications hentry happs instanceId with
      ⟨target, htarget, hresolve⟩ | ⟨e, htarget, hresolve⟩
    · rw [goes.nil s hresolve]
      exact ⟨rfl, rfl, rfl, fun _ _ => rfl⟩
    · rw [goes.error s hresolve]
      refine ⟨rfl, rfl, rfl, fun target h => ?_⟩
      rw [htarget] at h
      cases h
  case first =>
    exact fun plan before entry after s hentries hbefore hentry =>
      goes.congr ⟨[entry]⟩ s (resolve_eq_of_first hentries hbefore hentry instanceId)

theorem GoesByResolve.asked (goes : GoesByResolve instanceId request nothing told)
    (lifecycle : Lifecycle) (plan : PlanReference) (s : σ) {r : Request}
    (hr : r ∈ requestsIn (told lifecycle plan s).log) : ∃ artifact, r = request artifact := by
  cases hresolve : lifecycle.resolve instanceId plan with
  | error e =>
    rw [goes.error s hresolve] at hr
    cases hr
  | ok apps =>
    rw [goes.asks s hresolve] at hr
    obtain ⟨app, -, rfl⟩ := List.mem_map.mp hr
    exact ⟨app.artifact, rfl⟩

theorem withPlan_of_error {next : PlanReference → Session σ (Report α)} {s : σ} {failure : Failure}
    (h : (lookup c instanceId s).1 = .error failure) :
    withPlan c instanceId next s =
      ⟨{ result := .error (.platform failure) }, lookupLog instanceId (.error failure),
        (lookup c instanceId s).2⟩ := by
  rw [lookup] at h
  simp only [withPlan, Session.bind_apply, Session.alone_ask, h]
  rfl

theorem withPlan_of_ok {next : PlanReference → Session σ (Report α)} {s : σ} {plan : PlanReference}
    (h : (lookup c instanceId s).1 = .ok plan) :
    let rest := next plan (lookup c instanceId s).2
    withPlan c instanceId next s =
      ⟨rest.value, lookupLog instanceId (.ok plan) ++ rest.log, rest.state⟩ := by
  rw [lookup] at h
  simp only [withPlan, Session.bind_apply, Session.alone_ask, h]
  rfl

theorem GoesByResolve.looksUp (goes : GoesByResolve instanceId request nothing told)
    (c : Collaborators σ) (lifecycle : Lifecycle) :
    LooksUp c instanceId request (withPlan c instanceId (told lifecycle)) (told lifecycle) := by
  refine ⟨fun s => ?_, fun s failure => withPlan_of_error, fun s plan => withPlan_of_ok⟩
  cases hlookup : (lookup c instanceId s).1 with
  | error failure =>
    rw [withPlan_of_error hlookup]
    exact ⟨[], rfl, fun r hr => nomatch hr⟩
  | ok plan =>
    rw [withPlan_of_ok hlookup, requestsIn_append]
    exact ⟨_, rfl, fun r hr => goes.asked lifecycle plan _ hr⟩

end Operations

/-- Actions and queries that are given a service instance alone look its plan up and go on as if
they had been told it. A plan that has no entry, an unknown target or no applications ends them
early, before they ask for any application. -/
theorem operations_look_up_plan (lifecycle : Lifecycle) (c : Collaborators σ)
    (instanceId : String) :
    (∀ action,
      LooksUp c instanceId (.perform action) (lifecycle.perform c action instanceId)
          (lifecycle.performFor c action instanceId) ∧
        EndsEarly lifecycle instanceId () fun l => l.performFor c action instanceId) ∧
      LooksUp c instanceId .describe (lifecycle.deployed c instanceId)
          (lifecycle.deployedFor c instanceId) ∧
        EndsEarly lifecycle instanceId [] fun l => l.deployedFor c instanceId := by
  refine ⟨fun action => ?_, ?_⟩
  · have goes := performFor_goesByResolve c action instanceId
    exact ⟨goes.looksUp c lifecycle, goes.endsEarly lifecycle⟩
  · have goes := deployedFor_goesByResolve c instanceId
    exact ⟨goes.looksUp c lifecycle, goes.endsEarly lifecycle⟩

/-- Two entries for a plan, of which the first one has an unknown target and no applications. -/
theorem operations_look_up_plan_staged :
    ∃ targets, Registry.ofFactories (Target.builtin 50) = .ok targets ∧
      let shadowing : CatalogEntry :=
        { serviceName := "queue", planName := "small", target := some ⟨"nowhere", .empty⟩ }
      let shadowed : CatalogEntry :=
        { serviceName := "queue", planName := "small", applications := [{ name := "web" }] }
      let lifecycle : Lifecycle := ⟨⟨[shadowing, shadowed]⟩, targets, .propagate, .logAndSkip⟩
      let script : Rehearsal.Script := { instances := .ofList [("7", ⟨"queue", "small"⟩)] }
      let stopping := lifecycle.perform script.collaborators .stop "7" .start
      let unknown := lifecycle.deployed script.collaborators "8" .start
      stopping.value.result = .error (.target (.unknown "nowhere" targets.names)) ∧
        requestsIn stopping.log = [.lookup "7"] ∧
        unknown.value.result = .error (.platform ⟨"unknown service instance 8", []⟩) ∧
        requestsIn unknown.log = [.lookup "8"] := by
  refine ⟨_, rfl, ?_⟩
  intro shadowing shadowed lifecycle script stopping unknown
  obtain ⟨hactions, -, -⟩ := operations_look_up_plan lifecycle script.collaborators "7"
  obtain ⟨hstop, hends⟩ := hactions .stop
  have hstopping : stopping = _ := hstop.answered .start ⟨"queue", "small"⟩ rfl
  have htarget := hends.unknownTarget ⟨"queue", "small"⟩ shadowing ⟨"nowhere", .empty⟩
    (lookup script.collaborators "7" .start).2 rfl rfl rfl
  rw [htarget] at hstopping
  obtain ⟨-, hquery, -⟩ := operations_look_up_plan lifecycle script.collaborators "8"
  have hunknown : unknown = _ := hquery.failed .start ⟨"unknown service instance 8", []⟩ rfl
  rw [hstopping, hunknown]
  exact ⟨rfl, rfl, rfl, rfl⟩

end Lifecycle

end ServiceBroker
