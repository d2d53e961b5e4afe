import ServiceBroker.Proofs.FanOut

/-!
Queries for the applications of a service instance as they run. Every application is asked for once;
the descriptions and the failures that come back are sorted out in the order of the applications,
whatever the order in which they came.
-/

namespace ServiceBroker.Lifecycle

open Session (Interleaves)

variable {σ : Type}

def described (app : Application) :
    Except Failure DeployedApplication → Except ApplicationFailure Application
  | .error failure => .error ⟨app.name, failure⟩
  | .ok deployed => .ok (merge app deployed)

theorem describeOne_eq (app : Application) :
    describeOne app =
      .call (.describe app.artifact) fun answer => .done (described app answer) := by
  change Program.call _ _ = _
  congr 1
  funext answer
  cases answer <;> rfl

/-! ## Live applications and failures -/

/-- The applications from the given position on come to the live applications and the failures. A
live application has its path and its properties from the catalog and all else from its own
description, which tells nothing of transformers and credential providers. -/
inductive SortedOut (answers : Nat → Except Failure DeployedApplication) :
    Nat → List Application → List Application → List ApplicationFailure → Prop where
  | nil (i : Nat) : SortedOut answers i [] [] []
  | live {i : Nat} {app : Application} {apps live : List Application}
      {failures : List ApplicationFailure} {deployed : DeployedApplication}
      (answered : answers i = .ok deployed) (rest : SortedOut answers (i + 1) apps live failures) :
      SortedOut answers i (app :: apps)
        ({ name := deployed.name, path := app.path, properties := app.properties
           environment := deployed.environment, transformers := [], credentialProviders := []
           services := deployed.services } :: live)
        failures
  | failed {i : Nat} {app : Application} {apps live : List Application}
      {failures : List ApplicationFailure} {failure : Failure}
      (answered : answers i = .error failure)
      (rest : SortedOut answers (i + 1) apps live failures) :
      SortedOut answers i (app :: apps) live (⟨app.name, failure⟩ :: failures)

theorem SortedOut.unique {answers : Nat → Except Failure DeployedApplication} {i : Nat}
    {apps live live' : List Application} {failures failures' : List ApplicationFailure}
    (h : SortedOut answers i apps live failures) (h' : SortedOut answers i apps live' failures') :
    live = live' ∧ failures = failures' := by
  induction h generalizing live' failures' with
  | nil i =>
    cases h'
    exact ⟨rfl, rfl⟩
  | live answered _ ih =>
    cases h' with
    | live answered' rest' =>
      obtain rfl := Except.ok.inj (answered.symm.trans answered')
      obtain ⟨rfl, rfl⟩ := ih rest'
      exact ⟨rfl, rfl⟩
    | failed answered' _ => cases answered.symm.trans answered'
  | failed answered _ ih =>
    cases h' with
    | live answered' _ => cases answered.symm.trans answered'
    | failed answered' rest' =>
      obtain rfl := Except.error.inj (answered.symm.trans answered')
      obtain ⟨rfl, rfl⟩ := ih rest'
      exact ⟨rfl, rfl⟩

/-- The results of the queries in order are those of the answers in order. -/
theorem sortedOut_of_described {answers : Nat → Except Failure DeployedApplication}
    {apps : List Application} {results : List (Except ApplicationFailure Application)} {i : Nat}
    (hlength : results.length = apps.length)
    (hresults : ∀ (j : Nat) (app : Application), apps[j]? = some app →
      results[j]? = some (described app (answers (i + j)))) :
    SortedOut answers i apps (results.filterMap (·.toOption)) (failuresOf results) := by
  induction apps generalizing i results with
  | nil =>
    obtain rfl := List.eq_nil_of_length_eq_zero hlength
    exact .nil i
  | cons app apps ih =>
    cases results with
    | nil => cases hlength
    | cons result results =>
      have hfirst : result = described app (answers i) := Option.some.inj (hresults 0 app rfl)
      have hrest : SortedOut answers (i + 1) apps (results.filterMap (·.toOption))
          (failuresOf results) := by
        refine ih (Nat.succ.inj hlength) fun j app' happ' => ?_
        rw [Nat.add_right_comm]
        exact hresults (j + 1) app' happ'
      cases hanswer : answers i with
      | error failure =>
        rw [hfirst, hanswer]
        exact .failed hanswer hrest
      | ok deployed =>
        rw [hfirst, hanswer]
        exact .live hanswer hrest

def queryReport (lifecycle : Lifecycle) (instanceId : String)
    (results : List (Except ApplicationFailure Application)) : Report (List Application) where
  result :=
    if (failuresOf results).isEmpty ∨ lifecycle.queryPolicy = .logAndSkip then
      .ok (results.filterMap (·.toOption))
    else .error (.queryFailed instanceId (failuresOf results))
  warnings := (failuresOf results).map fun f => ⟨none, instanceId, f⟩

structure Describes (c : Collaborators σ) (instanceId : String) (policy : FailurePolicy)
    (apps : List Application) (answers : Nat → Except Failure DeployedApplication)
    (log : List LogEntry) (report : Report (List Application)) : Prop where
  /-- Every application is asked for once, under its own name and properties, and its answer is
  waited for. -/
  calls : ∀ (i : Nat) (app : Application), apps[i]? = some app → eventsOf i log =
    [.issued (.describe app.artifact), .answered (.describe app.artifact) (answers i), .ended]
  /-- The answers are those of the collaborators. -/
  given : ∀ (i : Nat) (app : Application), apps[i]? = some app →
    ∃ s, (c.answer (.describe app.artifact) s).1 = answers i
  /-- Nothing else is asked. -/
  others : ∀ entry ∈ log, entry.task < apps.length
  completed : (order Event.isEnded log).Perm (List.range apps.length)
  /-- The result holds what is live, or else what failed; either way each failure leaves a
  warning. -/
  sortedOut : ∃ live failures, SortedOut answers 0 apps live failures ∧
    (failures = [] ∨ policy = .logAndSkip → report.result = .ok live) ∧
    (failures ≠ [] ∧ policy = .propagate →
      report.result = .error (.queryFailed instanceId failures)) ∧
    report.warnings = failures.map fun failure => ⟨none, instanceId, failure⟩

/-- Whatever the interleaving of its requests, a query sorts out what comes back. -/
theorem describes_of_interleaves {c : Collaborators σ} {apps : List Application} {s : σ}
    {o : Outcome σ (List (Except ApplicationFailure Application))} (lifecycle : Lifecycle)
    (instanceId : String) (run : Interleaves c (apps.map describeOne) s o) :
    ∃ answers, Describes c instanceId lifecycle.queryPolicy apps answers o.log
      (lifecycle.queryReport instanceId o.value) := by
  have hanswer : ∀ i, ∃ answer : Except Failure DeployedApplication, ∀ app, apps[i]? = some app →
      o.value[i]? = some (described app answer) ∧
      (∃ t, (c.answer (.describe app.artifact) t).1 = answer) ∧
      eventsOf i o.log =
        [.issued (.describe app.artifact), .answered (.describe app.artifact) answer, .ended] := by
    intro i
    cases happ : apps[i]? with
    | none => exact ⟨.error default, fun _ h => nomatch h⟩
    | some app =>
      have hprogram : (apps.map describeOne)[i]? = some (describeOne app) := by
        rw [List.getElem?_map, happ]
        rfl
      rw [describeOne_eq] at hprogram
      obtain ⟨t, hvalue, hevents⟩ := run.of_single hprogram
      refine ⟨(c.answer (.describe app.artifact) t).1, fun app' h => ?_⟩
      obtain rfl := Option.some.inj h
      exact ⟨hvalue, ⟨t, rfl⟩, hevents⟩
  choose answers hanswers using hanswer
  have hlength : o.value.length = apps.length := run.length_value.trans (List.length_map ..)
  have hsortedOut : SortedOut answers 0 apps (o.value.filterMap (·.toOption))
      (failuresOf o.value) := by
    refine sortedOut_of_described hlength fun j app happ => ?_
    rw [Nat.zero_add]
    exact (hanswers j app happ).1
  refine ⟨answers, ?_⟩
  constructor
  case calls => exact fun i app happ => (hanswers i app happ).2.2
  case given => exact fun i app happ => (hanswers i app happ).2.1
  case others =>
    intro entry hentry
    simpa using run.task_lt hentry
  case completed =>
    have hperm := run.order_isEnded_perm
    rwa [List.length_map] at hperm
  case sortedOut =>
    refine ⟨_, _, hsortedOut, fun hok => ?_, fun ⟨hfailures, hpolicy⟩ => ?_, rfl⟩
    · rw [← List.isEmpty_iff] at hok
      exact if_pos hok
    · refine if_neg ?_
      rintro (hempty | hskip)
      · exact hfailures (List.isEmpty_iff.mp hempty)
      · rw [hpolicy] at hskip
        cases hskip

/-! ## The schedule -/

theorem deployedFor_of_resolve {lifecycle : Lifecycle} {instanceId : String} {plan : PlanReference}
    {apps : List Application} (h : lifecycle.resolve instanceId plan = .ok apps)
    (c : Collaborators σ) (s : σ) :
    let joint := Session.together c (apps.map describeOne) s
    lifecycle.deployedFor c instanceId plan s =
      ⟨lifecycle.queryReport instanceId joint.value, joint.log, joint.state⟩ := by
  intro joint
  simp only [deployedFor, h]
  simp [queryReport, joint]

/-- For a service instance of the catalog whose target is known, a query asks for each of the
applications under their final names, and pairs every description with the application that it
belongs to. The answers may come in any order. -/
theorem deployedFor_describes (lifecycle : Lifecycle) (c : Collaborators σ) (instanceId : String)
    (plan : PlanReference) {entry : CatalogEntry} {target : Artifact → Artifact}
    (hentry : lifecycle.catalog.find? plan.serviceName plan.planName = some entry)
    (htarget : lifecycle.targets.targetFor entry.target
      ⟨instanceId, plan.serviceName, plan.planName⟩ = .ok target) (s : σ) :
    let apps := entry.applications.map fun app => app.withArtifact (target app.artifact)
    let outcome := lifecycle.deployedFor c instanceId plan s
    (∃ answers, Describes c instanceId lifecycle.queryPolicy apps answers outcome.log
      outcome.value) ∧
    ∀ o, Interleaves c (apps.map describeOne) s o → ∃ answers,
      Describes c instanceId lifecycle.queryPolicy apps answers o.log
        (lifecycle.queryReport instanceId o.value) := by
  intro apps outcome
  have hresolve : lifecycle.resolve instanceId plan = .ok apps := resolve_of_find? hentry htarget
  have houtcome : outcome = _ := deployedFor_of_resolve hresolve c s
  refine ⟨?_, fun o run => lifecycle.describes_of_interleaves instanceId run⟩
  rw [houtcome]
  exact lifecycle.describes_of_interleaves instanceId
    (Session.together_interleaves c (apps.map describeOne) s)

/-- A query for three applications. The last one fails before the first one does. -/
theorem deployedFor_describes_staged :
    ∃ targets, Registry.ofFactories (Target.builtin 50) = .ok targets ∧
      let entry : CatalogEntry :=
        { serviceName := "queue", planName := "small"
          applications :=
            [{ name := "front" }, { name := "middle", path := "m.jar" }, { name := "back" }]
          target := some ⟨"instance-suffix", .empty⟩ }
      let skipping : Lifecycle := ⟨⟨[entry]⟩, targets, .propagate, .logAndSkip⟩
      let propagating : Lifecycle := { skipping with queryPolicy := .propagate }
      let script : Rehearsal.Script :=
        { failures := .ofList [("get:front-7", ⟨"stuck", []⟩), ("get:back-7", ⟨"gone", []⟩)]
          delays := .ofList [("get:front-7", 2), ("get:back-7", 1)]
          deployed := .ofList [("middle-7", { name := "middle-7", services := ["db"] })] }
      (skipping.deployedFor script.collaborators "7" ⟨"queue", "small"⟩
          Rehearsal.State.start).value.result =
        .ok [{ name := "middle-7", path := "m.jar", services := ["db"] }] ∧
      (propagating.deployedFor script.collaborators "7" ⟨"queue", "small"⟩
          Rehearsal.State.start).value.result =
        .error (.queryFailed "7" [⟨"front-7", ⟨"stuck", []⟩⟩, ⟨"back-7", ⟨"gone", []⟩⟩]) := by
  refine ⟨_, rfl, ?_⟩
  intro entry skipping propagating script
  have hskipping : skipping.catalog.find? "queue" "small" = some entry := rfl
  have hpropagating : propagating.catalog.find? "queue" "small" = some entry := rfl
  obtain ⟨⟨answers, skips⟩, -⟩ := deployedFor_describes skipping script.collaborators "7"
    ⟨"queue", "small"⟩ hskipping rfl Rehearsal.State.start
  obtain ⟨⟨answers', propagates⟩, -⟩ := deployedFor_describes propagating script.collaborators "7"
    ⟨"queue", "small"⟩ hpropagating rfl Rehearsal.State.start
  let apps := entry.applications.map fun app =>
    app.withArtifact (Target.instanceSuffix 50 ⟨"7", "queue", "small"⟩ app.artifact)
  have hsorted : ∀ {policy : FailurePolicy} {answers : Nat → Except Failure DeployedApplication}
      {log : List LogEntry} {report : Report (List Application)},
      Describes script.collaborators "7" policy apps answers log report →
        SortedOut answers 0 apps [{ name := "middle-7", path := "m.jar", services := ["db"] }]
          [⟨"front-7", ⟨"stuck", []⟩⟩, ⟨"back-7", ⟨"gone", []⟩⟩] := by
    intro policy answers log report describes
    obtain ⟨_, hfront⟩ := describes.given 0 _ rfl
    obtain ⟨_, hmiddle⟩ := describes.given 1 _ rfl
    obtain ⟨_, hback⟩ := describes.given 2 _ rfl
    exact .failed hfront.symm (.live hmiddle.symm (.failed hback.symm (.nil 3)))
  constructor
  · obtain ⟨live, failures, hsortedOut, hok, -, -⟩ := skips.sortedOut
    obtain ⟨rfl, rfl⟩ := hsortedOut.unique (hsorted skips)
    exact hok (.inr rfl)
  · obtain ⟨live, failures, hsortedOut, -, hfails, -⟩ := propagates.sortedOut
    obtain ⟨rfl, rfl⟩ := hsortedOut.unique (hsorted propagates)
    exact hfails ⟨List.cons_ne_nil _ _, rfl⟩

end ServiceBroker.Lifecycle
