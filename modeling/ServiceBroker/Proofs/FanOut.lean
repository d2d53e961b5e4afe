import ServiceBroker.Proofs.Completion
import ServiceBroker.Rehearsal.Script

/-!
Actions on all applications of a service instance. Every application gets the action once and is
waited for; no failure is lost, and none is reported twice, whatever the order in which the answers
come.
-/

namespace ServiceBroker.Lifecycle

open Session (Interleaves)

variable {σ : Type}

def failureOf (app : Application) : Except Failure Unit → Option ApplicationFailure
  | .error failure => some ⟨app.name, failure⟩
  | .ok _ => none

/-- The failures among the answers for the applications at the given positions. -/
def failuresAt (apps : List Application) (answers : Nat → Except Failure Unit)
    (positions : List Nat) : List ApplicationFailure :=
  positions.filterMap fun i => apps[i]?.bind fun app => failureOf app (answers i)

theorem performOn_eq (action : Action) (app : Application) :
    performOn action app = .call (.perform action app.artifact) fun answer =>
      .done (failureOf app answer) := by
  change Program.call _ _ = _
  congr 1
  funext answer
  cases answer <;> rfl

structure FansOut (c : Collaborators σ) (action : Action) (instanceId : String)
    (policy : FailurePolicy) (apps : List Application) (answers : Nat → Except Failure Unit)
    (log : List LogEntry) (report : Report Unit) : Prop where
  /-- Every application gets the action once, under its own name and properties, and its answer is
  waited for. -/
  calls : ∀ (i : Nat) (app : Application), apps[i]? = some app → eventsOf i log =
    [.issued (.perform action app.artifact), .answered (.perform action app.artifact) (answers i),
      .ended]
  /-- The answers are those of the collaborators. -/
  given : ∀ (i : Nat) (app : Application), apps[i]? = some app →
    ∃ s, (c.answer (.perform action app.artifact) s).1 = answers i
  /-- Nothing else is asked. -/
  others : ∀ entry ∈ log, entry.task < apps.length
  completed : (order Event.isEnded log).Perm (List.range apps.length)
  succeeds : report.result = .ok () ↔
    (∀ i < apps.length, answers i = .ok ()) ∨ policy = .logAndSkip
  /-- The failures are listed in the order in which the applications got their answers. -/
  fails : report.result ≠ .ok () → report.result =
    .error (.actionFailed action instanceId (failuresAt apps answers (order Event.isEnded log)))
  warnings : report.warnings = (failuresAt apps answers (order Event.isEnded log)).map
    fun failure => ⟨some action, instanceId, failure⟩

theorem failuresAt_eq_nil_iff {apps : List Application} (answers : Nat → Except Failure Unit)
    {positions : List Nat} (h : positions.Perm (List.range apps.length)) :
    failuresAt apps answers positions = [] ↔ ∀ i < apps.length, answers i = .ok () := by
  rw [failuresAt, List.filterMap_eq_nil_iff]
  constructor
  · intro hnone i hi
    have hi' := hnone i (h.mem_iff.mpr (List.mem_range.mpr hi))
    rw [List.getElem?_eq_getElem hi] at hi'
    cases hanswer : answers i with
    | error failure =>
      rw [hanswer] at hi'
      cases hi'
    | ok _ => rfl
  · intro hok i hi
    have hlt := List.mem_range.mp (h.mem_iff.mp hi)
    rw [hok i hlt, List.getElem?_eq_getElem hlt]
    rfl

/-! ## Any order of answers -/

section Interleaved

variable {c : Collaborators σ} {action : Action} {apps : List Application} {s : σ}
  {o : Outcome σ (List (Option ApplicationFailure))}

/-- Every application has been given the action once, and has been answered. -/
theorem exists_answers (run : Interleaves c (apps.map (performOn action)) s o) :
    ∃ answers : Nat → Except Failure Unit, ∀ (i : Nat) (app : Application), apps[i]? = some app →
      o.value[i]? = some (failureOf app (answers i)) ∧
      (∃ t, (c.answer (.perform action app.artifact) t).1 = answers i) ∧
      eventsOf i o.log =
        [.issued (.perform action app.artifact),
          .answered (.perform action app.artifact) (answers i), .ended] := by
  have hanswer : ∀ i, ∃ answer : Except Failure Unit, ∀ app, apps[i]? = some app →
      o.value[i]? = some (failureOf app answer) ∧
      (∃ t, (c.answer (.perform action app.artifact) t).1 = answer) ∧
      eventsOf i o.log =
        [.issued (.perform action app.artifact), .answered (.perform action app.artifact) answer,
          .ended] := by
    intro i
    cases happ : apps[i]? with
    | none => exact ⟨.ok (), fun _ h => nomatch h⟩
    | some app =>
      have hprogram : (apps.map (performOn action))[i]? = some (performOn action app) := by
        rw [List.getElem?_map, happ]
        rfl
      rw [performOn_eq] at hprogram
      obtain ⟨t, hvalue, hevents⟩ := run.of_single hprogram
      refine ⟨(c.answer (.perform action app.artifact) t).1, fun app' h => ?_⟩
      obtain rfl := Option.some.inj h
      exact ⟨hvalue, ⟨t, rfl⟩, hevents⟩
  choose answers hanswers using hanswer
  exact ⟨answers, hanswers⟩

/-- The failures in the order of ending are those of the answers. -/
theorem failures_eq {answers : Nat → Except Failure Unit} {log : List LogEntry}
    {values : List (Option ApplicationFailure)}
    (hvalues : ∀ (i : Nat) (app : Application), apps[i]? = some app →
      values[i]? = some (failureOf app (answers i)))
    (hperm : (order Event.isEnded log).Perm (List.range apps.length)) :
    (inOrderOfEnding log values).filterMap id =
      failuresAt apps answers (order Event.isEnded log) := by
  rw [inOrderOfEnding_eq, List.filterMap_filterMap, failuresAt]
  refine List.filterMap_congr fun i hi => ?_
  have hlt := List.mem_range.mp (hperm.mem_iff.mp hi)
  have happ := List.getElem?_eq_getElem hlt
  rw [happ, hvalues i _ happ]
  rfl

theorem actionReport_result_iff (lifecycle : Lifecycle) (action : Action) (instanceId : String)
    (failures : List ApplicationFailure) :
    (lifecycle.actionReport action instanceId failures).result = .ok () ↔
      failures = [] ∨ lifecycle.actionPolicy = .logAndSkip := by
  simp only [actionReport, List.isEmpty_iff]
  by_cases h : failures = [] ∨ lifecycle.actionPolicy = .logAndSkip
  · rw [if_pos h]
    exact iff_of_true rfl h
  · rw [if_neg h]
    exact iff_of_false (fun h => nomatch h) h

theorem actionReport_result_of_ne (lifecycle : Lifecycle) {action : Action} {instanceId : String}
    {failures : List ApplicationFailure}
    (h : (lifecycle.actionReport action instanceId failures).result ≠ .ok ()) :
    (lifecycle.actionReport action instanceId failures).result =
      .error (.actionFailed action instanceId failures) := by
  rw [ne_eq, actionReport_result_iff] at h
  simp only [actionReport, List.isEmpty_iff]
  rw [if_neg h]

/-- Whatever the interleaving of its requests, an action fans out. -/
theorem fansOut_of_interleaves (lifecycle : Lifecycle) (instanceId : String)
    (run : Interleaves c (apps.map (performOn action)) s o) :
    ∃ answers, FansOut c action instanceId lifecycle.actionPolicy apps answers o.log
      (lifecycle.actionReport action instanceId
        ((inOrderOfEnding o.log o.value).filterMap id)) := by
  obtain ⟨answers, hanswers⟩ := exists_answers run
  have hperm : (order Event.isEnded o.log).Perm (List.range apps.length) := by
    have h := run.order_isEnded_perm
    rwa [List.length_map] at h
  refine ⟨answers, ?_⟩
  rw [failures_eq (fun i app happ => (hanswers i app happ).1) hperm]
  constructor
  case calls => exact fun i app happ => (hanswers i app happ).2.2
  case given => exact fun i app happ => (hanswers i app happ).2.1
  case others =>
    intro entry hentry
    simpa using run.task_lt hentry
  case completed => exact hperm
  case succeeds => rw [actionReport_result_iff, failuresAt_eq_nil_iff answers hperm]
  case fails => exact lifecycle.actionReport_result_of_ne
  case warnings => rfl

end Interleaved

/-! ## The schedule -/

theorem resolve_of_find? {lifecycle : Lifecycle} {instanceId : String} {plan : PlanReference}
    {entry : CatalogEntry} {target : Artifact → Artifact}
    (hentry : lifecycle.catalog.find? plan.serviceName plan.planName = some entry)
    (htarget : lifecycle.targets.targetFor entry.target
      ⟨instanceId, plan.serviceName, plan.planName⟩ = .ok target) :
    lifecycle.resolve instanceId plan =
      .ok (entry.applications.map fun app => app.withArtifact (target app.artifact)) := by
  simp only [resolve, hentry, Registry.targetApplications, htarget]
  rfl

theorem performFor_of_resolve {lifecycle : Lifecycle} {instanceId : String} {plan : PlanReference}
    {apps : List Application} (h : lifecycle.resolve instanceId plan = .ok apps)
    (c : Collaborators σ) (action : Action) (s : σ) :
    let joint := Session.together c (apps.map (performOn action)) s
    lifecycle.performFor c action instanceId plan s =
      ⟨lifecycle.actionReport action instanceId
        ((inOrderOfEnding joint.log joint.value).filterMap id), joint.log, joint.state⟩ := by
  intro joint
  simp only [performFor, h]
  simp [Session.raced, joint]

/-- For a service instance of the catalog whose target is known, an action fans out to the
applications under their final names. The requests are issued in the order of the applications.
Their answers come in the order of the times that they take, and of the applications where these are
equal, but any other order would do; and the policy decides on nothing but the result. -/
theorem performFor_fans_out (lifecycle : Lifecycle) (c : Collaborators σ) (action : Action)
    (instanceId : String) (plan : PlanReference) {entry : CatalogEntry}
    {target : Artifact → Artifact}
    (hentry : lifecycle.catalog.find? plan.serviceName plan.planName = some entry)
    (htarget : lifecycle.targets.targetFor entry.target
      ⟨instanceId, plan.serviceName, plan.planName⟩ = .ok target) (s : σ) :
    let apps := entry.applications.map fun app => app.withArtifact (target app.artifact)
    let outcome := lifecycle.performFor c action instanceId plan s
    (∃ answers waits,
      FansOut c action instanceId lifecycle.actionPolicy apps answers outcome.log outcome.value ∧
      InTurn apps.length waits outcome.log ∧
      ∀ (i : Nat) (app : Application), apps[i]? = some app →
        ∃ t, (c.accept (.perform action app.artifact) t).1 = waits i) ∧
    (∀ o, Interleaves c (apps.map (performOn action)) s o → ∃ answers,
      FansOut c action instanceId lifecycle.actionPolicy apps answers o.log
        (lifecycle.actionReport action instanceId
          ((inOrderOfEnding o.log o.value).filterMap id))) ∧
    ∀ policy,
      let other := { lifecycle with actionPolicy := policy }.performFor c action instanceId plan s
      other.log = outcome.log ∧ other.state = outcome.state ∧
        other.value.warnings = outcome.value.warnings := by
  intro apps outcome
  have hresolve : lifecycle.resolve instanceId plan = .ok apps := resolve_of_find? hentry htarget
  have hjoint : outcome = _ := performFor_of_resolve hresolve c action s
  have run := Session.together_interleaves c (apps.map (performOn action)) s
  have hsingle : List.Forall₂ Program.Single
      (apps.map fun app => Request.perform action app.artifact) (apps.map (performOn action)) := by
    rw [List.forall₂_map_left_iff, List.forall₂_map_right_iff, List.forall₂_same]
    exact fun app _ => ⟨failureOf app, performOn_eq action app⟩
  obtain ⟨waits, hwaits, hturn⟩ := Session.together_inTurn c hsingle s
  obtain ⟨answers, hanswers⟩ := lifecycle.fansOut_of_interleaves instanceId run
  refine ⟨⟨answers, waits, ?_, ?_, fun i app happ => ?_⟩,
    fun o hrun => lifecycle.fansOut_of_interleaves instanceId hrun, fun policy => ?_⟩
  · rw [hjoint]
    exact hanswers
  · rw [hjoint]
    rw [List.length_map] at hturn
    exact hturn
  · refine hwaits i _ ?_
    rw [List.getElem?_map, happ]
    rfl
  · -- The policy has no part in what is resolved, and so none in what is asked.
    have hother : { lifecycle with actionPolicy := policy }.resolve instanceId plan = .ok apps :=
      hresolve
    rw [hjoint, performFor_of_resolve hother c action s]
    exact ⟨rfl, rfl, rfl⟩

/-- Stopping two applications, of which the first one takes longer to fail. -/
theorem performFor_fans_out_staged :
    ∃ targets, Registry.ofFactories (Target.builtin 50) = .ok targets ∧
      let entry : CatalogEntry :=
        { serviceName := "queue", planName := "small"
          applications := [{ name := "front" }, { name := "back" }]
          target := some ⟨"instance-suffix", .empty⟩ }
      let lifecycle : Lifecycle := ⟨⟨[entry]⟩, targets, .propagate, .logAndSkip⟩
      let script : Rehearsal.Script :=
        { failures := .ofList [("stop:front-7", ⟨"stuck", []⟩), ("stop:back-7", ⟨"gone", []⟩)]
          delays := .ofList [("stop:front-7", 2), ("stop:back-7", 1)] }
      (lifecycle.performFor script.collaborators .stop "7" ⟨"queue", "small"⟩
        Rehearsal.State.start).value.result =
          .error (.actionFailed .stop "7"
            [⟨"back-7", ⟨"gone", []⟩⟩, ⟨"front-7", ⟨"stuck", []⟩⟩]) := by
  refine ⟨_, rfl, ?_⟩
  intro entry lifecycle script
  have hentry : lifecycle.catalog.find? "queue" "small" = some entry := rfl
  obtain ⟨⟨answers, waits, fans, turn, hwaits⟩, -, -⟩ :=
    performFor_fans_out lifecycle script.collaborators .stop "7" ⟨"queue", "small"⟩ hentry rfl
      Rehearsal.State.start
  obtain ⟨_, hfront⟩ := fans.given 0 _ rfl
  obtain ⟨_, hback⟩ := fans.given 1 _ rfl
  obtain ⟨_, hfrontWait⟩ := hwaits 0 _ rfl
  obtain ⟨_, hbackWait⟩ := hwaits 1 _ rfl
  have hfrontFails : answers 0 = .error ⟨"stuck", []⟩ := hfront.symm
  have hbackFails : answers 1 = .error ⟨"gone", []⟩ := hback.symm
  have hfrontTwo : waits 0 = 2 := hfrontWait.symm
  have hbackOne : waits 1 = 1 := hbackWait.symm
  have hlater : waits 1 < waits 0 := by omega
  have horder : order Event.isEnded (lifecycle.performFor script.collaborators .stop "7"
      ⟨"queue", "small"⟩ Rehearsal.State.start).log = [1, 0] := by
    refine List.Perm.eq_of_pairwise ?_ turn.ended (List.pairwise_pair.mpr (.inl hlater))
      (fans.completed.trans (List.Perm.swap 1 0 []))
    intro i j _ _ hij hji
    simp only [Earlier] at hij hji
    omega
  have hfails := fans.fails fun hok => by
    rcases fans.succeeds.mp hok with h | h
    · have hzero := h 0 (by decide)
      rw [hfrontFails] at hzero
      cases hzero
    · cases h
  rw [horder] at hfails
  simp only [failuresAt, List.filterMap_cons, hfrontFails, hbackFails] at hfails
  exact hfails

end ServiceBroker.Lifecycle
