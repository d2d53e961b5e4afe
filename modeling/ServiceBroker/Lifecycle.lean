import ServiceBroker.Target
import ServiceBroker.Work.Session

/-!
Operations on what has been deployed for a service instance. An operation asks the platform for
every application at once and ends when all answers are there; each failed one leaves a warning.
-/

namespace ServiceBroker

/-- What becomes of an operation some of whose requests failed. -/
inductive FailurePolicy where
  | propagate
  | logAndSkip
deriving DecidableEq, Repr, Inhabited

/-- An application whose request failed. -/
structure ApplicationFailure where
  application : String
  failure : Failure
deriving DecidableEq, Repr

def ApplicationFailure.text (f : ApplicationFailure) : String :=
  f.application ++ ": " ++ f.failure.chain

inductive LifecycleError where
  | platform (failure : Failure)
  | target (error : ExtensionError)
  | actionFailed (action : Action) (instanceId : String) (failures : List ApplicationFailure)
  | queryFailed (instanceId : String) (failures : List ApplicationFailure)
deriving DecidableEq, Repr

namespace LifecycleError

def failures : LifecycleError → List ApplicationFailure
  | .actionFailed _ _ failures => failures
  | .queryFailed _ failures => failures
  | _ => []

def message : LifecycleError → String
  | .platform failure => "platform lookup failed: " ++ failure.chain
  | .target error => error.message
  | .actionFailed action instanceId failures =>
    action.name ++ s!" failed for {failures.length} application(s) of service instance '" ++
      instanceId ++ "'"
  | .queryFailed instanceId failures =>
    s!"lookup of {failures.length} deployed application(s) of service instance '" ++ instanceId ++
      "' failed"

end LifecycleError

/-- A warning about a failed request; a query has no action. -/
structure Warning where
  action : Option Action
  instanceId : String
  failure : ApplicationFailure
deriving DecidableEq, Repr

def Warning.message (w : Warning) : String :=
  match w.action with
  | some _ => "lifecycle action failed"
  | none => "failed to fetch deployed application"

/-- The result of an operation with the warnings on the way. -/
structure Report (α : Type) where
  result : Except LifecycleError α
  warnings : List Warning := []

/-- The values of a run in the order in which the programs ended. -/
def inOrderOfEnding {α : Type} (log : List LogEntry) (values : List α) : List α :=
  log.filterMap fun entry =>
    match entry.event with
    | .ended => values[entry.task]?
    | _ => none

/-- Runs programs side by side and returns their values in the order in which they ended. -/
def Session.raced {σ α : Type} (c : Collaborators σ) (programs : List (Program α)) :
    Session σ (List α) := fun s =>
  let outcome := Session.together c programs s
  { outcome with value := inOrderOfEnding outcome.log outcome.value }

/-- What lifecycle operations need: the catalog, the targets and the policies. -/
structure Lifecycle where
  catalog : Catalog
  targets : Registry Target
  actionPolicy : FailurePolicy
  queryPolicy : FailurePolicy

namespace Lifecycle

variable {σ : Type}

/-- The applications of a service instance under the names they were deployed with; none if the
catalog has no entry for it. -/
def resolve (lifecycle : Lifecycle) (instanceId : String) (plan : PlanReference) :
    Except LifecycleError (List Application) :=
  match lifecycle.catalog.find? plan.serviceName plan.planName with
  | none => .ok []
  | some entry =>
    (lifecycle.targets.targetApplications entry.target
      ⟨instanceId, plan.serviceName, plan.planName⟩ entry.applications).mapError .target

/-- The request of an action for one application, and its failure if it has one. -/
def performOn (action : Action) (app : Application) : Program (Option ApplicationFailure) :=
  (Program.ask (.perform action app.artifact)).bind fun
    | .error failure => .done (some ⟨app.name, failure⟩)
    | .ok _ => .done none

/-- What an action leads to, after its failures. -/
def actionReport (lifecycle : Lifecycle) (action : Action) (instanceId : String)
    (failures : List ApplicationFailure) : Report Unit where
  result :=
    if failures.isEmpty ∨ lifecycle.actionPolicy = .logAndSkip then .ok ()
    else .error (.actionFailed action instanceId failures)
  warnings := failures.map fun f => ⟨some action, instanceId, f⟩

/-- Performs an action on every application. Failures are listed in the order in which they came. -/
def performFor (lifecycle : Lifecycle) (c : Collaborators σ) (action : Action) (instanceId : String)
    (plan : PlanReference) : Session σ (Report Unit) := do
  match lifecycle.resolve instanceId plan with
  | .error e => return { result := .error e }
  | .ok apps =>
    let failures ← Session.raced c (apps.map (performOn action))
    return lifecycle.actionReport action instanceId (failures.filterMap id)

/-- An application as it runs: the template's path and properties, all else from the live
description. -/
def merge (app : Application) (deployed : DeployedApplication) : Application :=
  { deployed.toApplication with path := app.path, properties := app.properties }

def describeOne (app : Application) : Program (Except ApplicationFailure Application) :=
  (Program.ask (.describe app.artifact)).bind fun
    | .error failure => .done (.error ⟨app.name, failure⟩)
    | .ok deployed => .done (.ok (merge app deployed))

/-- The failures among results. -/
def failuresOf {α : Type} (results : List (Except ApplicationFailure α)) :
    List ApplicationFailure :=
  results.filterMap fun
    | .error f => some f
    | .ok _ => none

/-- The live applications of a service instance, and the failures, in the order of the entry. -/
def deployedFor (lifecycle : Lifecycle) (c : Collaborators σ) (instanceId : String)
    (plan : PlanReference) : Session σ (Report (List Application)) := do
  match lifecycle.resolve instanceId plan with
  | .error e => return { result := .error e }
  | .ok apps =>
    let results ← Session.together c (apps.map describeOne)
    let failures := failuresOf results
    return {
      result :=
        if failures.isEmpty ∨ lifecycle.queryPolicy = .logAndSkip then
          .ok (results.filterMap (·.toOption))
        else .error (.queryFailed instanceId failures)
      warnings := failures.map fun f => ⟨none, instanceId, f⟩ }

/-- Asks the platform for the plan of a service instance and goes on with it. -/
def withPlan {α : Type} (c : Collaborators σ) (instanceId : String)
    (next : PlanReference → Session σ (Report α)) : Session σ (Report α) := do
  match ← Session.alone c (Program.ask (.lookup instanceId)) with
  | .error failure => return { result := .error (.platform failure) }
  | .ok plan => next plan

def perform (lifecycle : Lifecycle) (c : Collaborators σ) (action : Action) (instanceId : String) :
    Session σ (Report Unit) :=
  withPlan c instanceId (lifecycle.performFor c action instanceId)

def deployed (lifecycle : Lifecycle) (c : Collaborators σ) (instanceId : String) :
    Session σ (Report (List Application)) :=
  withPlan c instanceId (lifecycle.deployedFor c instanceId)

end Lifecycle

end ServiceBroker
