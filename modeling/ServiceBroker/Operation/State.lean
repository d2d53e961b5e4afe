import ServiceBroker.Instant.Parser
import ServiceBroker.Json.Record

/-!
What the broker remembers of the operations on service instances and bindings: how far the last one
has come, a description, and when it was written.
-/

namespace ServiceBroker

open Json (Codec Field)

inductive OperationState where
  | inProgress
  | succeeded
  | failed
deriving DecidableEq, Repr, Inhabited

namespace OperationState

/-- The name of a state in JSON text. -/
def name : OperationState → String
  | .inProgress => "IN_PROGRESS"
  | .succeeded => "SUCCEEDED"
  | .failed => "FAILED"

/-- The words for a state. -/
def display : OperationState → String
  | .inProgress => "in progress"
  | .succeeded => "succeeded"
  | .failed => "failed"

/-- Nothing follows a terminal state. -/
def isTerminal : OperationState → Bool
  | .inProgress => false
  | _ => true

def all : List OperationState := [.inProgress, .succeeded, .failed]

def codec : Codec OperationState := .choice (all.map fun s => (s.name, s)) name

end OperationState

/-- The last operation on a service instance or a binding. -/
structure OperationRecord where
  state : OperationState
  description : String
  updated : Instant
deriving DecidableEq, Repr, Inhabited

/-- Instants stand in JSON text as dates with a time in UTC. -/
def Instant.codec : Codec Instant :=
  .parsed "an RFC 3339 formatted date and time string"
    (fun s => (Instant.parse s).mapError Instant.Fault.message) Instant.render

def OperationRecord.codec : Codec OperationRecord :=
  .record "ServiceInstanceState" default
    [.required "operationState" OperationState.codec (·.state) fun x s => { s with state := x },
     .required "description" .text (·.description) fun x s => { s with description := x },
     .required "lastUpdated" Instant.codec (·.updated) fun x s => { s with updated := x }]

/-- A binding is known by its service instance and its own id; both count. -/
structure BindingKey where
  instanceId : String
  bindingId : String
deriving DecidableEq, Repr, Inhabited

namespace BindingKey

def display (key : BindingKey) : String := key.instanceId ++ "/" ++ key.bindingId

/-- By service instance, then by binding. -/
def le (a b : BindingKey) : Bool :=
  decide (a.instanceId < b.instanceId) ||
    (a.instanceId == b.instanceId && decide (a.bindingId ≤ b.bindingId))

end BindingKey

end ServiceBroker
