import ServiceBroker.Operation.State
import ServiceBroker.Table

/-!
Repositories of operation records. A repository is a table that says of which key nothing is
recorded.
-/

namespace ServiceBroker

/-- The last operation for each key. -/
abbrev OperationTable (κ : Type) := Table κ OperationRecord

inductive StateError where
  | unknownInstance (instanceId : String)
  | unknownBinding (key : BindingKey)
deriving DecidableEq, Repr

def StateError.message : StateError → String
  | .unknownInstance instanceId =>
    "no operation state recorded for service instance '" ++ instanceId ++ "'"
  | .unknownBinding key =>
    "no operation state recorded for binding '" ++ key.bindingId ++ "' of service instance '" ++
      key.instanceId ++ "'"

/-- A table whose missing keys are errors. -/
structure Repository (κ : Type) where
  table : OperationTable κ := .empty
  missing : κ → StateError

namespace Repository

variable {κ : Type} [DecidableEq κ]

/-- An empty repository for service instances. -/
def forInstances : Repository String := { missing := .unknownInstance }

/-- An empty repository for bindings. -/
def forBindings : Repository BindingKey := { missing := .unknownBinding }

def get (repository : Repository κ) (key : κ) : Except StateError OperationRecord :=
  match repository.table.get? key with
  | some record => .ok record
  | none => .error (repository.missing key)

/-- Records the state of an operation as of now. -/
def save (repository : Repository κ) (now : Instant) (key : κ) (state : OperationState)
    (description : String) : OperationRecord × Repository κ :=
  let record : OperationRecord := ⟨state, description, now⟩
  (record, { repository with table := repository.table.put key record })

/-- Removes and returns what is recorded for a key. -/
def remove (repository : Repository κ) (key : κ) :
    Except StateError OperationRecord × Repository κ :=
  match repository.get key with
  | .ok record => (.ok record, { repository with table := repository.table.erase key })
  | .error e => (.error e, repository)

def size (repository : Repository κ) : Nat := repository.table.size

def isEmpty (repository : Repository κ) : Bool := repository.table.isEmpty

end Repository

/-! ## Calls -/

/-- Whose operations are recorded: those of a service instance, or those of a binding. -/
inductive StateKey where
  | serviceInstance (instanceId : String)
  | binding (key : BindingKey)
deriving DecidableEq

/-- The error that says that nothing is recorded for the key. -/
def StateKey.missing : StateKey → StateError
  | .serviceInstance instanceId => .unknownInstance instanceId
  | .binding key => .unknownBinding key

/-- A call of one of the repositories. A record that is saved gets the time of the call. -/
inductive StateCall where
  | save (key : StateKey) (state : OperationState) (description : String) (now : Instant)
  | get (key : StateKey)
  | remove (key : StateKey)

def StateCall.key : StateCall → StateKey
  | .save key _ _ _ => key
  | .get key => key
  | .remove key => key

/-- A call and what it returned. -/
structure StateEvent where
  call : StateCall
  result : Except StateError OperationRecord

end ServiceBroker
