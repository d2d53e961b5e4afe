import ServiceBroker.Extension.Registry
import ServiceBroker.Work.Session

/-!
Chains of extensions. An entity lists the extensions that are to work on it; they work one after
another, each on what the one before it has made of the entity, until one of them fails.
-/

namespace ServiceBroker

/-- Why a chain stopped: an extension could not be resolved, or one failed at work on an entity. -/
inductive PipelineError where
  | unresolved (error : ExtensionError)
  | step (extension entity : String) (failure : Failure)
deriving DecidableEq, Repr

def PipelineError.message : PipelineError → String
  | .unresolved error => error.message
  | .step extension entity failure =>
    "extension '" ++ extension ++ "' failed for '" ++ entity ++ "': " ++ failure.message

/-- The work of one extension on an entity. -/
abbrev Work (α : Type) := α → Program (Except Failure α)

/-- The chain of the extensions of a registry. `work` picks what an extension does here, and `name`
tells an entity's name, which an extension may change. -/
def chain {χ α : Type} (registry : Registry χ) (work : χ → Work α) (name : α → String) :
    List ExtensionSpec → α → Program (Except PipelineError α)
  | [], entity => .done (.ok entity)
  | spec :: rest, entity =>
    match registry.resolveSpec spec with
    | .error error => .done (.error (.unresolved error))
    | .ok extension =>
      (work extension entity).bind fun
        | .error failure => .done (.error (.step spec.name (name entity) failure))
        | .ok changed => chain registry work name rest changed

/-- Runs the chains of all entities side by side, each to its end. The first failure in the order of
the entities stands for all. -/
def chains {σ α : Type} (c : Collaborators σ) (chainOf : α → Program (Except PipelineError α))
    (entities : List α) : Session σ (Except PipelineError (List α)) := do
  let results ← Session.together c (entities.map chainOf)
  return results.mapM id

end ServiceBroker
