import ServiceBroker.Extension.Registry

/-!
Targets give applications and services their final names and properties for one service instance. A
target sees a name with its properties, whether they belong to an application or to a service.
-/

namespace ServiceBroker

/-- The service instance that something is prepared for. -/
structure TargetContext where
  instanceId : String
  serviceName : String
  planName : String
deriving DecidableEq, Repr, Inhabited

abbrev Target := TargetContext → Artifact → Artifact

namespace Target

/-- Appends the instance id to the name and puts the artifact into a group that outlives it. -/
def grouped (group : String) (context : TargetContext) (artifact : Artifact) : Artifact where
  name := artifact.name ++ "-" ++ context.instanceId
  properties := (artifact.properties.insert "target" group).insert "keep-target-on-delete" "true"

/-- One group for each service instance. -/
def perInstanceGrouping : Target := fun context => grouped context.instanceId context

/-- One group for each plan of a service. -/
def perPlanGrouping : Target := fun context =>
  grouped (context.serviceName ++ "-" ++ context.planName) context

/-- The name followed by a hyphen and the instance id. A name is cut so that the whole has at most
`maxLength` characters; the id is never cut. -/
def suffixed (maxLength : Nat) (name instanceId : String) : String :=
  let suffix := '-' :: instanceId.toList
  if name.length + suffix.length ≤ maxLength then String.ofList (name.toList ++ suffix)
  else String.ofList (name.toList.take (maxLength - suffix.length) ++ suffix)

/-- No group, only the instance id behind the name. -/
def instanceSuffix (maxLength : Nat) : Target := fun context artifact =>
  { artifact with name := suffixed maxLength artifact.name context.instanceId }

/-- The targets that every broker has. -/
def builtin (maxLength : Nat) : List (Factory Target) :=
  [.of "per-instance-grouping" Extension.noConfig fun _ => perInstanceGrouping,
   .of "per-plan-grouping" Extension.noConfig fun _ => perPlanGrouping,
   .of "instance-suffix" Extension.noConfig fun _ => instanceSuffix maxLength]

end Target

namespace Registry

/-- What the target of an entry does to each artifact; without a target nothing changes. The
arguments of the target have no part in it. -/
def targetFor (targets : Registry Target) (target : Option ExtensionSpec)
    (context : TargetContext) : Except ExtensionError (Artifact → Artifact) :=
  match target with
  | none => .ok id
  | some spec => do .ok ((← targets.resolve spec.name .empty) context)

def targetApplications (targets : Registry Target) (target : Option ExtensionSpec)
    (context : TargetContext) (apps : List Application) :
    Except ExtensionError (List Application) := do
  let apply ← targets.targetFor target context
  .ok (apps.map fun app => app.withArtifact (apply app.artifact))

def targetServices (targets : Registry Target) (target : Option ExtensionSpec)
    (context : TargetContext) (services : List Service) : Except ExtensionError (List Service) := do
  let apply ← targets.targetFor target context
  .ok (services.map fun service => service.withArtifact (apply service.artifact))

end Registry

end ServiceBroker
