import Mathlib.Data.List.Forall2
import ServiceBroker.Proofs.Registry
import ServiceBroker.Rehearsal.Extension

/-!
What a target does to the applications and services of a service instance. It is looked up by its
name alone and works on each of them by itself, on its name and properties and on nothing else, and
for an application as for a service.
-/

namespace ServiceBroker

namespace Target

/-- The group that a target of this name puts things into, if it is one that groups. -/
def groupFor (context : TargetContext) (name : String) : Option String :=
  if name = "per-instance-grouping" then some context.instanceId
  else if name = "per-plan-grouping" then some (context.serviceName ++ "-" ++ context.planName)
  else none

/-- The properties with the two that make a group, in place of whatever they were, and no other
change. -/
def Regrouped (group : String) (properties grouped : Dict String) : Prop :=
  ∀ key, grouped.get? key =
    if key = "keep-target-on-delete" then some "true"
    else if key = "target" then some group
    else properties.get? key

theorem grouped_regrouped (group : String) (context : TargetContext) (artifact : Artifact) :
    Regrouped group artifact.properties (grouped group context artifact).properties := by
  intro key
  simp only [grouped, Dict.get?_insert]

end Target

/-! ## Both kinds of entities -/

namespace Registry

variable {targets : Registry Target} {spec : ExtensionSpec} {context : TargetContext}

theorem targetApplications_eq (targets : Registry Target) (spec : ExtensionSpec)
    (context : TargetContext) (apps : List Application) :
    targets.targetApplications (some spec) context apps =
      (targets.resolve spec.name .empty).map fun target =>
        apps.map fun app => app.withArtifact (target context app.artifact) := by
  rw [targetApplications, targetFor]
  cases targets.resolve spec.name .empty <;> rfl

theorem targetServices_eq (targets : Registry Target) (spec : ExtensionSpec)
    (context : TargetContext) (services : List Service) :
    targets.targetServices (some spec) context services =
      (targets.resolve spec.name .empty).map fun target =>
        services.map fun service => service.withArtifact (target context service.artifact) := by
  rw [targetServices, targetFor]
  cases targets.resolve spec.name .empty <;> rfl

structure Places (targets : Registry Target) (spec : ExtensionSpec) (context : TargetContext)
    (target : Target) : Prop where
  applications : ∀ apps, ∃ placed,
    targets.targetApplications (some spec) context apps = .ok placed ∧
      List.Forall₂ (fun app app' : Application =>
        let artifact := target context ⟨app.name, app.properties⟩
        app' = { app with name := artifact.name, properties := artifact.properties }) apps placed
  services : ∀ services, ∃ placed,
    targets.targetServices (some spec) context services = .ok placed ∧
      List.Forall₂ (fun service service' : Service =>
        let artifact := target context ⟨service.instanceName, service.properties⟩
        service' =
          { service with instanceName := artifact.name, properties := artifact.properties })
        services placed
  /-- The target makes no difference between the two. -/
  alike : ∀ apps services apps' services',
    targets.targetApplications (some spec) context apps = .ok apps' →
    targets.targetServices (some spec) context services = .ok services' →
      ∀ (i j : Nat) (app : Application) (service : Service), apps[i]? = some app →
        services[j]? = some service → app.artifact = service.artifact →
          ∃ app' service', apps'[i]? = some app' ∧ services'[j]? = some service' ∧
            app'.artifact = service'.artifact

theorem places_of_resolve {target : Target} (h : targets.resolve spec.name .empty = .ok target) :
    targets.Places spec context target := by
  have happlications : ∀ apps, targets.targetApplications (some spec) context apps =
      .ok (apps.map fun app => app.withArtifact (target context app.artifact)) := by
    intro apps
    rw [targetApplications_eq, h]
    rfl
  have hservices : ∀ services, targets.targetServices (some spec) context services =
      .ok (services.map fun service => service.withArtifact (target context service.artifact)) := by
    intro services
    rw [targetServices_eq, h]
    rfl
  constructor
  case applications =>
    intro apps
    refine ⟨_, happlications apps, ?_⟩
    rw [List.forall₂_map_right_iff, List.forall₂_same]
    exact fun _ _ => rfl
  case services =>
    intro services
    refine ⟨_, hservices services, ?_⟩
    rw [List.forall₂_map_right_iff, List.forall₂_same]
    exact fun _ _ => rfl
  case alike =>
    intro apps services apps' services' happs hservs i j app service happ hservice hsame
    rw [happlications] at happs
    rw [hservices] at hservs
    obtain rfl := Except.ok.inj happs
    obtain rfl := Except.ok.inj hservs
    refine ⟨app.withArtifact (target context app.artifact),
      service.withArtifact (target context service.artifact), ?_, ?_, ?_⟩
    · simp [happ]
    · simp [hservice]
    · exact congrArg (target context) hsame

/-- The names of the two built-in targets that group lead to targets that make that group. -/
theorem resolve_regrouped {maxNameLength : Nat} {custom : List (Factory Target)}
    (h : ofFactories (Target.builtin maxNameLength ++ custom) = .ok targets) {name group : String}
    (hgroup : Target.groupFor context name = some group) :
    ∃ target, targets.resolve name .empty = .ok target ∧ ∀ artifact,
      Target.Regrouped group artifact.properties (target context artifact).properties := by
  have hbuiltin : ∀ factory ∈ Target.builtin maxNameLength, ∀ args,
      targets.resolve factory.name args =
        (factory.create args).mapError (.invalidConfiguration factory.name) :=
    fun factory hfactory args => resolve_of_mem h (List.mem_append_left _ hfactory) args
  simp only [Target.builtin, List.forall_mem_cons] at hbuiltin
  obtain ⟨hinstance, hplan, -⟩ := hbuiltin
  rw [Target.groupFor] at hgroup
  split at hgroup
  · rename_i hname
    cases hgroup
    subst hname
    exact ⟨_, hinstance .empty, Target.grouped_regrouped context.instanceId context⟩
  · split at hgroup
    · rename_i hname
      cases hgroup
      subst hname
      exact ⟨_, hplan .empty, Target.grouped_regrouped _ context⟩
    · cases hgroup

/-- A target is looked up by its name without arguments, so those of the entry have no part in it,
and a name that leads nowhere is an error even if there is nothing to name. Applications and
services are named one by one, the same way for both, and of the built-in targets those that group
change two properties. -/
theorem targets_place_alike (targets : Registry Target) (spec : ExtensionSpec)
    (context : TargetContext) :
    (∀ args apps, targets.targetApplications (some ⟨spec.name, args⟩) context apps =
        targets.targetApplications (some spec) context apps) ∧
      (∀ args services, targets.targetServices (some ⟨spec.name, args⟩) context services =
        targets.targetServices (some spec) context services) ∧
      (∀ apps error, targets.targetApplications (some spec) context apps = .error error ↔
        targets.resolve spec.name .empty = .error error) ∧
      (∀ services error, targets.targetServices (some spec) context services = .error error ↔
        targets.resolve spec.name .empty = .error error) ∧
      (∀ target, targets.resolve spec.name .empty = .ok target →
        targets.Places spec context target) ∧
      ∀ maxNameLength custom group,
        ofFactories (Target.builtin maxNameLength ++ custom) = .ok targets →
          Target.groupFor context spec.name = some group →
            ∃ target, targets.resolve spec.name .empty = .ok target ∧ ∀ artifact,
              Target.Regrouped group artifact.properties (target context artifact).properties := by
  refine ⟨fun args apps => ?_, fun args services => ?_, fun apps error => ?_,
    fun services error => ?_, fun target h => places_of_resolve h,
    fun maxNameLength custom group h hgroup => resolve_regrouped h hgroup⟩
  · rw [targetApplications_eq, targetApplications_eq]
  · rw [targetServices_eq, targetServices_eq]
  · rw [targetApplications_eq, map_eq_error_iff]
  · rw [targetServices_eq, map_eq_error_iff]

/-- A target that groups, with arguments that it does not know, and an application and a service of
one name that were in another group before. -/
theorem targets_place_alike_staged :
    ∃ targets, ofFactories (Target.builtin 50 ++ [Rehearsal.Cast.target "mark"]) = .ok targets ∧
      let spec : ExtensionSpec := ⟨"per-plan-grouping", .ofList [("size", .null)]⟩
      let context : TargetContext := ⟨"7", "queue", "small"⟩
      let properties : Dict String := .ofList [("target", "elsewhere"), ("memory", "1G")]
      let web : Application := { name := "web" }
      let app : Application := { name := "db", path := "p", properties, services := ["logs"] }
      let service : Service := { name := "mysql", instanceName := "db", plan := "big", properties }
      targets.targetApplications (some ⟨"nowhere", .empty⟩) context [] =
          .error (.unknown "nowhere" targets.names) ∧
        ∃ apps services app' service',
          targets.targetApplications (some spec) context [web, app] = .ok apps ∧
          targets.targetServices (some spec) context [service] = .ok services ∧
          apps[1]? = some app' ∧ services[0]? = some service' ∧ app'.artifact = service'.artifact ∧
          app'.path = "p" ∧ app'.properties.get? "target" = some "queue-small" ∧
          app'.properties.get? "memory" = some "1G" := by
  refine ⟨_, rfl, ?_⟩
  intro spec context properties web app service
  have hregistered :
      ofFactories (Target.builtin 50 ++ [Rehearsal.Cast.target "mark"]) = .ok _ := rfl
  obtain ⟨-, -, hnowhere, -⟩ := targets_place_alike _ ⟨"nowhere", .empty⟩ context
  obtain ⟨-, -, -, -, hplaces, hgroups⟩ := targets_place_alike _ spec context
  refine ⟨(hnowhere [] _).mpr rfl, ?_⟩
  obtain ⟨target, htarget, hregrouped⟩ := hgroups 50 _ "queue-small" hregistered (by decide)
  have places := hplaces target htarget
  obtain ⟨apps, happs, hplaced⟩ := places.applications [web, app]
  obtain ⟨services, hservices, -⟩ := places.services [service]
  obtain ⟨app', service', happ', hservice', halike⟩ :=
    places.alike _ _ _ _ happs hservices 1 0 app service rfl rfl rfl
  refine ⟨apps, services, app', service', happs, hservices, happ', hservice', halike, ?_⟩
  cases hplaced with
  | cons _ hrest =>
    cases hrest with
    | cons hplaced hrest =>
      cases hrest
      obtain rfl := Option.some.inj happ'
      have hproperties := hregrouped app.artifact
      subst hplaced
      exact ⟨rfl, (hproperties "target").trans (by decide),
        (hproperties "memory").trans (by decide)⟩

end Registry

end ServiceBroker
