import ServiceBroker.Proofs.Chain
import ServiceBroker.Proofs.Registry
import ServiceBroker.Rehearsal.Extension
import ServiceBroker.Rehearsal.Script

/-!
Entities are transformed independently of one another. Where an extension depends on its own entity
and the parameters only, transforming many entities side by side is the same as transforming each
alone.
-/

namespace ServiceBroker

open Session (alone Interleaves)

variable {σ α : Type}

/-- A joint run does to each entity what its chain does alone. -/
structure RunsLikeAlone (c : Collaborators σ) (chainOf : α → Program (Except PipelineError α))
    (joint : Collaborators σ → Session σ (Except PipelineError (List α))) (entities : List α)
    (s t : σ) : Prop where
  /-- It succeeds if every chain succeeds alone, with the results in the order of the entities. -/
  ok_iff : ∀ results, (joint c s).value = .ok results ↔
    entities.map (fun entity => (alone c (chainOf entity) t).value) = results.map .ok
  /-- Otherwise it fails like the first of the entities whose chains fail alone. -/
  error_iff : ∀ error, (joint c s).value = .error error ↔
    ∃ (i : Nat) (entity : α), entities[i]? = some entity ∧
      (alone c (chainOf entity) t).value = .error error ∧
      ∀ j < i, ∃ other changed, entities[j]? = some other ∧
        (alone c (chainOf other) t).value = .ok changed
  /-- Every chain asks and is answered as it is alone, to its own end. -/
  events : ∀ (i : Nat) (entity : α), entities[i]? = some entity →
    eventsOf i (joint c s).log = eventsOf 0 (alone c (chainOf entity) t).log ∧
      (eventsOf i (joint c s).log).getLast? = some .ended
  /-- Nothing else happens. -/
  others : ∀ entry ∈ (joint c s).log, entry.task < entities.length
  /-- The times of the answers have no part in the result. -/
  timing : ∀ accept : Request → σ → Nat × σ, (joint { c with accept } s).value = (joint c s).value
  /-- Nor has the order in which the chains get on. -/
  interleaving : ∀ o, Interleaves c (entities.map chainOf) s o →
    o.value.mapM id = (joint c s).value ∧ ∀ (i : Nat) (entity : α), entities[i]? = some entity →
      eventsOf i o.log = eventsOf 0 (alone c (chainOf entity) t).log

/-- Results side by side are those of the chains alone. -/
theorem chains_value_eq_alone {c d : Collaborators σ}
    {chainOf : α → Program (Except PipelineError α)} {entities : List α}
    (hsteady : ∀ entity ∈ entities, (chainOf entity).Asks (c.Agree d)) (s t : σ) :
    (chains c chainOf entities s).value =
      (entities.map fun entity => (alone d (chainOf entity) t).value).mapM id := by
  have run := Session.together_interleaves c (entities.map chainOf) s
  obtain ⟨hvalue, -⟩ := run.eq_alone (List.forall_mem_map.mpr hsteady) t
  rw [chains_eq, hvalue, List.map_map]
  rfl

theorem runsLikeAlone_chains {c : Collaborators σ}
    {chainOf : α → Program (Except PipelineError α)} {entities : List α}
    (hsteady : ∀ entity ∈ entities, (chainOf entity).Steady c) (s t : σ) :
    RunsLikeAlone c chainOf (fun c => chains c chainOf entities) entities s t := by
  have hvalue := chains_value_eq_alone hsteady s t
  have hevents : ∀ o, Interleaves c (entities.map chainOf) s o →
      ∀ (i : Nat) (entity : α), entities[i]? = some entity →
        eventsOf i o.log = eventsOf 0 (alone c (chainOf entity) t).log := by
    intro o run i entity hentity
    refine (run.eq_alone (List.forall_mem_map.mpr hsteady) t).2 i (chainOf entity) ?_
    rw [List.getElem?_map, hentity]
    rfl
  have hlog : (chains c chainOf entities s).log =
      (Session.together c (entities.map chainOf) s).log := by rw [chains_eq]
  have run := Session.together_interleaves c (entities.map chainOf) s
  constructor
  case ok_iff =>
    intro results
    rw [hvalue, mapM_id_eq_ok_iff]
  case error_iff =>
    intro error
    rw [hvalue, mapM_id_eq_error_iff]
    simp only [List.getElem?_map, Option.map_eq_some_iff]
    constructor
    · rintro ⟨i, ⟨entity, hentity, herror⟩, hbefore⟩
      refine ⟨i, entity, hentity, herror, fun j hj => ?_⟩
      obtain ⟨changed, other, hother, hok⟩ := hbefore j hj
      exact ⟨other, changed, hother, hok⟩
    · rintro ⟨i, entity, hentity, herror, hbefore⟩
      refine ⟨i, ⟨entity, hentity, herror⟩, fun j hj => ?_⟩
      obtain ⟨other, changed, hother, hok⟩ := hbefore j hj
      exact ⟨changed, other, hother, hok⟩
  case events =>
    intro i entity hentity
    have halone := hevents _ run i entity hentity
    refine ⟨hlog ▸ halone, ?_⟩
    rw [hlog, halone]
    exact (Session.alone_course c (chainOf entity) t).ends
  case others =>
    intro entry hentry
    rw [hlog] at hentry
    simpa using run.task_lt hentry
  case timing =>
    intro accept
    rw [hvalue]
    exact chains_value_eq_alone (c := { c with accept }) hsteady s t
  case interleaving =>
    intro o hrun
    refine ⟨?_, hevents o hrun⟩
    rw [hvalue, (hrun.eq_alone (List.forall_mem_map.mpr hsteady) t).1, List.map_map]
    rfl

/-! ## Transformers -/

/-- What the factory makes depends on its entity and the parameters only. -/
def Factory.Steady (c : Collaborators σ) (factory : Factory (Parameters → Work α)) : Prop :=
  ∀ args transformer, factory.create args = .ok transformer → ∀ parameters entity,
    (transformer parameters entity).Steady c

theorem steady_of_silent {S : Type} (c : Collaborators σ) (name : String) (view : Json.View S)
    (change : S → Parameters → α → α) :
    (Factory.of name view fun config parameters entity =>
      Program.done (.ok (change config parameters entity))).Steady c := by
  intro args transformer hcreate parameters entity
  obtain ⟨config, -, rfl⟩ := Registry.exists_config_of_create hcreate
  trivial

theorem builtin_steady (c : Collaborators σ) :
    ∀ factory ∈ Transform.builtin, factory.Steady c := by
  intro factory h
  rcases List.mem_cons.mp h with rfl | h
  · exact steady_of_silent c _ _ Transform.mapEnvironment
  · obtain rfl := List.mem_singleton.mp h
    exact steady_of_silent c _ _ Transform.mapProperties

theorem builtinForServices_steady (c : Collaborators σ) :
    ∀ factory ∈ Transform.builtinForServices, factory.Steady c := by
  intro factory h
  obtain rfl := List.mem_singleton.mp h
  exact steady_of_silent c _ _ Transform.mapParameters

theorem transform_steady {c : Collaborators σ} {factories : List (Factory (Parameters → Work α))}
    {registry : Registry (Parameters → Work α)}
    (hregistry : Registry.ofFactories factories = .ok registry)
    (hfactories : ∀ factory ∈ factories, factory.Steady c) (parameters : Parameters)
    (name : α → String) (specs : List ExtensionSpec) (entity : α) :
    (chain registry (fun t => t parameters) name specs entity).Steady c := by
  refine chain_steady registry _ name specs (fun spec _ x hx entity => ?_) entity
  obtain ⟨factory, hfactory, -, hcreate⟩ := Registry.exists_factory_of_resolve hregistry hx
  exact hfactories factory hfactory spec.args x hcreate parameters entity

theorem Rehearsal.Script.agree_extension (script : Rehearsal.Script) (work : ExtensionWork) :
    script.collaborators.Agree script.collaborators (.extension work) := by
  intro s t
  cases work with
  | mk extension verb entity delay failure =>
    cases hrandom : script.random <;> cases failure <;>
      simp [Rehearsal.Script.collaborators, hrandom, Collaborators.withGenerator,
        Collaborators.timed, Generator.answer?, Rehearsal.Script.players,
        Rehearsal.Script.failure?, Rehearsal.Script.reply]

/-- Extensions of a rehearsal depend on their entity only, however long they take and whether they
fail or not. -/
theorem Rehearsal.Cast.transformer_steady (script : Rehearsal.Script) (extension : String) :
    (Rehearsal.Cast.transformer extension).Steady script.collaborators := by
  intro args transformer hcreate parameters app
  obtain ⟨conduct, -, rfl⟩ := Registry.exists_config_of_create hcreate
  exact Program.ensures_ask_andThen (script.agree_extension _) (fun _ => trivial)
    fun _ => trivial

/-- Applications, and services, are transformed side by side as each one is alone. The transformers
may be built-in ones, or others that depend on their own entity and the parameters only. -/
theorem transformed_like_alone {c : Collaborators σ} {factories : List (Factory Transformer)}
    {serviceFactories : List (Factory ServiceTransformer)} {transformers : Registry Transformer}
    {serviceTransformers : Registry ServiceTransformer}
    (htransformers : Registry.ofFactories factories = .ok transformers)
    (hserviceTransformers : Registry.ofFactories serviceFactories = .ok serviceTransformers)
    (hfactories : ∀ factory ∈ factories, factory ∈ Transform.builtin ∨ factory.Steady c)
    (hserviceFactories : ∀ factory ∈ serviceFactories,
      factory ∈ Transform.builtinForServices ∨ factory.Steady c)
    (parameters : Parameters) (apps : List Application) (services : List Service) (s t : σ) :
    RunsLikeAlone c (Transform.applicationChain transformers parameters)
        (fun c => Transform.applications c transformers parameters apps) apps s t ∧
      RunsLikeAlone c (Transform.serviceChain serviceTransformers parameters)
        (fun c => Transform.services c serviceTransformers parameters services) services s t := by
  constructor
  · refine runsLikeAlone_chains (fun app _ => ?_) s t
    refine transform_steady htransformers (fun factory h => ?_) parameters (·.name) _ app
    rcases hfactories factory h with hbuiltin | hsteady
    · exact builtin_steady c factory hbuiltin
    · exact hsteady
  · refine runsLikeAlone_chains (fun service _ => ?_) s t
    refine transform_steady hserviceTransformers (fun factory h => ?_) parameters
      (·.instanceName) _ service
    rcases hserviceFactories factory h with hbuiltin | hsteady
    · exact builtinForServices_steady c factory hbuiltin
    · exact hsteady

/-- An application whose transformer fails after some time. -/
def Rehearsal.failingApplication (name : String) (delay : Nat)
    (failure : String) : Application where
  name := name
  transformers :=
    [⟨"stage", .ofList [("delay", .number (.integer delay)), ("fail", .text failure)]⟩]

/-- The failure of the first application stands for both, though the second one failed earlier. -/
theorem transformed_like_alone_staged :
    ∃ transformers serviceTransformers,
      Registry.ofFactories (Transform.builtin ++ [Rehearsal.Cast.transformer "stage"]) =
        .ok transformers ∧
      Registry.ofFactories Transform.builtinForServices = .ok serviceTransformers ∧
      (Transform.applications (Rehearsal.Script.collaborators {}) transformers .empty
        [Rehearsal.failingApplication "late" 3 "slow",
          Rehearsal.failingApplication "early" 0 "fast"] Rehearsal.State.start).value =
        .error (.step "stage" "late" ⟨"slow", []⟩) ∧
      (Transform.services (Rehearsal.Script.collaborators {}) serviceTransformers .empty
        [⟨"db", "db-one", "small", .empty, .empty, [⟨"parameter-mapping", .empty⟩]⟩]
        Rehearsal.State.start).value =
        .ok [⟨"db", "db-one", "small", .empty, .empty, [⟨"parameter-mapping", .empty⟩]⟩] := by
  refine ⟨_, _, rfl, rfl, ?_⟩
  have hfactories : ∀ factory ∈ Transform.builtin ++ [Rehearsal.Cast.transformer "stage"],
      factory ∈ Transform.builtin ∨ factory.Steady (Rehearsal.Script.collaborators {}) := by
    intro factory h
    rcases List.mem_append.mp h with hbuiltin | hstage
    · exact .inl hbuiltin
    · obtain rfl := List.mem_singleton.mp hstage
      exact .inr (Rehearsal.Cast.transformer_steady {} "stage")
  obtain ⟨happs, hservices⟩ := transformed_like_alone
    (c := Rehearsal.Script.collaborators {}) (t := Rehearsal.State.start) rfl rfl hfactories
    (fun _ h => .inl h) .empty _ _ Rehearsal.State.start
  constructor
  · refine (happs.error_iff _).mpr ⟨0, _, rfl, rfl, fun j hj => ?_⟩
    exact absurd hj (Nat.not_lt_zero j)
  · exact (hservices.ok_iff _).mpr rfl

end ServiceBroker
