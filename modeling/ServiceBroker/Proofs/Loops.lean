import ServiceBroker.Proofs.Chain
import ServiceBroker.Proofs.Completion
import ServiceBroker.Provisioning
import ServiceBroker.Rehearsal.Extension
import ServiceBroker.Rehearsal.Script

/-!
Chains over the extensions that an entity lists at the beginning: those of the transformers of an
application, of the transformers of a service, and of credential providers. What the extensions
before a failure have done to the collaborators is done, and what comes after it has no part in the
run.
-/

namespace ServiceBroker

open Session (Interleaves)

variable {σ α χ : Type}

/-- A chain for each entity that goes through the extensions which the entity lists at the
beginning, whatever becomes of the entity on the way. -/
structure GoesThrough (c : Collaborators σ) (registry : Registry χ) (work : χ → Work α)
    (name : α → String) (listed : α → List ExtensionSpec)
    (chainOf : α → Program (Except PipelineError α)) : Prop where
  course_iff : ∀ entity events value, (chainOf entity).Course c events value ↔
    ChainEnds c registry work name entity (listed entity) events value
  alone : ∀ entity s, let run := Session.alone c (chainOf entity) s
    run.state = c.after s (run.log.map LogEntry.event) ∧
      ChainEnds c registry work name entity (listed entity) (run.log.map LogEntry.event) run.value
  /-- Chains side by side may hold each other up, and share the collaborators, but each comes to its
  own end. -/
  interleaved : ∀ (entities : List α) s run, Interleaves c (entities.map chainOf) s run →
    run.state = c.after s (run.log.map LogEntry.event) ∧ run.value.length = entities.length ∧
      ∀ (i : Nat) (entity : α), entities[i]? = some entity → ∃ value, run.value[i]? = some value ∧
        ChainEnds c registry work name entity (listed entity) (eventsOf i run.log) value
  joint : ∀ (entities : List α) s, ∃ run, Interleaves c (entities.map chainOf) s run ∧
    chains c chainOf entities s = ⟨run.value.mapM id, run.log, run.state⟩
  /-- Where a chain stops, other extensions may follow, and other factories may stand behind their
  names. -/
  unseen : ∀ entity before spec after events error, listed entity = before ++ spec :: after →
    StopsAt c registry work name entity before spec events error →
      ∀ registry' : Registry χ,
        (∀ s ∈ before ++ [spec], registry'.resolveSpec s = registry.resolveSpec s) →
        ∀ after', let other := chain registry' work name (before ++ spec :: after') entity
          other.Course c events (.error error) ∧
            ∀ s, (Session.alone c (chainOf entity) s).log.map LogEntry.event = events →
              Session.alone c other s = Session.alone c (chainOf entity) s

theorem goesThrough_of_chain (c : Collaborators σ) (registry : Registry χ) (work : χ → Work α)
    (name : α → String) (listed : α → List ExtensionSpec) :
    GoesThrough c registry work name listed
      fun entity => chain registry work name (listed entity) entity := by
  constructor
  case course_iff => exact fun entity events value => chain_course_iff
  case alone =>
    intro entity s run
    have course := Session.alone_course c (chain registry work name (listed entity) entity) s
    rw [Session.eventsOf_alone] at course
    exact ⟨Session.alone_state c _ s, chain_course_iff.mp course⟩
  case interleaved =>
    intro entities s run hrun
    have ran := hrun.sideBySide
    refine ⟨hrun.state_eq, ran.length, fun i entity hentity => ?_⟩
    obtain ⟨value, hvalue, course⟩ := ran.course i entity hentity
    exact ⟨value, hvalue, chain_course_iff.mp course⟩
  case joint =>
    intro entities s
    exact ⟨_, Session.together_interleaves c _ s, chains_eq c _ entities s⟩
  case unseen =>
    intro entity before spec after events error hlisted stops registry' hagree after' other
    have course := stops.course (fun _ _ => rfl) after
    have course' := stops.course hagree after'
    refine ⟨course', fun s hevents => ?_⟩
    rw [← hlisted, ← hevents] at course
    rw [← hevents] at course'
    rw [Session.alone_eq_of_course course', Session.alone_eq_of_course course]

/-- The transformers of an application, those of a service, and the credential providers in both of
their phases work in the order in which they are listed, until one of them is not known or fails. -/
theorem chains_go_through_listed (c : Collaborators σ) (extensions : Extensions)
    (parameters : Parameters) (instanceId : String) :
    GoesThrough c extensions.transformers (fun t => t parameters) (·.name) (·.transformers)
        (Transform.applicationChain extensions.transformers parameters) ∧
      GoesThrough c extensions.serviceTransformers (fun t => t parameters) (·.instanceName)
        (·.transformers) (Transform.serviceChain extensions.serviceTransformers parameters) ∧
      GoesThrough c extensions.credentialProviders (fun provider => provider.add instanceId)
        (·.name) (·.credentialProviders)
        (Credential.applicationChain extensions.credentialProviders .add instanceId) ∧
      GoesThrough c extensions.credentialProviders (fun provider => provider.delete instanceId)
        (·.name) (·.credentialProviders)
        (Credential.applicationChain extensions.credentialProviders .delete instanceId) :=
  ⟨goesThrough_of_chain .., goesThrough_of_chain .., goesThrough_of_chain ..,
    goesThrough_of_chain ..⟩

/-- The second transformer fails for an application that the first one has renamed. The third one is
not known, but nobody comes to it. -/
example :
    let app : Application :=
      { name := "web"
        transformers := [⟨"stage", .ofList [("rename", .text "blue")]⟩,
          ⟨"stage", .ofList [("fail", .text "stuck")]⟩, ⟨"missing", .empty⟩] }
    let run := (Registry.ofFactories [Rehearsal.Cast.transformer "stage"]).toOption.map
      fun transformers => Session.alone (Rehearsal.Script.collaborators {})
        (Transform.applicationChain transformers .empty app) .start
    run.map (fun run => (run.value.map (·.name), (requestsIn run.log).map Request.id)) =
      some (.error (.step "stage" "blue" ⟨"stuck", []⟩), ["transform:web", "transform:blue"]) := by
  decide +kernel

end ServiceBroker
