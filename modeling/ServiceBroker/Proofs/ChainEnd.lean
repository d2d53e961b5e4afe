import ServiceBroker.Extension.Chain
import ServiceBroker.Proofs.Course

/-!
How a chain of extensions ends. The extensions work one after another, until all have worked or one
of them is not known or fails.
-/

namespace ServiceBroker

variable {σ α χ : Type}

/-- The extensions have worked one after another, each on what the one before it has made of the
entity; the events are those of their work. -/
inductive Worked (c : Collaborators σ) (registry : Registry χ) (work : χ → Work α) :
    List ExtensionSpec → α → List Event → α → Prop where
  | nil (entity : α) : Worked c registry work [] entity [] entity
  | cons {spec : ExtensionSpec} {rest : List ExtensionSpec} {x : χ} {entity changed result : α}
      {part events : List Event} (resolved : registry.resolveSpec spec = .ok x)
      (step : (work x entity).Course c (part ++ [.ended]) (.ok changed))
      (steps : Worked c registry work rest changed events result) :
      Worked c registry work (spec :: rest) entity (part ++ events) result

/-- The chain stops at an extension that is not known, or fails, when those before it have worked. A
failure is told with the name that the entity had by then. -/
inductive StopsAt (c : Collaborators σ) (registry : Registry χ) (work : χ → Work α)
    (name : α → String) (entity : α) (before : List ExtensionSpec) (spec : ExtensionSpec) :
    List Event → PipelineError → Prop where
  | unresolved {events : List Event} {reached : α} {error : ExtensionError}
      (steps : Worked c registry work before entity events reached)
      (unknown : registry.resolveSpec spec = .error error) :
      StopsAt c registry work name entity before spec (events ++ [.ended]) (.unresolved error)
  | failed {events part : List Event} {reached : α} {x : χ} {failure : Failure}
      (steps : Worked c registry work before entity events reached)
      (resolved : registry.resolveSpec spec = .ok x)
      (failing : (work x reached).Course c (part ++ [.ended]) (.error failure)) :
      StopsAt c registry work name entity before spec (events ++ (part ++ [.ended]))
        (.step spec.name (name reached) failure)

/-- All of the extensions have worked on the entity, or the chain has stopped at one of them. -/
inductive ChainEnds (c : Collaborators σ) (registry : Registry χ) (work : χ → Work α)
    (name : α → String) (entity : α) :
    List ExtensionSpec → List Event → Except PipelineError α → Prop where
  | finished {specs : List ExtensionSpec} {events : List Event} {result : α}
      (steps : Worked c registry work specs entity events result) :
      ChainEnds c registry work name entity specs (events ++ [.ended]) (.ok result)
  | stopped {before : List ExtensionSpec} {spec : ExtensionSpec} (after : List ExtensionSpec)
      {events : List Event} {error : PipelineError}
      (stops : StopsAt c registry work name entity before spec events error) :
      ChainEnds c registry work name entity (before ++ spec :: after) events (.error error)

section Chain

variable {c : Collaborators σ} {registry registry' : Registry χ} {work : χ → Work α}
  {name : α → String} {specs before after : List ExtensionSpec} {spec : ExtensionSpec}
  {entity changed reached : α} {events part tail : List Event}

/-- What has worked is gone through, and the chain goes on with the other extensions. -/
theorem Worked.course {value : Except PipelineError α}
    (steps : Worked c registry work before entity events reached)
    (course : (chain registry work name after reached).Course c tail value) :
    (chain registry work name (before ++ after) entity).Course c (events ++ tail) value := by
  induction steps with
  | nil entity => exact course
  | cons resolved step _ ih =>
    rw [List.cons_append, chain, resolved, List.append_assoc]
    exact step.bind rfl (ih course)

theorem Worked.congr (hagree : ∀ spec ∈ specs,
      registry'.resolveSpec spec = registry.resolveSpec spec)
    (steps : Worked c registry work specs entity events reached) :
    Worked c registry' work specs entity events reached := by
  induction steps with
  | nil entity => exact .nil entity
  | cons resolved step _ ih =>
    obtain ⟨hspec, hrest⟩ := List.forall_mem_cons.mp hagree
    exact .cons (hspec.trans resolved) step (ih hrest)

/-- Where the chain stops, nothing that follows is looked at. -/
theorem StopsAt.course {error : PipelineError}
    (stops : StopsAt c registry work name entity before spec events error)
    (hagree : ∀ s ∈ before ++ [spec], registry'.resolveSpec s = registry.resolveSpec s)
    (after : List ExtensionSpec) :
    (chain registry' work name (before ++ spec :: after) entity).Course c events
      (.error error) := by
  have hbefore : ∀ s ∈ before, registry'.resolveSpec s = registry.resolveSpec s :=
    fun s hs => hagree s (List.mem_append_left _ hs)
  have hspec := hagree spec (List.mem_append_right _ List.mem_cons_self)
  cases stops with
  | unresolved steps unknown =>
    refine (steps.congr hbefore).course ?_
    rw [chain, hspec, unknown]
    exact .done _
  | failed steps resolved failing =>
    refine (steps.congr hbefore).course ?_
    rw [chain, hspec, resolved]
    exact failing.bind rfl (.done _)

theorem ChainEnds.cons {x : χ} {value : Except PipelineError α}
    (resolved : registry.resolveSpec spec = .ok x)
    (step : (work x entity).Course c (part ++ [.ended]) (.ok changed))
    (ends : ChainEnds c registry work name changed specs events value) :
    ChainEnds c registry work name entity (spec :: specs) (part ++ events) value := by
  cases ends with
  | finished steps =>
    rw [← List.append_assoc]
    exact .finished (.cons resolved step steps)
  | @stopped before last after events error stops =>
    have hstops : StopsAt c registry work name entity (spec :: before) last
        (part ++ events) error := by
      cases stops with
      | unresolved steps unknown =>
        rw [← List.append_assoc]
        exact .unresolved (.cons resolved step steps) unknown
      | failed steps known failing =>
        rw [← List.append_assoc]
        exact .failed (.cons resolved step steps) known failing
    exact .stopped after hstops

/-- The courses of a chain are those in which it ends after all extensions, or at the first one that
is not known or fails. -/
theorem chain_course_iff {value : Except PipelineError α} :
    (chain registry work name specs entity).Course c events value ↔
      ChainEnds c registry work name entity specs events value := by
  constructor
  · intro course
    induction specs generalizing entity events with
    | nil =>
      cases course
      exact .finished (.nil entity)
    | cons spec rest ih =>
      rw [chain] at course
      cases hresolve : registry.resolveSpec spec with
      | error error =>
        simp only [hresolve] at course
        cases course
        exact .stopped rest (.unresolved (.nil entity) hresolve)
      | ok x =>
        simp only [hresolve] at course
        obtain ⟨r, part, after, hstep, hrest, rfl⟩ := course.of_bind
        cases r with
        | error failure =>
          cases hrest
          exact .stopped rest (.failed (.nil entity) hresolve hstep)
        | ok changed => exact (ih hrest).cons hresolve hstep
  · intro ends
    cases ends with
    | finished steps =>
      have course : (chain registry work name (specs ++ []) entity).Course c
          (_ ++ [.ended]) (.ok _) :=
        steps.course (.done _)
      rwa [List.append_nil] at course
    | stopped after stops => exact stops.course (fun _ _ => rfl) after

end Chain

end ServiceBroker
