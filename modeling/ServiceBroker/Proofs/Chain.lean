import Mathlib.Data.List.Forall2
import ServiceBroker.Proofs.ChainEnd

/-!
Chains of extensions, alone and side by side. What every extension ensures, the chain ensures; and
the result of many chains is that of the first one that failed, or the results of all.
-/

namespace ServiceBroker

variable {σ α χ ε : Type}

/-- A chain whose extensions all keep `I` of an entity ends with an entity that satisfies it. -/
theorem chain_ensures {P : Request → Prop} {I : α → Prop} (registry : Registry χ)
    (work : χ → Work α) (name : α → String) (specs : List ExtensionSpec)
    (hwork : ∀ spec ∈ specs, ∀ x, registry.resolveSpec spec = .ok x → ∀ entity, I entity →
      (work x entity).Ensures P fun r => ∀ changed, r = .ok changed → I changed)
    (entity : α) (h : I entity) :
    (chain registry work name specs entity).Ensures P
      fun r => ∀ changed, r = .ok changed → I changed := by
  induction specs generalizing entity with
  | nil =>
    rintro _ ⟨⟩
    exact h
  | cons spec rest ih =>
    rw [chain]
    cases hresolve : registry.resolveSpec spec with
    | error error => rintro _ ⟨⟩
    | ok x =>
      have hspec := hwork spec List.mem_cons_self x hresolve entity h
      refine hspec.bind fun r hr => ?_
      cases r with
      | error failure => rintro _ ⟨⟩
      | ok changed =>
        have hrest := fun spec hs => hwork spec (List.mem_cons_of_mem _ hs)
        exact ih hrest changed (hr changed rfl)

theorem chain_steady {c : Collaborators σ} (registry : Registry χ) (work : χ → Work α)
    (name : α → String) (specs : List ExtensionSpec)
    (hwork : ∀ spec ∈ specs, ∀ x, registry.resolveSpec spec = .ok x → ∀ entity,
      (work x entity).Steady c)
    (entity : α) : (chain registry work name specs entity).Steady c := by
  have h := chain_ensures (P := c.Agree c) (I := fun _ : α => True) registry work name specs
    (fun spec hspec x hx entity _ =>
      (hwork spec hspec x hx entity).mono (fun _ hr => hr) fun _ _ _ _ => trivial)
    entity trivial
  exact h.asks

/-- The entity has come to the other one by a step for each of the extensions, in their order. -/
inductive Along (R : ExtensionSpec → α → α → Prop) : List ExtensionSpec → α → α → Prop where
  | nil (entity : α) : Along R [] entity entity
  | cons {spec : ExtensionSpec} {rest : List ExtensionSpec} {entity changed result : α}
      (step : R spec entity changed) (steps : Along R rest changed result) :
      Along R (spec :: rest) entity result

namespace Along

variable {R R' : ExtensionSpec → α → α → Prop} {specs : List ExtensionSpec} {entity result : α}

theorem imp (along : Along R specs entity result)
    (h : ∀ spec entity changed, R spec entity changed → R' spec entity changed) :
    Along R' specs entity result := by
  induction along with
  | nil => exact .nil _
  | cons step _ ih => exact .cons (h _ _ _ step) ih

/-- What every step keeps holds at the end. -/
theorem keeps {I : α → Prop} (along : Along R specs entity result)
    (hkept : ∀ spec entity changed, R spec entity changed → I entity → I changed) (h : I entity) :
    I result := by
  induction along with
  | nil => exact h
  | cons step _ ih => exact ih (hkept _ _ _ step h)

/-- What every step keeps holds before each of them. -/
theorem exists_step {I : α → Prop} (along : Along R specs entity result)
    (hkept : ∀ spec entity changed, R spec entity changed → I entity → I changed) (h : I entity) :
    ∀ spec ∈ specs, ∃ entity changed, I entity ∧ R spec entity changed := by
  induction along with
  | nil => exact fun _ hspec => nomatch hspec
  | cons step _ ih =>
    intro spec hspec
    rcases List.mem_cons.mp hspec with rfl | hspec
    · exact ⟨_, _, h, step⟩
    · exact ih (hkept _ _ _ step h) spec hspec

/-- What some step brings about and every later one keeps holds at the end. -/
theorem established {N I : α → Prop} (along : Along R specs entity result)
    (hN : ∀ spec entity changed, R spec entity changed → N entity → N changed)
    (hkept : ∀ spec entity changed, R spec entity changed → N entity → I entity → I changed)
    {spec : ExtensionSpec} (hspec : spec ∈ specs)
    (hbrought : ∀ entity changed, R spec entity changed → N entity → I changed) (h : N entity) :
    I result := by
  induction along with
  | nil => cases hspec
  | cons step steps ih =>
    have hchanged := hN _ _ _ step h
    rcases List.mem_cons.mp hspec with rfl | hspec
    · have hboth := steps.keeps (I := fun entity => N entity ∧ I entity)
        (fun _ _ _ step h => ⟨hN _ _ _ step h.1, hkept _ _ _ step h.1 h.2⟩)
        ⟨hchanged, hbrought _ _ step h⟩
      exact hboth.2
    · exact ih hspec hchanged

end Along

theorem Worked.along {c : Collaborators σ} {registry : Registry χ} {work : χ → Work α}
    {specs : List ExtensionSpec} {entity result : α} {events : List Event}
    (worked : Worked c registry work specs entity events result) :
    Along (fun spec entity changed => ∃ x part, registry.resolveSpec spec = .ok x ∧
      (work x entity).Course c (part ++ [.ended]) (.ok changed) ∧ ∀ event ∈ part, event ∈ events)
      specs entity result := by
  induction worked with
  | nil entity => exact .nil entity
  | @cons _ _ x _ _ _ part events resolved step _ ih =>
    refine .cons ⟨x, part, resolved, step, fun event => List.mem_append_left events⟩ ?_
    refine ih.imp fun spec entity changed hstep => ?_
    obtain ⟨y, more, hy, hcourse, hmore⟩ := hstep
    exact ⟨y, more, hy, hcourse, fun event h => List.mem_append_right part (hmore event h)⟩

/-- In a course of a chain that succeeds, all extensions have worked. -/
theorem chain_ok_worked {c : Collaborators σ} {registry : Registry χ} {work : χ → Work α}
    {name : α → String} {specs : List ExtensionSpec} {entity result : α} {events : List Event}
    (course : (chain registry work name specs entity).Course c events (.ok result)) :
    ∃ worked, events = worked ++ [.ended] ∧ Worked c registry work specs entity worked result := by
  cases chain_course_iff.mp course with
  | finished worked => exact ⟨_, rfl, worked⟩

theorem chain_ok_course {c : Collaborators σ} (registry : Registry χ) (work : χ → Work α)
    (name : α → String) (specs : List ExtensionSpec) {entity result : α} {events : List Event}
    (course : (chain registry work name specs entity).Course c events (.ok result)) :
    Along (fun spec entity changed => ∃ x part, registry.resolveSpec spec = .ok x ∧
      (work x entity).Course c (part ++ [.ended]) (.ok changed) ∧ ∀ event ∈ part, event ∈ events)
      specs entity result := by
  obtain ⟨events, rfl, worked⟩ := chain_ok_worked course
  refine worked.along.imp fun spec entity changed hstep => ?_
  obtain ⟨x, part, hx, hcourse, hpart⟩ := hstep
  exact ⟨x, part, hx, hcourse, fun event h => List.mem_append_left _ (hpart event h)⟩

theorem chain_along {P : Request → Prop} {R : ExtensionSpec → α → α → Prop} (registry : Registry χ)
    (work : χ → Work α) (name : α → String) (specs : List ExtensionSpec)
    (hwork : ∀ spec ∈ specs, ∀ x, registry.resolveSpec spec = .ok x → ∀ entity,
      (work x entity).Ensures P fun r => ∀ changed, r = .ok changed → R spec entity changed)
    (entity : α) :
    (chain registry work name specs entity).Ensures P
      fun r => ∀ changed, r = .ok changed → Along R specs entity changed := by
  induction specs generalizing entity with
  | nil =>
    rintro _ ⟨⟩
    exact .nil entity
  | cons spec rest ih =>
    rw [chain]
    cases hresolve : registry.resolveSpec spec with
    | error error => rintro _ ⟨⟩
    | ok x =>
      refine (hwork spec List.mem_cons_self x hresolve entity).bind fun r hr => ?_
      cases r with
      | error failure => rintro _ ⟨⟩
      | ok changed =>
        have hrest := ih (fun spec hs => hwork spec (List.mem_cons_of_mem _ hs)) changed
        exact hrest.mono (fun _ h => h) fun _ h result hresult =>
          .cons (hr changed rfl) (h result hresult)

/-- A chain of extensions that are all known, ask nothing and do not fail takes the step of every
one of them. -/
theorem exists_along_of_silent {R : ExtensionSpec → α → α → Prop} {registry : Registry χ}
    {work : χ → Work α} (name : α → String) {specs : List ExtensionSpec}
    (hwork : ∀ spec ∈ specs, ∃ x, registry.resolveSpec spec = .ok x ∧
      ∀ entity, ∃ changed, work x entity = .done (.ok changed) ∧ R spec entity changed)
    (entity : α) :
    ∃ changed, chain registry work name specs entity = .done (.ok changed) ∧
      Along R specs entity changed := by
  induction specs generalizing entity with
  | nil => exact ⟨entity, rfl, .nil entity⟩
  | cons spec rest ih =>
    obtain ⟨x, hresolve, hstep⟩ := hwork spec List.mem_cons_self
    obtain ⟨changed, hchanged, step⟩ := hstep entity
    obtain ⟨result, hrest, steps⟩ :=
      ih (fun spec hs => hwork spec (List.mem_cons_of_mem _ hs)) changed
    refine ⟨result, ?_, .cons step steps⟩
    simp only [chain, hresolve, hchanged]
    exact hrest

theorem chain_congr {registry : Registry χ} {work work' : χ → Work α} (name : α → String)
    {specs : List ExtensionSpec}
    (hwork : ∀ spec ∈ specs, ∀ x, registry.resolveSpec spec = .ok x → work x = work' x)
    (entity : α) :
    chain registry work name specs entity = chain registry work' name specs entity := by
  induction specs generalizing entity with
  | nil => rfl
  | cons spec rest ih =>
    rw [chain, chain]
    cases hresolve : registry.resolveSpec spec with
    | error error => rfl
    | ok x =>
      simp only [hwork spec List.mem_cons_self x hresolve]
      congr 1
      funext r
      cases r with
      | error failure => rfl
      | ok changed => exact ih (fun spec hs => hwork spec (List.mem_cons_of_mem _ hs)) changed

/-! ## Collecting results -/

theorem mapM_id_cons (r : Except ε α) (results : List (Except ε α)) :
    (r :: results).mapM id = r.bind fun a => (results.mapM id).map (a :: ·) := by
  rw [List.mapM_cons]
  cases r with
  | error e => rfl
  | ok a => cases results.mapM id <;> rfl

theorem mapM_id_eq_ok_iff {results : List (Except ε α)} {values : List α} :
    results.mapM id = .ok values ↔ results = values.map .ok := by
  induction results generalizing values with
  | nil => cases values <;> simp [pure, Except.pure]
  | cons r results ih =>
    rw [mapM_id_cons]
    cases r with
    | error e => cases values <;> simp [Except.bind]
    | ok a =>
      cases hrest : results.mapM id with
      | error e =>
        rw [hrest] at ih
        cases values <;> simp [Except.bind, Except.map, ← ih]
      | ok rest =>
        rw [hrest] at ih
        cases values <;> simp [Except.bind, Except.map, ← ih]

theorem exists_mapM_id_eq_ok_iff {results : List (Except ε α)} :
    (∃ values, results.mapM id = .ok values) ↔ ∀ r ∈ results, ∃ a, r = .ok a := by
  simp only [mapM_id_eq_ok_iff]
  constructor
  · rintro ⟨values, rfl⟩ r hr
    obtain ⟨a, -, rfl⟩ := List.mem_map.mp hr
    exact ⟨a, rfl⟩
  · intro h
    induction results with
    | nil => exact ⟨[], rfl⟩
    | cons r results ih =>
      obtain ⟨a, rfl⟩ := h r List.mem_cons_self
      obtain ⟨values, rfl⟩ := ih fun r hr => h r (List.mem_cons_of_mem _ hr)
      exact ⟨a :: values, rfl⟩

/-- The first failure in the list stands for all. -/
theorem mapM_id_eq_error_iff {results : List (Except ε α)} {e : ε} :
    results.mapM id = .error e ↔
      ∃ i : Nat, results[i]? = some (.error e) ∧ ∀ j < i, ∃ a, results[j]? = some (.ok a) := by
  induction results with
  | nil => simp [pure, Except.pure]
  | cons r results ih =>
    rw [mapM_id_cons]
    cases r with
    | error first =>
      constructor
      · rintro ⟨⟩
        exact ⟨0, rfl, fun j hj => absurd hj (Nat.not_lt_zero j)⟩
      · rintro ⟨i, hi, hbefore⟩
        cases i with
        | zero => exact congrArg Except.error (Except.error.inj (Option.some.inj hi))
        | succ i =>
          obtain ⟨a, ha⟩ := hbefore 0 (Nat.zero_lt_succ i)
          cases ha
    | ok a =>
      have hcons : (Except.ok a : Except ε α).bind (fun a => (results.mapM id).map (a :: ·)) =
          .error e ↔ results.mapM id = .error e := by
        cases results.mapM id <;> simp [Except.bind, Except.map]
      rw [hcons, ih]
      constructor
      · rintro ⟨i, hi, hbefore⟩
        refine ⟨i + 1, hi, fun j hj => ?_⟩
        cases j with
        | zero => exact ⟨a, rfl⟩
        | succ j => exact hbefore j (Nat.lt_of_succ_lt_succ hj)
      · rintro ⟨i, hi, hbefore⟩
        cases i with
        | zero => cases hi
        | succ i => exact ⟨i, hi, fun j hj => hbefore (j + 1) (Nat.succ_lt_succ hj)⟩

/-! ## Chains side by side -/

theorem chains_eq (c : Collaborators σ) (chainOf : α → Program (Except PipelineError α))
    (entities : List α) (s : σ) :
    let joint := Session.together c (entities.map chainOf) s
    chains c chainOf entities s = ⟨joint.value.mapM id, joint.log, joint.state⟩ := by
  simp [chains]

theorem chains_singleton (c : Collaborators σ) (chainOf : α → Program (Except PipelineError α))
    (entity : α) (s : σ) :
    (chains c chainOf [entity] s).value = (Session.alone c (chainOf entity) s).value.map ([·]) := by
  rw [chains_eq, List.map_singleton, Session.together_singleton, mapM_id_cons]
  cases (Session.alone c (chainOf entity) s).value <;> rfl

theorem chains_keeps {c : Collaborators σ} {P : Request → Prop} {I : World σ → Prop}
    (keeps : c.Keeps P I)
    {chainOf : α → Program (Except PipelineError α)} {entities : List α}
    (hchains : ∀ entity ∈ entities, (chainOf entity).Asks P) {s : σ} (h : I ⟨s, []⟩) :
    I ⟨(chains c chainOf entities s).state, (chains c chainOf entities s).log⟩ := by
  rw [chains_eq]
  refine (Session.together_interleaves c _ s).keeps keeps (fun p hp => ?_) h
  obtain ⟨entity, hentity, rfl⟩ := List.mem_map.mp hp
  exact hchains entity hentity

theorem chains_state_of_silent (c : Collaborators σ)
    {chainOf : α → Program (Except PipelineError α)} {entities : List α}
    (hchains : ∀ entity ∈ entities, (chainOf entity).Asks fun _ => False) (s : σ) :
    (chains c chainOf entities s).state = s := by
  rw [chains_eq]
  exact (Session.together_interleaves c _ s).state_of_silent (List.forall_mem_map.mpr hchains)

/-- In the log of chains side by side, each of them has a course of its own that leads to its
result. -/
structure SideBySide (c : Collaborators σ) (chainOf : α → Program (Except PipelineError α))
    (entities : List α) (log : List LogEntry) (results : List (Except PipelineError α)) : Prop where
  length : results.length = entities.length
  course : ∀ (i : Nat) (entity : α), entities[i]? = some entity → ∃ result,
    results[i]? = some result ∧ (chainOf entity).Course c (eventsOf i log) result
  /-- Nothing else is in the log. -/
  others : ∀ entry ∈ log, entry.task < entities.length

namespace SideBySide

variable {c : Collaborators σ} {chainOf : α → Program (Except PipelineError α)} {entities : List α}
  {log : List LogEntry} {values : List (Except PipelineError α)}

theorem exists_entity (ran : SideBySide c chainOf entities log values) {i : Nat}
    {value : Except PipelineError α} (h : values[i]? = some value) :
    ∃ entity, entities[i]? = some entity ∧
      (chainOf entity).Course c (eventsOf i log) value := by
  have hlt : i < entities.length := ran.length ▸ (List.getElem?_eq_some_iff.mp h).1
  obtain ⟨value', hvalue', course⟩ := ran.course i _ (List.getElem?_eq_getElem hlt)
  obtain rfl := Option.some.inj (h.symm.trans hvalue')
  exact ⟨_, List.getElem?_eq_getElem hlt, course⟩

theorem of_ok (ran : SideBySide c chainOf entities log values) {results : List α}
    (h : values.mapM id = .ok results) :
    results.length = entities.length ∧
      ∀ (i : Nat) (entity : α), entities[i]? = some entity → ∃ result, results[i]? = some result ∧
        (chainOf entity).Course c (eventsOf i log) (.ok result) := by
  obtain rfl := mapM_id_eq_ok_iff.mp h
  refine ⟨(List.length_map ..).symm.trans ran.length, fun i entity hentity => ?_⟩
  obtain ⟨a, ha, course⟩ := ran.course i entity hentity
  rw [List.getElem?_map] at ha
  obtain ⟨result, hresult, rfl⟩ := Option.map_eq_some_iff.mp ha
  exact ⟨result, hresult, course⟩

end SideBySide

theorem Session.Interleaves.sideBySide {c : Collaborators σ}
    {chainOf : α → Program (Except PipelineError α)} {entities : List α} {s : σ}
    {o : Outcome σ (List (Except PipelineError α))}
    (run : Session.Interleaves c (entities.map chainOf) s o) :
    SideBySide c chainOf entities o.log o.value := by
  constructor
  case length => exact run.length_value.trans (List.length_map ..)
  case course =>
    intro i entity hentity
    refine run.course ?_
    rw [List.getElem?_map, hentity]
    rfl
  case others =>
    intro entry hentry
    simpa using run.task_lt hentry

theorem chains_sideBySide (c : Collaborators σ) (chainOf : α → Program (Except PipelineError α))
    (entities : List α) (s : σ) :
    ∃ results, SideBySide c chainOf entities (chains c chainOf entities s).log results ∧
      (chains c chainOf entities s).value = results.mapM id := by
  rw [chains_eq]
  exact ⟨_, (Session.together_interleaves c (entities.map chainOf) s).sideBySide, rfl⟩

theorem chains_ok_course {c : Collaborators σ} {chainOf : α → Program (Except PipelineError α)}
    {entities results : List α} {s : σ} (h : (chains c chainOf entities s).value = .ok results) :
    results.length = entities.length ∧
      ∀ i entity, entities[i]? = some entity → ∃ result, results[i]? = some result ∧
        (chainOf entity).Course c (eventsOf i (chains c chainOf entities s).log) (.ok result) := by
  obtain ⟨values, ran, hvalue⟩ := chains_sideBySide c chainOf entities s
  exact ran.of_ok (hvalue.symm.trans h)

/-- If the chains succeed, each result is related to its entity as every course of the chain is that
is found in the log. -/
theorem chains_ok_forall₂ {c : Collaborators σ} {chainOf : α → Program (Except PipelineError α)}
    {entities results : List α} {s : σ} {R : α → α → Prop}
    (h : (chains c chainOf entities s).value = .ok results)
    (hcourse : ∀ entity ∈ entities, ∀ events result,
      (∀ event ∈ events, ∃ task, ⟨task, event⟩ ∈ (chains c chainOf entities s).log) →
        (chainOf entity).Course c events (.ok result) → R entity result) :
    List.Forall₂ R entities results := by
  obtain ⟨hlength, hcourses⟩ := chains_ok_course h
  refine List.forall₂_iff_get.mpr ⟨hlength.symm, fun i hi hi' => ?_⟩
  obtain ⟨result, hresult, course⟩ := hcourses i _ (List.getElem?_eq_getElem hi)
  obtain rfl := Option.some.inj ((List.getElem?_eq_getElem hi').symm.trans hresult)
  exact hcourse _ (List.getElem_mem hi) _ _ (fun event hevent => ⟨i, mem_eventsOf.mp hevent⟩) course

/-- If the chains succeed, each result is related to its entity as the chain ensures. -/
theorem chains_ok_ensures {c : Collaborators σ} {P : Request → Prop} {R : α → α → Prop}
    {chainOf : α → Program (Except PipelineError α)} {entities results : List α} {s : σ}
    (h : (chains c chainOf entities s).value = .ok results)
    (hchains : ∀ entity ∈ entities, (chainOf entity).Ensures P
      fun r => ∀ changed, r = .ok changed → R entity changed) :
    List.Forall₂ R entities results :=
  chains_ok_forall₂ h fun entity hentity _ result _ course =>
    course.ensures (hchains entity hentity) result rfl

theorem chains_congr (c : Collaborators σ) {chainOf chainOf' : α → Program (Except PipelineError α)}
    {entities : List α} (h : ∀ entity ∈ entities, chainOf entity = chainOf' entity) :
    chains c chainOf entities = chains c chainOf' entities := by
  rw [chains, chains, List.map_congr_left h]

end ServiceBroker
