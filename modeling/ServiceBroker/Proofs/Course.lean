import ServiceBroker.Proofs.Invariant

/-!
The course of one program: the events of its run from beginning to end. In a run of several programs
the events of each one form a course of that program, so what holds of every course holds of its
part in the joint log.
-/

namespace ServiceBroker

variable {σ α β ε : Type}

/-- A course of a program and the value it leads to. The collaborators may be in any state whenever
they answer, since other programs may have changed it in between. -/
inductive Program.Course (c : Collaborators σ) : Program α → List Event → α → Prop where
  | done (a : α) : Course c (.done a) [.ended] a
  | call {r : Request} {next : Answer r → Program α} {events : List Event} {a : α} (s : σ)
      (rest : Course c (next (c.answer r s).1) events a) :
      Course c (.call r next) (.issued r :: .answered r (c.answer r s).1 :: events) a

inductive Stage.Course (c : Collaborators σ) : Stage α → List Event → α → Prop where
  | ready {p : Program α} {events : List Event} {a : α} (course : p.Course c events a) :
      Course c (.ready p) events a
  | waiting {r : Request} {next : Answer r → Program α} {events : List Event} {a : α} (s : σ)
      (rest : (next (c.answer r s).1).Course c events a) :
      Course c (.waiting r next) (.answered r (c.answer r s).1 :: events) a
  | ended (a : α) : Course c (.ended a) [] a

namespace Program.Course

variable {c : Collaborators σ}

/-- A course ends with the end of the program, and with nothing else. -/
theorem ends {p : Program α} {events : List Event} {a : α} (course : p.Course c events a) :
    events.getLast? = some .ended := by
  induction course with
  | done a => rfl
  | call s _ ih =>
    rw [List.getLast?_cons, List.getLast?_cons, ih]
    rfl

theorem ensures {P : Request → Prop} {Q : α → Prop} {p : Program α} {events : List Event} {a : α}
    (course : p.Course c events a) (h : p.Ensures P Q) : Q a := by
  induction course with
  | done a => exact h
  | call s _ ih => exact ih (h.2 _)

theorem asks {P : Request → Prop} {p : Program α} {events : List Event} {a : α}
    (course : p.Course c events a) (h : p.Asks P) {r : Request}
    (hr : .issued r ∈ events) : P r := by
  induction course with
  | done a => simp at hr
  | call s _ ih =>
    simp only [List.mem_cons, Event.issued.injEq, reduceCtorEq, false_or] at hr
    rcases hr with rfl | hr
    · exact h.1
    · exact ih (h.2 _) hr

theorem answered_by {p : Program α} {events : List Event} {a : α} (course : p.Course c events a)
    {r : Request} {answer : Answer r} (h : .answered r answer ∈ events) :
    ∃ s, (c.answer r s).1 = answer := by
  induction course with
  | done a => simp at h
  | call s _ ih =>
    rcases List.mem_cons.mp h with h | h
    · cases h
    · rcases List.mem_cons.mp h with h | h
      · cases h
        exact ⟨s, rfl⟩
      · exact ih h

/-- A course of a program that goes on after another one splits into courses of both. -/
theorem of_bind {p : Program α} {f : α → Program β} {events : List Event} {b : β}
    (course : (p.bind f).Course c events b) :
    ∃ a before after, p.Course c (before ++ [.ended]) a ∧ (f a).Course c after b ∧
      events = before ++ after := by
  induction p generalizing events with
  | done a => exact ⟨a, [], events, .done a, course, rfl⟩
  | call r next ih =>
    cases course with
    | call s rest =>
      obtain ⟨a, before, after, hp, hf, rfl⟩ := ih _ rest
      exact ⟨a, _ :: _ :: before, after, .call s hp, hf, rfl⟩

theorem bind {p : Program α} {f : α → Program β}
    {events before after : List Event} {a : α} {b : β} (course : p.Course c events a)
    (hevents : events = before ++ [.ended]) (rest : (f a).Course c after b) :
    (p.bind f).Course c (before ++ after) b := by
  induction course generalizing before with
  | done a =>
    obtain rfl : before = [] := by simpa using hevents
    exact rest
  | call s _ ih =>
    cases before with
    | nil => cases hevents
    | cons issued before =>
      cases before with
      | nil => cases hevents
      | cons answered before =>
        simp only [List.cons_append, List.cons.injEq] at hevents
        obtain ⟨rfl, rfl, hevents⟩ := hevents
        exact .call s (ih hevents rest)

/-- A course tells which request the program makes and how it goes on with the answer. -/
theorem exists_call {p : Program α} {r : Request} {answer : Answer r} {events : List Event} {a : α}
    (course : p.Course c (.issued r :: .answered r answer :: events) a) :
    ∃ next, p = .call r next ∧ (next answer).Course c events a := by
  generalize hall : Event.issued r :: .answered r answer :: events = all at course
  cases course with
  | done a => cases hall
  | call s rest =>
    simp only [List.cons.injEq, Event.issued.injEq] at hall
    obtain ⟨rfl, hanswer, rfl⟩ := hall
    simp only [Event.answered.injEq, heq_eq_eq, true_and] at hanswer
    exact ⟨_, rfl, hanswer ▸ rest⟩

theorem of_ask_andThen {r : Request} {f : Response r → Program (Except Failure α)}
    {events : List Event} {a : Except Failure α}
    (course : ((ask r).andThen f).Course c events a) :
    (∃ failure, a = .error failure ∧ events = [.issued r, .answered r (.error failure), .ended]) ∨
      ∃ response after, (f response).Course c after a ∧
        events = .issued r :: .answered r (.ok response) :: after := by
  cases course with
  | call s rest =>
    cases hanswer : (c.answer r s).1 with
    | error failure =>
      rw [hanswer] at rest
      cases rest
      exact .inl ⟨failure, rfl, rfl⟩
    | ok response =>
      rw [hanswer] at rest
      exact .inr ⟨response, _, rest, rfl⟩

end Program.Course

/-- Both groups of collaborators give the same answer to a request at all times. -/
def Collaborators.Agree {τ : Type} (c : Collaborators σ) (d : Collaborators τ)
    (r : Request) : Prop :=
  ∀ s t, (c.answer r s).1 = (d.answer r t).1

def Program.Steady (c : Collaborators σ) (p : Program α) : Prop := p.Asks (c.Agree c)

/-- Where the answers do not depend on the state, a program has one course only. -/
theorem Program.Course.deterministic {τ : Type} {c : Collaborators σ} {d : Collaborators τ}
    {p : Program α} (hp : p.Asks (c.Agree d)) {events events' : List Event} {a a' : α}
    (h : p.Course c events a) (h' : p.Course d events' a') :
    events = events' ∧ a = a' := by
  induction h generalizing events' with
  | done a =>
    cases h'
    exact ⟨rfl, rfl⟩
  | call s _ ih =>
    cases h' with
    | call t rest' =>
      rw [← hp.1 s t] at rest' ⊢
      obtain ⟨rfl, ha⟩ := ih (hp.2 _) rest'
      exact ⟨rfl, ha⟩

def eventsOf (task : Nat) (log : List LogEntry) : List Event :=
  log.filterMap fun entry => if entry.task = task then some entry.event else none

@[simp] theorem eventsOf_nil (task : Nat) : eventsOf task [] = [] := rfl

@[simp] theorem eventsOf_append (task : Nat) (log more : List LogEntry) :
    eventsOf task (log ++ more) = eventsOf task log ++ eventsOf task more :=
  List.filterMap_append ..

theorem eventsOf_self (task : Nat) (event : Event) : eventsOf task [⟨task, event⟩] = [event] := by
  simp [eventsOf]

theorem eventsOf_other {task other : Nat} (h : other ≠ task) (event : Event) :
    eventsOf task [⟨other, event⟩] = [] := by
  simp [eventsOf, h]

theorem mem_eventsOf {task : Nat} {log : List LogEntry} {event : Event} :
    event ∈ eventsOf task log ↔ ⟨task, event⟩ ∈ log := by
  simp only [eventsOf, List.mem_filterMap, Option.ite_none_right_eq_some, Option.some.injEq]
  constructor
  · rintro ⟨⟨_, _⟩, hmem, rfl, rfl⟩
    exact hmem
  · intro hmem
    exact ⟨_, hmem, rfl, rfl⟩

namespace Schedule

variable {c : Collaborators σ} {task : Nat}

/-- A move adds one event to the log, and that event comes before the course that is left. -/
theorem Move.course {t t' : Stage α} {w w' : World σ} (move : Move c task t w t' w') :
    ∃ event, w'.log = w.log ++ [⟨task, event⟩] ∧
      ∀ events a, t'.Course c events a → t.Course c (event :: events) a := by
  cases move with
  | issue r next =>
    refine ⟨.issued r, rfl, ?_⟩
    rintro _ a ⟨⟩
    exact .ready (.call _ ‹_›)
  | settle r next =>
    refine ⟨.answered r _, rfl, ?_⟩
    rintro events a ⟨course⟩
    exact .waiting w.state course
  | finish a =>
    refine ⟨.ended, rfl, ?_⟩
    rintro _ _ ⟨⟩
    exact .ready (.done a)

/-- The events of a step are those of the program that moved. -/
theorem Step.course {stages stages' : List (Stage α)} {w w' : World σ}
    (step : Step c task (stages, w) (stages', w')) :
    stages'.length = stages.length ∧
      (∀ entry ∈ w'.log, entry ∈ w.log ∨ entry.task < task + stages.length) ∧
      ∀ i t, stages[i]? = some t → ∃ t' events, stages'[i]? = some t' ∧
        eventsOf (task + i) w'.log = eventsOf (task + i) w.log ++ events ∧
        ∀ rest a, t'.Course c rest a → t.Course c (events ++ rest) a := by
  obtain ⟨before, after, move⟩ := step
  obtain ⟨event, hlog, hcourse⟩ := move.course
  refine ⟨by simp, fun entry hentry => ?_, fun i t ht => ?_⟩
  · rw [hlog, List.mem_append, List.mem_singleton] at hentry
    rcases hentry with hold | rfl
    · exact .inl hold
    · refine .inr ?_
      simp only [List.length_append, List.length_cons]
      omega
  · rw [hlog, eventsOf_append]
    by_cases hi : i = before.length
    · subst hi
      have ht' := (List.getElem?_append_right (Nat.le_refl before.length)).symm.trans ht
      simp only [Nat.sub_self, List.getElem?_cons_zero, Option.some.injEq] at ht'
      subst ht'
      exact ⟨_, [event], by simp, by rw [eventsOf_self], hcourse⟩
    · refine ⟨t, [], ?_, ?_, fun rest a h => h⟩
      · rw [← ht]
        grind
      · rw [eventsOf_other (by omega), List.append_nil]

/-- From any stage on, the events of each program are the rest of a course of it. -/
theorem Steps.course {x y : List (Stage α) × World σ} {values : List α}
    (steps : Steps c task x y) (hy : y.1 = values.map .ended) :
    values.length = x.1.length ∧
      (∀ entry ∈ y.2.log, entry ∈ x.2.log ∨ entry.task < task + x.1.length) ∧
      ∀ i t, x.1[i]? = some t → ∃ a events, values[i]? = some a ∧ t.Course c events a ∧
        eventsOf (task + i) y.2.log = eventsOf (task + i) x.2.log ++ events := by
  induction steps using Relation.ReflTransGen.head_induction_on with
  | refl =>
    refine ⟨by simp [hy], fun entry h => .inl h, fun i t ht => ?_⟩
    rw [hy, List.getElem?_map] at ht
    obtain ⟨a, ha, rfl⟩ := Option.map_eq_some_iff.mp ht
    exact ⟨a, [], ha, .ended a, (List.append_nil _).symm⟩
  | head step _ ih =>
    obtain ⟨hlength, hentries, hstages⟩ := step.course
    obtain ⟨ihlength, ihentries, ihstages⟩ := ih
    refine ⟨ihlength.trans hlength, fun entry h => ?_, fun i t ht => ?_⟩
    · rcases ihentries entry h with h | h
      · exact hentries entry h
      · exact .inr (hlength ▸ h)
    · obtain ⟨t', events, ht', hevents, hcourse⟩ := hstages i t ht
      obtain ⟨a, rest, ha, hrest, hall⟩ := ihstages i t' ht'
      refine ⟨a, events ++ rest, ha, hcourse rest a hrest, ?_⟩
      rw [hall, hevents, List.append_assoc]

end Schedule

namespace Session

namespace Interleaves

variable {c : Collaborators σ} {programs : List (Program α)} {s : σ} {o : Outcome σ (List α)}

/-- The events of each program are a course of it that leads to its value. -/
theorem course (run : Interleaves c programs s o) {i : Nat} {p : Program α}
    (hp : programs[i]? = some p) :
    ∃ a, o.value[i]? = some a ∧ p.Course c (eventsOf i o.log) a := by
  obtain ⟨-, -, hstages⟩ := Schedule.Steps.course run rfl
  have hready : (programs.map Stage.ready)[i]? = some (.ready p) := by
    rw [List.getElem?_map, hp]
    rfl
  obtain ⟨a, events, ha, hcourse, hevents⟩ := hstages i _ hready
  rw [Nat.zero_add, eventsOf_nil, List.nil_append] at hevents
  obtain ⟨hcourse⟩ := hcourse
  exact ⟨a, ha, hevents ▸ hcourse⟩

theorem length_value (run : Interleaves c programs s o) : o.value.length = programs.length := by
  obtain ⟨hlength, -, -⟩ := Schedule.Steps.course run rfl
  exact hlength.trans (List.length_map ..)

/-- Nobody but the programs of a run has events in its log. -/
theorem task_lt (run : Interleaves c programs s o) {entry : LogEntry} (h : entry ∈ o.log) :
    entry.task < programs.length := by
  obtain ⟨-, hentries, -⟩ := Schedule.Steps.course run rfl
  rcases hentries entry h with h | h
  · cases h
  · simpa using h

end Interleaves

theorem alone_course (c : Collaborators σ) (p : Program α) (s : σ) :
    p.Course c (eventsOf 0 (alone c p s).log) (alone c p s).value := by
  obtain ⟨a, ha, hcourse⟩ := (together_interleaves c [p] s).course (i := 0) rfl
  rw [together_singleton] at ha hcourse
  obtain rfl := Option.some.inj ha
  exact hcourse

theorem eventsOf_alone (c : Collaborators σ) (p : Program α) (s : σ) :
    eventsOf 0 (alone c p s).log = (alone c p s).log.map LogEntry.event := by
  have htask : ∀ entry ∈ (alone c p s).log, entry.task = 0 := by
    intro entry hentry
    have hlt : entry.task < [p].length :=
      (together_interleaves c [p] s).task_lt (by rw [together_singleton]; exact hentry)
    exact Nat.lt_one_iff.mp hlt
  rw [eventsOf, ← List.filterMap_eq_map]
  exact List.filterMap_congr fun entry hentry => if_pos (htask entry hentry)

/-- A program that can take the course which another one has taken alone does so. -/
theorem alone_eq_of_course {c : Collaborators σ} {p : Program α} {q : Program β} {s : σ} {b : β}
    (course : q.Course c ((alone c p s).log.map LogEntry.event) b) :
    alone c q s = ⟨b, (alone c p s).log, (alone c p s).state⟩ := by
  induction p generalizing q s with
  | done a =>
    cases course
    rfl
  | call r next ih =>
    rw [alone_call] at course ⊢
    obtain ⟨next', rfl, rest⟩ := course.exists_call
    rw [alone_call, ih _ rest]

/-- Where the answers do not depend on the state, each of several programs has the value that it has
alone, and takes the same course, however they are interleaved and whatever the times of the answers
are. -/
theorem Interleaves.eq_alone {τ : Type} {c : Collaborators σ} {d : Collaborators τ}
    {programs : List (Program α)} {s : σ} {o : Outcome σ (List α)}
    (run : Interleaves c programs s o) (hprograms : ∀ p ∈ programs, p.Asks (c.Agree d)) (t : τ) :
    o.value = programs.map (fun p => (alone d p t).value) ∧
      ∀ i p, programs[i]? = some p → eventsOf i o.log = eventsOf 0 (alone d p t).log := by
  have hcourse : ∀ i p, programs[i]? = some p →
      o.value[i]? = some (alone d p t).value ∧
        eventsOf i o.log = eventsOf 0 (alone d p t).log := by
    intro i p hp
    obtain ⟨a, ha, course⟩ := run.course hp
    obtain ⟨hevents, rfl⟩ :=
      course.deterministic (hprograms p (List.mem_of_getElem? hp)) (alone_course d p t)
    exact ⟨ha, hevents⟩
  refine ⟨List.ext_getElem? fun i => ?_, fun i p hp => (hcourse i p hp).2⟩
  rw [List.getElem?_map]
  cases hp : programs[i]? with
  | none =>
    rw [List.getElem?_eq_none_iff] at hp
    exact List.getElem?_eq_none (by rw [run.length_value]; exact hp)
  | some p => exact (hcourse i p hp).1

end Session

end ServiceBroker
