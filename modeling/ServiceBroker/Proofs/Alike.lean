import ServiceBroker.Proofs.Chain

/-!
Programs that make the same calls although the secrets they get differ. An answer tells a program
whether its request has failed and how; a program is alike to another one if nothing else in the
answers decides on what they ask. Then their courses look the same once the secrets are left out.
-/

namespace ServiceBroker

variable {σ τ α β χ ε : Type}

def Request.withoutSecret : Request → Request
  | .createClient client => .createClient { client with clientSecret := "" }
  | r => r

def Answer.failure? {r : Request} : Answer r → Option Failure
  | .error failure => some failure
  | .ok _ => none

/-- Whether the request fails, and how, is settled before it is answered, whatever secret it
carries. When the answer comes, and what a successful one holds, are left open. -/
def Collaborators.FailsAs (c : Collaborators σ) (outcome : Request → Option Failure) (r : Request) :
    Prop :=
  ∀ s, Answer.failure? (c.answer r s).1 = outcome r.withoutSecret

/-- What shows of an event when the secrets are left out. -/
inductive Sign where
  | issued (request : Request)
  | answered (request : Request) (failure : Option Failure)
  | ended

def Event.sign : Event → Sign
  | .issued r => .issued r.withoutSecret
  | .answered r answer => .answered r.withoutSecret (Answer.failure? answer)
  | .ended => .ended

inductive SameResult (R : α → β → Prop) : Except ε α → Except ε β → Prop where
  | error (e : ε) : SameResult R (.error e) (.error e)
  | ok {a : α} {b : β} (related : R a b) : SameResult R (.ok a) (.ok b)

namespace SameResult

variable {R R' : α → β → Prop} {x : Except ε α} {y : Except ε β}

theorem refl {R : α → α → Prop} (hR : ∀ a, R a a) (x : Except ε α) : SameResult R x x := by
  cases x with
  | error e => exact .error e
  | ok a => exact .ok (hR a)

theorem mono (h : SameResult R x y) (hR : ∀ a b, R a b → R' a b) : SameResult R' x y := by
  cases h with
  | error e => exact .error e
  | ok related => exact .ok (hR _ _ related)

theorem error_iff (h : SameResult R x y) (e : ε) : x = .error e ↔ y = .error e := by
  cases h with
  | error e' => exact Iff.intro (fun h => by cases h; rfl) fun h => by cases h; rfl
  | ok related => exact Iff.intro (fun h => nomatch h) fun h => nomatch h

theorem ok_iff (h : SameResult R x y) : (∃ a, x = .ok a) ↔ ∃ b, y = .ok b := by
  cases h with
  | error e => exact Iff.intro (fun ⟨_, h⟩ => nomatch h) fun ⟨_, h⟩ => nomatch h
  | ok related => exact Iff.intro (fun _ => ⟨_, rfl⟩) fun _ => ⟨_, rfl⟩

end SameResult

/-- The programs make the same calls but for the secrets, and end with related values, as long as
their requests fail in the same way. -/
inductive Program.Alike (R : α → β → Prop) : Program α → Program β → Prop where
  | done {a : α} {b : β} (related : R a b) : Alike R (.done a) (.done b)
  | call {r r' : Request} {next : Answer r → Program α} {next' : Answer r' → Program β}
      (request : r.withoutSecret = r'.withoutSecret)
      (rest : ∀ answer answer', Answer.failure? answer = Answer.failure? answer' →
        Alike R (next answer) (next' answer')) :
      Alike R (.call r next) (.call r' next')

namespace Program

variable {R : α → β → Prop}

theorem Alike.bind {γ δ : Type} {S : γ → δ → Prop} {p : Program α} {q : Program β}
    {f : α → Program γ} {g : β → Program δ} (h : p.Alike R q)
    (hf : ∀ a b, R a b → (f a).Alike S (g b)) : (p.bind f).Alike S (q.bind g) := by
  induction h with
  | done related => exact hf _ _ related
  | call request _ ih => exact .call request ih

theorem alike_ask_andThen {r r' : Request} {f : Response r → Program (Except Failure α)}
    {g : Response r' → Program (Except Failure β)} (hr : r.withoutSecret = r'.withoutSecret)
    (hf : ∀ response response', (f response).Alike (SameResult R) (g response')) :
    ((ask r).andThen f).Alike (SameResult R) ((ask r').andThen g) := by
  refine .call hr fun answer answer' hsame => ?_
  cases answer with
  | error failure =>
    cases answer' with
    | error failure' =>
      obtain rfl := Option.some.inj hsame
      exact .done (.error failure)
    | ok response' => cases hsame
  | ok response =>
    cases answer' with
    | error failure' => cases hsame
    | ok response' => exact hf response response'

/-- If their requests fail in the same way, the courses of programs that are alike show the same,
and lead to related values. -/
theorem Alike.course {c : Collaborators σ} {d : Collaborators τ}
    {outcome : Request → Option Failure} {p : Program α} {q : Program β} (h : p.Alike R q)
    (hp : p.Asks (c.FailsAs outcome)) (hq : q.Asks (d.FailsAs outcome))
    {events events' : List Event} {a : α} {b : β} (course : p.Course c events a)
    (course' : q.Course d events' b) :
    events.map Event.sign = events'.map Event.sign ∧ R a b := by
  induction h generalizing events events' with
  | done related =>
    cases course
    cases course'
    exact ⟨rfl, related⟩
  | @call r r' next next' request _ ih =>
    cases course with
    | call s rest =>
      cases course' with
      | call t rest' =>
        have hfailure : Answer.failure? (c.answer r s).1 = Answer.failure? (d.answer r' t).1 := by
          rw [hp.1 s, hq.1 t, request]
        obtain ⟨hsigns, hab⟩ := ih _ _ hfailure (hp.2 _) (hq.2 _) rest rest'
        refine ⟨?_, hab⟩
        simp only [List.map_cons, Event.sign, request, hfailure, hsigns]

end Program

theorem chain_alike {I : α → α → Prop} (registry : Registry χ) (work : χ → Work α)
    {name : α → String}
    (hname : ∀ entity entity', I entity entity' → name entity = name entity')
    (specs : List ExtensionSpec)
    (hwork : ∀ spec ∈ specs, ∀ x, registry.resolveSpec spec = .ok x → ∀ entity entity',
      I entity entity' → (work x entity).Alike (SameResult I) (work x entity'))
    {entity entity' : α} (h : I entity entity') :
    (chain registry work name specs entity).Alike (SameResult I)
      (chain registry work name specs entity') := by
  induction specs generalizing entity entity' with
  | nil => exact .done (.ok h)
  | cons spec rest ih =>
    rw [chain, chain]
    cases hresolve : registry.resolveSpec spec with
    | error error => exact .done (.error _)
    | ok x =>
      refine (hwork spec List.mem_cons_self x hresolve entity entity' h).bind fun r r' hr => ?_
      cases hr with
      | error failure =>
        rw [hname entity entity' h]
        exact .done (.error _)
      | ok related =>
        exact ih (fun spec hs => hwork spec (List.mem_cons_of_mem _ hs)) related

/-! ## Side by side -/

open Session (alone)

/-- Chains side by side make the calls that each of them makes alone, and fail or succeed as they
do. -/
structure CallsLikeAlone (c : Collaborators σ) (d : Collaborators τ)
    (chainOf : α → Program (Except PipelineError α)) (entities : List α) (t : τ)
    (log : List LogEntry) (value : Except PipelineError (List α)) : Prop where
  /-- They succeed if every chain succeeds alone. -/
  ok_iff : (∃ results, value = .ok results) ↔
    ∀ entity ∈ entities, ∃ changed, (alone d (chainOf entity) t).value = .ok changed
  /-- The results are what the chains have come to, in the order of the entities. -/
  results : ∀ results, value = .ok results → results.length = entities.length ∧
    ∀ (i : Nat) (entity : α), entities[i]? = some entity → ∃ result, results[i]? = some result ∧
      (chainOf entity).Course c (eventsOf i log) (.ok result)
  /-- Otherwise they fail like the first of the entities whose chains fail alone. -/
  error_iff : ∀ error, value = .error error ↔
    ∃ (i : Nat) (entity : α), entities[i]? = some entity ∧
      (alone d (chainOf entity) t).value = .error error ∧
      ∀ j < i, ∃ other changed, entities[j]? = some other ∧
        (alone d (chainOf other) t).value = .ok changed
  /-- Every chain calls for the same and fails the same as it does alone, to its own end. -/
  calls : ∀ (i : Nat) (entity : α), entities[i]? = some entity →
    (eventsOf i log).map Event.sign =
        (eventsOf 0 (alone d (chainOf entity) t).log).map Event.sign ∧
      (eventsOf i log).getLast? = some .ended
  /-- Nothing else happens. -/
  others : ∀ entry ∈ log, entry.task < entities.length

theorem SideBySide.callsLikeAlone {c : Collaborators σ} {d : Collaborators τ}
    {chainOf : α → Program (Except PipelineError α)} {entities : List α} {log : List LogEntry}
    {values : List (Except PipelineError α)} (ran : SideBySide c chainOf entities log values)
    {R : α → α → Prop} (t : τ)
    (halike : ∀ entity ∈ entities, ∀ events value,
      (chainOf entity).Course c events value →
        let outcome := alone d (chainOf entity) t
        events.map Event.sign = (eventsOf 0 outcome.log).map Event.sign ∧
          SameResult R value outcome.value) :
    CallsLikeAlone c d chainOf entities t log (values.mapM id) := by
  have hsame : ∀ (i : Nat) (entity : α), entities[i]? = some entity → ∃ value,
      values[i]? = some value ∧ (chainOf entity).Course c (eventsOf i log) value ∧
      (eventsOf i log).map Event.sign =
        (eventsOf 0 (alone d (chainOf entity) t).log).map Event.sign ∧
      SameResult R value (alone d (chainOf entity) t).value := by
    intro i entity hentity
    obtain ⟨value, hvalue, course⟩ := ran.course i entity hentity
    obtain ⟨hsigns, hresult⟩ := halike entity (List.mem_of_getElem? hentity) _ value course
    exact ⟨value, hvalue, course, hsigns, hresult⟩
  have hback : ∀ (i : Nat) (value : Except PipelineError α), values[i]? = some value →
      ∃ entity, entities[i]? = some entity ∧
        SameResult R value (alone d (chainOf entity) t).value := by
    intro i value hvalue
    obtain ⟨entity, hentity, -⟩ := ran.exists_entity hvalue
    obtain ⟨value', hvalue', -, -, hresult⟩ := hsame i entity hentity
    obtain rfl := Option.some.inj (hvalue.symm.trans hvalue')
    exact ⟨entity, hentity, hresult⟩
  constructor
  case ok_iff =>
    rw [exists_mapM_id_eq_ok_iff]
    constructor
    · intro hall entity hentity
      obtain ⟨i, hi⟩ := List.getElem?_of_mem hentity
      obtain ⟨value, hvalue, -, -, hresult⟩ := hsame i entity hi
      exact hresult.ok_iff.mp (hall value (List.mem_of_getElem? hvalue))
    · intro hall value hmem
      obtain ⟨i, hi⟩ := List.getElem?_of_mem hmem
      obtain ⟨entity, hentity, hresult⟩ := hback i value hi
      exact hresult.ok_iff.mpr (hall entity (List.mem_of_getElem? hentity))
  case results => exact fun results hresults => ran.of_ok hresults
  case error_iff =>
    intro error
    rw [mapM_id_eq_error_iff]
    constructor
    · rintro ⟨i, hi, hbefore⟩
      obtain ⟨entity, hentity, hresult⟩ := hback i _ hi
      refine ⟨i, entity, hentity, (hresult.error_iff error).mp rfl, fun j hj => ?_⟩
      obtain ⟨a, ha⟩ := hbefore j hj
      obtain ⟨other, hother, hresult⟩ := hback j _ ha
      obtain ⟨changed, hchanged⟩ := hresult.ok_iff.mp ⟨a, rfl⟩
      exact ⟨other, changed, hother, hchanged⟩
    · rintro ⟨i, entity, hentity, herror, hbefore⟩
      obtain ⟨value, hvalue, -, -, hresult⟩ := hsame i entity hentity
      obtain rfl := (hresult.error_iff error).mpr herror
      refine ⟨i, hvalue, fun j hj => ?_⟩
      obtain ⟨other, changed, hother, hok⟩ := hbefore j hj
      obtain ⟨value, hvalue, -, -, hresult⟩ := hsame j other hother
      obtain ⟨a, rfl⟩ := hresult.ok_iff.mpr ⟨changed, hok⟩
      exact ⟨a, hvalue⟩
  case calls =>
    intro i entity hentity
    obtain ⟨value, -, course, hsigns, -⟩ := hsame i entity hentity
    exact ⟨hsigns, course.ends⟩
  case others => exact ran.others

end ServiceBroker
