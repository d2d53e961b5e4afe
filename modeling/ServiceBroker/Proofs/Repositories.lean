import Mathlib.Data.Finset.Card
import ServiceBroker.Proofs.Registry

/-!
The two repositories of a broker as one map, from service instances and bindings to what was last
saved for them. The calls of all clients come in some order; whatever it is, the map is determined
by the calls before, and a call for one key has no part in what is recorded for another.
-/

namespace ServiceBroker

/-! ## What was saved last -/

namespace StateEvent

def Saves (event : StateEvent) (key : StateKey) : Prop :=
  ∃ state description now, event.call = .save key state description now

def Removes (event : StateEvent) (key : StateKey) : Prop :=
  event.call = .remove key ∧ event.result.isOk

end StateEvent

/-- The state and the description were the last ones saved for the key, and they have not been
removed since. -/
def LastSaved (key : StateKey) (state : OperationState) (description : String)
    (events : List StateEvent) : Prop :=
  ∃ before after now result, events = before ++ ⟨.save key state description now, result⟩ :: after ∧
    ∀ event ∈ after, ¬event.Saves key ∧ ¬event.Removes key

/-! ## One repository -/

/-- The size of a table is the number of keys that it knows. -/
theorem Table.exists_keys {κ α : Type} [DecidableEq κ] (table : Table κ α) :
    ∃ keys : Finset κ, table.size = keys.card ∧ ∀ key, key ∈ keys ↔ (table.get? key).isSome := by
  refine ⟨(table.entries.map (·.1)).toFinset, ?_, fun key => ?_⟩
  · rw [List.toFinset_card_of_nodup table.nodup_keys, List.length_map]
    rfl
  · rw [List.mem_toFinset, ← Table.isSome_get?_iff]

namespace Repository

variable {κ : Type} [DecidableEq κ] (repository : Repository κ) (key other : κ)

theorem get_save (now : Instant) (state : OperationState) (description : String) :
    (repository.save now key state description).2.get other =
      if other = key then .ok ⟨state, description, now⟩ else repository.get other := by
  simp only [get, save, Table.get?_put]
  by_cases h : other = key
  · rw [if_pos h, if_pos h]
  · rw [if_neg h, if_neg h]

theorem remove_fst : (repository.remove key).1 = repository.get key := by
  rw [remove]
  split <;> simp_all

theorem get_remove :
    (repository.remove key).2.get other =
      if other = key then .error (repository.missing key) else repository.get other := by
  rw [remove]
  cases hget : repository.get key with
  | ok record =>
    simp only [get, Table.get?_erase]
    by_cases h : other = key
    · rw [if_pos h, if_pos h, h]
    · rw [if_neg h, if_neg h]
  | error e =>
    by_cases h : other = key
    · subst h
      rw [if_pos rfl]
      simp only [get] at hget ⊢
      split <;> simp_all
    · rw [if_neg h]

theorem remove_of_error {e : StateError} (h : (repository.remove key).1 = .error e) :
    (repository.remove key).2 = repository := by
  rw [remove_fst] at h
  rw [remove, h]

theorem exists_keys :
    ∃ keys : Finset κ, repository.size = keys.card ∧
      ∀ key, key ∈ keys ↔ (repository.get key).isOk := by
  obtain ⟨keys, hsize, hkeys⟩ := repository.table.exists_keys
  refine ⟨keys, hsize, fun key => ?_⟩
  rw [hkeys, get]
  cases repository.table.get? key <;> simp [Except.isOk, Except.toBool]

end Repository

namespace Broker

variable (broker : Broker)

/-- The repositories name the keys that they miss. -/
structure NamesMissing : Prop where
  instances : broker.instances.missing = .unknownInstance
  bindings : broker.bindings.missing = .unknownBinding

/-! ## One call -/

theorem getState_saveState (now : Instant) (key other : StateKey) (state : OperationState)
    (description : String) :
    (broker.saveState now key state description).2.getState other =
      if other = key then .ok ⟨state, description, now⟩ else broker.getState other := by
  cases key <;> cases other <;> simp [saveState, getState, Repository.get_save]

theorem removeState_fst (key : StateKey) : (broker.removeState key).1 = broker.getState key := by
  cases key
  · exact broker.instances.remove_fst _
  · exact broker.bindings.remove_fst _

theorem removeState_of_error {key : StateKey} {e : StateError}
    (h : (broker.removeState key).1 = .error e) : (broker.removeState key).2 = broker := by
  cases key
  · simp only [removeState] at h ⊢
    rw [broker.instances.remove_of_error _ h]
  · simp only [removeState] at h ⊢
    rw [broker.bindings.remove_of_error _ h]

variable {broker}

theorem NamesMissing.getState_removeState (names : broker.NamesMissing) (key other : StateKey) :
    (broker.removeState key).2.getState other =
      if other = key then .error key.missing else broker.getState other := by
  cases key <;> cases other <;>
    simp [removeState, getState, Repository.get_remove, StateKey.missing, names.instances,
      names.bindings]

theorem NamesMissing.serve (names : broker.NamesMissing) (call : StateCall) :
    (broker.serve call).2.NamesMissing := by
  have hremove : ∀ {κ : Type} [DecidableEq κ] (repository : Repository κ) (key : κ),
      (repository.remove key).2.missing = repository.missing := by
    intro κ _ repository key
    rw [Repository.remove]
    split <;> rfl
  cases call with
  | get key => exact names
  | save key state description now =>
    cases key
    · exact ⟨names.instances, names.bindings⟩
    · exact ⟨names.instances, names.bindings⟩
  | remove key =>
    cases key
    · exact ⟨(hremove _ _).trans names.instances, names.bindings⟩
    · exact ⟨names.instances, (hremove _ _).trans names.bindings⟩

theorem serve_of_error {call : StateCall} {e : StateError} (h : (broker.serve call).1 = .error e) :
    (broker.serve call).2 = broker := by
  cases call with
  | save key state description now => cases h
  | get key => rfl
  | remove key => exact broker.removeState_of_error h

theorem NamesMissing.getState_serve_of_ne (names : broker.NamesMissing) {call : StateCall}
    {key : StateKey} (h : key ≠ call.key) :
    (broker.serve call).2.getState key = broker.getState key := by
  cases call with
  | save saved state description now =>
    exact (broker.getState_saveState now saved key state description).trans (if_neg h)
  | get got => rfl
  | remove removed => exact (names.getState_removeState removed key).trans (if_neg h)

end Broker

/-! ## The last record of a history -/

section History

variable {key : StateKey} {state : OperationState} {description : String}

theorem lastSaved_concat {events : List StateEvent} {event : StateEvent} :
    LastSaved key state description (events ++ [event]) ↔
      (∃ now, event.call = .save key state description now) ∨
        (¬event.Saves key ∧ ¬event.Removes key ∧ LastSaved key state description events) := by
  constructor
  · rintro ⟨before, after, now, result, hevents, hafter⟩
    rcases List.eq_nil_or_concat after with rfl | ⟨kept, last, rfl⟩
    · obtain ⟨-, hlast⟩ := List.append_inj' hevents rfl
      cases hlast
      exact .inl ⟨now, rfl⟩
    · rw [List.concat_eq_append] at hevents hafter
      have hsplit : events ++ [event] =
          (before ++ ⟨.save key state description now, result⟩ :: kept) ++ [last] :=
        hevents.trans (List.append_assoc before (_ :: kept) [last]).symm
      obtain ⟨rfl, hlast⟩ := List.append_inj' hsplit rfl
      cases hlast
      obtain ⟨hsaves, hremoves⟩ := hafter event (by simp)
      exact .inr ⟨hsaves, hremoves, before, kept, now, result, rfl,
        fun e he => hafter e (List.mem_append_left _ he)⟩
  · rintro (⟨now, hcall⟩ | ⟨hsaves, hremoves, before, after, now, result, rfl, hafter⟩)
    · exact ⟨events, [], now, event.result, by rw [← hcall], fun _ h => nomatch h⟩
    · refine ⟨before, after ++ [event], now, result, by simp, fun e he => ?_⟩
      rcases List.mem_append.mp he with he | he
      · exact hafter e he
      · obtain rfl := List.mem_singleton.mp he
        exact ⟨hsaves, hremoves⟩

theorem lastSaved_concat_of_not {events : List StateEvent} {event : StateEvent}
    (hsaves : ¬event.Saves key) (hremoves : ¬event.Removes key) :
    LastSaved key state description (events ++ [event]) ↔
      LastSaved key state description events := by
  rw [lastSaved_concat]
  constructor
  · rintro (⟨now, hcall⟩ | ⟨-, -, hlast⟩)
    · exact absurd ⟨state, description, now, hcall⟩ hsaves
    · exact hlast
  · exact fun hlast => .inr ⟨hsaves, hremoves, hlast⟩

theorem lastSaved_concat_save {events : List StateEvent} {saved : OperationState} {text : String}
    {now : Instant} {result : Except StateError OperationRecord} :
    LastSaved key state description (events ++ [⟨.save key saved text now, result⟩]) ↔
      saved = state ∧ text = description := by
  rw [lastSaved_concat]
  constructor
  · rintro (⟨_, hcall⟩ | ⟨hsaves, -, -⟩)
    · cases hcall
      exact ⟨rfl, rfl⟩
    · exact absurd ⟨saved, text, now, rfl⟩ hsaves
  · rintro ⟨rfl, rfl⟩
    exact .inl ⟨now, rfl⟩

theorem not_lastSaved_concat_remove {events : List StateEvent} {record : OperationRecord} :
    ¬LastSaved key state description (events ++ [⟨.remove key, .ok record⟩]) := by
  rw [lastSaved_concat]
  rintro (⟨_, hcall⟩ | ⟨-, hremoves, -⟩)
  · cases hcall
  · exact hremoves ⟨rfl, rfl⟩

end History

/-! ## Whole histories -/

namespace Broker

/-- For this key the broker gives what was saved last, and an error that names the key if nothing is
left. -/
structure RecallsAt (broker : Broker) (events : List StateEvent) (key : StateKey) : Prop where
  recorded : ∀ state description,
    (∃ now, broker.getState key = .ok ⟨state, description, now⟩) ↔
      LastSaved key state description events
  missing : (∀ state description, ¬LastSaved key state description events) →
    broker.getState key = .error key.missing

variable {broker after : Broker} {events : List StateEvent} {key : StateKey}

theorem RecallsAt.of_get_eq (recalls : broker.RecallsAt events key)
    (hget : after.getState key = broker.getState key) {event : StateEvent}
    (hsaves : ¬event.Saves key) (hremoves : ¬event.Removes key) :
    after.RecallsAt (events ++ [event]) key := by
  constructor
  · intro state description
    rw [hget, lastSaved_concat_of_not hsaves hremoves]
    exact recalls.recorded state description
  · intro hnone
    rw [hget]
    refine recalls.missing fun state description hlast => hnone state description ?_
    exact (lastSaved_concat_of_not hsaves hremoves).mpr hlast

/-- After a call the broker still gives what was saved last, for the key of the call and for all
others. -/
theorem RecallsAt.serve (names : broker.NamesMissing) (recalls : broker.RecallsAt events key)
    (call : StateCall) :
    (broker.serve call).2.RecallsAt (events ++ [⟨call, (broker.serve call).1⟩]) key := by
  by_cases hkey : key = call.key
  · subst hkey
    cases call with
    | save key saved text now =>
      have hget : (broker.serve (.save key saved text now)).2.getState key =
          .ok ⟨saved, text, now⟩ :=
        (broker.getState_saveState now key key saved text).trans (if_pos rfl)
      constructor
      · intro state description
        simp only [StateCall.key, hget, lastSaved_concat_save, Except.ok.injEq,
          OperationRecord.mk.injEq]
        exact ⟨fun ⟨_, hstate, htext, _⟩ => ⟨hstate, htext⟩,
          fun ⟨hstate, htext⟩ => ⟨now, hstate, htext, rfl⟩⟩
      · exact fun hnone => absurd (lastSaved_concat_save.mpr ⟨rfl, rfl⟩) (hnone saved text)
    | get key =>
      refine recalls.of_get_eq rfl ?_ ?_
      · rintro ⟨_, _, _, hcall⟩
        cases hcall
      · rintro ⟨hcall, -⟩
        cases hcall
    | remove key =>
      have hresult : (broker.serve (.remove key)).1 = broker.getState key :=
        broker.removeState_fst key
      cases hheld : broker.getState key with
      | ok record =>
        rw [hheld] at hresult
        have hget : (broker.serve (.remove key)).2.getState key = .error key.missing :=
          (names.getState_removeState key key).trans (if_pos rfl)
        constructor
        · intro state description
          simp only [StateCall.key, hget, hresult, reduceCtorEq, exists_false, false_iff]
          exact not_lastSaved_concat_remove
        · exact fun _ => hget
      | error e =>
        -- Nothing was recorded, so the call fails and the history stays without a removal.
        rw [hheld] at hresult
        refine recalls.of_get_eq (congrArg (·.getState key) (serve_of_error hresult)) ?_ ?_
        · rintro ⟨_, _, _, hcall⟩
          cases hcall
        · rintro ⟨-, hok⟩
          rw [hresult] at hok
          cases hok
  · refine recalls.of_get_eq (names.getState_serve_of_ne hkey) ?_ ?_
    · rintro ⟨state, description, now, hcall⟩
      exact hkey (congrArg StateCall.key hcall).symm
    · rintro ⟨hcall, -⟩
      exact hkey (congrArg StateCall.key hcall).symm

/-- The calls of a whole history, after those of an earlier one. -/
theorem RecallsAt.serveAll (calls : List StateCall) (names : broker.NamesMissing)
    (recalls : ∀ key, broker.RecallsAt events key) :
    (broker.serveAll calls).2.NamesMissing ∧
      ∀ key, (broker.serveAll calls).2.RecallsAt (events ++ (broker.serveAll calls).1) key := by
  induction calls generalizing broker events with
  | nil => exact ⟨names, by simpa [Broker.serveAll] using recalls⟩
  | cons call rest ih =>
    obtain ⟨hnames, hrest⟩ := ih (names.serve call) fun key => (recalls key).serve names call
    refine ⟨hnames, fun key => ?_⟩
    have hkey := hrest key
    rw [List.append_assoc] at hkey
    exact hkey

theorem recallsAt_of_build {config : BrokerConfig} {catalog : Catalog} {authorizationServer : Bool}
    {custom : CustomExtensions}
    (hbuild : build config catalog authorizationServer custom = .ok broker) :
    broker.NamesMissing ∧ ∀ key, broker.RecallsAt [] key := by
  obtain ⟨extensions, -, hbroker⟩ := exists_of_bind_eq_ok hbuild
  cases hbroker
  refine ⟨⟨rfl, rfl⟩, fun key => ?_⟩
  constructor
  · intro state description
    constructor
    · rintro ⟨_, hget⟩
      cases key <;> cases hget
    · rintro ⟨before, after, _, _, hevents, -⟩
      exact absurd hevents.symm (by simp)
  · intro _
    cases key <;> rfl

/-- After any calls, in whatever order the clients have made them, the two repositories of a broker
are a map from keys to what was saved last. What a call does concerns its own key alone: another
service instance, another pair of ids, and the keys of the other repository are left as they are. -/
theorem repositories_refine_map {config : BrokerConfig} {catalog : Catalog}
    {authorizationServer : Bool} {custom : CustomExtensions}
    (hbuild : build config catalog authorizationServer custom = .ok broker)
    (calls : List StateCall) :
    let events := (broker.serveAll calls).1
    let reached := (broker.serveAll calls).2
    (∀ key, reached.RecallsAt events key) ∧
      (∀ key, (reached.serve (.remove key)).1 = (reached.serve (.get key)).1) ∧
      (∀ call e, (reached.serve call).1 = .error e → (reached.serve call).2 = reached) ∧
      (∀ call key, key ≠ call.key → (reached.serve call).2.getState key = reached.getState key) ∧
      (∀ key other : BindingKey, StateKey.binding key = .binding other ↔
        key.instanceId = other.instanceId ∧ key.bindingId = other.bindingId) ∧
      (∃ ids : Finset String, reached.instances.size = ids.card ∧
        ∀ id, id ∈ ids ↔ (reached.getState (.serviceInstance id)).isOk) ∧
      ∃ keys : Finset BindingKey, reached.bindings.size = keys.card ∧
        ∀ key, key ∈ keys ↔ (reached.getState (.binding key)).isOk := by
  intro events reached
  obtain ⟨hnew, hnothing⟩ := recallsAt_of_build hbuild
  obtain ⟨names, recalls⟩ := RecallsAt.serveAll calls hnew hnothing
  refine ⟨recalls, reached.removeState_fst, fun _ _ => serve_of_error,
    fun _ _ => names.getState_serve_of_ne, fun key other => ?_, reached.instances.exists_keys,
    reached.bindings.exists_keys⟩
  rw [StateKey.binding.injEq, BindingKey.mk.injEq]

/-- Two bindings whose keys look alike in print, and a service instance that has the id of one of
them. -/
theorem repositories_refine_map_staged :
    ∃ broker, build {} ⟨[]⟩ false {} = .ok broker ∧
      let first : BindingKey := ⟨"a/b", "c"⟩
      let second : BindingKey := ⟨"a", "b/c"⟩
      let now : Instant := default
      let calls : List StateCall :=
        [.save (.binding first) .inProgress "one" now, .save (.binding second) .failed "two" now,
         .save (.serviceInstance "a") .succeeded "three" now, .remove (.binding first),
         .remove (.binding first)]
      let events := (broker.serveAll calls).1
      let reached := (broker.serveAll calls).2
      first.display = second.display ∧
        events.map (·.result.isOk) = [true, true, true, true, false] ∧
        (reached.serve (.save (.binding first) .succeeded "four" now)).2.getState
            (.binding second) =
          reached.getState (.binding second) ∧
        (∃ later, reached.getState (.binding second) = .ok ⟨.failed, "two", later⟩) ∧
        reached.getState (.binding first) = .error (.unknownBinding first) := by
  refine ⟨_, rfl, ?_⟩
  intro first second now calls events reached
  have hbuild : build {} ⟨[]⟩ false {} = .ok _ := rfl
  obtain ⟨recalls, -, -, apart, -⟩ := repositories_refine_map hbuild calls
  refine ⟨by decide, rfl, apart _ _ (by decide), ?_, ?_⟩
  · refine ((recalls (.binding second)).recorded .failed "two").mpr ?_
    refine ⟨[_], [_, _, _], now, _, rfl, ?_⟩
    simp [StateEvent.Saves, StateEvent.Removes, first, second]
  · refine (recalls (.binding first)).missing fun state description hlast => ?_
    -- The second removal fails, so the first one is the last call that counts.
    have hremoved : LastSaved (.binding first) state description
        (events.take 3 ++ [⟨.remove (.binding first), .ok ⟨.inProgress, "one", now⟩⟩]) := by
      refine (lastSaved_concat_of_not ?_ ?_).mp hlast
      · simp [StateEvent.Saves]
      · rintro ⟨-, hok⟩
        cases hok
    exact not_lastSaved_concat_remove hremoved

end Broker

end ServiceBroker
