import ServiceBroker.Proofs.Provided
import ServiceBroker.Proofs.SecretMemory
import ServiceBroker.Rehearsal.Script

/-!
What the secrets of an application are like. All providers of one kind ask for the value under one
key of the application, so that the first of them gets what it is configured for, and those after it
get the same value again.
-/

namespace ServiceBroker

variable {σ α β : Type} {instanceId : String} {entropy : Entropy}

/-! ## The first value under a key -/

namespace Charset

/-- Whatever fits the second character set fits the first one. -/
structure Covers (wide narrow : Charset) : Prop where
  length : wide.length = narrow.length
  enables : ∀ c, narrow.Enables c → wide.Enables c

theorem Fits.mono {wide narrow : Charset} {text : String} (h : narrow.Fits text)
    (covers : wide.Covers narrow) : wide.Fits text :=
  ⟨h.length.trans covers.length.symm, fun c hc => covers.enables c (h.enabled c hc)⟩

end Charset

/-- The character set for which a value has been given under the key. -/
def SecretEvent.drawn? (key : CredentialKey) : SecretEvent α → Option Charset
  | .generated asked charset (.ok _) => if asked = key then some charset else none
  | _ => none

namespace SecretKind

variable {kind : SecretKind α} {m m' : Memory α} {key : CredentialKey} {charset : Charset} {a : α}

theorem Run.held_of_generated {events : List (SecretEvent α)} (run : kind.Run m events m')
    (hkept : ∀ result, .deleted key result ∉ events)
    (h : .generated key charset (.ok a) ∈ events) : m' key = some a := by
  obtain ⟨before, after, rfl⟩ := List.append_of_mem h
  refine (run.held_iff key a).mpr (.inr ⟨before, charset, after, rfl, fun result hmem => ?_⟩)
  exact hkept result (List.mem_append_right before (List.mem_cons_of_mem _ hmem))

/-- What is held in the end under a key that held nothing is what the first request for it has
got. -/
theorem Run.exists_drawn {events : List (SecretEvent α)} (run : kind.Run m events m')
    (hfree : m key = none) (hkept : ∀ result, .deleted key result ∉ events)
    (hheld : m' key = some a) :
    ∃ charset, events.findSome? (·.drawn? key) = some charset ∧ kind.fits charset a := by
  induction run with
  | nil m => cases hfree.symm.trans hheld
  | @cons m changed reached event events step rest ih =>
    have hkept' : ∀ result, .deleted key result ∉ events :=
      fun result hmem => hkept result (List.mem_cons_of_mem _ hmem)
    -- An event that draws nothing under the key and leaves it free puts the matter off.
    have hlater : event.drawn? key = none → changed key = none →
        ∃ charset, (event :: events).findSome? (·.drawn? key) = some charset ∧
          kind.fits charset a := by
      intro hnone hfree'
      rw [List.findSome?_cons_of_isNone (by rw [hnone]; rfl)]
      exact ih hfree' hkept' hheld
    cases step with
    | @again asked _ _ held =>
      have hne : asked ≠ key := by
        rintro rfl
        cases hfree.symm.trans held
      exact hlater (if_neg hne) hfree
    | @new asked charset given free accepts fits =>
      by_cases hkey : asked = key
      · subst hkey
        obtain rfl : a = given := by
          have hgiven := (rest.held_iff asked given).mpr (.inl ⟨Function.update_self .., hkept'⟩)
          exact Option.some.inj (hheld.symm.trans hgiven)
        refine ⟨charset, ?_, fits⟩
        simp [SecretEvent.drawn?]
      · exact hlater (if_neg hkey) ((Function.update_of_ne (Ne.symm hkey) ..).trans hfree)
    | refused free refused => exact hlater rfl hfree
    | @deleted asked =>
      have hne : key ≠ asked := by
        rintro rfl
        exact hkept _ List.mem_cons_self
      exact hlater rfl ((Function.update_of_ne hne ..).trans hfree)

def eventsIn (kind : SecretKind α) (log : List LogEntry) : List (SecretEvent α) :=
  log.filterMap fun entry => kind.event? entry.event

theorem eventsIn_append (log more : List LogEntry) :
    kind.eventsIn (log ++ more) = kind.eventsIn log ++ kind.eventsIn more :=
  List.filterMap_append ..

theorem eventsIn_singleton (task : Nat) (event : Event) :
    kind.eventsIn [⟨task, event⟩] = (kind.event? event).toList := by
  cases h : kind.event? event <;> simp [eventsIn, h]

/-- Requests of programs, however interleaved, are a run of what the generator holds. -/
theorem Lawful.interleaves_run (lawful : kind.Lawful entropy) {others : Collaborators σ}
    {programs : List (Program β)} {s : Generator × σ} {o : Outcome (Generator × σ) (List β)}
    (run : Session.Interleaves (others.withGenerator entropy) programs s o) :
    kind.Run (kind.held s.1) (kind.eventsIn o.log) (kind.held o.state.1) := by
  have keeps : (others.withGenerator entropy).Keeps (fun _ => True)
      fun w => kind.Run (kind.held s.1) (kind.eventsIn w.log) (kind.held w.state.1) := by
    constructor
    case issue =>
      intro task r w _ hw
      simp only [World.issue, World.record, eventsIn_append, eventsIn_singleton, lawful.issued,
        Option.toList_none, List.append_nil, Collaborators.withGenerator_accept]
      exact hw
    case settle =>
      intro task r w _ hw
      simp only [World.settle, World.record, eventsIn_append, eventsIn_singleton]
      refine hw.append ?_
      simp only [Collaborators.withGenerator]
      cases hanswer : w.state.1.answer? entropy r with
      | none =>
        simp only [lawful.unanswered _ hanswer]
        exact .nil _
      | some outcome => exact lawful.answered hanswer
    case ended =>
      intro task w hw
      simp only [World.record, eventsIn_append, eventsIn_singleton, lawful.ended,
        Option.toList_none, List.append_nil]
      exact hw
  exact run.keeps keeps (fun p _ => p.asks_true) (.nil _)

theorem Lawful.chains_run (lawful : kind.Lawful entropy) (others : Collaborators σ)
    (chainOf : β → Program (Except PipelineError β)) (entities : List β) (s : Generator × σ) :
    let outcome := chains (others.withGenerator entropy) chainOf entities s
    kind.Run (kind.held s.1) (kind.eventsIn outcome.log) (kind.held outcome.state.1) := by
  rw [chains_eq]
  exact lawful.interleaves_run (Session.together_interleaves ..)

/-- Of all programs only one has to do with what `f` looks for. -/
theorem findSome?_eventsIn {γ : Type} {f : SecretEvent α → Option γ} {i : Nat} {log : List LogEntry}
    (hothers : ∀ entry ∈ log, entry.task ≠ i → ∀ event, kind.event? entry.event = some event →
      f event = none) :
    (kind.eventsIn log).findSome? f = ((eventsOf i log).filterMap kind.event?).findSome? f := by
  induction log with
  | nil => rfl
  | cons entry rest ih =>
    have hrest := ih fun entry h => hothers entry (List.mem_cons_of_mem _ h)
    have hentry := hothers entry List.mem_cons_self
    obtain ⟨task, event⟩ := entry
    change (kind.eventsIn ([⟨task, event⟩] ++ rest)).findSome? f =
      ((eventsOf i ([⟨task, event⟩] ++ rest)).filterMap kind.event?).findSome? f
    rw [eventsIn_append, eventsIn_singleton, eventsOf_append, List.filterMap_append,
      List.findSome?_append, List.findSome?_append, hrest]
    congr 1
    by_cases htask : task = i
    · rw [htask, eventsOf_self]
      cases h : kind.event? event <;> simp [h]
    · rw [eventsOf_other htask]
      cases h : kind.event? event with
      | none => rfl
      | some seen => simp [hentry htask seen h]

end SecretKind

/-! ## Providers of one kind -/

/-- How applications come by a kind of secrets: the providers of one name ask for the value under
one key, with the character set that they are configured for. -/
structure SecretSource (α : Type) where
  kind : SecretKind α
  provider : String
  keyOf : Application → String → CredentialKey
  asks : ExtensionSpec → Charset → Prop

namespace Credential

/-- Providers have added something to the application one after another; the events are those of
their work. -/
inductive Added (instanceId : String) :
    List ExtensionSpec → Application → List Event → Application → Prop where
  | nil (app : Application) : Added instanceId [] app [] app
  | cons {spec : ExtensionSpec} {rest : List ExtensionSpec} {app changed result : Application}
      {part events : List Event} (step : Adds instanceId spec app part changed)
      (steps : Added instanceId rest changed events result) :
      Added instanceId (spec :: rest) app (part ++ events) result

end Credential

theorem Credential.Added.along {g : Generator} {specs : List ExtensionSpec}
    {app result : Application} {events : List Event}
    (added : Credential.Added instanceId specs app events result)
    (hheld : ∀ event ∈ events, event.Held g) :
    Along (Credential.Stores g instanceId) specs app result := by
  induction added with
  | nil app => exact .nil app
  | cons step _ ih =>
    exact .cons (step.stores fun event h => hheld event (List.mem_append_left _ h))
      (ih fun event h => hheld event (List.mem_append_right _ h))

namespace SecretSource

open Credential (Adds Added)

def users : SecretSource UserCredentials where
  kind := .users
  provider := "basic-auth"
  keyOf := Credential.basicKey
  asks spec charset :=
    ∃ config, Extension.bind BasicAuthConfig.view spec.args = .ok config ∧ charset = config.charset

def strings : SecretSource String where
  kind := .strings
  provider := "oauth2"
  keyOf := Credential.oauth2Key
  asks spec charset :=
    ∃ config, Extension.bind OAuth2Config.view spec.args = .ok config ∧ charset = config.charset

/-- The providers of the name ask once for the value under the key, and no others do. -/
structure Lawful (source : SecretSource α) (instanceId : String) : Prop where
  ended : source.kind.event? .ended = none
  key_eq_iff : ∀ app other : Application,
    source.keyOf app instanceId = source.keyOf other instanceId ↔ app.name = other.name
  asked : ∀ {spec : ExtensionSpec} {app changed : Application} {part : List Event},
    Adds instanceId spec app part changed → spec.name = source.provider →
      ∃ charset a, source.asks spec charset ∧
        part.filterMap source.kind.event? =
          [.generated (source.keyOf app instanceId) charset (.ok a)]
  silent : ∀ {spec : ExtensionSpec} {app changed : Application} {part : List Event},
    Adds instanceId spec app part changed → spec.name ≠ source.provider →
      part.filterMap source.kind.event? = []

theorem users_lawful : users.Lawful instanceId := by
  constructor
  case ended => rfl
  case key_eq_iff => exact fun app other => Credential.basicKey_eq_iff app other instanceId
  case asked =>
    intro spec app changed part h name
    cases h with
    | @user config user _ bound => exact ⟨config.charset, user, ⟨config, bound, rfl⟩, rfl⟩
    | client name' bound id_eq => exact absurd (name.symm.trans name') (by decide)
  case silent =>
    intro spec app changed part h name
    cases h with
    | user name' bound => exact absurd name' name
    | client => rfl

theorem strings_lawful : strings.Lawful instanceId := by
  constructor
  case ended => rfl
  case key_eq_iff => exact fun app other => Credential.oauth2Key_eq_iff app other instanceId
  case asked =>
    intro spec app changed part h name
    cases h with
    | user name' bound => exact absurd (name.symm.trans name') (by decide)
    | @client config secret requested client _ bound id_eq =>
      exact ⟨config.charset, secret, ⟨config, bound, rfl⟩, rfl⟩
  case silent =>
    intro spec app changed part h name
    cases h with
    | user => rfl
    | client name' bound id_eq => exact absurd name' name

variable {source : SecretSource α} {specs : List ExtensionSpec} {app result : Application}
  {events : List Event}

theorem Lawful.generated (lawful : source.Lawful instanceId)
    (added : Added instanceId specs app events result) :
    ∀ event ∈ events.filterMap source.kind.event?,
      ∃ charset a, event = .generated (source.keyOf app instanceId) charset (.ok a) := by
  induction added with
  | nil app => exact fun _ h => nomatch h
  | @cons spec rest app changed result part events step _ ih =>
    rw [(lawful.key_eq_iff changed app).mpr step.name_eq] at ih
    intro event hevent
    rw [List.filterMap_append] at hevent
    rcases List.mem_append.mp hevent with h | h
    · by_cases name : spec.name = source.provider
      · obtain ⟨charset, a, -, hpart⟩ := lawful.asked step name
        rw [hpart] at h
        exact ⟨charset, a, List.mem_singleton.mp h⟩
      · rw [lawful.silent step name] at h
        cases h
    · exact ih event h

/-- The first value is given for the character set of the first provider. -/
theorem Lawful.first_drawn (lawful : source.Lawful instanceId)
    (added : Added instanceId specs app events result) {first : ExtensionSpec}
    (hfirst : specs.find? (·.name = source.provider) = some first) :
    ∃ charset, source.asks first charset ∧
      (events.filterMap source.kind.event?).findSome? (·.drawn? (source.keyOf app instanceId)) =
        some charset := by
  induction added with
  | nil app => cases hfirst
  | @cons spec rest app changed result part events step _ ih =>
    rw [List.filterMap_append, List.findSome?_append]
    by_cases name : spec.name = source.provider
    · obtain rfl : spec = first := by simpa [name] using hfirst
      obtain ⟨charset, a, hasks, hpart⟩ := lawful.asked step name
      exact ⟨charset, hasks, by simp [hpart, SecretEvent.drawn?]⟩
    · rw [(lawful.key_eq_iff changed app).mpr step.name_eq] at ih
      rw [lawful.silent step name]
      exact ih (by simpa [name] using hfirst)

end SecretSource

/-! ## Applications side by side -/

theorem Extensions.BuiltFrom.added {extensions : Extensions} {maxNameLength : Nat}
    {authorizationServer : Bool} (built : extensions.BuiltFrom maxNameLength authorizationServer {})
    {c : Collaborators σ} {specs : List ExtensionSpec} {app result : Application}
    {events : List Event}
    (worked : Worked c extensions.credentialProviders (Credential.Phase.add.work instanceId)
      specs app events result) : Credential.Added instanceId specs app events result := by
  induction worked with
  | nil app => exact .nil app
  | cons resolved step _ ih =>
    exact .cons (Credential.adds_of_course (built.provider resolved) step) ih

/-- In the log of additions that have all succeeded, each application has the work of its
providers. -/
structure AllAdded (instanceId : String) (apps : List Application) (log : List LogEntry)
    (results : List Application) : Prop where
  task_lt : ∀ entry ∈ log, entry.task < apps.length
  added : ∀ (i : Nat) (app : Application), apps[i]? = some app → ∃ result events,
    results[i]? = some result ∧ eventsOf i log = events ++ [.ended] ∧
      Credential.Added instanceId app.credentialProviders app events result

theorem Extensions.BuiltFrom.allAdded {extensions : Extensions} {maxNameLength : Nat}
    {authorizationServer : Bool} (built : extensions.BuiltFrom maxNameLength authorizationServer {})
    {c : Collaborators σ} {apps results : List Application} {s : σ}
    (hok : (Credential.run c extensions.credentialProviders .add instanceId apps s).value =
      .ok results) :
    AllAdded instanceId apps
      (Credential.run c extensions.credentialProviders .add instanceId apps s).log results := by
  constructor
  case task_lt =>
    obtain ⟨values, ran, -⟩ := chains_sideBySide c
      (Credential.applicationChain extensions.credentialProviders .add instanceId) apps s
    exact ran.others
  case added =>
    intro i app happ
    obtain ⟨result, hresult, course⟩ := (chains_ok_course hok).2 i app happ
    obtain ⟨events, hevents, worked⟩ := chain_ok_worked course
    exact ⟨result, events, hresult, hevents, built.added worked⟩

section

variable {source : SecretSource α} {apps results : List Application} {log : List LogEntry} {i : Nat}
  {app : Application}

namespace AllAdded

theorem generated (all : AllAdded instanceId apps log results) (lawful : source.Lawful instanceId)
    {entry : LogEntry} (hentry : entry ∈ log) {event : SecretEvent α}
    (hevent : source.kind.event? entry.event = some event) :
    ∃ app, apps[entry.task]? = some app ∧
      ∃ charset a, event = .generated (source.keyOf app instanceId) charset (.ok a) := by
  have happ := List.getElem?_eq_getElem (all.task_lt entry hentry)
  refine ⟨_, happ, ?_⟩
  obtain ⟨result, events, -, hevents, added⟩ := all.added _ _ happ
  have hmem : entry.event ∈ events ++ [.ended] := hevents ▸ mem_eventsOf.mpr hentry
  rcases List.mem_append.mp hmem with hmem | hmem
  · exact lawful.generated added event (List.mem_filterMap.mpr ⟨_, hmem, hevent⟩)
  · rw [List.mem_singleton.mp hmem, lawful.ended] at hevent
    cases hevent

theorem not_deleted (all : AllAdded instanceId apps log results) (lawful : source.Lawful instanceId)
    (key : CredentialKey) (result : Except Failure Unit) :
    .deleted key result ∉ source.kind.eventsIn log := by
  intro hmem
  obtain ⟨entry, hentry, hevent⟩ := List.mem_filterMap.mp hmem
  obtain ⟨app, -, charset, a, h⟩ := all.generated lawful hentry hevent
  cases h

/-- The first value under the key of an application whose name is all its own is given for the
character set of its first provider. -/
theorem first_drawn (all : AllAdded instanceId apps log results) (lawful : source.Lawful instanceId)
    (happ : apps[i]? = some app)
    (halone : ∀ (j : Nat) other, apps[j]? = some other → other.name = app.name → j = i)
    {first : ExtensionSpec}
    (hfirst : app.credentialProviders.find? (·.name = source.provider) = some first) :
    ∃ charset, source.asks first charset ∧
      (source.kind.eventsIn log).findSome? (·.drawn? (source.keyOf app instanceId)) =
        some charset := by
  obtain ⟨result, events, -, hevents, added⟩ := all.added i app happ
  obtain ⟨charset, hasks, hdrawn⟩ := lawful.first_drawn added hfirst
  refine ⟨charset, hasks, ?_⟩
  have hown : (source.kind.eventsIn log).findSome? (·.drawn? (source.keyOf app instanceId)) =
      ((eventsOf i log).filterMap source.kind.event?).findSome?
        (·.drawn? (source.keyOf app instanceId)) := by
    refine SecretKind.findSome?_eventsIn fun entry hentry htask event hevent => ?_
    obtain ⟨other, hother, asked, a, rfl⟩ := all.generated lawful hentry hevent
    refine if_neg fun hkey => htask ?_
    exact halone entry.task other hother ((lawful.key_eq_iff other app).mp hkey)
  rw [hown, hevents, List.filterMap_append, List.findSome?_append, hdrawn]
  rfl

variable {s reached : Generator}

/-- What is held in the end for such an application fits the character set of its first provider. -/
theorem fits_first (all : AllAdded instanceId apps log results) (lawful : source.Lawful instanceId)
    (run : source.kind.Run (source.kind.held s) (source.kind.eventsIn log)
      (source.kind.held reached))
    (happ : apps[i]? = some app)
    (halone : ∀ (j : Nat) other, apps[j]? = some other → other.name = app.name → j = i)
    (hfree : source.kind.held s (source.keyOf app instanceId) = none) {first : ExtensionSpec}
    (hfirst : app.credentialProviders.find? (·.name = source.provider) = some first) {a : α}
    (hheld : source.kind.held reached (source.keyOf app instanceId) = some a) :
    ∃ charset, source.asks first charset ∧ source.kind.fits charset a := by
  obtain ⟨charset, hasks, hdrawn⟩ := all.first_drawn lawful happ halone hfirst
  obtain ⟨charset', hdrawn', hfits⟩ :=
    run.exists_drawn hfree (all.not_deleted lawful _) hheld
  obtain rfl := Option.some.inj (hdrawn.symm.trans hdrawn')
  exact ⟨charset, hasks, hfits⟩

theorem held (all : AllAdded instanceId apps log results)
    (husers : SecretKind.users.Run (SecretKind.users.held s) (SecretKind.users.eventsIn log)
      (SecretKind.users.held reached))
    (hstrings : SecretKind.strings.Run (SecretKind.strings.held s) (SecretKind.strings.eventsIn log)
      (SecretKind.strings.held reached)) :
    ∀ entry ∈ log, entry.event.Held reached := by
  rintro ⟨task, event⟩ hentry
  cases event with
  | answered r answer =>
    cases r with
    | generateUser key charset =>
      cases answer with
      | error failure => trivial
      | ok user =>
        exact husers.held_of_generated
          (all.not_deleted SecretSource.users_lawful key)
          (List.mem_filterMap.mpr ⟨_, hentry, rfl⟩)
    | generateString key charset =>
      cases answer with
      | error failure => trivial
      | ok text =>
        exact hstrings.held_of_generated
          (all.not_deleted SecretSource.strings_lawful key)
          (List.mem_filterMap.mpr ⟨_, hentry, rfl⟩)
    | _ => trivial
  | _ => trivial

theorem carriesHeld (all : AllAdded instanceId apps log results)
    (hheld : ∀ entry ∈ log, entry.event.Held reached) (happ : apps[i]? = some app) :
    ∃ result, results[i]? = some result ∧ Credential.CarriesHeld reached instanceId app result := by
  obtain ⟨result, events, hresult, hevents, added⟩ := all.added i app happ
  refine ⟨result, hresult, Credential.carriesHeld_of_along (added.along fun event h => ?_) rfl⟩
  have hmem : event ∈ eventsOf i log := hevents ▸ List.mem_append_left _ h
  exact hheld _ (mem_eventsOf.mp hmem)

end AllAdded

end

namespace Credential

/-- The user is as the first provider of users is configured. All clients have one secret, and it is
as the first provider of clients is configured. It fits another configuration that covers the first
one, and none of another length. -/
structure AsFirst (app result : Application) : Prop where
  user : ∀ first, app.credentialProviders.find? (·.name = "basic-auth") = some first →
    ∃ config user, Extension.bind BasicAuthConfig.view first.args = .ok config ∧
      SecretKind.users.fits config.charset user ∧
      result.environment.get? userEntry = some (.text user.username) ∧
      result.environment.get? passwordEntry = some (.text user.password)
  secret : ∀ first, app.credentialProviders.find? (·.name = "oauth2") = some first →
    ∃ config secret, Extension.bind OAuth2Config.view first.args = .ok config ∧
      config.charset.Fits secret ∧
      ∀ spec ∈ app.credentialProviders, spec.name = "oauth2" →
        ∃ own, Extension.bind OAuth2Config.view spec.args = .ok own ∧
          result.environment.get? (own.entry "client-secret") = some (.text secret) ∧
          (own.charset.Covers config.charset → own.charset.Fits secret) ∧
          (own.charset.Fits secret → own.charset.length = config.charset.length)

/-- Of an application that shares its name with no other one, and for which nothing is held before,
the first provider of each kind gets what it is configured for. -/
theorem secrets_as_first {extensions : Extensions} {maxNameLength : Nat}
    {authorizationServer : Bool}
    (hbuild : Extensions.build maxNameLength authorizationServer {} = .ok extensions)
    {others : Collaborators σ} {entropy : Entropy} {instanceId : String}
    {apps results : List Application} {s : Generator × σ}
    (hfresh : ∀ key : CredentialKey, key.instanceId = instanceId →
      s.1.users.get? key = none ∧ s.1.strings.get? key = none)
    (hok : (run (others.withGenerator entropy) extensions.credentialProviders .add instanceId apps
      s).value = .ok results)
    {i : Nat} {app : Application} (happ : apps[i]? = some app)
    (halone : ∀ (j : Nat) other, apps[j]? = some other → other.name = app.name → j = i) :
    ∃ result, results[i]? = some result ∧ AsFirst app result := by
  have built := Extensions.builtFrom_of_build hbuild
  have all := built.allAdded hok
  have husers : SecretKind.users.Run _ _ _ := (SecretKind.users_lawful entropy).chains_run others
    (applicationChain extensions.credentialProviders .add instanceId) apps s
  have hstrings : SecretKind.strings.Run _ _ _ :=
    (SecretKind.strings_lawful entropy).chains_run others
      (applicationChain extensions.credentialProviders .add instanceId) apps s
  obtain ⟨result, hresult, carries⟩ := all.carriesHeld (all.held husers hstrings) happ
  refine ⟨result, hresult, ?_⟩
  constructor
  case user =>
    intro first hfirst
    have hname : first.name = "basic-auth" := by simpa using List.find?_some hfirst
    obtain ⟨user, held, husername, hpassword⟩ :=
      carries.user first (List.mem_of_find?_eq_some hfirst) hname
    obtain ⟨_, ⟨config, bound, rfl⟩, hfits⟩ := all.fits_first SecretSource.users_lawful husers happ
      halone (hfresh _ rfl).1 hfirst held
    exact ⟨config, user, bound, hfits, husername, hpassword⟩
  case secret =>
    intro first hfirst
    have hname : first.name = "oauth2" := by simpa using List.find?_some hfirst
    obtain ⟨-, secret, -, held, -⟩ := carries.secret first (List.mem_of_find?_eq_some hfirst) hname
    obtain ⟨_, ⟨config, bound, rfl⟩, hfits⟩ :=
      all.fits_first SecretSource.strings_lawful hstrings happ
        halone (hfresh _ rfl).2 hfirst held
    refine ⟨config, secret, bound, hfits, fun spec hspec name => ?_⟩
    obtain ⟨own, secret', bound', held', hentry⟩ := carries.secret spec hspec name
    obtain rfl := Option.some.inj (held.symm.trans held')
    exact ⟨own, bound', hentry, hfits.mono, fun hown => hown.length.symm.trans hfits.length⟩

/-- Two clients of one application, of which the second one asks for a longer secret. -/
theorem secrets_as_first_staged :
    ∃ extensions, Extensions.build 50 true {} = .ok extensions ∧
      let app : Application :=
        { name := "web"
          credentialProviders :=
            [⟨"basic-auth", .ofList [("length", .number (.integer 10))]⟩,
              ⟨"oauth2", .ofList [("registration", .text "a"), ("clientId", .text "web-a"),
                ("length", .number (.integer 8))]⟩,
              ⟨"oauth2", .ofList [("registration", .text "b"), ("clientId", .text "web-b"),
                ("length", .number (.integer 20))]⟩] }
      let c := (Rehearsal.Script.players {}).withGenerator fun position => position
      let outcome := run c extensions.credentialProviders .add "7" [app] ({}, 0)
      ∃ results result, outcome.value = .ok results ∧ results[0]? = some result ∧
        ∃ (password secret : String),
        password.length = 10 ∧
        result.environment.get? passwordEntry = some (.text password) ∧
        secret.length = 8 ∧
        result.environment.get? "security.oauth2.client.registration.a.client-secret" =
          some (.text secret) ∧
        result.environment.get? "security.oauth2.client.registration.b.client-secret" =
          some (.text secret) := by
  have hbuild : Extensions.build 50 true {} = .ok _ := rfl
  refine ⟨_, hbuild, ?_⟩
  intro app c outcome
  have hok : outcome.value.isOk := by decide +kernel
  obtain ⟨results, hok⟩ := exists_of_isOk hok
  have happ : [app][0]? = some app := rfl
  obtain ⟨result, hresult, asFirst⟩ := secrets_as_first hbuild (fun key _ => ⟨rfl, rfl⟩) hok happ
    fun j other hother _ => by
      cases j with
      | zero => rfl
      | succ j => cases hother
  obtain ⟨userConfig, user, huserConfig, ⟨-, hpassword⟩, -, hpasswordEntry⟩ := asFirst.user _ rfl
  cases huserConfig
  obtain ⟨config, secret, hconfig, hsecret, hclients⟩ := asFirst.secret _ rfl
  cases hconfig
  refine ⟨results, result, hok, hresult, user.password, secret, hpassword.length, hpasswordEntry,
    hsecret.length, ?_, ?_⟩
  · obtain ⟨own, hown, hentry, -⟩ := hclients app.credentialProviders[1] (List.getElem_mem _) rfl
    cases hown
    exact hentry
  · obtain ⟨own, hown, hentry, -⟩ := hclients app.credentialProviders[2] (List.getElem_mem _) rfl
    cases hown
    exact hentry

/-- A client of which the configuration asks for twenty characters gets the eight of the one before
it. -/
theorem later_client_misfits :
    ∃ extensions, Extensions.build 50 true {} = .ok extensions ∧
      let later : ExtensionSpec :=
        ⟨"oauth2", .ofList [("registration", .text "b"), ("clientId", .text "web-b"),
          ("length", .number (.integer 20))]⟩
      let app : Application :=
        { name := "web"
          credentialProviders :=
            [⟨"oauth2", .ofList [("registration", .text "a"), ("clientId", .text "web-a"),
                ("length", .number (.integer 8))]⟩,
              later] }
      let c := (Rehearsal.Script.players {}).withGenerator fun position => position
      let outcome := run c extensions.credentialProviders .add "7" [app] ({}, 0)
      ∃ result own secret, outcome.value = .ok [result] ∧
        Extension.bind OAuth2Config.view later.args = .ok own ∧
        result.environment.get? (own.entry "client-secret") = some (.text secret) ∧
        ¬own.charset.Fits secret := by
  refine ⟨_, rfl, ?_⟩
  intro later app c outcome
  refine ⟨_, _, _, (chains_singleton ..).trans rfl, rfl, rfl, fun hfits => ?_⟩
  exact absurd hfits.length (by decide +kernel)

end Credential

end ServiceBroker
