import ServiceBroker.Proofs.Keeper
import ServiceBroker.Proofs.Provisioning
import ServiceBroker.Proofs.Registration

/-!
What an application gets from its credential providers. Each of them writes what the generator holds
for the application, so that the environment with which the application comes leaves no trace in the
entries that they write.
-/

namespace ServiceBroker

variable {σ : Type} {instanceId : String}

/-- The authorization server gives every client the id that it is asked for. -/
def Collaborators.EchoesClientIds (c : Collaborators σ) : Prop :=
  ∀ client s registered, (c.answer (.createClient client) s).1 = .ok registered →
    registered.clientId = client.clientId

/-- What the event says to be generated is held. -/
def Event.Held : Event → Generator → Prop
  | .answered (.generateUser key _) (.ok user), g => g.users.get? key = some user
  | .answered (.generateString key _) (.ok text), g => g.strings.get? key = some text
  | _, _ => True

/-! ## What a provider writes -/

namespace Credential

/-- The provider writes the secrets that the generator holds into the environment, and with them the
id of the client for which it asks. -/
inductive Provides (g : Generator) (instanceId : String) (spec : ExtensionSpec)
    (app : Application) : Application → Prop where
  | user {user : UserCredentials} (name : spec.name = "basic-auth")
      (held : g.users.get? (basicKey app instanceId) = some user) :
      Provides g instanceId spec app
        ((app.withEnvironment userEntry (.text user.username)).withEnvironment passwordEntry
          (.text user.password))
  | client {config : OAuth2Config} {secret : String} (name : spec.name = "oauth2")
      (bound : Extension.bind OAuth2Config.view spec.args = .ok config)
      (held : g.strings.get? (oauth2Key app instanceId) = some secret) :
      Provides g instanceId spec app
        ((app.withEnvironment (config.entry "client-id")
          (.text (config.clientIdFor app.name instanceId))).withEnvironment
            (config.entry "client-secret") (.text secret))

/-- The provider writes the secrets that the generator holds, whatever id the client has got. -/
inductive Stores (g : Generator) (instanceId : String) (spec : ExtensionSpec) (app : Application) :
    Application → Prop where
  | user {user : UserCredentials} (name : spec.name = "basic-auth")
      (held : g.users.get? (basicKey app instanceId) = some user) :
      Stores g instanceId spec app
        ((app.withEnvironment userEntry (.text user.username)).withEnvironment passwordEntry
          (.text user.password))
  | client {config : OAuth2Config} {secret : String} (clientId : String)
      (name : spec.name = "oauth2")
      (bound : Extension.bind OAuth2Config.view spec.args = .ok config)
      (held : g.strings.get? (oauth2Key app instanceId) = some secret) :
      Stores g instanceId spec app
        ((app.withEnvironment (config.entry "client-id") (.text clientId)).withEnvironment
          (config.entry "client-secret") (.text secret))

theorem Provides.stores {g : Generator} {spec : ExtensionSpec} {app changed : Application}
    (h : Provides g instanceId spec app changed) : Stores g instanceId spec app changed := by
  cases h with
  | user name held => exact .user name held
  | client name bound held => exact .client _ name bound held

/-- The entries of the environment that a provider configured by these arguments writes. -/
def entriesOf (spec : ExtensionSpec) : List String :=
  if spec.name = "basic-auth" then [userEntry, passwordEntry]
  else match Extension.bind OAuth2Config.view spec.args with
    | .ok config => [config.entry "client-id", config.entry "client-secret"]
    | .error _ => []

theorem take_entry (config : OAuth2Config) (field : String) :
    (config.entry field).toList.take 10 = "security.o".toList := by
  have hlength : 10 ≤ "security.oauth2.client.registration.".toList.length := by decide +kernel
  unfold OAuth2Config.entry
  rw [String.toList_append, String.toList_append, String.toList_append, List.append_assoc,
    List.append_assoc, List.take_append_of_le_length hlength]
  decide +kernel

theorem userEntry_ne_entry (config : OAuth2Config) (field : String) :
    userEntry ≠ config.entry field := by
  intro h
  have htake := take_entry config field
  rw [← h] at htake
  exact absurd htake (by decide +kernel)

theorem passwordEntry_ne_entry (config : OAuth2Config) (field : String) :
    passwordEntry ≠ config.entry field := by
  intro h
  have htake := take_entry config field
  rw [← h] at htake
  exact absurd htake (by decide +kernel)

theorem getLast?_entry (config : OAuth2Config) (field : String) :
    (config.entry field).toList.getLast? = (field.toList.getLast?).or (some '.') := by
  unfold OAuth2Config.entry
  rw [String.toList_append, List.getLast?_append, String.toList_append, List.getLast?_append]
  have hdot : ".".toList.getLast? = some '.' := by decide +kernel
  rw [hdot, Option.some_or]

theorem idEntry_ne_secretEntry (config config' : OAuth2Config) :
    config.entry "client-id" ≠ config'.entry "client-secret" := by
  intro h
  have hlast := getLast?_entry config "client-id"
  rw [h, getLast?_entry] at hlast
  exact absurd hlast (by decide +kernel)

variable {g : Generator} {spec : ExtensionSpec} {app app' changed changed' : Application}

theorem entriesOf_user (name : spec.name = "basic-auth") :
    entriesOf spec = [userEntry, passwordEntry] := by
  rw [entriesOf, if_pos name]

theorem entriesOf_client {config : OAuth2Config} (name : spec.name = "oauth2")
    (bound : Extension.bind OAuth2Config.view spec.args = .ok config) :
    entriesOf spec = [config.entry "client-id", config.entry "client-secret"] := by
  have hother : spec.name ≠ "basic-auth" := by
    rw [name]
    decide
  rw [entriesOf, if_neg hother, bound]

namespace Stores

theorem name_eq (h : Stores g instanceId spec app changed) : changed.name = app.name := by
  cases h <;> rfl

theorem frame (h : Stores g instanceId spec app changed) {key : String}
    (hkey : key ∉ entriesOf spec) :
    changed.environment.get? key = app.environment.get? key := by
  cases h with
  | user name held =>
    rw [entriesOf_user name] at hkey
    simp_all [Application.withEnvironment]
  | client clientId name bound held =>
    rw [entriesOf_client name bound] at hkey
    simp_all [Application.withEnvironment]

theorem user_entries (h : Stores g instanceId spec app changed) (name : spec.name = "basic-auth") :
    ∃ user, g.users.get? (basicKey app instanceId) = some user ∧
      changed.environment.get? userEntry = some (.text user.username) ∧
      changed.environment.get? passwordEntry = some (.text user.password) := by
  cases h with
  | @user user name held =>
    have hne : userEntry ≠ passwordEntry := by decide
    exact ⟨user, held, by simp [Application.withEnvironment, hne],
      by simp [Application.withEnvironment]⟩
  | client clientId name' bound held =>
    rw [name] at name'
    exact absurd name' (by decide)

theorem exists_config (h : Stores g instanceId spec app changed) (name : spec.name = "oauth2") :
    ∃ config, Extension.bind OAuth2Config.view spec.args = .ok config := by
  cases h with
  | user name' held =>
    rw [name] at name'
    exact absurd name' (by decide)
  | client clientId name' bound held => exact ⟨_, bound⟩

theorem secret_entry (h : Stores g instanceId spec app changed) (name : spec.name = "oauth2")
    {config : OAuth2Config} (bound : Extension.bind OAuth2Config.view spec.args = .ok config) :
    ∃ secret, g.strings.get? (oauth2Key app instanceId) = some secret ∧
      changed.environment.get? (config.entry "client-secret") = some (.text secret) := by
  cases h with
  | user name' held =>
    rw [name] at name'
    exact absurd name' (by decide)
  | @client config' secret clientId name' bound' held =>
    obtain rfl := Except.ok.inj (bound.symm.trans bound')
    exact ⟨secret, held, (get?_registered config app clientId secret).2⟩

/-- Any provider writes the user that is held for the application, or none. -/
theorem user_kept (h : Stores g instanceId spec app changed) {user : UserCredentials}
    (held : g.users.get? (basicKey app instanceId) = some user)
    (husername : app.environment.get? userEntry = some (.text user.username))
    (hpassword : app.environment.get? passwordEntry = some (.text user.password)) :
    changed.environment.get? userEntry = some (.text user.username) ∧
      changed.environment.get? passwordEntry = some (.text user.password) := by
  have hwritten := h
  cases hwritten with
  | user name _ =>
    obtain ⟨user', held', hwritten⟩ := h.user_entries name
    obtain rfl := Option.some.inj (held.symm.trans held')
    exact hwritten
  | client clientId name bound _ =>
    have hentries := entriesOf_client name bound
    constructor
    · rw [h.frame (by simp [hentries, userEntry_ne_entry]), husername]
    · rw [h.frame (by simp [hentries, passwordEntry_ne_entry]), hpassword]

theorem secret_kept (h : Stores g instanceId spec app changed) (config : OAuth2Config)
    {secret : String} (held : g.strings.get? (oauth2Key app instanceId) = some secret)
    (hsecret : app.environment.get? (config.entry "client-secret") = some (.text secret)) :
    changed.environment.get? (config.entry "client-secret") = some (.text secret) := by
  have hwritten := h
  cases hwritten with
  | user name _ =>
    have hentries := entriesOf_user name
    rw [h.frame (by simp [hentries, (userEntry_ne_entry config _).symm,
      (passwordEntry_ne_entry config _).symm]), hsecret]
  | @client config' _ clientId name bound _ =>
    obtain ⟨secret', held', hwritten⟩ := h.secret_entry name bound
    obtain rfl := Option.some.inj (held.symm.trans held')
    by_cases hsame : config.entry "client-secret" = config'.entry "client-secret"
    · rw [hsame, hwritten]
    · have hentries := entriesOf_client name bound
      rw [h.frame (by simp [hentries, hsame, (idEntry_ne_secretEntry config' config).symm]),
        hsecret]

end Stores

namespace Provides

theorem name_eq (h : Provides g instanceId spec app changed) : changed.name = app.name :=
  h.stores.name_eq

theorem frame (h : Provides g instanceId spec app changed) {key : String}
    (hkey : key ∉ entriesOf spec) :
    changed.environment.get? key = app.environment.get? key := h.stores.frame hkey

/-- The client has got the id that was asked for, and the secret that is held for the
application. -/
theorem client_entries (h : Provides g instanceId spec app changed) (name : spec.name = "oauth2")
    {config : OAuth2Config} (bound : Extension.bind OAuth2Config.view spec.args = .ok config) :
    ∃ secret, g.strings.get? (oauth2Key app instanceId) = some secret ∧
      changed.environment.get? (config.entry "client-id") =
        some (.text (config.clientIdFor app.name instanceId)) ∧
      changed.environment.get? (config.entry "client-secret") = some (.text secret) := by
  cases h with
  | user name' held =>
    rw [name] at name'
    exact absurd name' (by decide)
  | @client config' secret name' bound' held =>
    obtain rfl := Except.ok.inj (bound.symm.trans bound')
    exact ⟨secret, held, get?_registered config app _ secret⟩

/-- What a provider writes depends on the name of the application only. -/
theorem congr (h : Provides g instanceId spec app changed)
    (h' : Provides g instanceId spec app' changed') (hname : app.name = app'.name) {key : String}
    (hkey : key ∈ entriesOf spec) :
    changed.environment.get? key = changed'.environment.get? key := by
  have hwritten := h
  cases hwritten with
  | user name _ =>
    have hsame : basicKey app instanceId = basicKey app' instanceId :=
      (basicKey_eq_iff app app' instanceId).mpr hname
    obtain ⟨user, held, husername, hpassword⟩ := h.stores.user_entries name
    obtain ⟨user', held', husername', hpassword'⟩ := h'.stores.user_entries name
    obtain rfl := Option.some.inj (held.symm.trans (hsame ▸ held'))
    rw [entriesOf_user name, List.mem_pair] at hkey
    rcases hkey with rfl | rfl
    · rw [husername, husername']
    · rw [hpassword, hpassword']
  | client name bound _ =>
    have hsame : oauth2Key app instanceId = oauth2Key app' instanceId :=
      (oauth2Key_eq_iff app app' instanceId).mpr hname
    obtain ⟨secret, held, hid, hsecret⟩ := h.client_entries name bound
    obtain ⟨secret', held', hid', hsecret'⟩ := h'.client_entries name bound
    obtain rfl := Option.some.inj (held.symm.trans (hsame ▸ held'))
    rw [entriesOf_client name bound, List.mem_pair] at hkey
    rcases hkey with rfl | rfl
    · rw [hid, hid', hname]
    · rw [hsecret, hsecret']

theorem of_sameAt {g' : Generator} (h : Provides g instanceId spec app changed)
    (hsame : ∀ key : CredentialKey, key.instanceId = instanceId → g'.SameAt key g) :
    Provides g' instanceId spec app changed := by
  cases h with
  | user name held => exact .user name ((hsame _ rfl).users.trans held)
  | client name bound held => exact .client name bound ((hsame _ rfl).strings.trans held)

end Provides

/-! ## What all providers write -/

variable {specs : List ExtensionSpec} {result result' : Application}

/-- Applications of one name get the same under each entry that some provider writes, whatever their
environments were. -/
theorem along_congr (along : Along (Provides g instanceId) specs app result)
    (along' : Along (Provides g instanceId) specs app' result') (hname : app.name = app'.name)
    {key : String}
    (hkey : app.environment.get? key = app'.environment.get? key ∨
      ∃ spec ∈ specs, key ∈ entriesOf spec) :
    result.environment.get? key = result'.environment.get? key := by
  induction along generalizing app' with
  | nil =>
    cases along'
    rcases hkey with hsame | ⟨spec, hspec, -⟩
    · exact hsame
    · cases hspec
  | @cons spec rest app changed result step _ ih =>
    cases along' with
    | cons step' steps' =>
      refine ih steps' (step.name_eq.trans (hname.trans step'.name_eq.symm)) ?_
      by_cases hwritten : key ∈ entriesOf spec
      · exact .inl (step.congr step' hname hwritten)
      · rcases hkey with hsame | ⟨other, hother, hlater⟩
        · exact .inl ((step.frame hwritten).trans (hsame.trans (step'.frame hwritten).symm))
        · rcases List.mem_cons.mp hother with rfl | hother
          · exact absurd hlater hwritten
          · exact .inr ⟨other, hother, hlater⟩

/-- The application has gone through its providers, each of which has written what the generator
holds. -/
def ProvidedFrom (g : Generator) (instanceId : String) (app result : Application) : Prop :=
  ∃ entity, app.SameOwner entity ∧
    Along (Provides g instanceId) entity.credentialProviders entity result

theorem ProvidedFrom.of_sameAt {g' : Generator} (h : ProvidedFrom g instanceId app result)
    (hsame : ∀ key : CredentialKey, key.instanceId = instanceId → g'.SameAt key g) :
    ProvidedFrom g' instanceId app result := by
  obtain ⟨entity, howner, along⟩ := h
  exact ⟨entity, howner, along.imp fun _ _ _ step => step.of_sameAt hsame⟩

theorem ProvidedFrom.congr (h : ProvidedFrom g instanceId app result)
    (h' : ProvidedFrom g instanceId app result') (hspec : spec ∈ app.credentialProviders)
    {key : String} (hkey : key ∈ entriesOf spec) :
    result.environment.get? key = result'.environment.get? key := by
  obtain ⟨entity, howner, along⟩ := h
  obtain ⟨entity', howner', along'⟩ := h'
  rw [howner.providers] at along
  rw [howner'.providers] at along'
  exact along_congr along along' (howner.name.trans howner'.name.symm) (.inr ⟨spec, hspec, hkey⟩)

/-- The application has got what the generator holds for it from each of its providers. -/
structure CarriesHeld (g : Generator) (instanceId : String) (app result : Application) : Prop where
  name : result.name = app.name
  user : ∀ spec ∈ app.credentialProviders, spec.name = "basic-auth" →
    ∃ user, g.users.get? (basicKey app instanceId) = some user ∧
      result.environment.get? userEntry = some (.text user.username) ∧
      result.environment.get? passwordEntry = some (.text user.password)
  secret : ∀ spec ∈ app.credentialProviders, spec.name = "oauth2" → ∃ config secret,
    Extension.bind OAuth2Config.view spec.args = .ok config ∧
      g.strings.get? (oauth2Key app instanceId) = some secret ∧
      result.environment.get? (config.entry "client-secret") = some (.text secret)

/-- Providers that write what the generator holds have all their secrets in the end. -/
theorem carriesHeld_of_along {entity : Application}
    (along : Along (Stores g instanceId) app.credentialProviders entity result)
    (hentity : entity.name = app.name) : CarriesHeld g instanceId app result := by
  have hname : ∀ spec entity changed, Stores g instanceId spec entity changed →
      entity.name = app.name → changed.name = app.name :=
    fun _ _ _ step h => step.name_eq.trans h
  have hbasicKey : ∀ entity : Application, entity.name = app.name →
      basicKey entity instanceId = basicKey app instanceId :=
    fun entity h => (basicKey_eq_iff entity app instanceId).mpr h
  have hoauth2Key : ∀ entity : Application, entity.name = app.name →
      oauth2Key entity instanceId = oauth2Key app instanceId :=
    fun entity h => (oauth2Key_eq_iff entity app instanceId).mpr h
  constructor
  case name => exact along.keeps hname hentity
  case user =>
    intro spec hspec name
    obtain ⟨before, after, hbefore, step⟩ := along.exists_step hname hentity spec hspec
    obtain ⟨user, held, -⟩ := step.user_entries name
    rw [hbasicKey before hbefore] at held
    refine ⟨user, held, along.established
      (I := fun entity => entity.environment.get? userEntry = some (.text user.username) ∧
        entity.environment.get? passwordEntry = some (.text user.password))
      hname (fun _ entity _ step h hI => ?_) hspec (fun entity _ step h => ?_) hentity⟩
    · exact step.user_kept (hbasicKey entity h ▸ held) hI.1 hI.2
    · obtain ⟨user', held', hwritten⟩ := step.user_entries name
      obtain rfl := Option.some.inj (held.symm.trans (hbasicKey entity h ▸ held'))
      exact hwritten
  case secret =>
    intro spec hspec name
    obtain ⟨before, after, hbefore, step⟩ := along.exists_step hname hentity spec hspec
    obtain ⟨config, bound⟩ := step.exists_config name
    obtain ⟨secret, held, -⟩ := step.secret_entry name bound
    rw [hoauth2Key before hbefore] at held
    refine ⟨config, secret, bound, held, along.established
      (I := fun entity => entity.environment.get? (config.entry "client-secret") =
        some (.text secret))
      hname (fun _ entity _ step h hI => ?_) hspec (fun entity _ step h => ?_) hentity⟩
    · exact step.secret_kept config (hoauth2Key entity h ▸ held) hI
    · obtain ⟨secret', held', hwritten⟩ := step.secret_entry name bound
      obtain rfl := Option.some.inj (held.symm.trans (hoauth2Key entity h ▸ held'))
      exact hwritten

theorem ProvidedFrom.carriesHeld (h : ProvidedFrom g instanceId app result) :
    CarriesHeld g instanceId app result := by
  obtain ⟨entity, howner, along⟩ := h
  rw [howner.providers] at along
  exact carriesHeld_of_along (along.imp fun _ _ _ step => step.stores) howner.name

/-! ## Courses of providers -/

/-- The events of a provider that succeeds, without its end, and what it makes of the
application. -/
inductive Adds (instanceId : String) (spec : ExtensionSpec) (app : Application) :
    List Event → Application → Prop where
  | user {config : BasicAuthConfig} {user : UserCredentials} (name : spec.name = "basic-auth")
      (bound : Extension.bind BasicAuthConfig.view spec.args = .ok config) :
      Adds instanceId spec app
        [.issued (.generateUser (basicKey app instanceId) config.charset),
          .answered (.generateUser (basicKey app instanceId) config.charset) (.ok user)]
        ((app.withEnvironment userEntry (.text user.username)).withEnvironment passwordEntry
          (.text user.password))
  | client {config : OAuth2Config} {secret : String} {requested client : OAuth2Client}
      (name : spec.name = "oauth2")
      (bound : Extension.bind OAuth2Config.view spec.args = .ok config)
      (id_eq : requested.clientId = config.clientIdFor app.name instanceId) :
      Adds instanceId spec app
        [.issued (.generateString (oauth2Key app instanceId) config.charset),
          .answered (.generateString (oauth2Key app instanceId) config.charset) (.ok secret),
          .issued (.createClient requested), .answered (.createClient requested) (.ok client)]
        ((app.withEnvironment (config.entry "client-id") (.text client.clientId)).withEnvironment
          (config.entry "client-secret") (.text secret))

theorem adds_of_course {c : Collaborators σ} {provider : CredentialProvider} {part : List Event}
    (hprovider : (spec.name = "basic-auth" ∧ ∃ config,
        Extension.bind BasicAuthConfig.view spec.args = .ok config ∧ provider = basicAuth config) ∨
      (spec.name = "oauth2" ∧ ∃ config,
        Extension.bind OAuth2Config.view spec.args = .ok config ∧ provider = oauth2 config))
    (course : (provider.add instanceId app).Course c (part ++ [.ended]) (.ok changed)) :
    Adds instanceId spec app part changed := by
  rcases hprovider with ⟨name, config, bound, rfl⟩ | ⟨name, config, bound, rfl⟩
  · obtain ⟨failure, hfailure, -⟩ | ⟨user, rest, written, hevents⟩ := course.of_ask_andThen
    · cases hfailure
    · cases written
      obtain rfl : part = [_, _] := List.append_cancel_right hevents
      exact .user name bound
  · obtain ⟨secret, requested, client, hid, -, hevents, rfl⟩ := oauth2_add_course course
    obtain rfl : part = [_, _, _, _] := List.append_cancel_right hevents
    exact .client name bound hid

namespace Adds

variable {part : List Event}

theorem name_eq (h : Adds instanceId spec app part changed) : changed.name = app.name := by
  cases h <;> rfl

theorem stores (h : Adds instanceId spec app part changed) (hheld : ∀ event ∈ part, event.Held g) :
    Stores g instanceId spec app changed := by
  cases h with
  | @user config user name bound =>
    exact .user name (hheld (.answered (.generateUser _ config.charset) (.ok user)) (by simp))
  | @client config secret requested client name bound id_eq =>
    exact .client _ name bound
      (hheld (.answered (.generateString _ config.charset) (.ok secret)) (by simp))

end Adds

/-- A provider that succeeds writes what is held, if all that is generated on the way stays. -/
theorem provides_of_course {others : Collaborators σ} (hechoes : others.EchoesClientIds)
    {entropy : Entropy} {provider : CredentialProvider} {part : List Event}
    (hprovider : (spec.name = "basic-auth" ∧ ∃ config,
        Extension.bind BasicAuthConfig.view spec.args = .ok config ∧ provider = basicAuth config) ∨
      (spec.name = "oauth2" ∧ ∃ config,
        Extension.bind OAuth2Config.view spec.args = .ok config ∧ provider = oauth2 config))
    (hheld : ∀ event ∈ part, event.Held g)
    (course : (provider.add instanceId app).Course (others.withGenerator entropy) (part ++ [.ended])
      (.ok changed)) : Provides g instanceId spec app changed := by
  have hadds := adds_of_course hprovider course
  cases hadds with
  | @user config user name bound =>
    exact .user name (hheld (.answered (.generateUser _ config.charset) (.ok user)) (by simp))
  | @client config secret requested client name bound id_eq =>
    obtain ⟨s, hs⟩ := course.answered_by
      (show Event.answered (.createClient requested) (.ok client) ∈ _ by simp)
    have hclient : client.clientId = config.clientIdFor app.name instanceId :=
      (hechoes requested s.2 client hs).trans id_eq
    rw [hclient]
    exact .client name bound
      (hheld (.answered (.generateString _ config.charset) (.ok secret)) (by simp))

end Credential

end ServiceBroker
