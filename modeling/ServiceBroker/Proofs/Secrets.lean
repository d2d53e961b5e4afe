import ServiceBroker.Proofs.Keeper
import ServiceBroker.Proofs.Provisioning
import ServiceBroker.Rehearsal.Script

/-!
Secrets over whole runs. Whatever the generator holds, some application of a service instance lists
the provider that asked for it, and that application has the same name when its service instance
goes. So a deletion that succeeds releases every secret of its service instance, and no preparation
touches the secrets of another one.
-/

namespace ServiceBroker

variable {σ : Type}

/-- A call that prepares something for a service instance. -/
inductive Preparation where
  | applications (instanceId : String) (parameters : Parameters)
  | services (instanceId : String) (parameters : Parameters)
  | deletion (instanceId : String)

namespace Preparation

def instanceId : Preparation → String
  | .applications instanceId _ => instanceId
  | .services instanceId _ => instanceId
  | .deletion instanceId => instanceId

/-- The state after a call. Each service instance is always prepared from the same entry. -/
def after (extensions : Extensions) (c : Collaborators σ) (entryOf : String → CatalogEntry)
    (s : σ) : Preparation → σ
  | .applications id parameters =>
    (extensions.prepareApplications c (entryOf id) id parameters s).state
  | .services id parameters => (extensions.prepareServices c (entryOf id) id parameters s).state
  | .deletion id => (extensions.prepareDeletion c (entryOf id) id s).state

def afterAll (extensions : Extensions) (c : Collaborators σ) (entryOf : String → CatalogEntry)
    (calls : List Preparation) (s : σ) : σ := calls.foldl (after extensions c entryOf) s

end Preparation

/-! ## Owners of keys -/

/-- The key is that of an application of its service instance which lists the provider. -/
def Owned (extensions : Extensions) (entryOf : String → CatalogEntry) (provider : String)
    (keyOf : Application → String → CredentialKey) (key : CredentialKey) : Prop :=
  ∃ apps, extensions.targetedApplications (entryOf key.instanceId) key.instanceId = .ok apps ∧
    ∃ app ∈ apps, key = keyOf app key.instanceId ∧
      ∃ spec ∈ app.credentialProviders, spec.name = provider

/-- Whatever the generator holds has an owner. -/
structure Accounted (extensions : Extensions) (entryOf : String → CatalogEntry) (g : Generator) :
    Prop where
  users : ∀ key, (g.users.get? key).isSome →
    Owned extensions entryOf "basic-auth" Credential.basicKey key
  strings : ∀ key, (g.strings.get? key).isSome →
    Owned extensions entryOf "oauth2" Credential.oauth2Key key

/-- The requests for secrets that a preparation for the service instance may make. -/
def Proper (extensions : Extensions) (entryOf : String → CatalogEntry) (instanceId : String) :
    Request → Prop
  | .generateUser key _ => key.instanceId = instanceId ∧
    Owned extensions entryOf "basic-auth" Credential.basicKey key
  | .generateString key _ => key.instanceId = instanceId ∧
    Owned extensions entryOf "oauth2" Credential.oauth2Key key
  | .deleteUser key => key.instanceId = instanceId
  | .deleteString key => key.instanceId = instanceId
  | _ => True

/-- Requests that issue secrets for applications of the service instance, and release none. -/
def Issuing (extensions : Extensions) (entryOf : String → CatalogEntry) (instanceId : String) :
    Request → Prop
  | .generateUser key _ => key.instanceId = instanceId ∧
    Owned extensions entryOf "basic-auth" Credential.basicKey key
  | .generateString key _ => key.instanceId = instanceId ∧
    Owned extensions entryOf "oauth2" Credential.oauth2Key key
  | .deleteUser _ => False
  | .deleteString _ => False
  | _ => True

/-- Requests that release secrets of the service instance, and issue none. -/
def Releasing (instanceId : String) : Request → Prop
  | .generateUser _ _ => False
  | .generateString _ _ => False
  | .deleteUser key => key.instanceId = instanceId
  | .deleteString key => key.instanceId = instanceId
  | _ => True

/-- The requests that a call may make. -/
def Preparation.Allows (extensions : Extensions) (entryOf : String → CatalogEntry) :
    Preparation → Request → Prop
  | .applications instanceId _ => Issuing extensions entryOf instanceId
  | .services _ _ => fun _ => False
  | .deletion instanceId => Releasing instanceId

variable {extensions : Extensions} {entryOf : String → CatalogEntry} {instanceId : String}

theorem Issuing.proper {r : Request} (h : Issuing extensions entryOf instanceId r) :
    Proper extensions entryOf instanceId r := by
  cases r with
  | deleteUser key => exact h.elim
  | deleteString key => exact h.elim
  | _ => exact h

theorem Releasing.proper {r : Request} (h : Releasing instanceId r) :
    Proper extensions entryOf instanceId r := by
  cases r with
  | generateUser key charset => exact h.elim
  | generateString key charset => exact h.elim
  | _ => exact h

theorem Proper.instanceId_eq {r : Request} (h : Proper extensions entryOf instanceId r)
    {key : CredentialKey} (hkey : r.key? = some key) : key.instanceId = instanceId := by
  cases r with
  | generateUser k charset =>
    obtain rfl := Option.some.inj hkey
    exact h.1
  | generateString k charset =>
    obtain rfl := Option.some.inj hkey
    exact h.1
  | deleteUser k =>
    obtain rfl := Option.some.inj hkey
    exact h
  | deleteString k =>
    obtain rfl := Option.some.inj hkey
    exact h
  | _ => cases hkey

theorem Preparation.Allows.proper {call : Preparation} {r : Request}
    (h : call.Allows extensions entryOf r) : Proper extensions entryOf call.instanceId r := by
  cases call with
  | applications id parameters => exact Issuing.proper h
  | services id parameters => exact h.elim
  | deletion id => exact Releasing.proper h

theorem Proper.accounted {r : Request} (hr : Proper extensions entryOf instanceId r)
    (others : Collaborators σ) (entropy : Entropy) {s : Generator × σ}
    (h : Accounted extensions entryOf s.1) :
    Accounted extensions entryOf ((others.withGenerator entropy).answer r s).2.1 := by
  constructor
  case users =>
    intro key hkey
    rcases others.user_held_of_answer entropy hkey with hheld | ⟨charset, rfl⟩
    · exact h.users key hheld
    · exact hr.2
  case strings =>
    intro key hkey
    rcases others.string_held_of_answer entropy hkey with hheld | ⟨charset, rfl⟩
    · exact h.strings key hheld
    · exact hr.2

theorem Proper.sameAt {r : Request} (hr : Proper extensions entryOf instanceId r)
    (others : Collaborators σ) (entropy : Entropy) (s : Generator × σ) {key : CredentialKey}
    (hne : key.instanceId ≠ instanceId) :
    ((others.withGenerator entropy).answer r s).2.1.SameAt key s.1 :=
  others.withGenerator_answer_other entropy fun e => hne (hr.instanceId_eq e)

/-! ## Credential providers -/

/-- On deletion a provider only releases secrets; the application stays as it is. -/
theorem Credential.delete_ensures {authorizationServer : Bool} {args : Parameters}
    {factory : Factory CredentialProvider} {provider : CredentialProvider}
    (hfactory : factory ∈ builtin authorizationServer)
    (hcreate : factory.create args = .ok provider) (app : Application) :
    (provider.delete instanceId app).Ensures (Releasing instanceId)
      fun r => ∀ changed, r = .ok changed → changed = app := by
  rcases of_builtin hfactory hcreate with ⟨-, config, -, rfl⟩ | ⟨-, config, -, rfl⟩
  · refine Program.ensures_ask_andThen rfl (fun _ _ h => nomatch h) fun _ => ?_
    rintro _ ⟨⟩
    rfl
  · refine Program.ensures_ask_andThen trivial (fun _ _ h => nomatch h) fun _ => ?_
    refine Program.ensures_ask_andThen rfl (fun _ _ h => nomatch h) fun _ => ?_
    rintro _ ⟨⟩
    rfl

namespace Credential

variable {factories : List (Factory CredentialProvider)} {providers : Registry CredentialProvider}

theorem delete_of_resolve (hproviders : Registry.ofFactories factories = .ok providers)
    (hbuiltin : ∀ factory ∈ factories, ∃ authorizationServer, factory ∈ builtin authorizationServer)
    {spec : ExtensionSpec} {provider : CredentialProvider}
    (hprovider : providers.resolveSpec spec = .ok provider) (instanceId : String)
    (app : Application) :
    (provider.delete instanceId app).Ensures (Releasing instanceId)
      fun r => ∀ changed, r = .ok changed → changed = app := by
  obtain ⟨factory, hfactory, -, hcreate⟩ := Registry.exists_factory_of_resolve hproviders hprovider
  obtain ⟨authorizationServer, hmem⟩ := hbuiltin factory hfactory
  exact delete_ensures hmem hcreate app

theorem deleteChain_ensures (hproviders : Registry.ofFactories factories = .ok providers)
    (hbuiltin : ∀ factory ∈ factories, ∃ authorizationServer, factory ∈ builtin authorizationServer)
    (instanceId : String) (app : Application) :
    (applicationChain providers .delete instanceId app).Ensures (Releasing instanceId)
      fun r => ∀ changed, r = .ok changed → changed = app := by
  refine chain_ensures (I := fun entity => entity = app) _ _ _ _ ?_ app rfl
  rintro spec - provider hprovider _ rfl
  exact delete_of_resolve hproviders hbuiltin hprovider instanceId _

end Credential

namespace Extensions.BuiltFrom

variable {maxNameLength : Nat} {authorizationServer : Bool}

theorem credentialFactories :
    ∀ factory ∈ Credential.builtin authorizationServer ++ CustomExtensions.credentialProviders {},
      ∃ authorizationServer, factory ∈ Credential.builtin authorizationServer := by
  intro factory h
  rw [List.append_nil] at h
  exact ⟨authorizationServer, h⟩

/-- A provider issues secrets under the key of its application only. -/
theorem add_ensures (built : extensions.BuiltFrom maxNameLength authorizationServer {})
    {apps : List Application} {app entity : Application} {spec : ExtensionSpec}
    {provider : CredentialProvider}
    (htarget : extensions.targetedApplications (entryOf instanceId) instanceId = .ok apps)
    (happ : app ∈ apps) (hspec : spec ∈ app.credentialProviders)
    (hprovider : extensions.credentialProviders.resolveSpec spec = .ok provider)
    (hname : entity.name = app.name) :
    (provider.add instanceId entity).Ensures (Issuing extensions entryOf instanceId)
      fun r => ∀ changed, r = .ok changed → changed.name = app.name := by
  rcases built.provider hprovider with ⟨hbasic, config, -, rfl⟩ | ⟨hoauth2, config, -, rfl⟩
  · have howned : Owned extensions entryOf "basic-auth" Credential.basicKey
        (Credential.basicKey entity instanceId) :=
      ⟨apps, htarget, app, happ, (Credential.basicKey_eq_iff ..).mpr hname, spec, hspec, hbasic⟩
    refine Program.ensures_ask_andThen ⟨rfl, howned⟩ (fun _ _ h => nomatch h) fun user => ?_
    rintro _ ⟨⟩
    exact hname
  · have howned : Owned extensions entryOf "oauth2" Credential.oauth2Key
        (Credential.oauth2Key entity instanceId) :=
      ⟨apps, htarget, app, happ, (Credential.oauth2Key_eq_iff ..).mpr hname, spec, hspec, hoauth2⟩
    change (ite _ _ _ : Program (Except Failure Application)).Ensures _ _
    split
    · exact fun _ h => nomatch h
    · refine Program.ensures_ask_andThen ⟨rfl, howned⟩ (fun _ _ h => nomatch h) fun secret => ?_
      refine Program.ensures_ask_andThen trivial (fun _ _ h => nomatch h) fun client => ?_
      rintro _ ⟨⟩
      exact hname

theorem addChain_asks (built : extensions.BuiltFrom maxNameLength authorizationServer {})
    {apps : List Application} {app entity : Application}
    (htarget : extensions.targetedApplications (entryOf instanceId) instanceId = .ok apps)
    (happ : app ∈ apps) (howner : app.SameOwner entity) :
    (Credential.applicationChain extensions.credentialProviders .add instanceId entity).Asks
      (Issuing extensions entryOf instanceId) := by
  refine (chain_ensures (I := fun entity : Application => entity.name = app.name) _ _ _ _
    (fun spec hspec provider hprovider entity hname => ?_) entity howner.name).asks
  rw [howner.providers] at hspec
  exact built.add_ensures htarget happ hspec hprovider hname

/-! ## One call -/

/-- What the requests that a call may make keep of the state holds after the call. -/
theorem after_keeps (built : extensions.BuiltFrom maxNameLength authorizationServer {})
    {c : Collaborators σ} {J : σ → Prop} (call : Preparation)
    (haccept : ∀ r s, J s → J (c.accept r s).2)
    (hanswer : ∀ r s, call.Allows extensions entryOf r → J s → J (c.answer r s).2) {s : σ}
    (h : J s) : J (call.after extensions c entryOf s) := by
  have keeps : c.Keeps (call.Allows extensions entryOf) fun w => J w.state :=
    Collaborators.keeps_state (fun r s _ hs => haccept r s hs) hanswer
  cases call with
  | services id parameters =>
    have hafter : (Preparation.services id parameters).after extensions c entryOf s = s :=
      built.prepareServices_state c (entryOf id) id parameters s
    rw [hafter]
    exact h
  | applications id parameters =>
    rw [Preparation.after]
    rcases built.prepareApplications_state c (entryOf id) id parameters s with
      hsame | ⟨apps, results, htarget, howners, hrun⟩
    · rw [hsame]
      exact h
    · rw [hrun]
      refine chains_keeps keeps (fun entity hentity => ?_) h
      obtain ⟨app, happ, howner⟩ := howners entity hentity
      exact built.addChain_asks htarget happ howner
  | deletion id =>
    rw [Preparation.after, Extensions.prepareDeletion_eq]
    cases extensions.targetedApplications (entryOf id) id with
    | error e => exact h
    | ok apps =>
      refine chains_keeps keeps (fun app _ => ?_) h
      exact (Credential.deleteChain_ensures built.credentialProviders credentialFactories
        id app).asks

variable (others : Collaborators σ) (entropy : Entropy)

theorem after_accounted (built : extensions.BuiltFrom maxNameLength authorizationServer {})
    (call : Preparation) {s : Generator × σ} (h : Accounted extensions entryOf s.1) :
    Accounted extensions entryOf
      (call.after extensions (others.withGenerator entropy) entryOf s).1 := by
  refine built.after_keeps (J := fun s : Generator × σ => Accounted extensions entryOf s.1) call
    (fun r s h => ?_) (fun r s hr h => hr.proper.accounted others entropy h) h
  rw [Collaborators.withGenerator_accept]
  exact h

theorem after_sameAt (built : extensions.BuiltFrom maxNameLength authorizationServer {})
    (call : Preparation) (s : Generator × σ) {key : CredentialKey}
    (hne : key.instanceId ≠ call.instanceId) :
    (call.after extensions (others.withGenerator entropy) entryOf s).1.SameAt key s.1 := by
  refine built.after_keeps (J := fun t : Generator × σ => t.1.SameAt key s.1) call
    (fun r t h => ?_) (fun r t hr h => (hr.proper.sameAt others entropy t hne).trans h)
    (.refl key s.1)
  rw [Collaborators.withGenerator_accept]
  exact h

end Extensions.BuiltFrom

/-! ## Deletion -/

/-- What the event says to be deleted is not held. -/
def Event.Gone : Event → Generator → Prop
  | .answered (.deleteUser key) _, g => g.users.get? key = none
  | .answered (.deleteString key) _, g => g.strings.get? key = none
  | _, _ => True

theorem Releasing.user_gone {r : Request} (hr : Releasing instanceId r) (others : Collaborators σ)
    (entropy : Entropy) {s : Generator × σ} {key : CredentialKey}
    (h : s.1.users.get? key = none) :
    ((others.withGenerator entropy).answer r s).2.1.users.get? key = none := by
  rw [← Option.not_isSome_iff_eq_none] at h ⊢
  intro hheld
  rcases others.user_held_of_answer entropy hheld with hbefore | ⟨charset, rfl⟩
  · exact h hbefore
  · exact hr

theorem Releasing.string_gone {r : Request} (hr : Releasing instanceId r) (others : Collaborators σ)
    (entropy : Entropy) {s : Generator × σ} {key : CredentialKey}
    (h : s.1.strings.get? key = none) :
    ((others.withGenerator entropy).answer r s).2.1.strings.get? key = none := by
  rw [← Option.not_isSome_iff_eq_none] at h ⊢
  intro hheld
  rcases others.string_held_of_answer entropy hheld with hbefore | ⟨charset, rfl⟩
  · exact h hbefore
  · exact hr

/-- What has been deleted in a run that only releases secrets is not held. -/
theorem releasing_keeps_gone (others : Collaborators σ) (entropy : Entropy) :
    (others.withGenerator entropy).Keeps (Releasing instanceId)
      fun w => ∀ entry ∈ w.log, entry.event.Gone w.state.1 := by
  refine Collaborators.keeps_told (fun event (s : Generator × σ) => event.Gone s.1)
    (fun _ _ => trivial) (fun _ => trivial) (fun r s _ => ?answered) (fun event r s _ h => ?accept)
    fun event r s hr h => ?answer
  case answered =>
    cases r with
    | deleteUser key => exact (Table.get?_erase ..).trans (if_pos rfl)
    | deleteString key => exact (Table.get?_erase ..).trans (if_pos rfl)
    | _ => trivial
  case accept =>
    rw [Collaborators.withGenerator_accept]
    exact h
  case answer =>
    cases event with
    | answered r' answer =>
      cases r' with
      | deleteUser key => exact hr.user_gone others entropy h
      | deleteString key => exact hr.string_gone others entropy h
      | _ => trivial
    | _ => trivial

theorem Credential.basicAuth_deletes {c : Collaborators σ} {config : BasicAuthConfig}
    {entity changed : Application} {events : List Event}
    (course : ((Credential.basicAuth config).delete instanceId entity).Course c events
      (.ok changed)) :
    ∃ answer, .answered (.deleteUser (Credential.basicKey entity instanceId)) answer ∈ events := by
  cases course with
  | call s rest => exact ⟨_, List.mem_cons_of_mem _ List.mem_cons_self⟩

theorem Credential.oauth2_deletes {c : Collaborators σ} {config : OAuth2Config}
    {entity changed : Application} {events : List Event}
    (course : ((Credential.oauth2 config).delete instanceId entity).Course c events
      (.ok changed)) :
    ∃ answer, .answered (.deleteString (Credential.oauth2Key entity instanceId)) answer ∈
      events := by
  cases course with
  | call s rest =>
    -- Nothing follows when the authorization server could not delete the client.
    generalize (c.answer _ s).1 = answer at rest ⊢
    cases answer with
    | error failure => cases rest
    | ok _ =>
      cases rest with
      | call s' rest =>
        exact ⟨(c.answer _ s').1, by simp⟩

namespace Extensions.BuiltFrom

variable {maxNameLength : Nat} {authorizationServer : Bool}

/-- In a deletion that succeeds every listed provider has done its part for every application. -/
theorem deletion_course (built : extensions.BuiltFrom maxNameLength authorizationServer {})
    {c : Collaborators σ} {apps results : List Application} {s : σ}
    (hok : (Credential.run c extensions.credentialProviders .delete instanceId apps s).value =
      .ok results) {app : Application} (happ : app ∈ apps) {spec : ExtensionSpec}
    (hspec : spec ∈ app.credentialProviders) :
    ∃ provider changed events, extensions.credentialProviders.resolveSpec spec = .ok provider ∧
      (provider.delete instanceId app).Course c events (.ok changed) ∧
      ∀ r answer, .answered r answer ∈ events → ∃ task, ⟨task, .answered r answer⟩ ∈
        (Credential.run c extensions.credentialProviders .delete instanceId apps s).log := by
  obtain ⟨i, hi⟩ := List.getElem?_of_mem happ
  obtain ⟨result, -, course⟩ := (chains_ok_course hok).2 i app hi
  obtain ⟨_, changed, rfl, provider, part, hprovider, hcourse, hpart⟩ :=
    (chain_ok_course _ _ _ _ course).exists_step (I := fun entity => entity = app)
      (by
        rintro spec _ changed ⟨provider, part, hprovider, hcourse, -⟩ rfl
        exact hcourse.ensures (Credential.delete_of_resolve built.credentialProviders
          credentialFactories hprovider instanceId _) changed rfl) rfl spec hspec
  refine ⟨provider, changed, _, hprovider, hcourse, fun r answer hmem => ⟨i, ?_⟩⟩
  rcases List.mem_append.mp hmem with hmem | hmem
  · exact mem_eventsOf.mp (hpart _ hmem)
  · cases List.mem_singleton.mp hmem

theorem deletion_gone (built : extensions.BuiltFrom maxNameLength authorizationServer {})
    (others : Collaborators σ) (entropy : Entropy) (instanceId : String) (apps : List Application)
    (s : Generator × σ) :
    let outcome := Credential.run (others.withGenerator entropy) extensions.credentialProviders
      .delete instanceId apps s
    ∀ entry ∈ outcome.log, entry.event.Gone outcome.state.1 :=
  have hchain :=
    Credential.deleteChain_ensures built.credentialProviders credentialFactories instanceId
  chains_keeps (releasing_keeps_gone others entropy) (fun app _ => (hchain app).asks)
    fun _ h => nomatch h

variable {others : Collaborators σ} {entropy : Entropy} {apps results : List Application}
  {app : Application} {s : Generator × σ}

theorem user_released (built : extensions.BuiltFrom maxNameLength authorizationServer {})
    (hok : (Credential.run (others.withGenerator entropy) extensions.credentialProviders .delete
      instanceId apps s).value = .ok results)
    (happ : app ∈ apps) {spec : ExtensionSpec} (hspec : spec ∈ app.credentialProviders)
    (hname : spec.name = "basic-auth") :
    (Credential.run (others.withGenerator entropy) extensions.credentialProviders .delete
      instanceId apps s).state.1.users.get? (Credential.basicKey app instanceId) = none := by
  obtain ⟨provider, changed, events, hprovider, course, hlog⟩ :=
    built.deletion_course hok happ hspec
  rcases built.provider hprovider with ⟨-, config, -, rfl⟩ | ⟨hother, -⟩
  · obtain ⟨answer, hanswer⟩ := Credential.basicAuth_deletes course
    obtain ⟨task, hmem⟩ := hlog _ answer hanswer
    exact built.deletion_gone others entropy instanceId apps s _ hmem
  · rw [hname] at hother
    exact absurd hother (by decide)

theorem string_released (built : extensions.BuiltFrom maxNameLength authorizationServer {})
    (hok : (Credential.run (others.withGenerator entropy) extensions.credentialProviders .delete
      instanceId apps s).value = .ok results)
    (happ : app ∈ apps) {spec : ExtensionSpec} (hspec : spec ∈ app.credentialProviders)
    (hname : spec.name = "oauth2") :
    (Credential.run (others.withGenerator entropy) extensions.credentialProviders .delete
      instanceId apps s).state.1.strings.get? (Credential.oauth2Key app instanceId) = none := by
  obtain ⟨provider, changed, events, hprovider, course, hlog⟩ :=
    built.deletion_course hok happ hspec
  rcases built.provider hprovider with ⟨hother, -⟩ | ⟨-, config, -, rfl⟩
  · rw [hname] at hother
    exact absurd hother (by decide)
  · obtain ⟨answer, hanswer⟩ := Credential.oauth2_deletes course
    obtain ⟨task, hmem⟩ := hlog _ answer hanswer
    exact built.deletion_gone others entropy instanceId apps s _ hmem

/-- A deletion that succeeds releases all secrets of its service instance. -/
theorem deletion_releases (built : extensions.BuiltFrom maxNameLength authorizationServer {})
    (h : Accounted extensions entryOf s.1)
    (hok : (extensions.prepareDeletion (others.withGenerator entropy) (entryOf instanceId)
      instanceId s).value = .ok results) :
    let deleted := (extensions.prepareDeletion (others.withGenerator entropy) (entryOf instanceId)
      instanceId s).state.1
    ∀ key : CredentialKey, key.instanceId = instanceId →
      deleted.users.get? key = none ∧ deleted.strings.get? key = none := by
  have haccounted := built.after_accounted others entropy (.deletion instanceId) h
  simp only [Preparation.after] at haccounted
  rw [Extensions.prepareDeletion] at hok haccounted ⊢
  cases htarget : extensions.targetedApplications (entryOf instanceId) instanceId with
  | error e =>
    simp only [htarget] at hok
    cases hok
  | ok apps =>
    simp only [htarget] at hok haccounted ⊢
    intro key hkey
    subst hkey
    -- Whatever is still held has an owner among the applications, whose provider has deleted it.
    constructor
    · by_contra hheld
      obtain ⟨apps', htarget', app, happ, hkey, spec, hspec, hname⟩ :=
        haccounted.users key (Option.isSome_iff_ne_none.mpr hheld)
      obtain rfl := Except.ok.inj (htarget.symm.trans htarget')
      apply hheld
      rw [hkey]
      exact built.user_released hok happ hspec hname
    · by_contra hheld
      obtain ⟨apps', htarget', app, happ, hkey, spec, hspec, hname⟩ :=
        haccounted.strings key (Option.isSome_iff_ne_none.mpr hheld)
      obtain rfl := Except.ok.inj (htarget.symm.trans htarget')
      apply hheld
      rw [hkey]
      exact built.string_released hok happ hspec hname

/-! ## Whole runs -/

theorem afterAll_accounted (built : extensions.BuiltFrom maxNameLength authorizationServer {})
    (others : Collaborators σ) (entropy : Entropy) (calls : List Preparation)
    (h : Accounted extensions entryOf s.1) :
    Accounted extensions entryOf
      (Preparation.afterAll extensions (others.withGenerator entropy) entryOf calls s).1 := by
  induction calls generalizing s with
  | nil => exact h
  | cons call rest ih => exact ih (built.after_accounted others entropy call h)

end Extensions.BuiltFrom

/-- After any calls, a deletion that succeeds leaves no secret of its service instance; and no call
touches the secrets of another service instance. -/
theorem secrets_released_and_kept_apart {maxNameLength : Nat} {authorizationServer : Bool}
    (hbuild : Extensions.build maxNameLength authorizationServer {} = .ok extensions)
    (others : Collaborators σ) (entropy : Entropy) (entryOf : String → CatalogEntry)
    (calls : List Preparation) (s : σ) :
    let c := others.withGenerator entropy
    let reached := Preparation.afterAll extensions c entryOf calls ({}, s)
    (∀ instanceId results,
      (extensions.prepareDeletion c (entryOf instanceId) instanceId reached).value = .ok results →
        let deleted :=
          (extensions.prepareDeletion c (entryOf instanceId) instanceId reached).state.1
        ∀ key : CredentialKey, key.instanceId = instanceId →
          deleted.users.get? key = none ∧ deleted.strings.get? key = none) ∧
    ∀ (call : Preparation) (key : CredentialKey), key.instanceId ≠ call.instanceId →
      (call.after extensions c entryOf reached).1.SameAt key reached.1 := by
  intro c reached
  have built := Extensions.builtFrom_of_build hbuild
  have hstart : Accounted extensions entryOf {} :=
    ⟨fun _ h => (nomatch h), fun _ h => nomatch h⟩
  have haccounted : Accounted extensions entryOf reached.1 :=
    built.afterAll_accounted others entropy calls hstart
  exact ⟨fun _ _ hok => built.deletion_releases haccounted hok,
    fun call key => built.after_sameAt others entropy call reached⟩

/-- Of two service instances one is deleted, and the other one keeps its user. -/
theorem secrets_released_and_kept_apart_staged :
    ∃ extensions, Extensions.build 50 true {} = .ok extensions ∧
      let app : Application := { name := "web", credentialProviders := [⟨"basic-auth", .empty⟩] }
      let entry : CatalogEntry :=
        { serviceName := "queue", planName := "small", applications := [app]
          target := some ⟨"instance-suffix", .empty⟩ }
      let c := (Rehearsal.Script.players {}).withGenerator fun position => position
      let reached := Preparation.afterAll extensions c (fun _ => entry)
        [.applications "1" .empty, .applications "2" .empty] ({}, 0)
      let deletion := extensions.prepareDeletion c entry "1" reached
      (reached.1.users.get? ⟨"web-1", "1", "basic"⟩).isSome ∧
        deletion.state.1.users.get? ⟨"web-1", "1", "basic"⟩ = none ∧
        (reached.1.users.get? ⟨"web-2", "2", "basic"⟩).isSome ∧
        deletion.state.1.users.get? ⟨"web-2", "2", "basic"⟩ =
          reached.1.users.get? ⟨"web-2", "2", "basic"⟩ := by
  refine ⟨_, rfl, ?_⟩
  intro app entry c reached deletion
  have hbuild : Extensions.build 50 true {} = .ok _ := rfl
  obtain ⟨hreleased, hapart⟩ := secrets_released_and_kept_apart hbuild
    (Rehearsal.Script.players {}) (fun position => position) (fun _ => entry)
    [.applications "1" .empty, .applications "2" .empty] 0
  have hok : deletion.value.isOk := by decide +kernel
  refine ⟨by decide +kernel, ?_, by decide +kernel, ?_⟩
  · cases hvalue : deletion.value with
    | error e =>
      rw [hvalue] at hok
      cases hok
    | ok results => exact (hreleased "1" results hvalue ⟨"web-1", "1", "basic"⟩ rfl).1
  · exact (hapart (.deletion "1") ⟨"web-2", "2", "basic"⟩ (by decide)).users

end ServiceBroker
