import ServiceBroker.Proofs.Prepared
import ServiceBroker.Proofs.Provided
import ServiceBroker.Proofs.Secrets

/-!
Credentials over several preparations. What an application gets is what the generator holds for it,
so as long as nothing is deleted it gets the same whenever it is prepared, and nothing new is issued
for it.
-/

namespace ServiceBroker

variable {σ : Type} {instanceId : String}

/-! ## Secrets that are held -/

section

variable {extensions : Extensions} {entryOf : String → CatalogEntry} (others : Collaborators σ)
  (entropy : Entropy)

/-- What has been generated in a run that releases no secrets is held. -/
theorem issuing_keeps_held :
    (others.withGenerator entropy).Keeps (Issuing extensions entryOf instanceId)
      fun w => ∀ entry ∈ w.log, entry.event.Held w.state.1 := by
  refine Collaborators.keeps_told (fun event (s : Generator × σ) => event.Held s.1)
    (fun _ _ => trivial) (fun _ => trivial) (fun r s _ => ?answered) (fun event r s _ h => ?accept)
    fun event r s hr h => ?answer
  case answered =>
    cases r with
    | generateUser key charset =>
      change Event.Held (.answered (.generateUser key charset)
        ((s.1.generateUser entropy key charset).1.mapError _))
        (s.1.generateUser entropy key charset).2
      cases hresult : (s.1.generateUser entropy key charset).1 with
      | error e => trivial
      | ok user => exact Generator.generateUser_held hresult
    | generateString key charset =>
      change Event.Held (.answered (.generateString key charset)
        ((s.1.generateString entropy key charset).1.mapError _))
        (s.1.generateString entropy key charset).2
      cases hresult : (s.1.generateString entropy key charset).1 with
      | error e => trivial
      | ok text => exact Generator.generateString_held hresult
    | _ => trivial
  case accept =>
    rw [Collaborators.withGenerator_accept]
    exact h
  case answer =>
    cases event with
    | answered r' answer =>
      cases r' with
      | generateUser key charset =>
        cases answer with
        | error failure => trivial
        | ok user => exact others.user_kept entropy (fun e => by subst e; exact hr) h
      | generateString key charset =>
        cases answer with
        | error failure => trivial
        | ok text => exact others.string_kept entropy (fun e => by subst e; exact hr) h
      | _ => trivial
    | _ => trivial

end

/-! ## Prepared applications -/

namespace Extensions.BuiltFrom

variable {extensions : Extensions} {maxNameLength : Nat} {authorizationServer : Bool}
  {entryOf : String → CatalogEntry} {others : Collaborators σ}

/-- Prepared applications have got what the generator holds at the end. -/
theorem provided (built : extensions.BuiltFrom maxNameLength authorizationServer {})
    (hechoes : others.EchoesClientIds) {entropy : Entropy} {parameters : Parameters}
    {s : Generator × σ} {results : List Application}
    (hok : (extensions.prepareApplications (others.withGenerator entropy) (entryOf instanceId)
      instanceId parameters s).value = .ok results) :
    let g := (extensions.prepareApplications (others.withGenerator entropy) (entryOf instanceId)
      instanceId parameters s).state.1
    ∃ apps, extensions.targetedApplications (entryOf instanceId) instanceId = .ok apps ∧
      List.Forall₂ (Credential.ProvidedFrom g instanceId) apps results := by
  obtain ⟨apps, transformed, htarget, htransform, t, hok, hstate⟩ := of_prepareApplications_ok hok
  intro g
  have hg : g = (Credential.run (others.withGenerator entropy) extensions.credentialProviders .add
    instanceId transformed t).state.1 := congrArg Prod.fst hstate
  have howners := (built.transformed (others.withGenerator entropy) parameters apps s).2 transformed
    htransform
  have hkeeps : (others.withGenerator entropy).Keeps (Issuing extensions entryOf instanceId) _ :=
    issuing_keeps_held others entropy
  have hheld := chains_keeps hkeeps (s := t) (fun entity hentity => by
    obtain ⟨app, happ, howner⟩ := howners entity hentity
    exact built.addChain_asks htarget happ howner) (fun _ h => nomatch h)
  have hprovided : List.Forall₂ (fun entity result =>
      Along (Credential.Provides g instanceId) entity.credentialProviders entity result)
      transformed results := by
    refine chains_ok_forall₂ hok fun entity _ events result hlog course => ?_
    refine (chain_ok_course _ _ _ _ course).imp fun spec before after hstep => ?_
    obtain ⟨provider, part, hprovider, hcourse, hpart⟩ := hstep
    refine Credential.provides_of_course hechoes (built.provider hprovider) (fun event h => ?_)
      hcourse
    obtain ⟨task, hentry⟩ := hlog event (hpart event h)
    rw [hg]
    exact hheld _ hentry
  have hmapped := chains_ok_ensures htransform fun app _ =>
    built.applicationChain_mapped parameters app
  exact ⟨apps, htarget, forall₂_trans hmapped hprovided fun _ entity _ hentity along =>
    ⟨entity, hentity.sameOwner, along⟩⟩

end Extensions.BuiltFrom

/-! ## Later calls -/

/-- Whatever the providers for the service instance may ask for is held already. -/
structure Settled (extensions : Extensions) (entryOf : String → CatalogEntry) (instanceId : String)
    (g : Generator) : Prop where
  users : ∀ key : CredentialKey, key.instanceId = instanceId →
    Owned extensions entryOf "basic-auth" Credential.basicKey key →
      ∃ user, g.users.get? key = some user
  strings : ∀ key : CredentialKey, key.instanceId = instanceId →
    Owned extensions entryOf "oauth2" Credential.oauth2Key key →
      ∃ text, g.strings.get? key = some text

section

variable {extensions : Extensions} {entryOf : String → CatalogEntry}

theorem settled_of_carriesHeld {g : Generator} {apps results : List Application}
    (htarget : extensions.targetedApplications (entryOf instanceId) instanceId = .ok apps)
    (h : List.Forall₂ (Credential.CarriesHeld g instanceId) apps results) :
    Settled extensions entryOf instanceId g := by
  have hcarried : ∀ app ∈ apps, ∃ result, Credential.CarriesHeld g instanceId app result := by
    intro app happ
    obtain ⟨i, hi, rfl⟩ := List.getElem_of_mem happ
    exact ⟨_, h.get hi (h.length_eq ▸ hi)⟩
  constructor
  case users =>
    rintro key rfl ⟨apps', htarget', app, happ, hkey, spec, hspec, name⟩
    obtain rfl := Except.ok.inj (htarget.symm.trans htarget')
    obtain ⟨result, hresult⟩ := hcarried app happ
    obtain ⟨user, held, -⟩ := hresult.user spec hspec name
    exact ⟨user, hkey ▸ held⟩
  case strings =>
    rintro key rfl ⟨apps', htarget', app, happ, hkey, spec, hspec, name⟩
    obtain rfl := Except.ok.inj (htarget.symm.trans htarget')
    obtain ⟨result, hresult⟩ := hcarried app happ
    obtain ⟨config, secret, -, held, -⟩ := hresult.secret spec hspec name
    exact ⟨secret, hkey ▸ held⟩

theorem Settled.of_sameAt {g g' : Generator} (h : Settled extensions entryOf instanceId g)
    (hsame : ∀ key : CredentialKey, key.instanceId = instanceId → g'.SameAt key g) :
    Settled extensions entryOf instanceId g' where
  users key hkey howned := by
    rw [(hsame key hkey).users]
    exact h.users key hkey howned
  strings key hkey howned := by
    rw [(hsame key hkey).strings]
    exact h.strings key hkey howned

theorem Issuing.unchanged {r : Request} (hr : Issuing extensions entryOf instanceId r)
    (others : Collaborators σ) (entropy : Entropy) {s : Generator × σ}
    (h : Settled extensions entryOf instanceId s.1) :
    ((others.withGenerator entropy).answer r s).2.1 = s.1 := by
  cases r with
  | generateUser key charset =>
    obtain ⟨user, held⟩ := h.users key hr.1 hr.2
    exact congrArg Prod.snd (Generator.generateUser_of_held entropy charset held)
  | generateString key charset =>
    obtain ⟨text, held⟩ := h.strings key hr.1 hr.2
    exact congrArg Prod.snd (Generator.generateString_of_held entropy charset held)
  | deleteUser key => exact hr.elim
  | deleteString key => exact hr.elim
  | _ => rfl

namespace Extensions.BuiltFrom

variable {maxNameLength : Nat} {authorizationServer : Bool} (others : Collaborators σ)
  (entropy : Entropy) {s : Generator × σ}

/-- Nothing is issued when applications are prepared once more. -/
theorem after_unchanged (built : extensions.BuiltFrom maxNameLength authorizationServer {})
    (h : Settled extensions entryOf instanceId s.1) (call : Preparation)
    (hid : call.instanceId = instanceId) (hcall : call ≠ .deletion instanceId) :
    (call.after extensions (others.withGenerator entropy) entryOf s).1 = s.1 := by
  refine built.after_keeps (J := fun t : Generator × σ => t.1 = s.1) call (fun r t ht => ?_)
    (fun r t hr ht => ?_) rfl
  · rw [Collaborators.withGenerator_accept]
    exact ht
  · cases call with
    | services id parameters => exact hr.elim
    | deletion id => exact absurd (congrArg Preparation.deletion hid) hcall
    | applications id parameters =>
      obtain rfl := hid
      exact (Issuing.unchanged hr others entropy (ht ▸ h)).trans ht

/-- What is held for a service instance is held unchanged until it is deleted. -/
theorem afterAll_sameAt (built : extensions.BuiltFrom maxNameLength authorizationServer {})
    (h : Settled extensions entryOf instanceId s.1) {calls : List Preparation}
    (hcalls : .deletion instanceId ∉ calls) {key : CredentialKey}
    (hkey : key.instanceId = instanceId) :
    (Preparation.afterAll extensions (others.withGenerator entropy) entryOf calls s).1.SameAt key
      s.1 := by
  induction calls generalizing s with
  | nil => exact .refl key s.1
  | cons call rest ih =>
    have hcall : call ≠ .deletion instanceId := fun e => hcalls (e ▸ List.mem_cons_self)
    have hsame : ∀ key : CredentialKey, key.instanceId = instanceId →
        (call.after extensions (others.withGenerator entropy) entryOf s).1.SameAt key s.1 := by
      intro key hkey
      by_cases hid : call.instanceId = instanceId
      · rw [built.after_unchanged others entropy h call hid hcall]
        exact .refl key s.1
      · exact built.after_sameAt others entropy call s fun e => hid (e.symm.trans hkey)
    exact (ih (h.of_sameAt hsame) fun hmem => hcalls (List.mem_cons_of_mem _ hmem)).trans
      (hsame key hkey)

theorem afterAll_unchanged (built : extensions.BuiltFrom maxNameLength authorizationServer {})
    (h : Settled extensions entryOf instanceId s.1) {calls : List Preparation}
    (hcalls : .deletion instanceId ∉ calls) (hids : ∀ call ∈ calls, call.instanceId = instanceId) :
    (Preparation.afterAll extensions (others.withGenerator entropy) entryOf calls s).1 = s.1 := by
  induction calls generalizing s with
  | nil => rfl
  | cons call rest ih =>
    have hcall : call ≠ .deletion instanceId := fun e => hcalls (e ▸ List.mem_cons_self)
    have hsame := built.after_unchanged others entropy h call (hids call List.mem_cons_self) hcall
    have hrest := ih (hsame ▸ h) (fun hmem => hcalls (List.mem_cons_of_mem _ hmem))
      fun call hmem => hids call (List.mem_cons_of_mem _ hmem)
    exact hrest.trans hsame

end Extensions.BuiltFrom

open Credential in
/-- Once applications have been prepared for a service instance, what they have got is held until a
deletion: whatever is prepared in between, they get the same when they are prepared again, from
whatever request, and nothing new is issued for them. -/
theorem credentials_stable {maxNameLength : Nat} {authorizationServer : Bool}
    (hbuild : Extensions.build maxNameLength authorizationServer {} = .ok extensions)
    {others : Collaborators σ} (hechoes : others.EchoesClientIds) (entropy : Entropy)
    (entryOf : String → CatalogEntry) {instanceId : String} {parameters : Parameters}
    {s : Generator × σ} {results : List Application}
    (hok : (extensions.prepareApplications (others.withGenerator entropy) (entryOf instanceId)
      instanceId parameters s).value = .ok results)
    {calls : List Preparation} (hcalls : .deletion instanceId ∉ calls) :
    let c := others.withGenerator entropy
    let first := extensions.prepareApplications c (entryOf instanceId) instanceId parameters s
    let reached := Preparation.afterAll extensions c entryOf calls first.state
    ∃ apps, extensions.targetedApplications (entryOf instanceId) instanceId = .ok apps ∧
      List.Forall₂ (CarriesHeld first.state.1 instanceId) apps results ∧
      List.Forall₂ (CarriesHeld reached.1 instanceId) apps results ∧
      ((∀ call ∈ calls, call.instanceId = instanceId) → reached.1 = first.state.1) ∧
      ∀ parameters',
        let second := extensions.prepareApplications c (entryOf instanceId) instanceId parameters'
          reached
        second.state.1 = reached.1 ∧ ∀ results', second.value = .ok results' →
          List.Forall₂ (CarriesHeld second.state.1 instanceId) apps results' ∧
          ∀ (i : Nat) (app result result' : Application), apps[i]? = some app →
            results[i]? = some result → results'[i]? = some result' →
              ∀ spec ∈ app.credentialProviders, ∀ key ∈ entriesOf spec,
                result'.environment.get? key = result.environment.get? key := by
  intro c first reached
  have built := Extensions.builtFrom_of_build hbuild
  obtain ⟨apps, htarget, hprovided⟩ := built.provided hechoes hok
  have hcarries : List.Forall₂ (CarriesHeld first.state.1 instanceId) apps results :=
    hprovided.imp fun _ _ h => h.carriesHeld
  have hsettled : Settled extensions entryOf instanceId first.state.1 :=
    settled_of_carriesHeld htarget hcarries
  have hsame : ∀ key : CredentialKey, key.instanceId = instanceId →
      reached.1.SameAt key first.state.1 :=
    fun key hkey => built.afterAll_sameAt others entropy hsettled hcalls hkey
  have hreached : List.Forall₂ (ProvidedFrom reached.1 instanceId) apps results :=
    hprovided.imp fun _ _ h => h.of_sameAt hsame
  refine ⟨apps, htarget, hcarries, hreached.imp fun _ _ h => h.carriesHeld,
    fun hids => built.afterAll_unchanged others entropy hsettled hcalls hids, ?_⟩
  intro parameters' second
  have hsecond : second.state.1 = reached.1 := built.after_unchanged others entropy
    (hsettled.of_sameAt hsame) (.applications instanceId parameters') rfl fun e => nomatch e
  refine ⟨hsecond, fun results' hok' => ?_⟩
  obtain ⟨_, htarget', hprovided'⟩ := built.provided hechoes hok'
  obtain rfl := Except.ok.inj (htarget.symm.trans htarget')
  refine ⟨hprovided'.imp fun _ _ h => h.carriesHeld, ?_⟩
  intro i app result result' happ hresult hresult' spec hspec key hkey
  obtain ⟨hi, rfl⟩ := List.getElem?_eq_some_iff.mp happ
  obtain ⟨hi', rfl⟩ := List.getElem?_eq_some_iff.mp hresult
  obtain ⟨hi'', rfl⟩ := List.getElem?_eq_some_iff.mp hresult'
  have hagain : ProvidedFrom reached.1 instanceId apps[i] results'[i] :=
    hsecond ▸ hprovided'.get hi hi''
  exact hagain.congr (hreached.get hi hi') hspec hkey

end

theorem Rehearsal.Script.players_echo {script : Rehearsal.Script} (h : script.renames = .empty) :
    script.players.EchoesClientIds := by
  intro client issued registered hanswer
  simp only [players, Collaborators.timed] at hanswer
  cases hfailure : script.failure? (.createClient client) with
  | some failure =>
    simp only [hfailure] at hanswer
    cases hanswer
  | none =>
    simp only [hfailure, reply, h] at hanswer
    cases hanswer
    rfl

/-- An application whose template names a user, and a second request that comes with a password. In
between another service instance is prepared and deleted. -/
theorem credentials_stable_staged :
    ∃ extensions, Extensions.build 50 true {} = .ok extensions ∧
      let app : Application :=
        { name := "web"
          environment := .ofList [("security.user.name", .text "root")]
          transformers := [⟨"env-mapping", .ofList [("include", .text "security.user.password")]⟩]
          credentialProviders :=
            [⟨"basic-auth", .empty⟩, ⟨"oauth2", .ofList [("registration", .text "sso")]⟩] }
      let entry : CatalogEntry :=
        { serviceName := "queue", planName := "small", applications := [app]
          target := some ⟨"instance-suffix", .empty⟩ }
      let c := (Rehearsal.Script.players {}).withGenerator fun position => position
      let first := extensions.prepareApplications c entry "7" .empty ({}, 0)
      let reached := Preparation.afterAll extensions c (fun _ => entry)
        [.applications "8" .empty, .deletion "8"] first.state
      let second := extensions.prepareApplications c entry "7"
        (.ofList [("security.user.password", .text "guess")]) reached
      ∃ result result' user, first.value = .ok [result] ∧ second.value = .ok [result'] ∧
        second.state.1.users.get? ⟨"web-7", "7", "basic"⟩ = some user ∧
        result.environment.get? Credential.passwordEntry = some (.text user.password) ∧
        result'.environment.get? Credential.passwordEntry = some (.text user.password) := by
  have hbuild : Extensions.build 50 true {} = .ok _ := rfl
  refine ⟨_, hbuild, ?_⟩
  intro app entry c first reached second
  have hfirst : first.value.isOk := by decide +kernel
  have hsecond : second.value.isOk := by decide +kernel
  obtain ⟨results, hfirst⟩ := exists_of_isOk hfirst
  obtain ⟨results', hsecond⟩ := exists_of_isOk hsecond
  have hcalls : Preparation.deletion "7" ∉ [.applications "8" .empty, .deletion "8"] := by simp
  obtain ⟨apps, htarget, -, hcarries, -, hagain⟩ := credentials_stable hbuild
    (Rehearsal.Script.players_echo rfl) (fun position => position) (fun _ => entry) hfirst hcalls
  obtain ⟨hunchanged, hvalues⟩ := hagain (.ofList [("security.user.password", .text "guess")])
  obtain ⟨hcarries', -⟩ := hvalues results' hsecond
  let resolved := app.withArtifact (Target.instanceSuffix 50 (entry.context "7") app.artifact)
  obtain rfl : apps = [resolved] := by
    cases htarget
    rfl
  have hkey : Credential.basicKey resolved "7" = ⟨"web-7", "7", "basic"⟩ := by decide +kernel
  cases hcarries with
  | cons hresult hrest =>
  cases hcarries' with
  | cons hresult' hrest' =>
  cases hrest
  cases hrest'
  obtain ⟨user, held, -, hpassword⟩ := hresult.user ⟨"basic-auth", .empty⟩ List.mem_cons_self rfl
  obtain ⟨user', held', -, hpassword'⟩ :=
    hresult'.user ⟨"basic-auth", .empty⟩ List.mem_cons_self rfl
  rw [hkey] at held held'
  obtain rfl := Option.some.inj ((hunchanged ▸ held).symm.trans held')
  exact ⟨_, _, user, hfirst, hsecond, held', hpassword, hpassword'⟩

end ServiceBroker
