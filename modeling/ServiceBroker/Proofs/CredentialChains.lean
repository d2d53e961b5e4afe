import ServiceBroker.Proofs.Alike
import ServiceBroker.Proofs.Prepared
import ServiceBroker.Proofs.SecretMemory
import ServiceBroker.Proofs.Secrets
import ServiceBroker.Rehearsal.Extension

/-!
Credentials of many applications at once. The chains of the applications share the keeper of
credentials and get on in any order, so that the secrets they are given depend on one another; what
they ask for, and where they fail, does not.
-/

namespace ServiceBroker

open Session (alone Interleaves)

variable {σ τ : Type} {c : Collaborators σ} {d : Collaborators τ} {instanceId : String}

namespace Application

theorem SameButEnvironment.name {app app' : Application} (h : app.SameButEnvironment app') :
    app.name = app'.name := by rw [h]

theorem SameButEnvironment.withEnvironment {app app' : Application}
    (h : app.SameButEnvironment app') (key : String) (value value' : Json.Value) :
    (app.withEnvironment key value).SameButEnvironment (app'.withEnvironment key value') := by
  rw [h]
  rfl

end Application

/-- The secrets that are in the environment, or come as answers, do not decide on what the providers
of the factory ask for. -/
def Factory.Discreet (factory : Factory CredentialProvider) : Prop :=
  ∀ args provider, factory.create args = .ok provider →
    ∀ (phase : Credential.Phase) (instanceId : String) (app app' : Application),
      app.SameButEnvironment app' →
        (phase.work instanceId provider app).Alike (SameResult Application.SameButEnvironment)
          (phase.work instanceId provider app')

namespace Credential

variable {app app' : Application}

theorem basicAuth_alike (config : BasicAuthConfig) (phase : Phase) (instanceId : String)
    (h : app.SameButEnvironment app') :
    (phase.work instanceId (basicAuth config) app).Alike (SameResult Application.SameButEnvironment)
      (phase.work instanceId (basicAuth config) app') := by
  have hkey : basicKey app instanceId = basicKey app' instanceId :=
    (basicKey_eq_iff app app' instanceId).mpr h.name
  cases phase with
  | add =>
    refine Program.alike_ask_andThen ?_ fun user user' => .done (.ok ?_)
    · rw [hkey]
    · exact (h.withEnvironment userEntry _ _).withEnvironment passwordEntry _ _
  | delete =>
    refine Program.alike_ask_andThen ?_ fun _ _ => .done (.ok h)
    rw [hkey]

theorem oauth2_alike (config : OAuth2Config) (phase : Phase) (instanceId : String)
    (h : app.SameButEnvironment app') :
    (phase.work instanceId (oauth2 config) app).Alike (SameResult Application.SameButEnvironment)
      (phase.work instanceId (oauth2 config) app') := by
  have hkey : oauth2Key app instanceId = oauth2Key app' instanceId :=
    (oauth2Key_eq_iff app app' instanceId).mpr h.name
  cases phase with
  | add =>
    simp only [Phase.work, oauth2]
    split
    · exact .done (.error _)
    · refine Program.alike_ask_andThen ?_ fun secret secret' =>
        Program.alike_ask_andThen ?_ fun client client' => .done (.ok ?_)
      · rw [hkey]
      · simp only [Request.withoutSecret, h.name]
      · exact (h.withEnvironment _ _ _).withEnvironment _ _ _
  | delete =>
    refine Program.alike_ask_andThen ?_ fun _ _ =>
      Program.alike_ask_andThen ?_ fun _ _ => .done (.ok h)
    · rw [h.name]
    · rw [hkey]

theorem builtin_discreet (authorizationServer : Bool) :
    ∀ factory ∈ builtin authorizationServer, factory.Discreet := by
  intro factory hfactory args provider hcreate phase instanceId app app' h
  rcases of_builtin hfactory hcreate with ⟨-, config, -, rfl⟩ | ⟨-, config, -, rfl⟩
  · exact basicAuth_alike config phase instanceId h
  · exact oauth2_alike config phase instanceId h

variable {factories : List (Factory CredentialProvider)} {providers : Registry CredentialProvider}

theorem applicationChain_alike (hproviders : Registry.ofFactories factories = .ok providers)
    (hfactories : ∀ factory ∈ factories, factory.Discreet) (phase : Phase) (instanceId : String)
    (app : Application) :
    (applicationChain providers phase instanceId app).Alike
      (SameResult Application.SameButEnvironment)
      (applicationChain providers phase instanceId app) := by
  refine chain_alike providers (phase.work instanceId) (fun _ _ h => h.name) _
    (fun spec _ provider hprovider app app' h => ?_) rfl
  obtain ⟨factory, hfactory, -, hcreate⟩ := Registry.exists_factory_of_resolve hproviders hprovider
  exact hfactories factory hfactory spec.args provider hcreate phase instanceId app app' h

/-- A successful deletion through built-in providers gives the applications back as they were. -/
theorem run_delete_eq (hproviders : Registry.ofFactories factories = .ok providers)
    (hbuiltin : ∀ factory ∈ factories, ∃ authorizationServer, factory ∈ builtin authorizationServer)
    {apps results : List Application} {s : σ}
    (hok : (run c providers .delete instanceId apps s).value = .ok results) : results = apps := by
  have hsame := chains_ok_ensures (R := fun app changed => changed = app) hok fun app _ =>
    deleteChain_ensures hproviders hbuiltin instanceId app
  exact List.forall₂_eq_eq_eq ▸ hsame.flip

theorem course_of_no_providers {phase : Phase} (hnone : app.credentialProviders = [])
    {events : List Event} {value : Except PipelineError Application}
    (course : (applicationChain providers phase instanceId app).Course c events value) :
    events = [.ended] ∧ value = .ok app := by
  rw [applicationChain, hnone, chain] at course
  cases course
  exact ⟨rfl, rfl⟩

end Credential

/-! ## Collaborators whose failures are settled -/

/-- Whether a secret can be drawn for the request. A user name is drawn without special
characters. -/
def Request.Drawable : Request → Prop
  | .generateUser _ charset =>
    0 < charset.length ∧ { charset with special := false }.alphabet ≠ [] ∧ charset.alphabet ≠ []
  | .generateString _ charset => 0 < charset.length ∧ charset.alphabet ≠ []
  | _ => True

namespace Generator

theorem exists_generateUser (entropy : Entropy) (g : Generator) (key : CredentialKey)
    {charset : Charset} (h : (Request.generateUser key charset).Drawable) :
    ∃ user, (g.generateUser entropy key charset).1 = .ok user := by
  obtain ⟨hlength, hname, -⟩ := h
  refine (g.generateUser_asked entropy key charset).exists_ok ?_
  exact (drawable_withoutSpecial_iff charset).mp
    ⟨hlength, not_not.mp fun h => hname (Charset.alphabet_eq_nil_iff.mpr h)⟩

theorem exists_generateString (entropy : Entropy) (g : Generator) (key : CredentialKey)
    {charset : Charset} (h : (Request.generateString key charset).Drawable) :
    ∃ text, (g.generateString entropy key charset).1 = .ok text := by
  obtain ⟨hlength, halphabet⟩ := h
  refine (g.generateString_asked entropy key charset).exists_ok ?_
  exact ⟨hlength, not_not.mp fun h => halphabet (Charset.alphabet_eq_nil_iff.mpr h)⟩

end Generator

/-- The random generator fails none of the requests that it can draw for. -/
theorem Collaborators.withGenerator_failsAs {others : Collaborators σ}
    {outcome : Request → Option Failure} (entropy : Entropy) {r : Request} (hr : r.Drawable)
    (hothers : others.FailsAs outcome r) :
    (others.withGenerator entropy).FailsAs
      (fun r => if r.isForSecret then none else outcome r) r := by
  intro s
  cases r with
  | generateUser key charset =>
    obtain ⟨user, huser⟩ := s.1.exists_generateUser entropy key hr
    simp only [withGenerator, Generator.answer?, huser]
    rfl
  | generateString key charset =>
    obtain ⟨text, htext⟩ := s.1.exists_generateString entropy key hr
    simp only [withGenerator, Generator.answer?, htext]
    rfl
  | deleteUser key => rfl
  | deleteString key => rfl
  | _ => exact hothers s.2

namespace Rehearsal

theorem Script.failure?_players (script : Script) (r : Request) (issued : Nat) :
    Answer.failure? (script.players.answer r issued).1 =
      (script.failure? r).or (Answer.failure? (script.reply issued r).1) := by
  simp only [players, Collaborators.timed]
  cases script.failure? r <;> rfl

theorem Script.players_failsAs (script : Script) (r : Request) :
    script.players.FailsAs (fun r => Answer.failure? (script.players.answer r 0).1) r := by
  intro issued
  simp only [failure?_players]
  cases r with
  | lookup instanceId =>
    have hreply : Answer.failure? (script.reply issued (.lookup instanceId)).1 =
        Answer.failure? (script.reply 0 (.lookup instanceId)).1 := by
      simp only [reply]
      split <;> rfl
    rw [hreply]
    rfl
  | _ => rfl

theorem Conduct.alike (conduct : Conduct) (extension verb : String)
    {change : Application → Application} {app app' : Application} (h : app.SameButEnvironment app')
    (hchange : (change app).SameButEnvironment (change app')) :
    (conduct.work extension verb (·.name) change app).Alike
      (SameResult Application.SameButEnvironment)
      (conduct.work extension verb (·.name) change app') := by
  refine Program.alike_ask_andThen ?_ fun _ _ => .done (.ok hchange)
  simp only [h.name]

theorem Cast.credentialProvider_discreet (extension : String) :
    (credentialProvider extension).Discreet := by
  intro args provider hcreate phase instanceId app app' h
  obtain ⟨conduct, -, rfl⟩ := Registry.exists_config_of_create hcreate
  cases phase with
  | add =>
    refine conduct.alike extension "add" h ?_
    rw [h]
    rfl
  | delete =>
    refine conduct.alike extension "delete" h ?_
    rw [h]
    rfl

end Rehearsal

/-! ## Many applications -/

/-- The chains of credential providers of many applications call for what each of them calls for
alone, and fail where it fails alone, whatever the delays. This needs either answers that the
requests decide on, or failures that the requests decide on and providers that do not look at
secrets, as the built-in ones do not. -/
theorem credentials_called_like_alone {factories : List (Factory CredentialProvider)}
    {providers : Registry CredentialProvider}
    (hproviders : Registry.ofFactories factories = .ok providers) (phase : Credential.Phase)
    (instanceId : String) (apps : List Application)
    (hcalls : (∀ app ∈ apps,
        (Credential.applicationChain providers phase instanceId app).Asks (c.Agree d)) ∨
      (∀ factory ∈ factories, (∃ authorizationServer,
        factory ∈ Credential.builtin authorizationServer) ∨ factory.Discreet) ∧
      ∃ outcome, ∀ app ∈ apps, (Credential.applicationChain providers phase instanceId app).Asks
        fun r => c.FailsAs outcome r ∧ d.FailsAs outcome r) (s : σ) (t : τ) :
    let chainOf := Credential.applicationChain providers phase instanceId
    let joint := Credential.run c providers phase instanceId apps s
    CallsLikeAlone c d chainOf apps t joint.log joint.value ∧
      (∀ o, Interleaves c (apps.map chainOf) s o →
        CallsLikeAlone c d chainOf apps t o.log (o.value.mapM id)) ∧
      (∀ (i : Nat) (app : Application), apps[i]? = some app → app.credentialProviders = [] →
        eventsOf i joint.log = [.ended] ∧
          ∀ results, joint.value = .ok results → results[i]? = some app) ∧
      (phase = .delete → (∀ factory ∈ factories, ∃ authorizationServer,
          factory ∈ Credential.builtin authorizationServer) →
        ∀ results, joint.value = .ok results → results = apps) := by
  intro chainOf joint
  have halike : ∀ app ∈ apps, ∀ events value, (chainOf app).Course c events value →
      let outcome := alone d (chainOf app) t
      events.map Event.sign = (eventsOf 0 outcome.log).map Event.sign ∧
        SameResult (fun _ _ => True) value outcome.value := by
    intro app happ events value course
    have course' := Session.alone_course d (chainOf app) t
    rcases hcalls with hagree | ⟨hdiscreet, outcome, hfails⟩
    · obtain ⟨hevents, hvalue⟩ := course.deterministic (hagree app happ) course'
      rw [hevents, hvalue]
      exact ⟨rfl, .refl (fun _ => trivial) _⟩
    · have hfactories : ∀ factory ∈ factories, factory.Discreet := by
        intro factory hfactory
        obtain ⟨authorizationServer, hbuiltin⟩ | hdiscreet := hdiscreet factory hfactory
        · exact Credential.builtin_discreet authorizationServer factory hbuiltin
        · exact hdiscreet
      have hchain := Credential.applicationChain_alike hproviders hfactories phase instanceId app
      have hc := (hfails app happ).mono (fun _ h => h.1) fun _ h => h
      have hd := (hfails app happ).mono (fun _ h => h.2) fun _ h => h
      obtain ⟨hsigns, hresult⟩ := hchain.course hc hd course course'
      exact ⟨hsigns, hresult.mono fun _ _ _ => trivial⟩
  obtain ⟨values, ran, hvalue⟩ := chains_sideBySide c chainOf apps s
  refine ⟨?_, fun o run => run.sideBySide.callsLikeAlone t halike, fun i app happ hnone => ?_, ?_⟩
  · have hlike := ran.callsLikeAlone t halike
    rw [← hvalue] at hlike
    exact hlike
  · obtain ⟨_, -, course⟩ := ran.course i app happ
    refine ⟨(Credential.course_of_no_providers hnone course).1, fun results hok => ?_⟩
    obtain ⟨result, hresult, course⟩ := (ran.of_ok (hvalue.symm.trans hok)).2 i app happ
    rw [hresult, Except.ok.inj (Credential.course_of_no_providers hnone course).2]
  · rintro rfl hbuiltin results hok
    exact Credential.run_delete_eq hproviders hbuiltin hok

/-- The first application gets its user and then fails late, the second one fails before it but
after its secret is drawn; the failure of the first one is told. What the second one calls for is
what it calls for alone, though with another secret. -/
theorem credentials_called_like_alone_staged :
    ∃ providers,
      Registry.ofFactories (Credential.builtin true ++
          [Rehearsal.Cast.credentialProvider "stage"]) =
        .ok providers ∧
      let slow : Application :=
        { name := "slow"
          credentialProviders := [⟨"basic-auth", .empty⟩,
            ⟨"stage", .ofList [("delay", .number (.integer 3)), ("fail", .text "stuck")]⟩] }
      let fast : Application :=
        { name := "fast"
          credentialProviders := [⟨"oauth2", .ofList [("registration", .text "sso")]⟩] }
      let script : Rehearsal.Script :=
        { failures := .ofList [("create_client:fast-7", ⟨"denied", []⟩)]
          delays := .ofList [("create_client:fast-7", 1)] }
      let c := script.players.withGenerator fun position => position
      let d := { script with delays := .empty }.players.withGenerator fun position => position
      let joint := Credential.run c providers .add "7" [slow, fast, { name := "bare" }] ({}, 0)
      joint.value = .error (.step "stage" "slow" ⟨"stuck", []⟩) ∧
        (eventsOf 1 joint.log).map Event.sign =
          (eventsOf 0 (alone d (Credential.applicationChain providers .add "7" fast)
            ({}, 0)).log).map Event.sign ∧
        eventsOf 2 joint.log = [.ended] := by
  refine ⟨_, rfl, ?_⟩
  intro slow fast script c d joint
  have hdiscreet : ∀ factory ∈
      Credential.builtin true ++ [Rehearsal.Cast.credentialProvider "stage"],
      (∃ authorizationServer, factory ∈ Credential.builtin authorizationServer) ∨
        factory.Discreet := by
    intro factory h
    rcases List.mem_append.mp h with hbuiltin | hstage
    · exact .inl ⟨true, hbuiltin⟩
    · obtain rfl := List.mem_singleton.mp hstage
      exact .inr (Rehearsal.Cast.credentialProvider_discreet "stage")
  let outcome : Request → Option Failure := fun r =>
    if r.isForSecret then none else Answer.failure? (script.players.answer r 0).1
  have hfails : ∀ r : Request, r.Drawable → c.FailsAs outcome r ∧ d.FailsAs outcome r := fun r hr =>
    ⟨Collaborators.withGenerator_failsAs _ hr (script.players_failsAs r),
      Collaborators.withGenerator_failsAs _ hr
        ({ script with delays := .empty }.players_failsAs r)⟩
  have hproviders :
      Registry.ofFactories (Credential.builtin true ++
          [Rehearsal.Cast.credentialProvider "stage"]) =
        .ok _ := rfl
  have hcalled := fun hcalls => credentials_called_like_alone (c := c) (d := d) hproviders .add "7"
    [slow, fast, { name := "bare" }] hcalls ({}, 0) ({}, 0)
  obtain ⟨hlike, -, hnone, -⟩ := hcalled <| .inr <| by
    refine ⟨hdiscreet, outcome, fun app happ => Program.Ensures.mono ?_ hfails fun _ h => h⟩
    revert app
    refine List.forall_mem_cons.mpr ⟨?slow, List.forall_mem_cons.mpr ⟨?fast, ?bare⟩⟩
    case slow =>
      refine ⟨⟨by decide, by decide, by decide⟩, fun answer => ?_⟩
      cases answer with
      | error failure => trivial
      | ok user =>
        refine ⟨trivial, fun answer => ?_⟩
        cases answer <;> trivial
    case fast =>
      refine ⟨⟨by decide, by decide⟩, fun answer => ?_⟩
      cases answer with
      | error failure => trivial
      | ok secret =>
        refine ⟨trivial, fun answer => ?_⟩
        cases answer <;> trivial
    case bare => exact List.forall_mem_singleton.mpr trivial
  refine ⟨?_, (hlike.calls 1 fast rfl).1, (hnone 2 _ rfl rfl).1⟩
  exact (hlike.error_iff _).mpr ⟨0, slow, rfl, rfl, fun j hj => absurd hj (Nat.not_lt_zero j)⟩

end ServiceBroker
