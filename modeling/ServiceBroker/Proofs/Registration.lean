import ServiceBroker.Credential.Provider
import ServiceBroker.Proofs.Course
import ServiceBroker.Rehearsal.Script

/-!
Clients of the authorization server, from registration to removal. A registration notes the id that
the server has given to the client; a deletion does not see that note and asks for the id to be
removed that the registration has asked for.
-/

namespace ServiceBroker.Credential

variable {σ : Type}

/-- The events of a registration: a secret is generated for the key, the server is asked for a
client of the id with that secret, and answers with the client that it has registered. -/
inductive Registers (key : CredentialKey) (clientId secret : String) (client : OAuth2Client) :
    List Event → Prop where
  | intro (charset : Charset) (requested : OAuth2Client) (hid : requested.clientId = clientId)
      (hsecret : requested.clientSecret = secret) :
      Registers key clientId secret client
        [.issued (.generateString key charset),
          .answered (.generateString key charset) (.ok secret), .issued (.createClient requested),
          .answered (.createClient requested) (.ok client), .ended]

/-- The events of a deletion: the server is asked once to remove the client of the id, and if it
does that, the secret under the key is deleted. -/
inductive Deletes (clientId : String) (key : CredentialKey) : List Event → Prop where
  | refused (failure : Failure) :
      Deletes clientId key
        [.issued (.deleteClient clientId), .answered (.deleteClient clientId) (.error failure),
          .ended]
  | followed (answer : Answer (.deleteString key)) :
      Deletes clientId key
        [.issued (.deleteClient clientId), .answered (.deleteClient clientId) (.ok ()),
          .issued (.deleteString key), .answered (.deleteString key) answer, .ended]

theorem Deletes.clientId_unique {clientId other : String} {key key' : CredentialKey}
    {events : List Event} (h : Deletes clientId key events) (h' : Deletes other key' events) :
    clientId = other := by
  cases h <;> cases h' <;> rfl

variable {config : OAuth2Config} {instanceId : String} {c : Collaborators σ} {events : List Event}

theorem oauth2_add_course {app app' : Application}
    (course : ((oauth2 config).add instanceId app).Course c events (.ok app')) :
    ∃ (secret : String) (requested client : OAuth2Client),
      requested.clientId = config.clientIdFor app.name instanceId ∧
      requested.clientSecret = secret ∧
      events = [.issued (.generateString (oauth2Key app instanceId) config.charset),
        .answered (.generateString (oauth2Key app instanceId) config.charset) (.ok secret),
        .issued (.createClient requested), .answered (.createClient requested) (.ok client),
        .ended] ∧
      app' =
        (app.withEnvironment (config.entry "client-id") (.text client.clientId)).withEnvironment
          (config.entry "client-secret") (.text secret) := by
  simp only [oauth2] at course
  split at course
  · cases course
  · obtain ⟨failure, hfailure, -⟩ | ⟨secret, rest, asked, rfl⟩ := course.of_ask_andThen
    · cases hfailure
    · obtain ⟨failure, hfailure, -⟩ | ⟨client, rest, registered, rfl⟩ := asked.of_ask_andThen
      · cases hfailure
      · cases registered
        exact ⟨secret, _, client, rfl, rfl, rfl, rfl⟩

theorem add_course {app app' : Application}
    (course : ((oauth2 config).add instanceId app).Course c events (.ok app')) :
    ∃ secret client,
      Registers (oauth2Key app instanceId) (config.clientIdFor app.name instanceId) secret client
        events ∧
      app' =
        (app.withEnvironment (config.entry "client-id") (.text client.clientId)).withEnvironment
          (config.entry "client-secret") (.text secret) := by
  obtain ⟨secret, requested, client, hid, hsecret, rfl, rfl⟩ := oauth2_add_course course
  exact ⟨secret, client, .intro _ requested hid hsecret, rfl⟩

/-- A deletion computes the id of the client as a registration does that asks for it. -/
theorem delete_course {app : Application} {a : Except Failure Application}
    (course : ((oauth2 config).delete instanceId app).Course c events a) :
    Deletes (config.clientIdFor app.name instanceId) (oauth2Key app instanceId) events := by
  obtain ⟨failure, -, rfl⟩ | ⟨-, rest, removed, rfl⟩ := course.of_ask_andThen
  · exact .refused failure
  · obtain ⟨failure, -, rfl⟩ | ⟨-, rest, released, rfl⟩ := removed.of_ask_andThen
    · exact .followed (.error failure)
    · cases released
      exact .followed (.ok ())

theorem get?_registered (config : OAuth2Config) (app : Application) (clientId secret : String) :
    let app' := (app.withEnvironment (config.entry "client-id") (.text clientId)).withEnvironment
      (config.entry "client-secret") (.text secret)
    app'.environment.get? (config.entry "client-id") = some (.text clientId) ∧
      app'.environment.get? (config.entry "client-secret") = some (.text secret) := by
  have hne : config.entry "client-id" ≠ config.entry "client-secret" := by
    intro h
    exact absurd ((String.append_right_inj _).mp h) (by decide)
  simp [Application.withEnvironment, hne]

/-- A deletion asks for the id to be removed that the registration asked for, whoever is asked and
whenever, and the secret that it then deletes is the one that was generated for the client. So it
removes the registered client exactly if the server gave this client the id that it was asked
for. -/
theorem deletion_unregisters_iff {app app' : Application} {s : σ} {registered : String}
    (hadd : (Session.alone c ((oauth2 config).add instanceId app) s).value = .ok app')
    (hnoted : app'.environment.get? (config.entry "client-id") = some (.text registered)) :
    let key := oauth2Key app instanceId
    ∃ secret client,
      Registers key (config.clientIdFor app.name instanceId) secret client
        ((Session.alone c ((oauth2 config).add instanceId app) s).log.map LogEntry.event) ∧
      client.clientId = registered ∧
      app'.environment.get? (config.entry "client-secret") = some (.text secret) ∧
      ∀ (other : Application) (t : σ), other.name = app.name →
        let deletion := (Session.alone c ((oauth2 config).delete instanceId other) t).log
        Deletes (config.clientIdFor app.name instanceId) key (deletion.map LogEntry.event) ∧
          (Deletes registered key (deletion.map LogEntry.event) ↔
            registered = config.clientIdFor app.name instanceId) := by
  intro key
  have course := Session.alone_course c ((oauth2 config).add instanceId app) s
  rw [hadd, Session.eventsOf_alone] at course
  obtain ⟨secret, client, hregisters, rfl⟩ := add_course course
  obtain ⟨hid, hsecret⟩ := get?_registered config app client.clientId secret
  have hclient : client.clientId = registered := by
    rw [hid] at hnoted
    cases hnoted
    rfl
  refine ⟨secret, client, hregisters, hclient, hsecret, fun other t hname => ?_⟩
  intro deletion
  have hdelete := delete_course (Session.alone_course c ((oauth2 config).delete instanceId other) t)
  rw [Session.eventsOf_alone] at hdelete
  have hkey : oauth2Key other instanceId = key := by
    rw [oauth2Key, hname]
    rfl
  rw [hname, hkey] at hdelete
  refine ⟨hdelete, fun h => h.clientId_unique hdelete, ?_⟩
  rintro rfl
  exact hdelete

/-- A server that gives clients the ids that they are asked for. -/
theorem deletion_unregisters_staged :
    let config : OAuth2Config := { registration := "sso" }
    let app : Application := { name := "web", path := "p" }
    let c := Rehearsal.Script.players {}
    let addition := Session.alone c ((oauth2 config).add "7" app) 0
    let deletion := Session.alone c ((oauth2 config).delete "7" app) addition.state
    ∃ app', addition.value = .ok app' ∧
      app'.environment.get? (config.entry "client-id") = some (.text "web-7") ∧
      Deletes "web-7" ⟨"web", "7", "oauth2"⟩ (deletion.log.map LogEntry.event) := by
  intro config app c addition deletion
  have hid : config.clientIdFor app.name "7" = "web-7" := by decide
  have hadd : addition.value = .ok ((app.withEnvironment _ _).withEnvironment _ _) := rfl
  obtain ⟨hnoted, -⟩ := get?_registered config app (config.clientIdFor app.name "7") _
  obtain ⟨secret, client, -, -, -, hdeletes⟩ := deletion_unregisters_iff hadd hnoted
  obtain ⟨-, hiff⟩ := hdeletes app addition.state rfl
  have hunregisters := hiff.mpr rfl
  rw [hid] at hnoted hunregisters
  exact ⟨_, hadd, hnoted, hunregisters⟩

/-- A server that gives the client another id: the application knows its client as `assigned`, and
the deletion asks for `web-7` to be removed. -/
theorem deletion_misses_assigned :
    let config : OAuth2Config := { registration := "sso" }
    let app : Application := { name := "web", path := "p" }
    let renames : Dict String := .ofList [("web-7", "assigned")]
    let c := Rehearsal.Script.players { renames }
    let addition := Session.alone c ((oauth2 config).add "7" app) 0
    let deletion := Session.alone c ((oauth2 config).delete "7" app) addition.state
    ∃ app', addition.value = .ok app' ∧
      app'.environment.get? (config.entry "client-id") = some (.text "assigned") ∧
      Deletes "web-7" ⟨"web", "7", "oauth2"⟩ (deletion.log.map LogEntry.event) ∧
      ∀ key, ¬Deletes "assigned" key (deletion.log.map LogEntry.event) := by
  intro config app renames c addition deletion
  have hid : config.clientIdFor app.name "7" = "web-7" := by decide
  let assigned := (renames.get? (config.clientIdFor app.name "7")).getD
    (config.clientIdFor app.name "7")
  have hassigned : assigned = "assigned" := by decide +kernel
  have hadd : addition.value = .ok ((app.withEnvironment _ (.text assigned)).withEnvironment _ _) :=
    rfl
  obtain ⟨hnoted, -⟩ := get?_registered config app assigned _
  have hdeletes :=
    delete_course (Session.alone_course c ((oauth2 config).delete "7" app) addition.state)
  rw [Session.eventsOf_alone, hid] at hdeletes
  refine ⟨_, hadd, hassigned ▸ hnoted, hdeletes, fun key h => ?_⟩
  exact absurd (h.clientId_unique hdeletes) (by decide)

end ServiceBroker.Credential
