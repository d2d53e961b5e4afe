import ServiceBroker.Proofs.Naming
import ServiceBroker.Proofs.Prepared
import ServiceBroker.Rehearsal.Script

/-!
The names under which applications refer to services. Preparation leaves the references of an
application as the entry has them, while the target gives new names to the services; so a reference
still leads to its service exactly if the target leaves the name of that service alone.
-/

namespace ServiceBroker

namespace Target

/-- A name that has the greatest length and ends in the suffix is cut to what comes before the
suffix. -/
theorem suffixed_eq_self_iff (maxLength : Nat) (name instanceId : String) :
    suffixed maxLength name instanceId = name ↔
      name.length = max maxLength (instanceId.length + 1) ∧
        '-' :: instanceId.toList <:+ name.toList := by
  have hsuffix : ('-' :: instanceId.toList).length = instanceId.length + 1 := by
    rw [List.length_cons, String.length_toList]
  have hname : name.toList.length = name.length := String.length_toList
  rw [suffixed_eq, ← String.toList_inj, String.toList_ofList, kept]
  constructor
  · intro h
    have hlength := congrArg List.length h
    rw [List.length_append, List.length_take, hsuffix, hname] at hlength
    exact ⟨by omega, _, h⟩
  · rintro ⟨hlength, before, hbefore⟩
    have hall := congrArg List.length hbefore
    rw [List.length_append, hsuffix, hname] at hall
    have hkept : maxLength - (instanceId.length + 1) = before.length := by omega
    rw [hkept, ← hbefore, List.take_left]

theorem grouped_name_ne_self (group : String) (context : TargetContext) (artifact : Artifact) :
    (grouped group context artifact).name ≠ artifact.name := by
  intro h
  have hlength := congrArg String.length h
  simp only [grouped, String.length_append] at hlength
  have hhyphen : "-".length = 1 := rfl
  omega

/-- The target of an entry, if there is one, leaves the name as it is: it cuts names, and has to cut
this one by just what it appends. -/
def LeavesName (maxLength : Nat) (target : Option ExtensionSpec)
    (instanceId name : String) : Prop :=
  ∀ spec, target = some spec → spec.name = "instance-suffix" ∧
    name.length = max maxLength (instanceId.length + 1) ∧ '-' :: instanceId.toList <:+ name.toList

end Target

namespace Extensions.BuiltFrom

variable {extensions : Extensions} {maxNameLength : Nat} {authorizationServer : Bool}

theorem target_name_eq_iff (built : extensions.BuiltFrom maxNameLength authorizationServer {})
    {target : Option ExtensionSpec} {context : TargetContext} {apply : Artifact → Artifact}
    (h : extensions.targets.targetFor target context = .ok apply) (artifact : Artifact) :
    (apply artifact).name = artifact.name ↔
      Target.LeavesName maxNameLength target context.instanceId artifact.name := by
  cases target with
  | none =>
    cases h
    exact iff_of_true rfl fun _ hnone => nomatch hnone
  | some spec =>
    obtain ⟨strategy, hstrategy, happly⟩ := exists_of_bind_eq_ok h
    cases happly
    have hspec : Target.LeavesName maxNameLength (some spec) context.instanceId artifact.name ↔
        spec.name = "instance-suffix" ∧
          artifact.name.length = max maxNameLength (context.instanceId.length + 1) ∧
            '-' :: context.instanceId.toList <:+ artifact.name.toList := by
      simp [Target.LeavesName]
    rw [hspec]
    rcases built.target hstrategy with ⟨hname, rfl⟩ | ⟨hname, rfl⟩ | ⟨hname, rfl⟩
    · refine iff_of_false (Target.grouped_name_ne_self _ _ _) fun hsuffix => ?_
      exact absurd (hname.symm.trans hsuffix.1) (by decide)
    · refine iff_of_false (Target.grouped_name_ne_self _ _ _) fun hsuffix => ?_
      exact absurd (hname.symm.trans hsuffix.1) (by decide)
    · exact (Target.suffixed_eq_self_iff ..).trans (and_iff_right hname).symm

end Extensions.BuiltFrom

variable {σ : Type}

/-- The references of prepared applications are those of the entry. A reference to a service of the
entry is the name of the prepared service exactly if the target leaves that name alone: always
without a target, never with one that groups, and with the one that cuts names only if the name ends
in the instance id and has the greatest length. -/
theorem prepared_reference_eq_iff {extensions : Extensions} {maxNameLength : Nat}
    {authorizationServer : Bool}
    (hbuild : Extensions.build maxNameLength authorizationServer {} = .ok extensions)
    {entry : CatalogEntry} {instanceId : String} {parameters : Parameters} {c : Collaborators σ}
    {s t : σ} {apps : List Application} {services : List Service}
    (happs : (extensions.prepareApplications c entry instanceId parameters s).value = .ok apps)
    (hservices : (extensions.prepareServices c entry instanceId parameters t).value =
      .ok services) :
    List.Forall₂ (fun app app' : Application => app'.services = app.services)
        entry.applications apps ∧
      services.length = entry.services.length ∧
      ∀ (i j k : Nat) (app : Application) (service : Service),
        entry.applications[i]? = some app → entry.services[k]? = some service →
          app.services[j]? = some service.instanceName →
            ∃ app' service', apps[i]? = some app' ∧ services[k]? = some service' ∧
              (app'.services[j]? = some service'.instanceName ↔
                Target.LeavesName maxNameLength entry.target instanceId service.instanceName) := by
  have built := Extensions.builtFrom_of_build hbuild
  obtain ⟨targeted, htargeted, hmapped⟩ := built.preparedApplications happs
  obtain ⟨targetedServices, htargetedServices, hnames⟩ := built.preparedServices hservices
  obtain ⟨apply, happly, rfl⟩ := Extensions.of_targetedApplications htargeted
  obtain ⟨apply', happly', rfl⟩ := Extensions.of_targetedServices htargetedServices
  -- The two preparations know nothing of each other, but they resolve the same target.
  obtain rfl := Except.ok.inj (happly.symm.trans happly')
  rw [List.forall₂_map_left_iff] at hmapped hnames
  have hreferences : List.Forall₂ (fun app app' : Application => app'.services = app.services)
      entry.applications apps := hmapped.imp fun _ _ h => h.services
  refine ⟨hreferences, hnames.length_eq.symm, fun i j k app service happ hservice href => ?_⟩
  obtain ⟨hi, rfl⟩ := List.getElem?_eq_some_iff.mp happ
  obtain ⟨hk, rfl⟩ := List.getElem?_eq_some_iff.mp hservice
  have hi' : i < apps.length := hreferences.length_eq ▸ hi
  have hk' : k < services.length := hnames.length_eq ▸ hk
  refine ⟨apps[i], services[k], List.getElem?_eq_getElem hi', List.getElem?_eq_getElem hk', ?_⟩
  have happ' : apps[i].services = entry.applications[i].services := hreferences.get hi hi'
  have hservice' : services[k].instanceName = (apply entry.services[k].artifact).name :=
    hnames.get hk hk'
  have hname := built.target_name_eq_iff happly entry.services[k].artifact
  rw [happ', href, hservice', Option.some.injEq, eq_comm]
  exact hname

/-- A name that the target cuts to itself. -/
theorem prepared_reference_eq_iff_staged :
    ∃ extensions, Extensions.build 4 true {} = .ok extensions ∧
      let app : Application :=
        { name := "web", services := ["logs", "db-7"]
          transformers := [⟨"env-mapping", .ofList [("include", .text "color")]⟩]
          credentialProviders := [⟨"basic-auth", .empty⟩] }
      let service : Service := { name := "mysql", instanceName := "db-7", plan := "small" }
      let entry : CatalogEntry :=
        { serviceName := "queue", planName := "small", applications := [app], services := [service]
          target := some ⟨"instance-suffix", .empty⟩ }
      let request : Parameters := .ofList [("color", .text "blue")]
      let c := Rehearsal.Script.collaborators {}
      let applications := extensions.prepareApplications c entry "7" request .start
      let services := extensions.prepareServices c entry "7" request .start
      ∃ apps instances app' service', applications.value = .ok apps ∧
        services.value = .ok instances ∧ apps[0]? = some app' ∧ instances[0]? = some service' ∧
        app'.services[1]? = some service'.instanceName := by
  refine ⟨_, rfl, ?_⟩
  intro app service entry request c applications services
  have hbuild : Extensions.build 4 true {} = .ok _ := rfl
  obtain ⟨apps, happs⟩ := exists_of_isOk (r := applications.value) (by decide +kernel)
  obtain ⟨instances, hinstances⟩ := exists_of_isOk (r := services.value) (by decide +kernel)
  obtain ⟨-, -, hreferences⟩ := prepared_reference_eq_iff hbuild happs hinstances
  obtain ⟨app', service', happ', hservice', hiff⟩ := hreferences 0 1 0 _ _ rfl rfl rfl
  have hleaves : Target.LeavesName 4 entry.target "7" service.instanceName := by
    rintro _ ⟨⟩
    exact ⟨rfl, by decide +kernel, by decide +kernel⟩
  exact ⟨apps, instances, app', service', happs, hinstances, happ', hservice', hiff.mpr hleaves⟩

/-- With one group for each service instance a reference does not lead to its service any more. -/
theorem reference_lost_by_grouping :
    ∃ extensions, Extensions.build 50 false {} = .ok extensions ∧
      let app : Application := { name := "web", path := "p", services := ["db"] }
      let service : Service := { name := "mysql", instanceName := "db", plan := "small" }
      let entry : CatalogEntry :=
        { serviceName := "queue", planName := "small", applications := [app], services := [service]
          target := some ⟨"per-instance-grouping", .empty⟩ }
      let c := Rehearsal.Script.collaborators {}
      let applications := extensions.prepareApplications c entry "7" .empty .start
      let services := extensions.prepareServices c entry "7" .empty .start
      ∃ app' service', applications.value = .ok [app'] ∧ services.value = .ok [service'] ∧
        app'.services[0]? = some "db" ∧ service'.instanceName = "db-7" ∧
        app'.services[0]? ≠ some service'.instanceName := by
  refine ⟨_, rfl, ?_⟩
  intro app service entry c applications services
  have hbuild : Extensions.build 50 false {} = .ok _ := rfl
  have built := Extensions.builtFrom_of_build hbuild
  obtain ⟨apps, happs⟩ := exists_of_isOk (r := applications.value) (by decide +kernel)
  obtain ⟨instances, hinstances⟩ := exists_of_isOk (r := services.value) (by decide +kernel)
  obtain ⟨targeted, htargeted, hmapped⟩ := built.preparedApplications happs
  obtain ⟨targetedServices, htargetedServices, hnames⟩ := built.preparedServices hinstances
  cases htargeted
  cases htargetedServices
  cases hmapped with
  | cons happ hrest =>
    cases hrest
    cases hnames with
    | cons hservice hrest =>
      cases hrest
      refine ⟨_, _, happs, hinstances, ?_, hservice, ?_⟩
      · rw [happ.services]
        rfl
      · rw [happ.services, hservice]
        decide

end ServiceBroker
