import ServiceBroker.Proofs.Registry

/-!
The names that built-in targets give to the applications of an entry. A target that groups keeps
different names apart. The one that cuts names keeps those apart that differ in the part which it
leaves, and no others.
-/

namespace ServiceBroker

namespace Target

/-- The part of a name that is left when the whole has to fit a limit. -/
def kept (maxLength : Nat) (instanceId name : String) : List Char :=
  name.toList.take (maxLength - (instanceId.length + 1))

theorem suffixed_eq (maxLength : Nat) (name instanceId : String) :
    suffixed maxLength name instanceId =
      String.ofList (kept maxLength instanceId name ++ '-' :: instanceId.toList) := by
  have hsuffix : ('-' :: instanceId.toList).length = instanceId.length + 1 := by
    rw [List.length_cons, String.length_toList]
  simp only [suffixed, hsuffix, kept]
  split
  · rw [List.take_of_length_le]
    rw [String.length_toList]
    omega
  · rfl

theorem suffixed_eq_iff (maxLength : Nat) (name other instanceId : String) :
    suffixed maxLength name instanceId = suffixed maxLength other instanceId ↔
      kept maxLength instanceId name = kept maxLength instanceId other := by
  rw [suffixed_eq, suffixed_eq]
  constructor
  · intro h
    exact List.append_cancel_right (String.ofList_injective h)
  · intro h
    rw [h]

theorem grouped_name_ne (group : String) (context : TargetContext) {artifact other : Artifact}
    (h : artifact.name ≠ other.name) :
    (grouped group context artifact).name ≠ (grouped group context other).name := by
  intro e
  exact h ((String.append_left_inj _).mp ((String.append_left_inj _).mp e))

/-- The built-in target of the given name makes one name of both. -/
def Collide (maxLength : Nat) (target instanceId name other : String) : Prop :=
  target = "instance-suffix" ∧ kept maxLength instanceId name = kept maxLength instanceId other

end Target

namespace Extensions.BuiltFrom

variable {extensions : Extensions} {maxNameLength : Nat} {authorizationServer : Bool}

theorem resolve_target {custom : CustomExtensions}
    (built : extensions.BuiltFrom maxNameLength authorizationServer custom)
    {name : String} (h : name ∈ (Target.builtin maxNameLength).map (·.name)) :
    (name = "per-instance-grouping" ∧
        extensions.targets.resolve name .empty = .ok Target.perInstanceGrouping) ∨
      (name = "per-plan-grouping" ∧
        extensions.targets.resolve name .empty = .ok Target.perPlanGrouping) ∨
      (name = "instance-suffix" ∧
        extensions.targets.resolve name .empty = .ok (Target.instanceSuffix maxNameLength)) := by
  obtain ⟨factory, hfactory, rfl⟩ := List.mem_map.mp h
  rw [Registry.resolve_of_mem built.targets (List.mem_append_left _ hfactory)]
  rcases List.mem_cons.mp hfactory with rfl | hfactory
  · exact .inl ⟨rfl, rfl⟩
  · rcases List.mem_cons.mp hfactory with rfl | hfactory
    · exact .inr (.inl ⟨rfl, rfl⟩)
    · obtain rfl := List.mem_singleton.mp hfactory
      exact .inr (.inr ⟨rfl, rfl⟩)

/-- Targets take no arguments, so a built-in one is always found. -/
theorem exists_target (built : extensions.BuiltFrom maxNameLength authorizationServer {})
    {name : String} (h : name ∈ (Target.builtin maxNameLength).map (·.name)) :
    ∃ target, extensions.targets.resolve name .empty = .ok target := by
  obtain ⟨-, hresolve⟩ | ⟨-, hresolve⟩ | ⟨-, hresolve⟩ := built.resolve_target h
  · exact ⟨_, hresolve⟩
  · exact ⟨_, hresolve⟩
  · exact ⟨_, hresolve⟩

/-- Of two artifacts with different names a target makes the same one only by cutting their
names. -/
theorem target_eq_iff (built : extensions.BuiltFrom maxNameLength authorizationServer {})
    {name : String} {target : Target} (h : extensions.targets.resolve name .empty = .ok target)
    (context : TargetContext) {artifact other : Artifact} (hne : artifact.name ≠ other.name) :
    ((target context artifact).name = (target context other).name ↔
      Target.Collide maxNameLength name context.instanceId artifact.name other.name) ∧
    (target context artifact = target context other ↔
      Target.Collide maxNameLength name context.instanceId artifact.name other.name ∧
        artifact.properties = other.properties) := by
  rcases built.target h with ⟨rfl, rfl⟩ | ⟨rfl, rfl⟩ | ⟨rfl, rfl⟩
  · have hname := Target.grouped_name_ne context.instanceId context hne
    exact ⟨iff_of_false hname fun h => absurd h.1 (by decide),
      iff_of_false (fun e => hname (congrArg (·.name) e)) fun h => absurd h.1.1 (by decide)⟩
  · have hname :=
      Target.grouped_name_ne (context.serviceName ++ "-" ++ context.planName) context hne
    exact ⟨iff_of_false hname fun h => absurd h.1 (by decide),
      iff_of_false (fun e => hname (congrArg (·.name) e)) fun h => absurd h.1.1 (by decide)⟩
  · have hname : (Target.instanceSuffix maxNameLength context artifact).name =
        (Target.instanceSuffix maxNameLength context other).name ↔
          Target.Collide maxNameLength "instance-suffix" context.instanceId artifact.name
            other.name :=
      (Target.suffixed_eq_iff ..).trans (and_iff_right rfl).symm
    refine ⟨hname, ?_⟩
    rw [← hname]
    exact Artifact.mk.injEq .. ▸ Iff.rfl

end Extensions.BuiltFrom

/-- What a target makes of two applications with different names. -/
structure Apart (maxNameLength : Nat) (target instanceId : String)
    (app other app' other' : Application) : Prop where
  /-- They have the same address only if their names are cut to the same, and only with the same
  properties. -/
  artifact_iff : app'.artifact = other'.artifact ↔
    Target.Collide maxNameLength target instanceId app.name other.name ∧
      app.properties = other.properties
  /-- They share the keys of their secrets only if their names are cut to the same. -/
  basicKey_iff : Credential.basicKey app' instanceId = Credential.basicKey other' instanceId ↔
    Target.Collide maxNameLength target instanceId app.name other.name
  oauth2Key_iff : Credential.oauth2Key app' instanceId = Credential.oauth2Key other' instanceId ↔
    Target.Collide maxNameLength target instanceId app.name other.name

/-- A built-in target keeps the applications of an entry apart, for a preparation and for an
operation on what has been deployed, unless it cuts their names to the same. -/
theorem targeted_apart {extensions : Extensions} {maxNameLength : Nat} {authorizationServer : Bool}
    (hbuild : Extensions.build maxNameLength authorizationServer {} = .ok extensions)
    (entry : CatalogEntry) {spec : ExtensionSpec} (htarget : entry.target = some spec)
    (hspec : spec.name ∈ (Target.builtin maxNameLength).map (·.name)) (context : TargetContext) :
    ∃ resolved,
      extensions.targets.targetApplications entry.target context entry.applications = .ok resolved ∧
      (∀ lifecycle : Lifecycle, lifecycle.targets = extensions.targets →
        lifecycle.catalog.find? context.serviceName context.planName = some entry →
          lifecycle.resolve context.instanceId ⟨context.serviceName, context.planName⟩ =
            .ok resolved) ∧
      resolved.length = entry.applications.length ∧
      ∀ (i j : Nat) (app other : Application), entry.applications[i]? = some app →
        entry.applications[j]? = some other → app.name ≠ other.name →
          ∃ app' other', resolved[i]? = some app' ∧ resolved[j]? = some other' ∧
            Apart maxNameLength spec.name context.instanceId app other app' other' := by
  have built := Extensions.builtFrom_of_build hbuild
  obtain ⟨target, hresolve⟩ := built.exists_target hspec
  have hresolved : extensions.targets.targetApplications entry.target context entry.applications =
      .ok (entry.applications.map fun app => app.withArtifact (target context app.artifact)) := by
    rw [htarget, Registry.targetApplications, Registry.targetFor, hresolve]
    rfl
  refine ⟨_, hresolved, fun lifecycle htargets hentry => ?_, List.length_map ..,
    fun i j app other happ hother hne => ?_⟩
  · simp only [Lifecycle.resolve, hentry, htargets, hresolved]
    rfl
  · have hartifacts : app.artifact.name ≠ other.artifact.name := hne
    obtain ⟨hname, hartifact⟩ := built.target_eq_iff hresolve context hartifacts
    refine ⟨_, _, by rw [List.getElem?_map, happ]; rfl, by rw [List.getElem?_map, hother]; rfl,
      ?_⟩
    constructor
    · exact hartifact
    · exact (Credential.basicKey_eq_iff ..).trans hname
    · exact (Credential.oauth2Key_eq_iff ..).trans hname

/-- Two names that the limit leaves whole. -/
theorem targeted_apart_short :
    ∃ extensions, Extensions.build 50 false {} = .ok extensions ∧
      let entry : CatalogEntry :=
        { serviceName := "queue", planName := "small"
          applications := [{ name := "front" }, { name := "back" }]
          target := some ⟨"instance-suffix", .empty⟩ }
      ∃ resolved front back,
        extensions.targets.targetApplications entry.target (entry.context "7")
          entry.applications = .ok resolved ∧
        resolved[0]? = some front ∧ resolved[1]? = some back ∧ front.artifact ≠ back.artifact ∧
        Credential.basicKey front "7" ≠ Credential.basicKey back "7" := by
  refine ⟨_, rfl, ?_⟩
  intro entry
  have hbuild : Extensions.build 50 false {} = .ok _ := rfl
  obtain ⟨resolved, hresolved, -, -, hapart⟩ :=
    targeted_apart hbuild entry rfl (by decide) (entry.context "7")
  obtain ⟨front, back, hfront, hback, apart⟩ := hapart 0 1 _ _ rfl rfl (by decide)
  have hkept : ¬Target.Collide 50 "instance-suffix" "7" "front" "back" :=
    fun h => absurd h.2 (by decide)
  exact ⟨resolved, front, back, hresolved, hfront, hback,
    fun e => hkept (apart.artifact_iff.mp e).1, fun e => hkept (apart.basicKey_iff.mp e)⟩

/-- An instance id of the usual length leaves no more than thirteen characters of a name. -/
theorem cut_names_coincide :
    ∃ extensions, Extensions.build 50 true {} = .ok extensions ∧
      let instanceId := "2f1a8c44-6a3b-4f0e-9d3e-1c2b3a4d5e6f"
      let entry : CatalogEntry :=
        { serviceName := "queue", planName := "small"
          applications := [{ name := "backing-application-one" },
            { name := "backing-application-two" }]
          target := some ⟨"instance-suffix", .empty⟩ }
      ∃ one two, extensions.targetedApplications entry instanceId = .ok [one, two] ∧
        one.artifact = two.artifact ∧
        Credential.basicKey one instanceId = Credential.basicKey two instanceId ∧
        Credential.oauth2Key one instanceId = Credential.oauth2Key two instanceId :=
  ⟨_, rfl, _, _, rfl, by decide, by decide, by decide⟩

end ServiceBroker
