import Mathlib.Data.List.Induction
import ServiceBroker.Proofs.Addresses
import ServiceBroker.Rehearsal.Extension

/-!
Which extensions a broker can be built with. Within each kind the names of the built-in extensions
and of the custom ones have to be distinct; if they are not, the first name that repeats an earlier
one is told, and that of the first kind where there is one. A broker that was built finds each
factory under its name.
-/

namespace ServiceBroker

variable {α β : Type}

/-! ## Repeated names -/

/-- The name is the first one in the list that repeats an earlier one. -/
def FirstRepeated (names : List String) (name : String) : Prop :=
  ∃ before after, names = before ++ name :: after ∧ before.Nodup ∧ name ∈ before

theorem nodup_or_firstRepeated (names : List String) :
    names.Nodup ∨ ∃ name, FirstRepeated names name := by
  induction names using List.reverseRecOn with
  | nil => exact .inl .nil
  | append_singleton names last ih =>
    rcases ih with hnodup | ⟨name, before, after, rfl, hbefore, hmem⟩
    · by_cases hlast : last ∈ names
      · exact .inr ⟨last, names, [], rfl, hnodup, hlast⟩
      · refine .inl (List.nodup_append.mpr ⟨hnodup, List.pairwise_singleton _ last, ?_⟩)
        intro name hname other hother heq
        exact hlast (List.mem_singleton.mp hother ▸ heq ▸ hname)
    · exact .inr ⟨name, before, after ++ [last], by simp, hbefore, hmem⟩

/-- Of several lists of names, the first one that repeats a name decides which name is told. -/
inductive FirstOffence : List (List String) → String → Prop where
  | here {names : List String} {kinds : List (List String)} {name : String}
      (repeated : FirstRepeated names name) : FirstOffence (names :: kinds) name
  | later {names : List String} {kinds : List (List String)} {name : String}
      (distinct : names.Nodup) (offence : FirstOffence kinds name) :
      FirstOffence (names :: kinds) name

theorem distinct_or_firstOffence (kinds : List (List String)) :
    (∀ names ∈ kinds, names.Nodup) ∨ ∃ name, FirstOffence kinds name := by
  induction kinds with
  | nil => exact .inl (by simp)
  | cons names kinds ih =>
    rcases nodup_or_firstRepeated names with hnames | ⟨name, hname⟩
    · rcases ih with hkinds | ⟨name, hname⟩
      · exact .inl (List.forall_mem_cons.mpr ⟨hnames, hkinds⟩)
      · exact .inr ⟨name, .later hnames hname⟩
    · exact .inr ⟨name, .here hname⟩

/-! ## Registering factories -/

namespace Registry

theorem register_append (start : Registry α) (before after : List (Factory α)) :
    start.register (before ++ after) = (start.register before).bind (·.register after) := by
  induction before generalizing start with
  | nil => rfl
  | cons factory rest ih =>
    rw [List.cons_append, register, register]
    split
    · rfl
    · exact ih _

theorem exists_register {factories : List (Factory α)} {start : Registry α}
    (hnodup : (factories.map (·.name)).Nodup)
    (hfree : ∀ factory ∈ factories, start.factories.get? factory.name = none) :
    ∃ registry, start.register factories = .ok registry := by
  induction factories generalizing start with
  | nil => exact ⟨start, rfl⟩
  | cons factory rest ih =>
    obtain ⟨hname, hrest⟩ := List.nodup_cons.mp hnodup
    have hnone := hfree factory List.mem_cons_self
    rw [register, if_neg (by simp [Dict.contains, hnone])]
    apply ih hrest
    intro other hother
    have hne : other.name ≠ factory.name := by
      intro heq
      exact hname (List.mem_map.mpr ⟨other, hother, heq⟩)
    rw [Dict.get?_insert, if_neg hne]
    exact hfree other (List.mem_cons_of_mem _ hother)

theorem exists_ofFactories {factories : List (Factory α)} (h : (factories.map (·.name)).Nodup) :
    ∃ registry, ofFactories factories = .ok registry :=
  exists_register h fun _ _ => rfl

theorem ofFactories_of_firstRepeated {factories : List (Factory α)} {name : String}
    (h : FirstRepeated (factories.map (·.name)) name) :
    ofFactories factories = .error (.duplicateName name) := by
  obtain ⟨before, after, hnames, hnodup, hmem⟩ := h
  obtain ⟨firsts, rest, rfl, rfl, hrest⟩ := List.map_eq_append_iff.mp hnames
  obtain ⟨factory, last, rfl, rfl, rfl⟩ := List.map_eq_cons_iff.mp hrest
  obtain ⟨registry, hregistry⟩ := exists_ofFactories hnodup
  obtain ⟨earlier, hearlier, hname⟩ := List.mem_map.mp hmem
  have htaken := (get?_of_register hregistry).2 earlier hearlier
  rw [ofFactories] at hregistry ⊢
  rw [register_append, hregistry]
  change registry.register (factory :: last) = _
  rw [register, if_pos (by rw [Dict.contains, ← hname, htaken]; rfl)]

/-- Building goes on to the next kind only if the names of this one are distinct. -/
theorem ofFactories_bind_of_firstOffence {factories : List (Factory α)} {kinds : List (List String)}
    {name : String} {f : Registry α → Except ExtensionError β}
    (h : FirstOffence (factories.map (·.name) :: kinds) name)
    (hf : ∀ registry, FirstOffence kinds name → f registry = .error (.duplicateName name)) :
    (ofFactories factories).bind f = .error (.duplicateName name) := by
  cases h with
  | here repeated =>
    rw [ofFactories_of_firstRepeated repeated]
    rfl
  | later distinct offence =>
    obtain ⟨registry, hregistry⟩ := exists_ofFactories distinct
    rw [hregistry]
    exact hf registry offence

theorem exists_ofFactories_bind {factories : List (Factory α)}
    {f : Registry α → Except ExtensionError β} (h : (factories.map (·.name)).Nodup)
    (hf : ∀ registry, ∃ b, f registry = .ok b) :
    ∃ b, (ofFactories factories).bind f = .ok b := by
  obtain ⟨registry, hregistry⟩ := exists_ofFactories h
  rw [hregistry]
  exact hf registry

end Registry

/-! ## Building -/

/-- What the factory makes from the arguments, or why it makes nothing. -/
def Factory.made (factory : Factory α) (args : Parameters) : Except ExtensionError α :=
  (factory.create args).mapError (.invalidConfiguration factory.name)

/-- The name of each of the factories leads to that factory. -/
def Registry.Finds (registry : Registry α) (factories : List (Factory α)) : Prop :=
  ∀ factory ∈ factories, ∀ args, registry.resolve factory.name args = factory.made args

/-- The names of the extensions of each kind: targets, transformers of applications, transformers of
services, credential providers. The built-in ones come before the custom ones. -/
def CustomExtensions.registeredNames (custom : CustomExtensions) (authorizationServer : Bool) :
    List (List String) :=
  [["per-instance-grouping", "per-plan-grouping", "instance-suffix"] ++ custom.targets.map (·.name),
   ["env-mapping", "property-mapping"] ++ custom.transformers.map (·.name),
   ["parameter-mapping"] ++ custom.serviceTransformers.map (·.name),
   (if authorizationServer then ["basic-auth", "oauth2"] else ["basic-auth"]) ++
     custom.credentialProviders.map (·.name)]

namespace Extensions

variable {custom : CustomExtensions} {authorizationServer : Bool}

theorem registeredNames_eq (maxNameLength : Nat) (authorizationServer : Bool)
    (custom : CustomExtensions) :
    custom.registeredNames authorizationServer =
      [(Target.builtin maxNameLength ++ custom.targets).map (·.name),
       (Transform.builtin ++ custom.transformers).map (·.name),
       (Transform.builtinForServices ++ custom.serviceTransformers).map (·.name),
       (Credential.builtin authorizationServer ++ custom.credentialProviders).map (·.name)] := by
  cases authorizationServer <;> rfl

theorem exists_build (maxNameLength : Nat)
    (h : ∀ names ∈ custom.registeredNames authorizationServer, names.Nodup) :
    ∃ extensions, build maxNameLength authorizationServer custom = .ok extensions := by
  rw [registeredNames_eq maxNameLength] at h
  simp only [List.forall_mem_cons] at h
  obtain ⟨htargets, htransformers, hserviceTransformers, hproviders, -⟩ := h
  apply Registry.exists_ofFactories_bind htargets
  intro targets
  apply Registry.exists_ofFactories_bind htransformers
  intro transformers
  apply Registry.exists_ofFactories_bind hserviceTransformers
  intro serviceTransformers
  apply Registry.exists_ofFactories_bind hproviders
  intro credentialProviders
  exact ⟨_, rfl⟩

theorem build_of_firstOffence (maxNameLength : Nat) {name : String}
    (h : FirstOffence (custom.registeredNames authorizationServer) name) :
    build maxNameLength authorizationServer custom = .error (.duplicateName name) := by
  rw [registeredNames_eq maxNameLength] at h
  apply Registry.ofFactories_bind_of_firstOffence h
  intro targets h
  apply Registry.ofFactories_bind_of_firstOffence h
  intro transformers h
  apply Registry.ofFactories_bind_of_firstOffence h
  intro serviceTransformers h
  apply Registry.ofFactories_bind_of_firstOffence h
  intro credentialProviders h
  cases h

end Extensions

/-- The applications of an entry for a service instance, once its target is found. -/
def CatalogEntry.namedBy (entry : CatalogEntry) (instanceId : String) (target : Target) :
    List Application :=
  entry.applications.map fun app =>
    app.withArtifact (target (entry.context instanceId) app.artifact)

def CatalogEntry.servicesNamedBy (entry : CatalogEntry) (instanceId : String) (target : Target) :
    List Service :=
  entry.services.map fun service =>
    service.withArtifact (target (entry.context instanceId) service.artifact)

namespace Broker

/-- Every factory, built-in or custom, is the one that its name leads to, wherever the broker needs
it. -/
structure Equipped (broker : Broker) (maxNameLength : Nat) (authorizationServer : Bool)
    (custom : CustomExtensions) : Prop where
  targets : broker.extensions.targets.Finds (Target.builtin maxNameLength ++ custom.targets)
  transformers :
    broker.extensions.transformers.Finds (Transform.builtin ++ custom.transformers)
  serviceTransformers :
    broker.extensions.serviceTransformers.Finds
      (Transform.builtinForServices ++ custom.serviceTransformers)
  credentialProviders :
    broker.extensions.credentialProviders.Finds
      (Credential.builtin authorizationServer ++ custom.credentialProviders)
  /-- The target of an entry comes from the same factory in both preparations and in an operation on
  what has been deployed. -/
  named : ∀ factory ∈ Target.builtin maxNameLength ++ custom.targets, ∀ entry spec instanceId,
    entry.target = some spec → spec.name = factory.name →
      let apps := (factory.made .empty).map (entry.namedBy instanceId)
      let services := (factory.made .empty).map (entry.servicesNamedBy instanceId)
      broker.extensions.targetedApplications entry instanceId = apps.mapError .unresolved ∧
        broker.extensions.targetedServices entry instanceId = services.mapError .unresolved ∧
        ∀ plan : PlanReference,
          broker.catalog.find? plan.serviceName plan.planName = some entry →
            broker.lifecycle.resolve instanceId plan = apps.mapError .target

theorem targets_of_finds {targets : Registry Target} {factories : List (Factory Target)}
    (hfinds : targets.Finds factories) {factory : Factory Target} (hfactory : factory ∈ factories)
    {entry : CatalogEntry} {spec : ExtensionSpec} (htarget : entry.target = some spec)
    (hname : spec.name = factory.name) (instanceId : String) :
    targets.targetApplications entry.target (entry.context instanceId) entry.applications =
        (factory.made .empty).map (entry.namedBy instanceId) ∧
      targets.targetServices entry.target (entry.context instanceId) entry.services =
        (factory.made .empty).map (entry.servicesNamedBy instanceId) := by
  simp only [Registry.targetApplications, Registry.targetServices, Registry.targetFor,
    htarget, hname, hfinds factory hfactory .empty]
  cases factory.made .empty with
  | error error => exact ⟨rfl, rfl⟩
  | ok target => exact ⟨rfl, rfl⟩

theorem equipped_of_build {config : BrokerConfig} {catalog : Catalog} {authorizationServer : Bool}
    {custom : CustomExtensions} {broker : Broker}
    (h : build config catalog authorizationServer custom = .ok broker) :
    broker.catalog = catalog ∧
      broker.Equipped config.maxNameLength authorizationServer custom := by
  obtain ⟨extensions, hextensions, hbroker⟩ := exists_of_bind_eq_ok h
  cases hbroker
  have built := Extensions.builtFrom_of_build hextensions
  have htargets : extensions.targets.Finds
      (Target.builtin config.maxNameLength ++ custom.targets) :=
    fun _ hfactory args => Registry.resolve_of_mem built.targets hfactory args
  refine ⟨rfl, ?_⟩
  constructor
  case targets => exact htargets
  case transformers => exact fun _ h args => Registry.resolve_of_mem built.transformers h args
  case serviceTransformers =>
    exact fun _ h args => Registry.resolve_of_mem built.serviceTransformers h args
  case credentialProviders =>
    exact fun _ h args => Registry.resolve_of_mem built.credentialProviders h args
  case named =>
    intro factory hfactory entry spec instanceId htarget hname apps services
    obtain ⟨happs, hservices⟩ := targets_of_finds htargets hfactory htarget hname instanceId
    refine ⟨?_, ?_, ?_⟩
    · rw [Extensions.targetedApplications, happs]
    · rw [Extensions.targetedServices, hservices]
    · intro plan hentry
      rw [CatalogEntry.context_of_find? hentry] at happs
      simp only [Lifecycle.resolve, lifecycle, hentry, happs]
      rfl

/-- A broker is built exactly if the names of its extensions are distinct within each kind.
Otherwise the first name is told that repeats an earlier one, of the first kind that has such a
name. In a broker that was built, every name leads to the factory that brought it. -/
theorem build_admits_distinct_names (config : BrokerConfig) (catalog : Catalog)
    (authorizationServer : Bool) (custom : CustomExtensions) :
    let kinds := custom.registeredNames authorizationServer
    let built := build config catalog authorizationServer custom
    ((∃ broker, built = .ok broker) ↔ ∀ names ∈ kinds, names.Nodup) ∧
      (∀ error, built = .error error ↔
        ∃ name, error = .duplicateName name ∧ FirstOffence kinds name) ∧
      ∀ broker, built = .ok broker →
        broker.catalog = catalog ∧
          broker.Equipped config.maxNameLength authorizationServer custom := by
  intro kinds built
  have hrefused : ∀ name, FirstOffence kinds name → built = .error (.duplicateName name) := by
    intro name h
    have hextensions := Extensions.build_of_firstOffence config.maxNameLength h
    simp only [built, build, hextensions]
    rfl
  have hbuilt : (∀ names ∈ kinds, names.Nodup) → ∃ broker, built = .ok broker := by
    intro h
    obtain ⟨extensions, hextensions⟩ := Extensions.exists_build config.maxNameLength h
    simp only [built, build, hextensions]
    exact ⟨_, rfl⟩
  refine ⟨⟨?_, hbuilt⟩, fun error => ⟨fun herror => ?_, ?_⟩, fun broker h => equipped_of_build h⟩
  · rintro ⟨broker, hbroker⟩
    rcases distinct_or_firstOffence kinds with hdistinct | ⟨name, hname⟩
    · exact hdistinct
    · rw [hrefused name hname] at hbroker
      cases hbroker
  · rcases distinct_or_firstOffence kinds with hdistinct | ⟨name, hname⟩
    · obtain ⟨broker, hbroker⟩ := hbuilt hdistinct
      rw [hbroker] at herror
      cases herror
    · rw [hrefused name hname] at herror
      cases herror
      exact ⟨name, rfl, hname⟩
  · rintro ⟨name, rfl, hname⟩
    exact hrefused name hname

/-- Names that are repeated in two kinds, of which the one of the first kind is told; and one name
for a target and for a transformer, which is no repetition. -/
theorem build_admits_distinct_names_staged :
    let clashing : CustomExtensions :=
      { transformers := [Rehearsal.Cast.transformer "stage", Rehearsal.Cast.transformer "stage",
          Rehearsal.Cast.transformer "env-mapping"]
        credentialProviders := [Rehearsal.Cast.credentialProvider "basic-auth"] }
    let cast : Rehearsal.Cast := { targets := ["mark"], transformers := ["mark"] }
    let entry : CatalogEntry :=
      { serviceName := "queue", planName := "small", applications := [{ name := "web" }]
        target := some ⟨"mark", .empty⟩ }
    let marked := entry.namedBy "7" (Rehearsal.markingTarget "mark")
    build {} ⟨[entry]⟩ true clashing = .error (.duplicateName "stage") ∧
      ∃ broker, build {} ⟨[entry]⟩ true cast.extensions = .ok broker ∧
        broker.extensions.targetedApplications entry "7" = .ok marked ∧
        broker.lifecycle.resolve "7" ⟨"queue", "small"⟩ = .ok marked := by
  intro clashing cast entry marked
  obtain ⟨-, hclash, -⟩ := build_admits_distinct_names {} ⟨[entry]⟩ true clashing
  obtain ⟨hiff, -, hequipped⟩ := build_admits_distinct_names {} ⟨[entry]⟩ true cast.extensions
  refine ⟨(hclash _).mpr ⟨"stage", rfl, .later (by decide) (.here ?_)⟩, ?_⟩
  · exact ⟨["env-mapping", "property-mapping", "stage"], ["env-mapping"], rfl, by decide, by decide⟩
  · obtain ⟨broker, hbroker⟩ := hiff.mpr (by decide)
    obtain ⟨hcatalog, equipped⟩ := hequipped broker hbroker
    have hmark : Rehearsal.Cast.target "mark" ∈ Target.builtin 50 ++ cast.extensions.targets :=
      List.mem_append_right _ List.mem_cons_self
    obtain ⟨hprepared, -, hresolved⟩ :=
      equipped.named _ hmark entry ⟨"mark", .empty⟩ "7" rfl rfl
    refine ⟨broker, hbroker, hprepared, hresolved ⟨"queue", "small"⟩ ?_⟩
    rw [hcatalog]
    rfl

end Broker

end ServiceBroker
