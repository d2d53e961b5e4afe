import Mathlib.Data.List.Basic
import ServiceBroker.Proofs.Chain
import ServiceBroker.Proofs.Registry

/-!
What mappings copy. A mapping looks at a request under the keys that it includes and nowhere else,
and the values that it finds there replace the older ones. A chain of mappings asks nothing, and it
keeps the names of applications and services, the bindings and the credential providers.
-/

namespace ServiceBroker

open Json (Value)

variable {β : Type}

/-- Under each of the keys both dictionaries hold the same value, or neither holds one. -/
def Dict.AgreeOn (keys : List String) (d d' : Dict β) : Prop :=
  ∀ key ∈ keys, d.get? key = d'.get? key

theorem Dict.AgreeOn.mono {keys more : List String} {d d' : Dict β} (h : d.AgreeOn more d')
    (hkeys : ∀ key ∈ keys, key ∈ more) : d.AgreeOn keys d' :=
  fun key hkey => h key (hkeys key hkey)

/-- The second dictionary holds the values of the request under those of the keys that the request
carries, and what the first one holds under all other keys. -/
def Dict.Overlaid (keys : List String) (parameters : Parameters) (f : Value → β) (d d' : Dict β) :
    Prop :=
  ∀ key, d'.get? key =
    if key ∈ keys then ((parameters.get? key).map f).or (d.get? key) else d.get? key

namespace Dict.Overlaid

variable {keys more : List String} {parameters : Parameters} {f : Value → β} {d d' d'' : Dict β}

theorem refl (parameters : Parameters) (f : Value → β) (d : Dict β) :
    Overlaid [] parameters f d d :=
  fun _ => (if_neg List.not_mem_nil).symm

theorem trans (h : Overlaid keys parameters f d d') (h' : Overlaid more parameters f d' d'') :
    Overlaid (keys ++ more) parameters f d d'' := by
  intro key
  rw [h', h]
  -- A key may be copied by the one, by the other, by both or by none, and the request may carry it
  -- or not.
  by_cases hkeys : key ∈ keys <;> by_cases hmore : key ∈ more <;>
    cases parameters.get? key <;> simp [hkeys, hmore]

end Dict.Overlaid

/-- The keys that a mapping includes if it is configured by these arguments. -/
def ExtensionSpec.includedKeys (spec : ExtensionSpec) : List String :=
  match Extension.bind MappingConfig.view spec.args with
  | .ok config => config.included
  | .error _ => []

theorem ExtensionSpec.includedKeys_of_bind {spec : ExtensionSpec} {config : MappingConfig}
    (h : Extension.bind MappingConfig.view spec.args = .ok config) :
    spec.includedKeys = config.included := by
  rw [includedKeys, h]

namespace MappingConfig

theorem selected_congr (config : MappingConfig) {parameters parameters' : Parameters}
    (h : parameters.AgreeOn config.included parameters') :
    config.selected parameters = config.selected parameters' :=
  List.filterMap_congr fun key hkey => by rw [h key hkey]

theorem copyInto_congr {α : Type} (config : MappingConfig) {parameters parameters' : Parameters}
    (h : parameters.AgreeOn config.included parameters') (put : α → String → Value → α) :
    config.copyInto put parameters = config.copyInto put parameters' := by
  funext entity
  rw [copyInto, copyInto, config.selected_congr h]

/-- If each parameter is put into one dictionary of an entity, nothing else of it changes. -/
theorem copyInto_eq {α : Type} (config : MappingConfig) (parameters : Parameters)
    (put : α → String → Value → α) (f : Value → β) {entityOf : Dict β → α}
    (hput : ∀ d key value, put (entityOf d) key value = entityOf (d.insert key (f value)))
    (d : Dict β) :
    config.copyInto put parameters (entityOf d) =
      entityOf (config.copyInto (fun d key value => d.insert key (f value)) parameters d) :=
  List.foldl_hom entityOf fun d entry => hput d entry.1 entry.2

theorem overlaid_copyInto (config : MappingConfig) (parameters : Parameters) (f : Value → β)
    (d : Dict β) :
    Dict.Overlaid config.included parameters f d
      (config.copyInto (fun d key value => d.insert key (f value)) parameters d) := by
  intro key
  rw [copyInto, selected]
  -- A key may be included twice, so the dictionary is left open.
  induction config.included generalizing d with
  | nil => rfl
  | cons k rest ih =>
    rw [List.filterMap_cons]
    cases hvalue : parameters.get? k with
    | none =>
      simp only [Option.map_none]
      rw [ih]
      by_cases hkey : key = k
      · subst hkey
        simp [hvalue]
      · simp [hkey]
    | some value =>
      simp only [Option.map_some, List.foldl_cons]
      rw [ih, Dict.get?_insert]
      by_cases hkey : key = k
      · subst hkey
        simp [hvalue]
      · simp [hkey]

end MappingConfig

namespace Transform

variable (config : MappingConfig) (parameters : Parameters)

theorem mapEnvironment_eq (app : Application) :
    mapEnvironment config parameters app =
      { app with environment := config.copyInto Dict.insert parameters app.environment } := by
  have hput : ∀ environment key value,
      ({ app with environment } : Application).withEnvironment key value =
        { app with environment := environment.insert key value } := fun _ _ _ => rfl
  exact config.copyInto_eq parameters Application.withEnvironment id hput app.environment

theorem mapProperties_eq (app : Application) :
    mapProperties config parameters app =
      { app with
        properties := config.copyInto (fun d key value => d.insert key (propertyText value))
          parameters app.properties } := by
  have hput : ∀ properties key value,
      ({ app with properties } : Application).withProperty key (propertyText value) =
        { app with properties := properties.insert key (propertyText value) } := fun _ _ _ => rfl
  exact config.copyInto_eq parameters
    (fun (app : Application) key value => app.withProperty key (propertyText value))
    propertyText hput app.properties

theorem mapParameters_eq (service : Service) :
    mapParameters config parameters service =
      { service with parameters := config.copyInto Dict.insert parameters service.parameters } := by
  have hput : ∀ parameters key value,
      ({ service with parameters } : Service).withParameter key value =
        { service with parameters := parameters.insert key value } := fun _ _ _ => rfl
  exact config.copyInto_eq parameters Service.withParameter id hput service.parameters

end Transform

/-! ## Chains of mappings -/

namespace Transform

/-- The keys that the mappings of a name among the extensions include. -/
def copiedKeys (mapping : String) (specs : List ExtensionSpec) : List String :=
  (specs.filter (·.name = mapping)).flatMap (·.includedKeys)

theorem copiedKeys_cons_self (spec : ExtensionSpec) (rest : List ExtensionSpec) :
    copiedKeys spec.name (spec :: rest) = spec.includedKeys ++ copiedKeys spec.name rest := by
  rw [copiedKeys, List.filter_cons_of_pos (by simp)]
  rfl

theorem copiedKeys_cons_of_ne {mapping : String} {spec : ExtensionSpec} (h : spec.name ≠ mapping)
    (rest : List ExtensionSpec) : copiedKeys mapping (spec :: rest) = copiedKeys mapping rest := by
  rw [copiedKeys, List.filter_cons_of_neg (by simpa using h)]
  rfl

def propertyKeys (specs : List ExtensionSpec) : List String := copiedKeys "property-mapping" specs

def Maps (parameters : Parameters) (spec : ExtensionSpec) (app changed : Application) : Prop :=
  ∃ config, Extension.bind MappingConfig.view spec.args = .ok config ∧
    ((spec.name = "env-mapping" ∧ changed = mapEnvironment config parameters app) ∨
      (spec.name = "property-mapping" ∧ changed = mapProperties config parameters app))

end Transform

/-- The second application is the first one with the request parameters that the mappings copy. -/
structure Application.Overlaid (parameters : Parameters) (specs : List ExtensionSpec)
    (app changed : Application) : Prop where
  environment : Dict.Overlaid (Transform.copiedKeys "env-mapping" specs) parameters id
    app.environment changed.environment
  properties : Dict.Overlaid (Transform.copiedKeys "property-mapping" specs) parameters
    Transform.propertyText app.properties changed.properties
  others : changed =
    { app with environment := changed.environment, properties := changed.properties }

/-- The second application is what the extensions make of the first one. The environment is left
open. -/
structure Application.Mapped (parameters : Parameters) (specs : List ExtensionSpec)
    (app changed : Application) : Prop where
  name : changed.name = app.name
  services : changed.services = app.services
  providers : changed.credentialProviders = app.credentialProviders
  property : ∀ key, changed.properties.get? key =
    if key ∈ Transform.propertyKeys specs then
      ((parameters.get? key).map Transform.propertyText).or (app.properties.get? key)
    else app.properties.get? key

namespace Application

variable {parameters : Parameters} {specs : List ExtensionSpec} {app changed : Application}

theorem Overlaid.mapped (h : app.Overlaid parameters specs changed) :
    app.Mapped parameters specs changed := by
  refine ⟨?_, ?_, ?_, h.properties⟩
  all_goals rw [h.others]

/-- A mapping before others: what it has copied the others copy again or leave. -/
theorem Overlaid.of_maps {spec : ExtensionSpec} {step : Application}
    (hstep : Transform.Maps parameters spec app step)
    (h : step.Overlaid parameters specs changed) :
    app.Overlaid parameters (spec :: specs) changed := by
  obtain ⟨config, hbind, ⟨hname, rfl⟩ | ⟨hname, rfl⟩⟩ := hstep
  · rw [Transform.mapEnvironment_eq] at h
    have hother : spec.name ≠ "property-mapping" := by
      rw [hname]
      decide
    refine ⟨?_, ?_, h.others⟩
    · rw [← hname, Transform.copiedKeys_cons_self, ExtensionSpec.includedKeys_of_bind hbind, hname]
      exact (config.overlaid_copyInto parameters id app.environment).trans h.environment
    · rw [Transform.copiedKeys_cons_of_ne hother]
      exact h.properties
  · rw [Transform.mapProperties_eq] at h
    have hother : spec.name ≠ "env-mapping" := by
      rw [hname]
      decide
    refine ⟨?_, ?_, h.others⟩
    · rw [Transform.copiedKeys_cons_of_ne hother]
      exact h.environment
    · rw [← hname, Transform.copiedKeys_cons_self, ExtensionSpec.includedKeys_of_bind hbind, hname]
      exact (config.overlaid_copyInto parameters Transform.propertyText app.properties).trans
        h.properties

theorem overlaid_of_along (along : Along (Transform.Maps parameters) specs app changed) :
    app.Overlaid parameters specs changed := by
  induction along with
  | nil app => exact ⟨.refl _ _ _, .refl _ _ _, rfl⟩
  | cons step _ ih => exact ih.of_maps step

end Application

namespace Extensions.BuiltFrom

variable {extensions : Extensions} {maxNameLength : Nat} {authorizationServer : Bool}

theorem applicationChain_mapped
    (built : extensions.BuiltFrom maxNameLength authorizationServer {}) (parameters : Parameters)
    (app : Application) :
    (Transform.applicationChain extensions.transformers parameters app).Ensures (fun _ => False)
      fun r => ∀ changed, r = .ok changed → app.Mapped parameters app.transformers changed := by
  have halong := chain_along (P := fun _ => False) (R := Transform.Maps parameters)
    extensions.transformers (fun t => t parameters) (·.name) app.transformers
    (fun spec _ x hx entity => by
      obtain ⟨config, hbind, ⟨hname, rfl⟩ | ⟨hname, rfl⟩⟩ := built.transformer hx
      · rintro _ ⟨⟩
        exact ⟨config, hbind, .inl ⟨hname, rfl⟩⟩
      · rintro _ ⟨⟩
        exact ⟨config, hbind, .inr ⟨hname, rfl⟩⟩) app
  exact halong.mono (fun _ h => h) fun r h changed hr =>
    (Application.overlaid_of_along (h changed hr)).mapped

theorem serviceChain_instanceName
    (built : extensions.BuiltFrom maxNameLength authorizationServer {}) (parameters : Parameters)
    (service : Service) :
    (Transform.serviceChain extensions.serviceTransformers parameters service).Ensures
      (fun _ => False)
      fun r => ∀ changed, r = .ok changed → changed.instanceName = service.instanceName := by
  refine chain_ensures (I := fun entity : Service => entity.instanceName = service.instanceName)
    _ _ _ _ (fun spec _ x hx entity h => ?_) service rfl
  obtain ⟨config, -, rfl⟩ := built.serviceTransformer hx
  rintro _ ⟨⟩
  rw [Transform.mapParameters_eq]
  exact h

end Extensions.BuiltFrom

end ServiceBroker
