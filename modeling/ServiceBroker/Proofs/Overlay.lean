import ServiceBroker.Proofs.Mapping

/-!
What a chain of mappings means. It overlays the environment, the properties or the parameters of a
service with what the request carries under the included keys. So it makes no difference in which
order the mappings and their keys stand, or how often, and what has been mapped once is not changed
by mapping it again.
-/

namespace ServiceBroker

open Json (Value)

variable {β : Type}

/-! ## Overlays -/

namespace Dict.Overlaid

variable {keys keys' : List String} {parameters : Parameters} {f : Value → β} {d d' d'' : Dict β}

theorem unique (h : Overlaid keys parameters f d d') (h' : Overlaid keys' parameters f d d'')
    (hkeys : ∀ key, key ∈ keys ↔ key ∈ keys') : d' = d'' := by
  refine Dict.ext_get? fun key => ?_
  rw [h, h']
  simp only [hkeys]

/-- What has been overlaid holds the values of the request already. -/
theorem again (h : Overlaid keys parameters f d d') : Overlaid keys parameters f d' d' := by
  intro key
  rw [h key]
  by_cases hkey : key ∈ keys <;> cases parameters.get? key <;> simp [hkey]

end Dict.Overlaid

/-- The extension is one of these mappings, and its arguments can be bound. -/
def ExtensionSpec.IsMapping (mappings : List String) (spec : ExtensionSpec) : Prop :=
  spec.name ∈ mappings ∧ ∃ config, Extension.bind MappingConfig.view spec.args = .ok config

namespace Transform

/-- By the mappings of each name the same keys are included, in whatever order and however often. -/
def SameCopies (specs specs' : List ExtensionSpec) : Prop :=
  ∀ mapping key, key ∈ copiedKeys mapping specs ↔ key ∈ copiedKeys mapping specs'

/-- Each of the extensions is found among the others, with its included keys in whatever order and
however often. -/
def Within (specs others : List ExtensionSpec) : Prop :=
  ∀ spec ∈ specs, ∃ other ∈ others, other.name = spec.name ∧
    ∀ key, key ∈ spec.includedKeys ↔ key ∈ other.includedKeys

variable {specs specs' : List ExtensionSpec} {mapping key : String}

theorem mem_copiedKeys :
    key ∈ copiedKeys mapping specs ↔
      ∃ spec ∈ specs, spec.name = mapping ∧ key ∈ spec.includedKeys := by
  simp [copiedKeys, and_assoc]

theorem Within.mem_copiedKeys (h : Within specs specs') (hkey : key ∈ copiedKeys mapping specs) :
    key ∈ copiedKeys mapping specs' := by
  obtain ⟨spec, hspec, rfl, hincluded⟩ := Transform.mem_copiedKeys.mp hkey
  obtain ⟨other, hother, hname, hkeys⟩ := h spec hspec
  exact Transform.mem_copiedKeys.mpr ⟨other, hother, hname, (hkeys key).mp hincluded⟩

theorem Within.sameCopies (h : Within specs specs') (h' : Within specs' specs) :
    SameCopies specs specs' :=
  fun _ _ => ⟨h.mem_copiedKeys, h'.mem_copiedKeys⟩

end Transform

/-! ## Applications -/

namespace Application.Overlaid

variable {parameters : Parameters} {specs specs' listed : List ExtensionSpec}
  {app changed changed' : Application}

theorem unique (h : app.Overlaid parameters specs changed)
    (h' : { app with transformers := listed }.Overlaid parameters specs' changed')
    (hsame : Transform.SameCopies specs specs') :
    changed' = { changed with transformers := listed } := by
  rw [h'.others, h.others, h.environment.unique h'.environment (hsame _),
    h.properties.unique h'.properties (hsame _)]

theorem again (h : app.Overlaid parameters specs changed) :
    changed.Overlaid parameters specs changed :=
  ⟨h.environment.again, h.properties.again, rfl⟩

theorem transformers (h : app.Overlaid parameters specs changed) :
    changed.transformers = app.transformers := by
  rw [h.others]

end Application.Overlaid

/-! ## Services -/

def Transform.MapsService (parameters : Parameters) (spec : ExtensionSpec)
    (service changed : Service) : Prop :=
  ∃ config, Extension.bind MappingConfig.view spec.args = .ok config ∧
    spec.name = "parameter-mapping" ∧ changed = mapParameters config parameters service

/-- The second service is the first one with the request parameters that the mappings copy. -/
structure Service.Overlaid (parameters : Parameters) (specs : List ExtensionSpec)
    (service changed : Service) : Prop where
  parameters : Dict.Overlaid (Transform.copiedKeys "parameter-mapping" specs) parameters id
    service.parameters changed.parameters
  others : changed = { service with parameters := changed.parameters }

namespace Service

variable {parameters : Parameters} {specs specs' listed : List ExtensionSpec}
  {service changed changed' : Service}

theorem overlaid_of_along (along : Along (Transform.MapsService parameters) specs service changed) :
    service.Overlaid parameters specs changed := by
  induction along with
  | nil service => exact ⟨.refl _ _ _, rfl⟩
  | @cons spec rest service step changed hstep _ ih =>
    obtain ⟨config, hbind, hname, rfl⟩ := hstep
    rw [Transform.mapParameters_eq] at ih
    refine ⟨?_, ih.others⟩
    rw [← hname, Transform.copiedKeys_cons_self, ExtensionSpec.includedKeys_of_bind hbind, hname]
    exact (config.overlaid_copyInto parameters id service.parameters).trans ih.parameters

theorem Overlaid.unique (h : service.Overlaid parameters specs changed)
    (h' : { service with transformers := listed }.Overlaid parameters specs' changed')
    (hsame : Transform.SameCopies specs specs') :
    changed' = { changed with transformers := listed } := by
  rw [h'.others, h.others, h.parameters.unique h'.parameters (hsame _)]

theorem Overlaid.again (h : service.Overlaid parameters specs changed) :
    changed.Overlaid parameters specs changed :=
  ⟨h.parameters.again, rfl⟩

theorem Overlaid.transformers (h : service.Overlaid parameters specs changed) :
    changed.transformers = service.transformers := by
  rw [h.others]

end Service

/-! ## Chains of mappings -/

namespace Extensions.BuiltFrom

variable {extensions : Extensions} {maxNameLength : Nat} {authorizationServer : Bool}
  {custom : CustomExtensions} {parameters : Parameters}

/-- Mappings whose arguments can be bound overlay an application, whatever else is registered. -/
theorem applicationChain_overlaid
    (built : extensions.BuiltFrom maxNameLength authorizationServer custom) {app : Application}
    (h : ∀ spec ∈ app.transformers, spec.IsMapping ["env-mapping", "property-mapping"]) :
    ∃ changed, Transform.applicationChain extensions.transformers parameters app =
        .done (.ok changed) ∧ app.Overlaid parameters app.transformers changed := by
  have hwork : ∀ spec ∈ app.transformers, ∃ transformer,
      extensions.transformers.resolveSpec spec = .ok transformer ∧ ∀ entity, ∃ changed,
        transformer parameters entity = .done (.ok changed) ∧
          Transform.Maps parameters spec entity changed := by
    intro spec hspec
    obtain ⟨hname, config, hbind⟩ := h spec hspec
    rcases List.mem_pair.mp hname with hname | hname
    · refine ⟨fun parameters app => .done (.ok (Transform.mapEnvironment config parameters app)),
        ?_, fun entity => ⟨_, rfl, config, hbind, .inl ⟨hname, rfl⟩⟩⟩
      rw [Registry.resolveSpec, hname, Registry.resolve_of built.transformers
        (List.mem_append_left _ List.mem_cons_self), hbind]
      rfl
    · refine ⟨fun parameters app => .done (.ok (Transform.mapProperties config parameters app)), ?_,
        fun entity => ⟨_, rfl, config, hbind, .inr ⟨hname, rfl⟩⟩⟩
      rw [Registry.resolveSpec, hname, Registry.resolve_of built.transformers
        (List.mem_append_left _ (List.mem_cons_of_mem _ List.mem_cons_self)), hbind]
      rfl
  obtain ⟨changed, hchain, along⟩ := exists_along_of_silent (·.name) hwork app
  exact ⟨changed, hchain, Application.overlaid_of_along along⟩

theorem serviceChain_overlaid
    (built : extensions.BuiltFrom maxNameLength authorizationServer custom) {service : Service}
    (h : ∀ spec ∈ service.transformers, spec.IsMapping ["parameter-mapping"]) :
    ∃ changed, Transform.serviceChain extensions.serviceTransformers parameters service =
        .done (.ok changed) ∧ service.Overlaid parameters service.transformers changed := by
  have hwork : ∀ spec ∈ service.transformers, ∃ transformer,
      extensions.serviceTransformers.resolveSpec spec = .ok transformer ∧ ∀ entity, ∃ changed,
        transformer parameters entity = .done (.ok changed) ∧
          Transform.MapsService parameters spec entity changed := by
    intro spec hspec
    obtain ⟨hname, config, hbind⟩ := h spec hspec
    have hname := List.mem_singleton.mp hname
    refine ⟨fun parameters service =>
        .done (.ok (Transform.mapParameters config parameters service)),
      ?_, fun entity => ⟨_, rfl, config, hbind, hname, rfl⟩⟩
    rw [Registry.resolveSpec, hname, Registry.resolve_of built.serviceTransformers
      (List.mem_append_left _ List.mem_cons_self), hbind]
    rfl
  obtain ⟨changed, hchain, along⟩ := exists_along_of_silent (·.instanceName) hwork service
  exact ⟨changed, hchain, Service.overlaid_of_along along⟩

end Extensions.BuiltFrom

/-! ## What chains of mappings mean -/

/-- The chain of an entity overlays it, and is not told from other chains that copy the same.
`listed` are the mappings that an entity lists, and `relist` gives it others to list. -/
structure MeansOverlay {α : Type} (chainOf : α → Program (Except PipelineError α))
    (mappings : List String) (listed : α → List ExtensionSpec)
    (relist : List ExtensionSpec → α → α) (Overlaid : List ExtensionSpec → α → α → Prop)
    (entity changed : α) : Prop where
  succeeds : chainOf entity = .done (.ok changed)
  overlaid : Overlaid (listed entity) entity changed
  /-- It makes no difference which mapping copies a key. -/
  sameCopies : ∀ specs, (∀ spec ∈ specs, spec.IsMapping mappings) →
    Transform.SameCopies (listed entity) specs →
      chainOf (relist specs entity) = .done (.ok (relist specs changed))
  /-- Mappings may be rearranged and repeated, and so may the keys that each of them includes. -/
  rearranged : ∀ specs, (∀ spec ∈ specs, spec.IsMapping mappings) →
    Transform.Within (listed entity) specs → Transform.Within specs (listed entity) →
      chainOf (relist specs entity) = .done (.ok (relist specs changed))
  again : chainOf changed = .done (.ok changed)

/-- A chain means an overlay if every chain of such mappings leads to one, and overlays are
determined by the keys that are copied. -/
theorem meansOverlay_of {α : Type} {chainOf : α → Program (Except PipelineError α)}
    {mappings : List String} {listed : α → List ExtensionSpec}
    {relist : List ExtensionSpec → α → α} {Overlaid : List ExtensionSpec → α → α → Prop}
    (hchain : ∀ entity, (∀ spec ∈ listed entity, spec.IsMapping mappings) →
      ∃ changed, chainOf entity = .done (.ok changed) ∧ Overlaid (listed entity) entity changed)
    (hlisted : ∀ specs entity, listed (relist specs entity) = specs)
    (hrelist : ∀ entity, relist (listed entity) entity = entity)
    (hkept : ∀ specs entity changed, Overlaid specs entity changed → listed changed = listed entity)
    (hagain : ∀ specs entity changed, Overlaid specs entity changed →
      Overlaid specs changed changed)
    (hunique : ∀ specs specs' more entity changed changed', Overlaid specs entity changed →
      Overlaid specs' (relist more entity) changed' → Transform.SameCopies specs specs' →
        changed' = relist more changed)
    {entity : α} (h : ∀ spec ∈ listed entity, spec.IsMapping mappings) :
    ∃ changed, MeansOverlay chainOf mappings listed relist Overlaid entity changed := by
  obtain ⟨changed, hchanged, overlaid⟩ := hchain entity h
  have hsame : ∀ specs, (∀ spec ∈ specs, spec.IsMapping mappings) →
      Transform.SameCopies (listed entity) specs →
        chainOf (relist specs entity) = .done (.ok (relist specs changed)) := by
    intro specs hspecs hsame
    obtain ⟨changed', hchanged', overlaid'⟩ :=
      hchain (relist specs entity) (by rw [hlisted]; exact hspecs)
    rw [hlisted] at overlaid'
    rw [hchanged', hunique _ _ _ _ _ _ overlaid overlaid' hsame]
  refine ⟨changed, hchanged, overlaid, hsame,
    fun specs hspecs h h' => hsame specs hspecs (h.sameCopies h'), ?_⟩
  have hlist := hkept _ _ _ overlaid
  obtain ⟨twice, htwice, overlaid'⟩ := hchain changed (by rw [hlist]; exact h)
  rw [hlist, ← hrelist changed] at overlaid'
  rw [htwice, hunique _ _ _ _ _ _ (hagain _ _ _ overlaid) overlaid' fun _ _ => .rfl, hrelist]

/-- A chain of mappings whose arguments can be bound succeeds, whatever the request and the
application, or the service, are. It overlays what it is for and leaves everything else; another
chain that copies the same, in whatever order and however often, does the same; and so does the
chain itself a second time. -/
theorem mappings_overlay {extensions : Extensions} {maxNameLength : Nat}
    {authorizationServer : Bool} {custom : CustomExtensions}
    (hbuild : Extensions.build maxNameLength authorizationServer custom = .ok extensions)
    (parameters : Parameters) :
    (∀ app : Application,
      (∀ spec ∈ app.transformers, spec.IsMapping ["env-mapping", "property-mapping"]) →
        ∃ changed, MeansOverlay (Transform.applicationChain extensions.transformers parameters)
          ["env-mapping", "property-mapping"] (·.transformers)
          (fun specs app => { app with transformers := specs })
          (fun specs app => app.Overlaid parameters specs) app changed) ∧
    ∀ service : Service, (∀ spec ∈ service.transformers, spec.IsMapping ["parameter-mapping"]) →
      ∃ changed, MeansOverlay (Transform.serviceChain extensions.serviceTransformers parameters)
        ["parameter-mapping"] (·.transformers)
        (fun specs service => { service with transformers := specs })
        (fun specs service => service.Overlaid parameters specs) service changed := by
  have built := Extensions.builtFrom_of_build hbuild
  constructor
  · intro app h
    refine meansOverlay_of ?chain ?listed ?relist ?kept ?again ?unique h
    case chain => exact fun _ => built.applicationChain_overlaid
    case listed => exact fun _ _ => rfl
    case relist => exact fun _ => rfl
    case kept => exact fun _ _ _ overlaid => overlaid.transformers
    case again => exact fun _ _ _ overlaid => overlaid.again
    case unique => exact fun _ _ _ _ _ _ overlaid overlaid' => overlaid.unique overlaid'
  · intro service h
    refine meansOverlay_of ?chain ?listed ?relist ?kept ?again ?unique h
    case chain => exact fun _ => built.serviceChain_overlaid
    case listed => exact fun _ _ => rfl
    case relist => exact fun _ => rfl
    case kept => exact fun _ _ _ overlaid => overlaid.transformers
    case again => exact fun _ _ _ overlaid => overlaid.again
    case unique => exact fun _ _ _ _ _ _ overlaid overlaid' => overlaid.unique overlaid'

/-- A key that two mappings include and the template has, for which the request carries null; and
the same mappings twice, from the last to the first. -/
theorem mappings_overlay_staged :
    ∃ extensions, Extensions.build 50 true {} = .ok extensions ∧
      let specs : List ExtensionSpec :=
        [⟨"env-mapping", .ofList [("include", .text "mode, color")]⟩,
         ⟨"property-mapping",
          .ofList [("include", .array [.text "memory", .text "mode", .text "memory"])]⟩,
         ⟨"env-mapping", .ofList [("include", .text "mode")]⟩]
      let app : Application :=
        { name := "web"
          environment := .ofList [("mode", .text "template"), ("kept", .boolean true)]
          properties := .ofList [("memory", "1G")]
          transformers := specs }
      let service : Service :=
        { name := "mysql", instanceName := "db", plan := "small"
          parameters := .ofList [("memory", .null), ("mode", .text "safe")]
          transformers := [⟨"parameter-mapping", .ofList [("include", .text "memory")]⟩] }
      let request : Parameters :=
        .ofList [("mode", .null), ("memory", .number (.integer 3)), ("admin", .boolean true)]
      let chain := Transform.applicationChain extensions.transformers request
      let others := specs.reverse ++ specs.reverse
      ∃ changed changedService, chain app = .done (.ok changed) ∧
        ["mode", "kept", "memory", "admin"].map changed.environment.get? =
          [some .null, some (.boolean true), none, none] ∧
        ["mode", "kept", "memory", "admin"].map changed.properties.get? =
          [some "null", none, some "3", none] ∧
        chain { app with transformers := others } =
          .done (.ok { changed with transformers := others }) ∧
        chain changed = .done (.ok changed) ∧
        Transform.serviceChain extensions.serviceTransformers request service =
          .done (.ok changedService) ∧
        ["mode", "memory", "admin"].map changedService.parameters.get? =
          [some (.text "safe"), some (.number (.integer 3)), none] := by
  have hbuild : Extensions.build 50 true {} = .ok _ := rfl
  refine ⟨_, hbuild, ?_⟩
  intro specs app service request chain others
  obtain ⟨hchanged, hchangedService⟩ := mappings_overlay hbuild request
  have hspecs : ∀ spec ∈ specs, spec.IsMapping ["env-mapping", "property-mapping"] := by
    intro spec hspec
    simp only [specs, List.mem_cons, List.not_mem_nil, or_false] at hspec
    rcases hspec with rfl | rfl | rfl
    · exact ⟨by decide, exists_of_isOk (by decide +kernel)⟩
    · exact ⟨by decide, exists_of_isOk (by decide +kernel)⟩
    · exact ⟨by decide, exists_of_isOk (by decide +kernel)⟩
  have hservice : ∀ spec ∈ service.transformers, spec.IsMapping ["parameter-mapping"] := by
    intro spec hspec
    obtain rfl := List.mem_singleton.mp hspec
    exact ⟨by decide, exists_of_isOk (by decide +kernel)⟩
  obtain ⟨changed, means⟩ := hchanged app hspecs
  obtain ⟨changedService, meansService⟩ := hchangedService service hservice
  have hmembers : ∀ spec, spec ∈ others ↔ spec ∈ specs := by simp [others]
  refine ⟨changed, changedService, means.succeeds, ?_, ?_, ?_, means.again,
    meansService.succeeds, ?_⟩
  · have hkeys : Transform.copiedKeys "env-mapping" specs = ["mode", "color", "mode"] := by
      decide +kernel
    have henvironment := means.overlaid.environment
    simp only [app, hkeys] at henvironment
    simp only [List.map_cons, List.map_nil, henvironment _]
    rfl
  · have hkeys : Transform.copiedKeys "property-mapping" specs = ["memory", "mode", "memory"] := by
      decide +kernel
    have hproperties := means.overlaid.properties
    simp only [app, hkeys] at hproperties
    simp only [List.map_cons, List.map_nil, hproperties _]
    decide +kernel
  · refine means.rearranged others (fun spec hspec => hspecs spec ((hmembers spec).mp hspec)) ?_ ?_
    · exact fun spec hspec => ⟨spec, (hmembers spec).mpr hspec, rfl, fun _ => .rfl⟩
    · exact fun spec hspec => ⟨spec, (hmembers spec).mp hspec, rfl, fun _ => .rfl⟩
  · have hkeys : Transform.copiedKeys "parameter-mapping" service.transformers = ["memory"] := by
      decide +kernel
    have hparameters := meansService.overlaid.parameters
    rw [hkeys] at hparameters
    simp only [List.map_cons, List.map_nil, hparameters _]
    rfl

end ServiceBroker
