import Mathlib.Data.List.TakeDrop
import ServiceBroker.Proofs.Naming

/-!
The length of the names that the cutting target gives. Of a name it keeps as many characters as the
limit leaves room for beside the hyphen and the instance id, which are never cut.
-/

namespace ServiceBroker

namespace Target

/-- What the limit makes of a name that is followed by a hyphen and the instance id. Lengths count
characters, not bytes. -/
structure Fitted (maxLength : Nat) (name instanceId result : String) : Prop where
  eq : result =
    String.ofList (name.toList.take (maxLength - (instanceId.length + 1))) ++ "-" ++ instanceId
  /-- Nothing of the name is left where there is no room for it. -/
  bare : maxLength < instanceId.length + 1 → result = "-" ++ instanceId
  ends : ("-" ++ instanceId).toList <:+ result.toList
  length : result.length =
    min (name.length + (instanceId.length + 1)) (max maxLength (instanceId.length + 1))
  whole_iff : result = name ++ "-" ++ instanceId ↔
    name.length + (instanceId.length + 1) ≤ maxLength ∨ name = ""
  full : maxLength < name.length + (instanceId.length + 1) → instanceId.length + 1 ≤ maxLength →
    result.length = maxLength

section Suffixed

variable (maxLength : Nat) (name instanceId : String)

theorem suffixed_eq_append :
    suffixed maxLength name instanceId =
      String.ofList (kept maxLength instanceId name) ++ "-" ++ instanceId := by
  rw [suffixed_eq, ← String.toList_inj]
  simp

theorem length_kept :
    (kept maxLength instanceId name).length =
      min (maxLength - (instanceId.length + 1)) name.length := by
  rw [kept, List.length_take, String.length_toList]

theorem length_suffixed :
    (suffixed maxLength name instanceId).length =
      min (name.length + (instanceId.length + 1)) (max maxLength (instanceId.length + 1)) := by
  have hhyphen : "-".length = 1 := rfl
  rw [suffixed_eq_append, String.length_append, String.length_append, String.length_ofList,
    length_kept, hhyphen]
  omega

/-- All of the name is kept if there is room for it, or if there is nothing to keep. -/
theorem ofList_kept_eq_iff :
    String.ofList (kept maxLength instanceId name) = name ↔
      name.length + (instanceId.length + 1) ≤ maxLength ∨ name = "" := by
  have hempty : name = "" ↔ name.length = 0 := by
    rw [← String.length_toList, List.length_eq_zero_iff, String.toList_eq_nil_iff]
  rw [← String.toList_inj, String.toList_ofList, kept, List.take_eq_self_iff,
    String.length_toList, hempty]
  omega

theorem ends_append :
    ("-" ++ instanceId).toList <:+ (name ++ "-" ++ instanceId).toList := by
  rw [String.append_assoc]
  simp only [String.toList_append]
  exact List.suffix_append _ _

theorem suffixed_fitted :
    Fitted maxLength name instanceId (suffixed maxLength name instanceId) := by
  constructor
  case eq => exact suffixed_eq_append maxLength name instanceId
  case bare =>
    intro hroom
    have hnone : maxLength - (instanceId.length + 1) = 0 := by omega
    rw [suffixed_eq_append, kept, hnone, List.take_zero]
    simp
  case ends =>
    rw [suffixed_eq_append]
    exact ends_append _ instanceId
  case length => exact length_suffixed maxLength name instanceId
  case whole_iff =>
    rw [suffixed_eq_append, String.append_left_inj, String.append_left_inj, ofList_kept_eq_iff]
  case full =>
    intro hlong hid
    rw [length_suffixed]
    omega

end Suffixed

end Target

/-- The arguments of a target have no part in what it does. -/
theorem Registry.targetFor_of_resolve {targets : Registry Target} {spec : ExtensionSpec}
    {target : Target} (h : targets.resolve spec.name .empty = .ok target)
    (context : TargetContext) :
    targets.targetFor (some spec) context = .ok (target context) := by
  rw [targetFor, h]
  rfl

/-- The built-in target that cuts names does so at every limit, for every name and every instance
id: to the character, and to nothing of the id or of the properties. -/
theorem instanceSuffix_fits_names {extensions : Extensions} {maxNameLength : Nat}
    {authorizationServer : Bool} {custom : CustomExtensions}
    (hbuild : Extensions.build maxNameLength authorizationServer custom = .ok extensions)
    {spec : ExtensionSpec} (hspec : spec.name = "instance-suffix") (context : TargetContext) :
    ∃ apply, extensions.targets.targetFor (some spec) context = .ok apply ∧ ∀ artifact,
      Target.Fitted maxNameLength artifact.name context.instanceId (apply artifact).name ∧
        (apply artifact).properties = artifact.properties := by
  have built := Extensions.builtFrom_of_build hbuild
  have hmem : "instance-suffix" ∈ (Target.builtin maxNameLength).map (·.name) :=
    List.mem_cons_of_mem _ (List.mem_cons_of_mem _ List.mem_cons_self)
  obtain ⟨hname, -⟩ | ⟨hname, -⟩ | ⟨-, hresolve⟩ := built.resolve_target hmem
  · exact absurd hname (by decide)
  · exact absurd hname (by decide)
  · refine ⟨_, Registry.targetFor_of_resolve (hspec ▸ hresolve) context, fun artifact => ⟨?_, rfl⟩⟩
    exact Target.suffixed_fitted maxNameLength artifact.name context.instanceId

/-- Characters of two bytes, of which the limit leaves three. -/
theorem instanceSuffix_fits_names_accents :
    ∃ extensions, Extensions.build 6 false {} = .ok extensions ∧
      let spec : ExtensionSpec := ⟨"instance-suffix", .empty⟩
      ∃ apply,
        extensions.targets.targetFor (some spec) ⟨"id", "queue", "small"⟩ = .ok apply ∧
        (apply ⟨"ééééé", .empty⟩).name = "ééé-id" ∧
        (apply ⟨"ééééé", .empty⟩).name.length = 6 := by
  refine ⟨_, rfl, ?_⟩
  intro spec
  have hbuild : Extensions.build 6 false {} = .ok _ := rfl
  have hspec : spec.name = "instance-suffix" := rfl
  obtain ⟨apply, happly, hfitted⟩ :=
    instanceSuffix_fits_names hbuild hspec ⟨"id", "queue", "small"⟩
  obtain ⟨fitted, -⟩ := hfitted ⟨"ééééé", .empty⟩
  exact ⟨apply, happly, fitted.eq.trans (by decide), fitted.full (by decide) (by decide)⟩

end ServiceBroker
