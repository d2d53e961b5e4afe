import Mathlib.Data.List.Nodup
import Mathlib.Data.List.Pairwise
import ServiceBroker.Proofs.Binding
import ServiceBroker.Proofs.Registry

/-!
Which arguments the configuration of an extension is bound from. A configuration has typed fields;
arguments are accepted if each of them is named after a field and its value is of the type of that
field. A field holds what its argument stands for, or its default.
-/

namespace ServiceBroker

open Json (Value View Setting)

/-! ## Types of fields -/

namespace Extension

inductive FieldType where
  | size
  | flag
  | text
  | optionalText
  | texts
deriving DecidableEq, Repr

namespace FieldType

@[reducible] def Carrier : FieldType → Type
  | .size => Nat
  | .flag => Bool
  | .text => String
  | .optionalText => Option String
  | .texts => List String

/-- The value is of the type and stands for what the field then holds. -/
inductive Means : (type : FieldType) → Value → type.Carrier → Prop where
  | size {n : Nat} (fits : n ≤ View.maxSize) : Means .size (.number (.integer n)) n
  | flag (b : Bool) : Means .flag (.boolean b) b
  | text (s : String) : Means .text (.text s) s
  | null : Means .optionalText .null none
  | someText (s : String) : Means .optionalText (.text s) (some s)
  | joined (s : String) : Means .texts (.text s) (splitItems s)
  | listed (items : List String) : Means .texts (.array (items.map .text)) items

def Admits (type : FieldType) (value : Value) : Prop := ∃ x, type.Means value x

def view : (type : FieldType) → View type.Carrier
  | .size => View.size
  | .flag => View.flag
  | .text => View.text
  | .optionalText => View.option View.text
  | .texts => stringOrList

theorem size_eq_ok_iff {value : Value} {n : Nat} :
    View.size value = .ok n ↔ value = .number (.integer n) ∧ n ≤ View.maxSize := by
  constructor
  · intro h
    unfold View.size at h
    split at h
    · rename_i i
      split at h
      · rename_i hrange
        cases h
        exact ⟨by rw [Int.toNat_of_nonneg hrange.1], Int.toNat_le.mpr hrange.2⟩
      · cases h
    · cases h
  · rintro ⟨rfl, hle⟩
    have hrange : (0 : Int) ≤ n ∧ (n : Int) ≤ View.maxSize := by omega
    rw [View.size, if_pos hrange, Int.toNat_natCast]

theorem flag_eq_ok_iff {value : Value} {b : Bool} :
    View.flag value = .ok b ↔ value = .boolean b := by
  cases value <;> simp [View.flag]

theorem text_eq_ok_iff {value : Value} {s : String} :
    View.text value = .ok s ↔ value = .text s := by
  cases value <;> simp [View.text]

theorem optionalText_eq_ok_iff {value : Value} {x : Option String} :
    View.option View.text value = .ok x ↔
      (value = .null ∧ x = none) ∨ ∃ s, value = .text s ∧ x = some s := by
  cases value <;> simp [View.option, View.text, eq_comm]

theorem mapM_text_eq_ok_iff {values : List Value} {items : List String} :
    values.mapM View.text = .ok items ↔ values = items.map .text := by
  induction values generalizing items with
  | nil => cases items <;> simp [pure, Except.pure]
  | cons value values ih =>
    rw [List.mapM_cons]
    cases hvalue : View.text value with
    | error m => cases items <;> simp [Bind.bind, Except.bind, ← text_eq_ok_iff, hvalue]
    | ok s =>
      cases hrest : values.mapM View.text <;> cases items <;>
        simp [Bind.bind, Except.bind, pure, Except.pure, ← ih, ← text_eq_ok_iff, hvalue, hrest]

theorem texts_eq_ok_iff {value : Value} {items : List String} :
    stringOrList value = .ok items ↔
      (∃ s, value = .text s ∧ items = splitItems s) ∨ value = .array (items.map .text) := by
  cases value with
  | text s => simp [stringOrList, eq_comm]
  | array values =>
    simp only [stringOrList, reduceCtorEq, false_and, exists_const, false_or, Value.array.injEq,
      ← mapM_text_eq_ok_iff]
    cases values.mapM View.text <;> simp [Except.mapError]
  | _ => simp [stringOrList]

theorem view_eq_ok_iff {type : FieldType} {value : Value} {x : type.Carrier} :
    type.view value = .ok x ↔ type.Means value x := by
  cases type with
  | size =>
    refine size_eq_ok_iff.trans ⟨?_, ?_⟩
    · rintro ⟨rfl, hle⟩
      exact .size hle
    · rintro ⟨hle⟩
      exact ⟨rfl, hle⟩
  | flag =>
    refine flag_eq_ok_iff.trans ⟨?_, ?_⟩
    · rintro rfl
      exact .flag x
    · rintro ⟨⟩
      rfl
  | text =>
    refine text_eq_ok_iff.trans ⟨?_, ?_⟩
    · rintro rfl
      exact .text x
    · rintro ⟨⟩
      rfl
  | optionalText =>
    refine optionalText_eq_ok_iff.trans ⟨?_, ?_⟩
    · rintro (⟨rfl, rfl⟩ | ⟨s, rfl, rfl⟩)
      · exact .null
      · exact .someText s
    · rintro (_ | _ | _ | _ | s)
      · exact .inl ⟨rfl, rfl⟩
      · exact .inr ⟨s, rfl, rfl⟩
  | texts =>
    refine texts_eq_ok_iff.trans ⟨?_, ?_⟩
    · rintro (⟨s, rfl, rfl⟩ | rfl)
      · exact .joined s
      · exact .listed x
    · intro h
      cases h with
      | joined s => exact .inl ⟨s, rfl, rfl⟩
      | listed items => exact .inr rfl

end FieldType

/-! ## Typed records -/

structure ConfigField (S : Type) where
  name : String
  type : FieldType
  get : S → type.Carrier
  put : type.Carrier → S → S

namespace ConfigField

variable {S : Type}

def setting (field : ConfigField S) : Setting S := .of field.name field.type.view field.put

def Apart (field other : ConfigField S) : Prop :=
  (∀ x s, field.get (other.put x s) = field.get s) ∧ ∀ x s, other.get (field.put x s) = other.get s

instance : Std.Symm (Apart : ConfigField S → ConfigField S → Prop) := ⟨fun _ _ h => ⟨h.2, h.1⟩⟩

/-- The fields have names and places of their own, and there is nothing else to a configuration. -/
structure Whole (fields : List (ConfigField S)) : Prop where
  names : (fields.map (·.name)).Nodup
  apart : fields.Pairwise Apart
  get_put : ∀ field ∈ fields, ∀ x s, field.get (field.put x s) = x
  ext : ∀ s s', (∀ field ∈ fields, field.get s = field.get s') → s = s'

variable {fields : List (ConfigField S)} {members : List (String × Value)} {s config : S}
  {unknown : String → Except Json.Mismatch Unit}

theorem Whole.eq_of_name_eq (whole : Whole fields) {field other : ConfigField S}
    (hfield : field ∈ fields) (hother : other ∈ fields) (hname : field.name = other.name) :
    field = other :=
  List.inj_on_of_nodup_map whole.names hfield hother hname

/-- A field is found under its own name, and other names are unknown. -/
theorem find?_setting (fields : List (ConfigField S)) (key : String) :
    (∃ field ∈ fields, field.name = key ∧
        (fields.map setting).find? (·.name == key) = some field.setting) ∨
      (∀ field ∈ fields, field.name ≠ key) ∧ (fields.map setting).find? (·.name == key) = none := by
  rw [List.find?_map]
  cases hfind : fields.find? ((·.name == key) ∘ setting) with
  | none =>
    refine .inr ⟨fun field hfield hname => ?_, rfl⟩
    exact List.find?_eq_none.mp hfind field hfield (beq_iff_eq.mpr hname)
  | some field =>
    have hname := List.find?_some hfind
    exact .inl ⟨field, List.mem_of_find?_eq_some hfind, beq_iff_eq.mp hname, rfl⟩

/-- Each member is named after a field and has a value of its type. -/
def WellTyped (fields : List (ConfigField S)) (members : List (String × Value)) : Prop :=
  ∀ member ∈ members, ∃ field ∈ fields, field.name = member.1 ∧ field.type.Admits member.2

/-- Fields that are named by a member hold what its value stands for, all others what they held in
`s`. -/
structure Filled (fields : List (ConfigField S)) (members : List (String × Value)) (s config : S) :
    Prop where
  supplied : ∀ field ∈ fields, ∀ value, (field.name, value) ∈ members →
    field.type.Means value (field.get config)
  others : ∀ field ∈ fields, (∀ value, (field.name, value) ∉ members) →
    field.get config = field.get s

theorem Filled.cons (whole : Whole fields) {field : ConfigField S} (hfield : field ∈ fields)
    {value : Value} {x : field.type.Carrier} (means : field.type.Means value x)
    (hkey : field.name ∉ members.map (·.1))
    (filled : Filled fields members (field.put x s) config) :
    Filled fields ((field.name, value) :: members) s config := by
  have hfree : ∀ v, (field.name, v) ∉ members := fun v hmem =>
    hkey (List.mem_map.mpr ⟨_, hmem, rfl⟩)
  have hget : field.get config = x := by
    rw [filled.others field hfield hfree, whole.get_put field hfield]
  constructor
  case supplied =>
    intro other hother v hmem
    rcases List.mem_cons.mp hmem with heq | hmem
    · obtain ⟨hname, rfl⟩ := Prod.mk.inj heq
      obtain rfl := whole.eq_of_name_eq hother hfield hname
      exact hget ▸ means
    · exact filled.supplied other hother v hmem
  case others =>
    intro other hother hnone
    have hne : other ≠ field := by
      rintro rfl
      exact hnone value List.mem_cons_self
    rw [filled.others other hother fun v hmem => hnone v (List.mem_cons_of_mem _ hmem)]
    exact (whole.apart.forall hother hfield hne).1 x s

/-- Members are applied exactly if they are well typed, and then each of them fills its field. -/
theorem Whole.setMembers_cases (whole : Whole fields) (hnames : (members.map (·.1)).Nodup)
    (hunknown : ∀ key, ∃ m, unknown key = .error m) (s : S) :
    (WellTyped fields members ∧ ∃ config,
        View.setMembers (fields.map setting) unknown members s = .ok config ∧
          Filled fields members s config) ∨
      ¬WellTyped fields members ∧ ∃ m,
        View.setMembers (fields.map setting) unknown members s = .error m := by
  induction members generalizing s with
  | nil =>
    exact .inl ⟨(fun _ h => nomatch h), s, rfl, ⟨(fun _ _ _ h => nomatch h), fun _ _ _ => rfl⟩⟩
  | cons member members ih =>
    obtain ⟨key, value⟩ := member
    obtain ⟨hkey, hlater⟩ := List.nodup_cons.mp hnames
    rcases find?_setting fields key with ⟨field, hfield, rfl, hfind⟩ | ⟨hnone, hfind⟩
    · have hset : View.setMembers (fields.map setting) unknown ((field.name, value) :: members) s =
          (field.type.view value).bind fun x =>
            View.setMembers (fields.map setting) unknown members (field.put x s) := by
        rw [View.setMembers, hfind]
        simp only [setting, Setting.of]
        cases field.type.view value <;> rfl
      rw [hset]
      cases hvalue : field.type.view value with
      | error m =>
        refine .inr ⟨fun htyped => ?_, m, rfl⟩
        obtain ⟨other, hother, hname, x, means⟩ := htyped _ List.mem_cons_self
        obtain rfl := whole.eq_of_name_eq hother hfield hname
        cases hvalue.symm.trans (FieldType.view_eq_ok_iff.mpr means)
      | ok x =>
        have means := FieldType.view_eq_ok_iff.mp hvalue
        rcases ih hlater (field.put x s) with ⟨htyped, config, hconfig, filled⟩ | ⟨htyped, m, hm⟩
        · refine .inl ⟨?_, config, hconfig, filled.cons whole hfield means hkey⟩
          exact List.forall_mem_cons.mpr ⟨⟨field, hfield, rfl, x, means⟩, htyped⟩
        · exact .inr ⟨fun h => htyped (List.forall_mem_cons.mp h).2, m, hm⟩
    · obtain ⟨m, hm⟩ := hunknown key
      refine .inr ⟨fun htyped => ?_, m, ?_⟩
      · obtain ⟨field, hfield, hname, -⟩ := htyped _ List.mem_cons_self
        exact hnone field hfield hname
      · rw [View.setMembers, hfind]
        simp only [hm]
        rfl

end ConfigField

/-! ## Binding -/

/-- What comes of binding arguments to a configuration with these fields. -/
structure Binds {S : Type} (extension : String) (view : View S) (default : S)
    (fields : List (ConfigField S)) (args : Parameters) : Prop where
  /-- A configuration is nothing but its fields. -/
  ext : ∀ s s', (∀ field ∈ fields, field.get s = field.get s') → s = s'
  succeeds_iff : (∃ config, bindFor extension view args = .ok config) ↔
    ∀ key value, args.get? key = some value →
      ∃ field ∈ fields, field.name = canonicalKey key ∧ field.type.Admits value
  supplied : ∀ config, bindFor extension view args = .ok config → ∀ field ∈ fields,
    ∀ key value, args.get? key = some value → canonicalKey key = field.name →
      field.type.Means value (field.get config)
  others : ∀ config, bindFor extension view args = .ok config → ∀ field ∈ fields,
    (∀ key ∈ args.keys, canonicalKey key ≠ field.name) → field.get config = field.get default
  refused : ∀ error, bindFor extension view args = .error error →
    ∃ mismatch, error = .invalidConfiguration extension (.mismatch mismatch)
  /-- An extension is made from the configuration, and from nothing if there is none. -/
  created : ∀ {α : Type} {factories : List (Factory α)} {registry : Registry α} {make : S → α},
    Registry.ofFactories factories = .ok registry → .of extension view make ∈ factories →
      registry.resolve extension args = (bindFor extension view args).map make

theorem resolve_eq_map_bindFor {S α : Type} {extension : String} {view : View S}
    {factories : List (Factory α)} {registry : Registry α} {make : S → α}
    (h : Registry.ofFactories factories = .ok registry) (hmem : .of extension view make ∈ factories)
    (args : Parameters) :
    registry.resolve extension args = (bindFor extension view args).map make := by
  rw [Registry.resolve_of h hmem, bindFor]
  cases bind view args <;> rfl

namespace ConfigField

variable {S : Type} {fields : List (ConfigField S)} {args bound : Parameters}

theorem wellTyped_iff (hget : ∀ name value, bound.get? name = some value ↔
      ∃ key, args.get? key = some value ∧ canonicalKey key = name) :
    WellTyped fields bound.entries ↔ ∀ key value, args.get? key = some value →
      ∃ field ∈ fields, field.name = canonicalKey key ∧ field.type.Admits value := by
  constructor
  · intro htyped key value hvalue
    exact htyped (canonicalKey key, value)
      (bound.mem_entries_iff.mpr ((hget _ _).mpr ⟨key, hvalue, rfl⟩))
  · rintro hargs ⟨name, value⟩ hmem
    obtain ⟨key, hvalue, rfl⟩ := (hget name value).mp (bound.mem_entries_iff.mp hmem)
    exact hargs key value hvalue

/-- Without a clash, a record is bound from the arguments if they are well typed, and not
otherwise. -/
theorem Whole.bindFor_cases (whole : Whole fields) (hclash : ¬Clash args) (extension name : String)
    (default : S) :
    let outcome := bindFor extension (View.closed name default (fields.map setting)) args
    ∃ bound : Parameters,
      (∀ name value, bound.get? name = some value ↔
        ∃ key, args.get? key = some value ∧ canonicalKey key = name) ∧
      ((WellTyped fields bound.entries ∧ ∃ config, outcome = .ok config ∧
          Filled fields bound.entries default config) ∨
        ¬WellTyped fields bound.entries ∧ ∃ mismatch,
          outcome = .error (.invalidConfiguration extension (.mismatch mismatch))) := by
  intro outcome
  obtain ⟨-, bound, hbound, hget⟩ | ⟨key, hrepeat, -⟩ := canonicalArgs_cases args
  · have houtcome : outcome =
        (View.setMembers (fields.map setting) _ bound.entries default).mapError _ :=
      bindFor_of_ok hbound extension _
    refine ⟨bound, hget, ?_⟩
    rcases whole.setMembers_cases bound.nodup_keys (fun key => ⟨_, rfl⟩) default with
      ⟨htyped, config, hconfig, filled⟩ | ⟨htyped, m, hm⟩
    · rw [hconfig] at houtcome
      exact .inl ⟨htyped, config, houtcome, filled⟩
    · rw [hm] at houtcome
      exact .inr ⟨htyped, m, houtcome⟩
  · exact absurd hrepeat.clash hclash

theorem Whole.binds (whole : Whole fields) (hclash : ¬Clash args) (extension name : String)
    (default : S) :
    Binds extension (View.closed name default (fields.map setting)) default fields args := by
  obtain ⟨bound, hget, hcases⟩ := whole.bindFor_cases hclash extension name default
  have hfilled : ∀ config, bindFor extension (View.closed name default (fields.map setting)) args =
      .ok config → Filled fields bound.entries default config := by
    intro config hconfig
    rcases hcases with ⟨-, config', hconfig', filled⟩ | ⟨-, m, hm⟩
    · obtain rfl := Except.ok.inj (hconfig.symm.trans hconfig')
      exact filled
    · cases hm.symm.trans hconfig
  constructor
  case ext => exact whole.ext
  case succeeds_iff =>
    rw [← wellTyped_iff hget]
    rcases hcases with ⟨htyped, config, hconfig, -⟩ | ⟨htyped, m, hm⟩
    · exact iff_of_true ⟨config, hconfig⟩ htyped
    · refine iff_of_false ?_ htyped
      rintro ⟨config, hconfig⟩
      cases hm.symm.trans hconfig
  case supplied =>
    intro config hconfig field hfield key value hvalue hname
    have hbound := bound.mem_entries_iff.mpr ((hget _ _).mpr ⟨key, hvalue, hname⟩)
    exact (hfilled config hconfig).supplied field hfield value hbound
  case others =>
    intro config hconfig field hfield hnone
    refine (hfilled config hconfig).others field hfield fun value hmem => ?_
    obtain ⟨key, hvalue, hname⟩ := (hget _ _).mp (bound.mem_entries_iff.mp hmem)
    exact hnone key (args.mem_keys_iff.mpr ⟨value, hvalue⟩) hname
  case refused =>
    intro error herror
    rcases hcases with ⟨-, config, hconfig, -⟩ | ⟨-, m, hm⟩
    · cases hconfig.symm.trans herror
    · exact ⟨m, Except.error.inj (herror.symm.trans hm)⟩
  case created => exact fun h hmem => resolve_eq_map_bindFor h hmem args

end ConfigField

end Extension

/-! ## Configurations -/

open Extension (ConfigField FieldType Binds)

/-- The fields of a character set within a larger configuration. -/
def Charset.fields {S : Type} (get : S → Charset) (change : (Charset → Charset) → S → S) :
    List (ConfigField S) :=
  [⟨"length", .size, fun s => (get s).length, fun x => change fun c => { c with length := x }⟩,
   ⟨"includeUppercaseAlpha", .flag, fun s => (get s).upper,
    fun x => change fun c => { c with upper := x }⟩,
   ⟨"includeLowercaseAlpha", .flag, fun s => (get s).lower,
    fun x => change fun c => { c with lower := x }⟩,
   ⟨"includeNumeric", .flag, fun s => (get s).numeric,
    fun x => change fun c => { c with numeric := x }⟩,
   ⟨"includeSpecial", .flag, fun s => (get s).special,
    fun x => change fun c => { c with special := x }⟩]

def MappingConfig.fields : List (ConfigField MappingConfig) :=
  [⟨"include", .texts, (·.included), fun x s => { s with included := x }⟩]

def BasicAuthConfig.fields : List (ConfigField BasicAuthConfig) :=
  Charset.fields (·.charset) fun f s => { s with charset := f s.charset }

def OAuth2Config.fields : List (ConfigField OAuth2Config) :=
  [⟨"registration", .text, (·.registration), fun x s => { s with registration := x }⟩,
   ⟨"clientId", .optionalText, (·.clientId), fun x s => { s with clientId := x }⟩,
   ⟨"clientName", .optionalText, (·.clientName), fun x s => { s with clientName := x }⟩,
   ⟨"scopes", .texts, (·.scopes), fun x s => { s with scopes := x }⟩,
   ⟨"authorities", .texts, (·.authorities), fun x s => { s with authorities := x }⟩,
   ⟨"grantTypes", .texts, (·.grantTypes), fun x s => { s with grantTypes := x }⟩] ++
  Charset.fields (·.charset) fun f s => { s with charset := f s.charset }

theorem MappingConfig.settings_eq : settings = fields.map ConfigField.setting := rfl

theorem BasicAuthConfig.settings_eq : settings = fields.map ConfigField.setting := rfl

theorem OAuth2Config.settings_eq : settings = fields.map ConfigField.setting := rfl

theorem MappingConfig.fields_whole : ConfigField.Whole fields where
  names := by decide
  apart := List.pairwise_singleton ..
  get_put := by simp [fields]
  ext := by
    rintro ⟨included⟩ ⟨included'⟩ h
    simpa [fields] using h

theorem BasicAuthConfig.fields_whole : ConfigField.Whole fields where
  names := by decide
  apart := by simp [fields, Charset.fields, ConfigField.Apart]
  get_put := by simp [fields, Charset.fields]
  ext := by
    rintro ⟨⟨⟩⟩ ⟨⟨⟩⟩ h
    simpa [fields, Charset.fields] using h

theorem OAuth2Config.fields_whole : ConfigField.Whole fields where
  names := by decide
  apart := by simp [fields, Charset.fields, ConfigField.Apart]
  get_put := by simp [fields, Charset.fields]
  ext := by
    rintro ⟨_, _, _, _, _, _, ⟨⟩⟩ ⟨_, _, _, _, _, _, ⟨⟩⟩ h
    simpa [fields, Charset.fields] using h

/-- Where no name is given twice, each of the built-in configurations is bound exactly from the
arguments that are well typed for its fields. -/
theorem configurations_bind_well_typed {args : Parameters} (hclash : ¬Extension.Clash args)
    (extension : String) :
    Binds extension Extension.noConfig () [] args ∧
      Binds extension MappingConfig.view {} MappingConfig.fields args ∧
      Binds extension BasicAuthConfig.view {} BasicAuthConfig.fields args ∧
      Binds extension OAuth2Config.view {} OAuth2Config.fields args := by
  have hnone : ConfigField.Whole ([] : List (ConfigField Unit)) :=
    ⟨.nil, .nil, fun _ h => (nomatch h), fun _ _ _ => rfl⟩
  refine ⟨hnone.binds hclash extension "EmptyConfig" (), ?mapping, ?basicAuth, ?oauth2⟩
  case mapping =>
    rw [MappingConfig.view, MappingConfig.settings_eq]
    exact MappingConfig.fields_whole.binds hclash extension "MappingConfig" {}
  case basicAuth =>
    rw [BasicAuthConfig.view, BasicAuthConfig.settings_eq]
    exact BasicAuthConfig.fields_whole.binds hclash extension "BasicAuthConfig" {}
  case oauth2 =>
    rw [OAuth2Config.view, OAuth2Config.settings_eq]
    exact OAuth2Config.fields_whole.binds hclash extension "OAuth2Config" {}

/-- Arguments in three spellings, of which one is null, and a length below zero. -/
theorem configurations_bind_well_typed_staged :
    let args : Parameters := .ofList
      [("client-id", .null), ("length", .number (.integer 20)), ("scopes", .text "read, write,")]
    let misfit : Parameters := .ofList [("length", .number (.integer (-1)))]
    (∃ config, Extension.bindFor "oauth2" OAuth2Config.view args = .ok config ∧
      config.clientId = none ∧ config.charset.length = 20 ∧ config.scopes = ["read", "write"] ∧
      config.grantTypes = ["client_credentials"]) ∧
      ∃ mismatch, Extension.bindFor "basic-auth" BasicAuthConfig.view misfit =
        .error (.invalidConfiguration "basic-auth" (.mismatch mismatch)) := by
  intro args misfit
  constructor
  · have hclash : ¬Extension.Clash args := by
      unfold Extension.Clash
      decide +kernel
    obtain ⟨-, -, -, binds⟩ := configurations_bind_well_typed hclash "oauth2"
    have hok : (Extension.bindFor "oauth2" OAuth2Config.view args).isOk := by decide +kernel
    obtain ⟨config, hconfig⟩ := exists_of_isOk hok
    have hsupplied := fun i hi =>
      binds.supplied config hconfig OAuth2Config.fields[i] (List.getElem_mem hi)
    have hid : FieldType.optionalText.Means .null config.clientId :=
      hsupplied 1 (by decide) "client-id" _ rfl (by decide +kernel)
    have hlength : FieldType.size.Means (.number (.integer 20)) config.charset.length :=
      hsupplied 6 (by decide) "length" _ rfl (by decide +kernel)
    have hscopes : FieldType.texts.Means (.text "read, write,") config.scopes :=
      hsupplied 3 (by decide) "scopes" _ rfl (by decide +kernel)
    have hgrants := binds.others config hconfig OAuth2Config.fields[5] (List.getElem_mem _)
      (by decide +kernel)
    refine ⟨config, hconfig, ?_, ?_, ?_, hgrants⟩
    · exact (Except.ok.inj (FieldType.view_eq_ok_iff.mpr hid)).symm
    · exact (Except.ok.inj (FieldType.view_eq_ok_iff.mpr hlength)).symm
    · have hread := Except.ok.inj (FieldType.view_eq_ok_iff.mpr hscopes)
      exact hread.symm.trans (by decide +kernel)
  · have hclash : ¬Extension.Clash misfit := by
      unfold Extension.Clash
      decide +kernel
    obtain ⟨-, -, binds, -⟩ := configurations_bind_well_typed hclash "basic-auth"
    have hfails : ¬(Extension.bindFor "basic-auth" BasicAuthConfig.view misfit).isOk := by
      decide +kernel
    cases hbind : Extension.bindFor "basic-auth" BasicAuthConfig.view misfit with
    | ok config =>
      rw [hbind] at hfails
      exact absurd rfl hfails
    | error e =>
      obtain ⟨mismatch, rfl⟩ := binds.refused e hbind
      exact ⟨mismatch, rfl⟩

end ServiceBroker
