import ServiceBroker.Proofs.ByteOrder
import ServiceBroker.Proofs.TypedArguments
import ServiceBroker.Proofs.Wiring

/-!
What a registry is built from and what it then answers. A registry is a finite map from the names to
their factories: the order of registration decides which name is told when two are equal, and
nothing else.
-/

namespace ServiceBroker

open scoped List

variable {α : Type}

/-! ## Entries -/

/-- A new key adds its entry and moves none of the others past each other. -/
theorem Entries.insert_perm {key : String} (value : α) {entries : List (String × α)}
    (h : key ∉ entries.map (·.1)) : (insert key value entries).Perm ((key, value) :: entries) := by
  induction entries with
  | nil => exact List.Perm.refl _
  | cons e rest ih =>
    obtain ⟨k, v⟩ := e
    simp only [List.map_cons, List.mem_cons, not_or] at h
    simp only [insert]
    split
    · exact List.Perm.refl _
    · rw [if_neg h.1]
      exact ((ih h.2).cons (k, v)).trans (List.Perm.swap (key, value) (k, v) rest)

theorem Dict.contains_iff_mem_keys (d : Dict α) (key : String) : d.contains key ↔ key ∈ d.keys := by
  rw [Dict.mem_keys_iff, Dict.contains, Option.isSome_iff_exists]

/-- Dictionaries with the same entries are equal, in whatever order the entries were collected. -/
theorem Dict.eq_of_entries_perm {d d' : Dict α} (h : d.entries.Perm d'.entries) : d = d' :=
  Dict.eq_of_entries_eq (Entries.eq_of_mem_iff d.ascending d'.ascending fun _ => h.mem_iff)

/-! ## Registering -/

def Factory.entry (factory : Factory α) : String × (Parameters → Except Extension.BindingFault α) :=
  (factory.name, factory.create)

namespace Registry

theorem entries_register {factories : List (Factory α)} {start registry : Registry α}
    (h : start.register factories = .ok registry) :
    registry.factories.entries.Perm (start.factories.entries ++ factories.map Factory.entry) := by
  induction factories generalizing start with
  | nil =>
    cases h
    simp
  | cons factory rest ih =>
    rw [register] at h
    split at h
    · cases h
    · rename_i hfree
      have hkey : factory.name ∉ start.factories.keys := by
        rwa [← Dict.contains_iff_mem_keys]
      have hinsert : (start.factories.insert factory.name factory.create).entries.Perm
          (factory.entry :: start.factories.entries) := Entries.insert_perm factory.create hkey
      calc registry.factories.entries
        _ ~ (start.factories.insert factory.name factory.create).entries ++
              rest.map Factory.entry := ih h
        _ ~ factory.entry :: start.factories.entries ++ rest.map Factory.entry :=
            hinsert.append_right _
        _ ~ start.factories.entries ++ (factory :: rest).map Factory.entry :=
            List.perm_middle.symm

theorem entries_ofFactories {factories : List (Factory α)} {registry : Registry α}
    (h : ofFactories factories = .ok registry) :
    registry.factories.entries ~ factories.map Factory.entry :=
  entries_register h

theorem names_ofFactories {factories : List (Factory α)} {registry : Registry α}
    (h : ofFactories factories = .ok registry) : registry.names ~ factories.map (·.name) := by
  have hnames := (entries_ofFactories h).map (·.1)
  rwa [List.map_map] at hnames

theorem nodup_of_ofFactories {factories : List (Factory α)} {registry : Registry α}
    (h : ofFactories factories = .ok registry) : (factories.map (·.name)).Nodup :=
  (names_ofFactories h).nodup_iff.mp registry.factories.nodup_keys

theorem ofFactories_eq_error_iff {factories : List (Factory α)} {error : ExtensionError} :
    ofFactories factories = .error error ↔
      ∃ name, error = .duplicateName name ∧ FirstRepeated (factories.map (·.name)) name := by
  constructor
  · intro herror
    rcases nodup_or_firstRepeated (factories.map (·.name)) with hnodup | ⟨name, hname⟩
    · obtain ⟨registry, hregistry⟩ := exists_ofFactories hnodup
      simp [hregistry] at herror
    · rw [ofFactories_of_firstRepeated hname] at herror
      exact ⟨name, (Except.error.inj herror).symm, hname⟩
  · rintro ⟨name, rfl, hname⟩
    exact ofFactories_of_firstRepeated hname

/-- The order of registration leaves no trace in the registry. -/
theorem ofFactories_of_perm {factories others : List (Factory α)} {registry : Registry α}
    (h : ofFactories factories = .ok registry) (hperm : others ~ factories) :
    ofFactories others = .ok registry := by
  have hnodup : (others.map (·.name)).Nodup :=
    (hperm.map (·.name)).nodup_iff.mpr (nodup_of_ofFactories h)
  obtain ⟨other, hother⟩ := exists_ofFactories hnodup
  have hentries : other.factories.entries ~ registry.factories.entries :=
    calc other.factories.entries
      _ ~ others.map Factory.entry := entries_ofFactories hother
      _ ~ factories.map Factory.entry := hperm.map Factory.entry
      _ ~ registry.factories.entries := (entries_ofFactories h).symm
  have hsame : other = registry := congrArg Registry.mk (Dict.eq_of_entries_perm hentries)
  rw [hother, hsame]

/-! ## The index -/

structure Indexes (registry : Registry α) (factories : List (Factory α)) : Prop where
  names_perm : registry.names ~ factories.map (·.name)
  names_ascending : registry.names.Pairwise fun name later => Text.bytes name < Text.bytes later
  size_eq : registry.size = factories.length
  contains_iff : ∀ name, registry.contains name ↔ name ∈ factories.map (·.name)
  /-- Neither the other factories nor their names have a part in what a name is resolved to. -/
  resolves : ∀ factory ∈ factories, ∀ args,
    registry.resolve factory.name args = factory.made args
  /-- The arguments are bound to the configuration of that factory, which then makes the
  extension. -/
  configures : ∀ {S : Type} (name : String) (view : Json.View S) (make : S → α),
    .of name view make ∈ factories → ∀ args,
      registry.resolve name args = (Extension.bindFor name view args).map make
  /-- No arguments make a difference to a name that is not registered. -/
  refuses : ∀ name ∉ factories.map (·.name), ∀ args,
    registry.resolve name args = .error (.unknown name registry.names)

theorem resolve_of_not_contains {registry : Registry α} {name : String}
    (h : ¬registry.contains name) (args : Parameters) :
    registry.resolve name args = .error (.unknown name registry.names) := by
  rw [contains, Dict.contains, Option.isSome_iff_ne_none, not_not] at h
  rw [resolve, h]

theorem indexes_of_ofFactories {factories : List (Factory α)} {registry : Registry α}
    (h : ofFactories factories = .ok registry) : registry.Indexes factories := by
  have hnames := names_ofFactories h
  have hcontains : ∀ name, registry.contains name ↔ name ∈ factories.map (·.name) := by
    intro name
    rw [contains, Dict.contains_iff_mem_keys]
    exact hnames.mem_iff
  constructor
  case names_perm => exact hnames
  case names_ascending =>
    simp only [Text.bytes_lt_bytes_iff]
    exact List.pairwise_map.mpr registry.factories.ascending
  case size_eq => exact (entries_ofFactories h).length_eq.trans (List.length_map _)
  case contains_iff => exact hcontains
  case resolves => exact fun factory hfactory args => resolve_of_mem h hfactory args
  case configures =>
    exact fun name view make hmem args => Extension.resolve_eq_map_bindFor h hmem args
  case refuses =>
    intro name hname args
    exact resolve_of_not_contains (fun hheld => hname ((hcontains name).mp hheld)) args

/-- Factories make a registry exactly if no two of them have the same name. If two have, the name is
told that is the first in the order of registration to repeat an earlier one. A registry knows each
of its factories under its name and nothing else, tells the names in the order of their bytes, and
is the same one in whatever order its factories were registered. -/
theorem ofFactories_indexes_names (factories : List (Factory α)) :
    let names := factories.map (·.name)
    ((∃ error, ofFactories factories = .error error) ↔ ¬names.Nodup) ∧
      (∀ error, ofFactories factories = .error error ↔
        ∃ name, error = .duplicateName name ∧ FirstRepeated names name) ∧
      ∀ registry, ofFactories factories = .ok registry →
        registry.Indexes factories ∧
          ∀ others, others ~ factories → ofFactories others = .ok registry := by
  intro names
  refine ⟨⟨?_, ?_⟩, fun error => ofFactories_eq_error_iff, fun registry h => ?_⟩
  · rintro ⟨error, herror⟩ hnodup
    obtain ⟨registry, hregistry⟩ := exists_ofFactories hnodup
    simp [hregistry] at herror
  · intro hrepeated
    obtain ⟨name, hname⟩ := (nodup_or_firstRepeated names).resolve_left hrepeated
    exact ⟨.duplicateName name, ofFactories_of_firstRepeated hname⟩
  · exact ⟨indexes_of_ofFactories h, fun others hperm => ofFactories_of_perm h hperm⟩

/-- Three targets, of which two names take several bytes to a character. Registered in another order
they make the same registry, and with two of them twice they make none. -/
theorem ofFactories_indexes_names_staged :
    let ascii := Rehearsal.Cast.target "zone"
    let wide := Rehearsal.Cast.target "\uff5e"
    let paired := Rehearsal.Cast.target "😀"
    let unbound : Parameters := .ofList [("zone", .null)]
    ofFactories [wide, ascii, wide, ascii] = .error (.duplicateName "\uff5e") ∧
      ∃ registry, ofFactories ([paired, wide] ++ [ascii]) = .ok registry ∧
        ofFactories ([ascii] ++ [paired, wide]) = .ok registry ∧
        registry.names = ["zone", "\uff5e", "😀"] ∧ registry.size = 3 ∧
        registry.resolve "zone" .empty = .ok (Rehearsal.markingTarget "zone") ∧
        registry.resolve "zoo" unbound = .error (.unknown "zoo" registry.names) := by
  intro ascii wide paired unbound
  obtain ⟨-, hrepeated, -⟩ := ofFactories_indexes_names [wide, ascii, wide, ascii]
  obtain ⟨-, -, hindexes⟩ := ofFactories_indexes_names ([paired, wide] ++ [ascii])
  have hnames : (ofFactories ([paired, wide] ++ [ascii])).map names =
      .ok ["zone", "\uff5e", "😀"] := by
    decide +kernel
  obtain ⟨registry, hregistry⟩ : ∃ registry,
      ofFactories ([paired, wide] ++ [ascii]) = .ok registry :=
    exists_of_isOk (by decide +kernel)
  rw [hregistry] at hnames
  obtain ⟨indexes, hperm⟩ := hindexes registry hregistry
  refine ⟨(hrepeated _).mpr ⟨_, rfl, [wide.name, ascii.name], [ascii.name], rfl, by decide,
    by decide⟩, registry, hregistry, hperm _ List.perm_append_comm, Except.ok.inj hnames,
    indexes.size_eq, ?_, ?_⟩
  · exact indexes.resolves ascii (by simp) .empty
  · exact indexes.refuses "zoo" (by decide) unbound

end Registry

end ServiceBroker
