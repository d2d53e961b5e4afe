import ServiceBroker.Entries

/-!
Dictionaries keyed by text. The entries stand in ascending key order and each key occurs once,
so two dictionaries with the same contents are equal.
-/

namespace ServiceBroker

variable {α β : Type}

/-- Entries in strictly ascending key order, by code point. -/
def Ascending (entries : List (String × α)) : Prop :=
  entries.Pairwise fun a b => a.1 < b.1

namespace Entries

/-- Puts a value under a key, in place of an older one. -/
def insert (key : String) (value : α) : List (String × α) → List (String × α)
  | [] => [(key, value)]
  | (k, v) :: rest =>
    if key < k then (key, value) :: (k, v) :: rest
    else if key = k then (key, value) :: rest
    else (k, v) :: insert key value rest

theorem mem_insert {key : String} {value : α} {entries : List (String × α)} {e : String × α}
    (h : e ∈ insert key value entries) : e = (key, value) ∨ e ∈ entries := by
  induction entries with
  | nil => simpa [insert] using h
  | cons a rest ih =>
    simp only [insert] at h
    split at h
    · simpa using h
    · split at h
      · rcases List.mem_cons.mp h with rfl | h
        · exact .inl rfl
        · exact .inr (List.mem_cons_of_mem _ h)
      · rcases List.mem_cons.mp h with rfl | h
        · exact .inr (List.mem_cons_self ..)
        · exact (ih h).imp id (List.mem_cons_of_mem _)

theorem ascending_insert (key : String) (value : α) {entries : List (String × α)}
    (h : Ascending entries) : Ascending (insert key value entries) := by
  induction entries with
  | nil => simp [insert, Ascending]
  | cons a rest ih =>
    obtain ⟨k, v⟩ := a
    obtain ⟨hk, hrest⟩ := List.pairwise_cons.mp h
    simp only [insert]
    split
    · rename_i hlt
      refine List.pairwise_cons.mpr ⟨fun e he => ?_, h⟩
      rcases List.mem_cons.mp he with rfl | he
      · exact hlt
      · exact String.lt_trans hlt (hk e he)
    · split
      · rename_i heq
        subst heq
        exact List.pairwise_cons.mpr ⟨hk, hrest⟩
      · rename_i hnlt hne
        refine List.pairwise_cons.mpr ⟨fun e he => ?_, ih hrest⟩
        rcases mem_insert he with rfl | he
        · rcases Decidable.em (k < key) with hlt | hge
          · exact hlt
          · exact absurd (String.le_antisymm (String.not_lt.mp hge) (String.not_lt.mp hnlt)) hne
        · exact hk e he

theorem lookup_insert (key other : String) (value : α) (entries : List (String × α)) :
    lookup other (insert key value entries) =
      if other = key then some value else lookup other entries := by
  induction entries with
  | nil => rfl
  | cons a rest ih =>
    obtain ⟨k, v⟩ := a
    simp only [insert]
    split
    · rfl
    · split
      · rename_i heq
        subst heq
        simp only [lookup]
        split <;> rfl
      · rename_i hne
        simp only [lookup, ih]
        split
        · rename_i hok
          subst hok
          rw [if_neg (fun h => hne h.symm)]
        · rfl

/-- In ascending entries an entry is found under its key. -/
theorem lookup_eq_some_iff {entries : List (String × α)} (h : Ascending entries) {key : String}
    {value : α} : lookup key entries = some value ↔ (key, value) ∈ entries := by
  induction entries with
  | nil => simp [lookup]
  | cons e rest ih =>
    obtain ⟨k, v⟩ := e
    obtain ⟨hk, hrest⟩ := List.pairwise_cons.mp h
    by_cases hkey : key = k
    · subst hkey
      have hnot : ∀ w, (key, w) ∉ rest := fun w hmem => String.lt_irrefl key (hk _ hmem)
      simp [lookup, hnot, eq_comm]
    · simp [lookup, hkey, ih hrest]

/-- A value under a key beyond all others comes last. -/
theorem insert_of_lt {key : String} {entries : List (String × α)} (value : α)
    (h : ∀ e ∈ entries, e.1 < key) : insert key value entries = entries ++ [(key, value)] := by
  induction entries with
  | nil => rfl
  | cons e rest ih =>
    obtain ⟨k, v⟩ := e
    have hlt : k < key := h (k, v) List.mem_cons_self
    have hnot : ¬ key < k := fun hgt => String.lt_irrefl k (String.lt_trans hlt hgt)
    have hne : key ≠ k := fun heq => String.lt_irrefl k (heq ▸ hlt)
    rw [insert, if_neg hnot, if_neg hne, ih fun e he => h e (List.mem_cons_of_mem _ he)]
    rfl

/-- Ascending entries are determined by which ones they are. -/
theorem eq_of_mem_iff {entries others : List (String × α)} (h : Ascending entries)
    (h' : Ascending others) (hmem : ∀ e, e ∈ entries ↔ e ∈ others) : entries = others := by
  induction entries generalizing others with
  | nil =>
    cases others with
    | nil => rfl
    | cons e rest => exact absurd ((hmem e).mpr List.mem_cons_self) List.not_mem_nil
  | cons e rest ih =>
    cases others with
    | nil => exact absurd ((hmem e).mp List.mem_cons_self) List.not_mem_nil
    | cons e' rest' =>
      obtain ⟨he, hrest⟩ := List.pairwise_cons.mp h
      obtain ⟨he', hrest'⟩ := List.pairwise_cons.mp h'
      have heq : e = e' := by
        rcases List.mem_cons.mp ((hmem e).mp List.mem_cons_self) with heq | hlater
        · exact heq
        · rcases List.mem_cons.mp ((hmem e').mpr List.mem_cons_self) with heq | hlater'
          · exact heq.symm
          · exact absurd (String.lt_trans (he e' hlater') (he' e hlater)) (String.lt_irrefl e.1)
      subst heq
      refine congrArg (e :: ·) (ih hrest hrest' fun f => ?_)
      have hne : ∀ {l : List (String × α)}, (∀ g ∈ l, e.1 < g.1) → f ∈ l → f ≠ e := by
        rintro l hl hf rfl
        exact String.lt_irrefl _ (hl f hf)
      constructor
      · intro hf
        exact (List.mem_cons.mp ((hmem f).mp (List.mem_cons_of_mem _ hf))).resolve_left (hne he hf)
      · intro hf
        exact (List.mem_cons.mp ((hmem f).mpr (List.mem_cons_of_mem _ hf))).resolve_left
          (hne he' hf)

end Entries

/-- A dictionary from texts to values. -/
structure Dict (α : Type) where
  entries : List (String × α)
  ascending : Ascending entries

namespace Dict

def empty : Dict α := ⟨[], List.Pairwise.nil⟩

instance : Inhabited (Dict α) := ⟨empty⟩

instance [DecidableEq α] : DecidableEq (Dict α) := fun a b =>
  if h : a.entries = b.entries then isTrue (by cases a; cases b; cases h; rfl)
  else isFalse (fun e => h (e ▸ rfl))

def get? (d : Dict α) (key : String) : Option α := Entries.lookup key d.entries

def contains (d : Dict α) (key : String) : Bool := (d.get? key).isSome

def keys (d : Dict α) : List String := d.entries.map (·.1)

def size (d : Dict α) : Nat := d.entries.length

def insert (d : Dict α) (key : String) (value : α) : Dict α :=
  ⟨Entries.insert key value d.entries, Entries.ascending_insert key value d.ascending⟩

def erase (d : Dict α) (key : String) : Dict α :=
  ⟨d.entries.filter (·.1 ≠ key), d.ascending.sublist List.filter_sublist⟩

/-- Collects entries in any order; of two entries under one key the later one stays. -/
def ofList (entries : List (String × α)) : Dict α :=
  entries.foldl (fun d e => d.insert e.1 e.2) empty

/-- The value under a key after `insert`. -/
@[simp] theorem get?_insert (d : Dict α) (key other : String) (value : α) :
    (d.insert key value).get? other = if other = key then some value else d.get? other :=
  Entries.lookup_insert key other value d.entries

theorem mem_entries_iff (d : Dict α) {key : String} {value : α} :
    (key, value) ∈ d.entries ↔ d.get? key = some value :=
  (Entries.lookup_eq_some_iff d.ascending).symm

theorem eq_of_entries_eq {d d' : Dict α} (h : d.entries = d'.entries) : d = d' := by
  obtain ⟨entries, _⟩ := d
  obtain ⟨entries', _⟩ := d'
  cases h
  rfl

/-- Dictionaries are equal if they hold the same under each key. -/
theorem ext_get? {d d' : Dict α} (h : ∀ key, d.get? key = d'.get? key) : d = d' :=
  eq_of_entries_eq <| Entries.eq_of_mem_iff d.ascending d'.ascending fun ⟨key, value⟩ => by
    rw [mem_entries_iff, mem_entries_iff, h]

/-- Each key occurs once. -/
theorem nodup_keys (d : Dict α) : d.keys.Nodup := by
  refine List.pairwise_map.mpr (d.ascending.imp fun {e e'} hlt heq => ?_)
  rw [heq] at hlt
  exact String.lt_irrefl e'.1 hlt

theorem mem_keys_iff (d : Dict α) {key : String} :
    key ∈ d.keys ↔ ∃ value, d.get? key = some value := by
  simp [keys, ← mem_entries_iff]

theorem mem_foldl_insert {entries : List (String × α)} {d : Dict α} {e : String × α}
    (h : e ∈ (entries.foldl (fun d e => d.insert e.1 e.2) d).entries) :
    e ∈ d.entries ∨ e ∈ entries := by
  induction entries generalizing d with
  | nil => exact .inl h
  | cons first rest ih =>
    rcases ih h with hd | hrest
    · rcases Entries.mem_insert hd with rfl | hd
      · exact .inr List.mem_cons_self
      · exact .inl hd
    · exact .inr (List.mem_cons_of_mem _ hrest)

/-- Collecting adds no entry. -/
theorem mem_of_mem_ofList {entries : List (String × α)} {e : String × α}
    (h : e ∈ (ofList entries).entries) : e ∈ entries :=
  (mem_foldl_insert h).resolve_left List.not_mem_nil

theorem entries_foldl_insert {entries : List (String × α)} {d : Dict α}
    (h : Ascending (d.entries ++ entries)) :
    (entries.foldl (fun d e => d.insert e.1 e.2) d).entries = d.entries ++ entries := by
  induction entries generalizing d with
  | nil => simp
  | cons e rest ih =>
    have hbelow : ∀ e' ∈ d.entries, e'.1 < e.1 := fun e' he' =>
      (List.pairwise_append.mp h).2.2 e' he' e List.mem_cons_self
    have hlast : (d.insert e.1 e.2).entries = d.entries ++ [e] := Entries.insert_of_lt e.2 hbelow
    rw [List.foldl_cons, ih (by simpa [hlast] using h), hlast]
    simp

/-- A dictionary is what its own entries collect to. -/
theorem ofList_entries (d : Dict α) : ofList d.entries = d := by
  have h : Ascending (empty.entries ++ d.entries) := d.ascending
  exact eq_of_entries_eq (entries_foldl_insert h)

end Dict

end ServiceBroker
