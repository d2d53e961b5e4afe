import ServiceBroker.Entries

/-!
Tables of values by key. Each key is there at most once, so the size of a table is the number of
keys that it knows.
-/

namespace ServiceBroker

structure Table (κ α : Type) where
  entries : List (κ × α)
  distinct : entries.Pairwise fun a b => a.1 ≠ b.1

namespace Table

variable {κ α : Type}

def empty : Table κ α := ⟨[], .nil⟩

instance : Inhabited (Table κ α) := ⟨empty⟩

def size (table : Table κ α) : Nat := table.entries.length

def isEmpty (table : Table κ α) : Bool := table.entries.isEmpty

variable [DecidableEq κ]

def get? (table : Table κ α) (key : κ) : Option α := Entries.lookup key table.entries

def erase (table : Table κ α) (key : κ) : Table κ α :=
  ⟨Entries.without key table.entries, table.distinct.sublist List.filter_sublist⟩

/-- Puts a value under a key, in place of an older one. -/
def put (table : Table κ α) (key : κ) (value : α) : Table κ α where
  entries := (key, value) :: (table.erase key).entries
  distinct := List.pairwise_cons.mpr
    ⟨fun _ he => Ne.symm (of_decide_eq_true (List.mem_filter.mp he).2), (table.erase key).distinct⟩

@[simp] theorem get?_empty (key : κ) : (empty : Table κ α).get? key = none := rfl

@[simp] theorem get?_erase (table : Table κ α) (key other : κ) :
    (table.erase key).get? other = if other = key then none else table.get? other :=
  Entries.lookup_without key other table.entries

@[simp] theorem get?_put (table : Table κ α) (key other : κ) (value : α) :
    (table.put key value).get? other = if other = key then some value else table.get? other := by
  have h := table.get?_erase key other
  simp only [get?, put, Entries.lookup] at h ⊢
  split
  · rfl
  · simp_all

theorem isSome_get?_iff (table : Table κ α) (key : κ) :
    (table.get? key).isSome ↔ key ∈ table.entries.map (·.1) := by
  rw [Option.isSome_iff_ne_none, get?, ne_eq, Entries.lookup_eq_none_iff, Decidable.not_not]

omit [DecidableEq κ] in
theorem nodup_keys (table : Table κ α) : (table.entries.map (·.1)).Nodup :=
  List.pairwise_map.mpr table.distinct

end Table

end ServiceBroker
