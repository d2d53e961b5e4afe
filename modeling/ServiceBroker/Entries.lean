/-!
Lists of entries, each a key with a value. The first entry under a key is the one that counts.
-/

namespace ServiceBroker.Entries

variable {κ α : Type} [DecidableEq κ]

def lookup (key : κ) : List (κ × α) → Option α
  | [] => none
  | (k, v) :: rest => if key = k then some v else lookup key rest

/-- The entries under other keys. -/
def without (key : κ) (entries : List (κ × α)) : List (κ × α) := entries.filter (·.1 ≠ key)

theorem without_cons (key k : κ) (v : α) (rest : List (κ × α)) :
    without key ((k, v) :: rest) =
      if key = k then without key rest else (k, v) :: without key rest := by
  by_cases h : key = k
  · simp [without, h]
  · simp [without, h, Ne.symm h]

theorem lookup_without (key other : κ) (entries : List (κ × α)) :
    lookup other (without key entries) = if other = key then none else lookup other entries := by
  induction entries with
  | nil => simp [without, lookup]
  | cons e rest ih =>
    obtain ⟨k, v⟩ := e
    by_cases hk : key = k
    · subst hk
      simp only [without_cons, lookup, if_pos, ih]
      split <;> rfl
    · by_cases ho : other = key
      · subst ho
        simp [without_cons, lookup, ih, hk]
      · simp [without_cons, lookup, ih, hk, ho]

theorem lookup_eq_none_iff {key : κ} {entries : List (κ × α)} :
    lookup key entries = none ↔ key ∉ entries.map (·.1) := by
  induction entries with
  | nil => simp [lookup]
  | cons e rest ih =>
    obtain ⟨k, v⟩ := e
    by_cases h : key = k
    · simp [lookup, h]
    · rw [lookup, if_neg h, ih]
      simp [h]

end ServiceBroker.Entries
