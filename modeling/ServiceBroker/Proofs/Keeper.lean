import ServiceBroker.Credential.Keeper

/-!
What a request does to the secrets that the generator holds. A request concerns one key at most;
other keys keep what is held for them.
-/

namespace ServiceBroker

variable {σ : Type}

def Request.key? : Request → Option CredentialKey
  | .generateUser key _ => some key
  | .generateString key _ => some key
  | .deleteUser key => some key
  | .deleteString key => some key
  | _ => none

namespace Generator

structure SameAt (key : CredentialKey) (g g' : Generator) : Prop where
  users : g.users.get? key = g'.users.get? key
  strings : g.strings.get? key = g'.strings.get? key

theorem SameAt.refl (key : CredentialKey) (g : Generator) : g.SameAt key g := ⟨rfl, rfl⟩

theorem SameAt.trans {key : CredentialKey} {g g' g'' : Generator} (h : g.SameAt key g')
    (h' : g'.SameAt key g'') : g.SameAt key g'' :=
  ⟨h.users.trans h'.users, h.strings.trans h'.strings⟩

theorem generateUser_users (entropy : Entropy) (g : Generator) {key other : CredentialKey}
    (charset : Charset) (h : other ≠ key) :
    (g.generateUser entropy key charset).2.users.get? other = g.users.get? other := by
  rw [generateUser]
  split
  · rfl
  · split
    · rfl
    · rfl
    · exact (Table.get?_put ..).trans (if_neg h)

theorem generateUser_strings (entropy : Entropy) (g : Generator) (key : CredentialKey)
    (charset : Charset) : (g.generateUser entropy key charset).2.strings = g.strings := by
  rw [generateUser]
  split
  · rfl
  · split <;> rfl

theorem generateString_strings (entropy : Entropy) (g : Generator) {key other : CredentialKey}
    (charset : Charset) (h : other ≠ key) :
    (g.generateString entropy key charset).2.strings.get? other = g.strings.get? other := by
  rw [generateString]
  split
  · rfl
  · split
    · rfl
    · exact (Table.get?_put ..).trans (if_neg h)

theorem generateString_users (entropy : Entropy) (g : Generator) (key : CredentialKey)
    (charset : Charset) : (g.generateString entropy key charset).2.users = g.users := by
  rw [generateString]
  split
  · rfl
  · split <;> rfl

theorem generateUser_of_held (entropy : Entropy) {g : Generator} {key : CredentialKey}
    {user : UserCredentials} (charset : Charset) (h : g.users.get? key = some user) :
    g.generateUser entropy key charset = (.ok user, g) := by
  simp only [generateUser, h]

theorem generateString_of_held (entropy : Entropy) {g : Generator} {key : CredentialKey}
    {text : String} (charset : Charset) (h : g.strings.get? key = some text) :
    g.generateString entropy key charset = (.ok text, g) := by
  simp only [generateString, h]

theorem generateUser_held {entropy : Entropy} {g : Generator} {key : CredentialKey}
    {charset : Charset} {user : UserCredentials}
    (h : (g.generateUser entropy key charset).1 = .ok user) :
    (g.generateUser entropy key charset).2.users.get? key = some user := by
  rw [generateUser] at h ⊢
  split at h
  · rename_i held hheld
    obtain rfl := Except.ok.inj h
    simp only [hheld]
  · split at h
    · cases h
    · cases h
    · obtain rfl := Except.ok.inj h
      simp_all

theorem generateString_held {entropy : Entropy} {g : Generator} {key : CredentialKey}
    {charset : Charset} {text : String}
    (h : (g.generateString entropy key charset).1 = .ok text) :
    (g.generateString entropy key charset).2.strings.get? key = some text := by
  rw [generateString] at h ⊢
  split at h
  · rename_i held hheld
    obtain rfl := Except.ok.inj h
    simp only [hheld]
  · split at h
    · cases h
    · obtain rfl := Except.ok.inj h
      simp_all

end Generator

namespace Collaborators

variable (others : Collaborators σ) (entropy : Entropy)

theorem withGenerator_accept (r : Request) (s : Generator × σ) :
    ((others.withGenerator entropy).accept r s).2.1 = s.1 := by
  cases h : r.isForSecret <;> simp [withGenerator, h]

/-- Answering a request leaves the secrets under other keys alone. -/
theorem withGenerator_answer_other {r : Request} {s : Generator × σ} {key : CredentialKey}
    (h : r.key? ≠ some key) :
    ((others.withGenerator entropy).answer r s).2.1.SameAt key s.1 := by
  cases r with
  | generateUser k charset =>
    have hne : key ≠ k := fun e => h (congrArg some e.symm)
    exact ⟨Generator.generateUser_users entropy s.1 charset hne,
      congrArg (·.get? key) (Generator.generateUser_strings entropy s.1 k charset)⟩
  | generateString k charset =>
    have hne : key ≠ k := fun e => h (congrArg some e.symm)
    exact ⟨congrArg (·.get? key) (Generator.generateString_users entropy s.1 k charset),
      Generator.generateString_strings entropy s.1 charset hne⟩
  | deleteUser k =>
    have hne : key ≠ k := fun e => h (congrArg some e.symm)
    exact ⟨(Table.get?_erase ..).trans (if_neg hne), rfl⟩
  | deleteString k =>
    have hne : key ≠ k := fun e => h (congrArg some e.symm)
    exact ⟨rfl, (Table.get?_erase ..).trans (if_neg hne)⟩
  | _ => exact .refl key s.1

/-- A user is held after an answer only if it was held before, or has just been generated. -/
theorem user_held_of_answer {r : Request} {s : Generator × σ} {key : CredentialKey}
    (h : (((others.withGenerator entropy).answer r s).2.1.users.get? key).isSome) :
    (s.1.users.get? key).isSome ∨ ∃ charset, r = .generateUser key charset := by
  by_cases hkey : r.key? = some key
  · cases r with
    | generateUser k charset =>
      obtain rfl := Option.some.inj hkey
      exact .inr ⟨charset, rfl⟩
    | generateString k charset =>
      left
      rw [← Generator.generateString_users entropy s.1 k charset]
      exact h
    | deleteUser k =>
      obtain rfl := Option.some.inj hkey
      change ((s.1.users.erase k).get? k).isSome at h
      rw [Table.get?_erase, if_pos rfl] at h
      cases h
    | deleteString k => exact .inl h
    | _ => cases hkey
  · left
    rw [← (others.withGenerator_answer_other entropy hkey).users]
    exact h

theorem string_held_of_answer {r : Request} {s : Generator × σ} {key : CredentialKey}
    (h : (((others.withGenerator entropy).answer r s).2.1.strings.get? key).isSome) :
    (s.1.strings.get? key).isSome ∨ ∃ charset, r = .generateString key charset := by
  by_cases hkey : r.key? = some key
  · cases r with
    | generateString k charset =>
      obtain rfl := Option.some.inj hkey
      exact .inr ⟨charset, rfl⟩
    | generateUser k charset =>
      left
      rw [← Generator.generateUser_strings entropy s.1 k charset]
      exact h
    | deleteString k =>
      obtain rfl := Option.some.inj hkey
      change ((s.1.strings.erase k).get? k).isSome at h
      rw [Table.get?_erase, if_pos rfl] at h
      cases h
    | deleteUser k => exact .inl h
    | _ => cases hkey
  · left
    rw [← (others.withGenerator_answer_other entropy hkey).strings]
    exact h

theorem user_kept {r : Request} {s : Generator × σ} {key : CredentialKey} {user : UserCredentials}
    (hr : r ≠ .deleteUser key) (h : s.1.users.get? key = some user) :
    ((others.withGenerator entropy).answer r s).2.1.users.get? key = some user := by
  by_cases hkey : r.key? = some key
  · cases r with
    | generateUser k charset =>
      obtain rfl := Option.some.inj hkey
      have hsame := Generator.generateUser_of_held entropy charset h
      exact (congrArg (fun result => result.2.users.get? k) hsame).trans h
    | generateString k charset =>
      exact (congrArg (·.get? key) (s.1.generateString_users entropy k charset)).trans h
    | deleteUser k => exact absurd (congrArg Request.deleteUser (Option.some.inj hkey)) hr
    | deleteString k => exact h
    | _ => cases hkey
  · exact (others.withGenerator_answer_other entropy hkey).users.trans h

theorem string_kept {r : Request} {s : Generator × σ} {key : CredentialKey} {text : String}
    (hr : r ≠ .deleteString key) (h : s.1.strings.get? key = some text) :
    ((others.withGenerator entropy).answer r s).2.1.strings.get? key = some text := by
  by_cases hkey : r.key? = some key
  · cases r with
    | generateString k charset =>
      obtain rfl := Option.some.inj hkey
      have hsame := Generator.generateString_of_held entropy charset h
      exact (congrArg (fun result => result.2.strings.get? k) hsame).trans h
    | generateUser k charset =>
      exact (congrArg (·.get? key) (s.1.generateUser_strings entropy k charset)).trans h
    | deleteString k => exact absurd (congrArg Request.deleteString (Option.some.inj hkey)) hr
    | deleteUser k => exact h
    | _ => cases hkey
  · exact (others.withGenerator_answer_other entropy hkey).strings.trans h

end Collaborators

end ServiceBroker
