import Mathlib.Data.List.Basic
import Mathlib.Logic.Function.Basic
import ServiceBroker.Proofs.Keeper
import ServiceBroker.Proofs.Repositories

/-!
The random generator as a keyed memory. It is two memories side by side, one of users and one of
texts. Each of them issues a value for a key that holds none, provided that the character set admits
one, gives the same value again as long as it is held, and forgets it when it is deleted.
-/

namespace ServiceBroker

variable {α : Type}

/-! ## Random texts -/

namespace Charset

def Enables (charset : Charset) (c : Char) : Prop :=
  (charset.upper ∧ c.isUpper) ∨ (charset.lower ∧ c.isLower) ∨ (charset.numeric ∧ c.isDigit) ∨
    (charset.special ∧ c ∈ specials)

/-- There are texts of the length over the enabled classes, and they are not empty. -/
def Drawable (charset : Charset) : Prop :=
  0 < charset.length ∧ (charset.upper ∨ charset.lower ∨ charset.numeric ∨ charset.special)

/-- The text has the length of the character set, and all of its characters are of enabled
classes. -/
structure Fits (charset : Charset) (text : String) : Prop where
  length : text.length = charset.length
  enabled : ∀ c ∈ text.toList, charset.Enables c

variable {charset : Charset}

theorem enables_of_mem_alphabet {c : Char} (h : c ∈ charset.alphabet) : charset.Enables c := by
  have hupper : ∀ c ∈ upperLetters, c.isUpper := List.all_eq_true.mp (by decide)
  have hlower : ∀ c ∈ lowerLetters, c.isLower := List.all_eq_true.mp (by decide)
  have hdigits : ∀ c ∈ digits, c.isDigit := List.all_eq_true.mp (by decide)
  simp only [alphabet, List.mem_append, List.mem_ite_nil_right] at h
  rcases h with ((⟨hclass, hc⟩ | ⟨hclass, hc⟩) | ⟨hclass, hc⟩) | ⟨hclass, hc⟩
  · exact .inl ⟨hclass, hupper c hc⟩
  · exact .inr (.inl ⟨hclass, hlower c hc⟩)
  · exact .inr (.inr (.inl ⟨hclass, hdigits c hc⟩))
  · exact .inr (.inr (.inr ⟨hclass, hc⟩))

theorem alphabet_eq_nil_iff :
    charset.alphabet = [] ↔
      ¬(charset.upper ∨ charset.lower ∨ charset.numeric ∨ charset.special) := by
  have hclass : ∀ (enabled : Bool) {letters : List Char}, letters ≠ [] →
      ((if enabled then letters else []) = [] ↔ ¬enabled) := by
    intro enabled letters hletters
    cases enabled <;> simp [hletters]
  have hupper : upperLetters ≠ [] := by decide
  have hlower : lowerLetters ≠ [] := by decide
  have hdigits : digits ≠ [] := by decide
  have hspecials : specials ≠ [] := by decide
  simp only [alphabet, List.append_eq_nil_iff, hclass _ hupper, hclass _ hlower, hclass _ hdigits,
    hclass _ hspecials, not_or, and_assoc]

end Charset

namespace Generator

variable (entropy : Entropy) (position : Nat) {charset : Charset}

/-- Whatever is drawn, there is a text over a character set that admits one, and it fits. -/
theorem exists_randomText (h : charset.Drawable) :
    ∃ text, randomText entropy position charset = .ok text ∧ charset.Fits text := by
  rw [randomText]
  split
  · rename_i hnil
    exact absurd h.2 (Charset.alphabet_eq_nil_iff.mp hnil)
  · rename_i first rest halphabet
    rw [if_neg (Nat.pos_iff_ne_zero.mp h.1)]
    refine ⟨_, rfl, ?_, fun c hc => ?_⟩
    · rw [String.length_ofList, List.length_map, List.length_range]
    · rw [String.toList_ofList] at hc
      obtain ⟨i, -, rfl⟩ := List.mem_map.mp hc
      refine Charset.enables_of_mem_alphabet ?_
      have hlt : entropy (position + i) % (first :: rest).length < (first :: rest).length :=
        Nat.mod_lt _ (Nat.zero_lt_succ _)
      rw [halphabet, List.getD_eq_getElem?_getD, List.getElem?_eq_getElem hlt]
      exact List.getElem_mem hlt

theorem exists_error_randomText (h : ¬charset.Drawable) :
    ∃ e, randomText entropy position charset = .error e := by
  rw [randomText]
  split
  · exact ⟨_, rfl⟩
  · rename_i halphabet
    have hclass : charset.upper ∨ charset.lower ∨ charset.numeric ∨ charset.special := by
      by_contra hnone
      rw [Charset.alphabet_eq_nil_iff.mpr hnone] at halphabet
      cases halphabet
    have hzero : charset.length = 0 := by
      by_contra hne
      exact h ⟨Nat.pos_of_ne_zero hne, hclass⟩
    exact ⟨_, if_pos hzero⟩

end Generator

/-! ## Kinds of secrets -/

abbrev Memory (α : Type) := CredentialKey → Option α

/-- The value under a key has been asked for, or deleted. -/
inductive SecretEvent (α : Type) where
  | generated (key : CredentialKey) (charset : Charset) (result : Except Failure α)
  | deleted (key : CredentialKey) (result : Except Failure Unit)

/-- For which character sets values are issued, what they are like, where the generator holds them,
and which events are about them. -/
structure SecretKind (α : Type) where
  accepts : Charset → Prop
  fits : Charset → α → Prop
  held : Generator → Memory α
  event? : Event → Option (SecretEvent α)

namespace SecretKind

/-- A user name and a password. The name never has special characters, so they cannot be the only
ones. -/
def users : SecretKind UserCredentials where
  accepts charset := 0 < charset.length ∧ (charset.upper ∨ charset.lower ∨ charset.numeric)
  fits charset user :=
    { charset with special := false }.Fits user.username ∧ charset.Fits user.password
  held g := g.users.get?
  event?
    | .answered (.generateUser key charset) result => some (.generated key charset result)
    | .answered (.deleteUser key) result => some (.deleted key result)
    | _ => none

def strings : SecretKind String where
  accepts := Charset.Drawable
  fits := Charset.Fits
  held g := g.strings.get?
  event?
    | .answered (.generateString key charset) result => some (.generated key charset result)
    | .answered (.deleteString key) result => some (.deleted key result)
    | _ => none

/-- What asking a generator for the value under a key comes to. -/
structure Asked (kind : SecretKind α) (g : Generator) (key : CredentialKey) (charset : Charset)
    (outcome : Except GeneratorError α × Generator) : Prop where
  /-- A value that is held is given again, whatever the character set is, and nothing changes. -/
  again : ∀ a, kind.held g key = some a → outcome = (.ok a, g)
  succeeds_iff : kind.held g key = none → ((∃ a, outcome.1 = .ok a) ↔ kind.accepts charset)
  new : kind.held g key = none → ∀ a, outcome.1 = .ok a →
    kind.fits charset a ∧ kind.held outcome.2 key = some a
  failed : ∀ e, outcome.1 = .error e → outcome.2 = g

namespace Asked

variable {kind : SecretKind α} {g : Generator} {key : CredentialKey} {charset : Charset}
  {outcome : Except GeneratorError α × Generator} {a : α}

theorem of_held (hheld : kind.held g key = some a) (houtcome : outcome = (.ok a, g)) :
    kind.Asked g key charset outcome := by
  subst houtcome
  constructor
  case again =>
    intro b hb
    obtain rfl := Option.some.inj (hheld.symm.trans hb)
    rfl
  case succeeds_iff => exact fun h => nomatch hheld.symm.trans h
  case new => exact fun h => nomatch hheld.symm.trans h
  case failed => exact fun _ h => nomatch h

theorem of_new (hfree : kind.held g key = none) (haccepts : kind.accepts charset)
    (hfits : kind.fits charset a) (houtcome : outcome.1 = .ok a)
    (hafter : kind.held outcome.2 key = some a) : kind.Asked g key charset outcome := by
  constructor
  case again => exact fun _ h => nomatch hfree.symm.trans h
  case succeeds_iff => exact fun _ => ⟨fun _ => haccepts, fun _ => ⟨a, houtcome⟩⟩
  case new =>
    intro _ b hb
    obtain rfl := Except.ok.inj (houtcome.symm.trans hb)
    exact ⟨hfits, hafter⟩
  case failed => exact fun e he => nomatch houtcome.symm.trans he

theorem of_refused (hfree : kind.held g key = none) (hrefused : ¬kind.accepts charset)
    {e : GeneratorError} (houtcome : outcome = (.error e, g)) :
    kind.Asked g key charset outcome := by
  subst houtcome
  constructor
  case again => exact fun _ h => nomatch hfree.symm.trans h
  case succeeds_iff => exact fun _ => iff_of_false (fun ⟨_, h⟩ => nomatch h) hrefused
  case new => exact fun _ _ h => nomatch h
  case failed => exact fun _ _ => rfl

theorem exists_ok (asked : kind.Asked g key charset outcome) (h : kind.accepts charset) :
    ∃ a, outcome.1 = .ok a := by
  cases hheld : kind.held g key with
  | some a => exact ⟨a, congrArg Prod.fst (asked.again a hheld)⟩
  | none => exact (asked.succeeds_iff hheld).mpr h

end Asked

end SecretKind

namespace Generator

variable (entropy : Entropy) (g : Generator) (key : CredentialKey) (charset : Charset)

theorem generateString_asked :
    SecretKind.strings.Asked g key charset (g.generateString entropy key charset) := by
  cases hheld : g.strings.get? key with
  | some text => exact .of_held hheld (generateString_of_held entropy charset hheld)
  | none =>
    by_cases haccepts : charset.Drawable
    · obtain ⟨text, htext, hfits⟩ := exists_randomText entropy g.drawn haccepts
      have houtcome : (g.generateString entropy key charset).1 = .ok text := by
        simp only [generateString, hheld, htext]
      exact .of_new hheld haccepts hfits houtcome (generateString_held houtcome)
    · obtain ⟨e, he⟩ := exists_error_randomText entropy g.drawn haccepts
      exact .of_refused (e := e) hheld haccepts (by simp only [generateString, hheld, he])

theorem drawable_withoutSpecial_iff :
    { charset with special := false }.Drawable ↔ SecretKind.users.accepts charset := by
  simp [Charset.Drawable, SecretKind.users]

theorem generateUser_asked :
    SecretKind.users.Asked g key charset (g.generateUser entropy key charset) := by
  cases hheld : g.users.get? key with
  | some user => exact .of_held hheld (generateUser_of_held entropy charset hheld)
  | none =>
    by_cases haccepts : SecretKind.users.accepts charset
    · have hname := (drawable_withoutSpecial_iff charset).mpr haccepts
      have hpassword : charset.Drawable := ⟨haccepts.1, by have := haccepts.2; tauto⟩
      obtain ⟨name, hname, hfits⟩ := exists_randomText entropy g.drawn hname
      obtain ⟨password, hpassword, hfits'⟩ := exists_randomText entropy
        (g.drawn + charset.length) hpassword
      have houtcome : (g.generateUser entropy key charset).1 = .ok ⟨name, password⟩ := by
        simp only [generateUser, hheld, hname, hpassword]
      exact .of_new hheld haccepts ⟨hfits, hfits'⟩ houtcome (generateUser_held houtcome)
    · have hname := (drawable_withoutSpecial_iff charset).not.mpr haccepts
      obtain ⟨e, he⟩ := exists_error_randomText entropy g.drawn hname
      exact .of_refused (e := e) hheld haccepts (by simp only [generateUser, hheld, he])

end Generator

/-! ## A memory over time -/

namespace SecretKind

/-- What an event tells and does of what is held. -/
inductive Step (kind : SecretKind α) : Memory α → SecretEvent α → Memory α → Prop where
  | again {m : Memory α} {key : CredentialKey} {charset : Charset} {a : α} (held : m key = some a) :
      Step kind m (.generated key charset (.ok a)) m
  | new {m : Memory α} {key : CredentialKey} {charset : Charset} {a : α} (free : m key = none)
      (accepts : kind.accepts charset) (fits : kind.fits charset a) :
      Step kind m (.generated key charset (.ok a)) (Function.update m key (some a))
  | refused {m : Memory α} {key : CredentialKey} {charset : Charset} {failure : Failure}
      (free : m key = none) (refused : ¬kind.accepts charset) :
      Step kind m (.generated key charset (.error failure)) m
  | deleted {m : Memory α} {key : CredentialKey} :
      Step kind m (.deleted key (.ok ())) (Function.update m key none)

inductive Run (kind : SecretKind α) : Memory α → List (SecretEvent α) → Memory α → Prop where
  | nil (m : Memory α) : Run kind m [] m
  | cons {m changed reached : Memory α} {event : SecretEvent α} {events : List (SecretEvent α)}
      (step : kind.Step m event changed) (rest : Run kind changed events reached) :
      Run kind m (event :: events) reached

end SecretKind

/-- The value was given for the key, and the key has not been deleted since. -/
def Issued (key : CredentialKey) (a : α) (events : List (SecretEvent α)) : Prop :=
  ∃ before charset after, events = before ++ .generated key charset (.ok a) :: after ∧
    ∀ result, .deleted key result ∉ after

theorem issued_cons {key : CredentialKey} {a : α} {event : SecretEvent α}
    {events : List (SecretEvent α)} :
    Issued key a (event :: events) ↔
      ((∃ charset, event = .generated key charset (.ok a)) ∧
        ∀ result, .deleted key result ∉ events) ∨
        Issued key a events := by
  constructor
  · rintro ⟨before, charset, after, hevents, hafter⟩
    cases before with
    | nil =>
      obtain ⟨rfl, rfl⟩ := List.cons.inj hevents
      exact .inl ⟨⟨charset, rfl⟩, hafter⟩
    | cons first before =>
      obtain ⟨-, rfl⟩ := List.cons.inj hevents
      exact .inr ⟨before, charset, after, rfl, hafter⟩
  · rintro (⟨⟨charset, rfl⟩, hafter⟩ | ⟨before, charset, after, rfl, hafter⟩)
    · exact ⟨[], charset, events, rfl, hafter⟩
    · exact ⟨event :: before, charset, after, rfl, hafter⟩

namespace SecretKind

variable {kind : SecretKind α} {m m' : Memory α}

theorem Step.held_iff {event : SecretEvent α} (step : kind.Step m event m') (key : CredentialKey)
    (a : α) :
    m' key = some a ↔ (m key = some a ∧ ∀ result, event ≠ .deleted key result) ∨
      ∃ charset, event = .generated key charset (.ok a) := by
  cases step with
  | @again asked _ given held =>
    have hsame : asked = key → given = a → m key = some a := by
      rintro rfl rfl
      exact held
    simpa using hsame
  | new free accepts fits =>
    rw [Function.update_apply]
    split <;> simp <;> grind
  | refused free refused => simp
  | deleted =>
    rw [Function.update_apply]
    split <;> simp <;> grind

theorem Step.of_erased {key : CredentialKey}
    (h : ∀ other, m' other = if other = key then none else m other) :
    kind.Step m (.deleted key (.ok ())) m' := by
  obtain rfl : m' = Function.update m key none :=
    funext fun other => (h other).trans (Function.update_apply ..).symm
  exact .deleted

namespace Run

variable {events more : List (SecretEvent α)}

theorem of_eq (h : m' = m) : kind.Run m [] m' := by
  rw [h]
  exact .nil m

theorem of_step {event : SecretEvent α} (step : kind.Step m event m') : kind.Run m [event] m' :=
  .cons step (.nil m')

theorem append {m'' : Memory α} (run : kind.Run m events m') (rest : kind.Run m' more m'') :
    kind.Run m (events ++ more) m'' := by
  induction run with
  | nil => exact rest
  | cons step _ ih => exact .cons step (ih rest)

/-- What is held in the end was held before and has not been deleted, or has been issued since. -/
theorem held_iff (run : kind.Run m events m') (key : CredentialKey) (a : α) :
    m' key = some a ↔ (m key = some a ∧ ∀ result, .deleted key result ∉ events) ∨
      Issued key a events := by
  induction run with
  | nil m =>
    have hnone : ¬Issued key a [] := by
      rintro ⟨before, charset, after, hevents, -⟩
      simp at hevents
    simp [hnone]
  | cons step _ ih =>
    rw [ih, step.held_iff, issued_cons]
    grind

end Run

theorem Asked.step {g : Generator} {key : CredentialKey} {charset : Charset}
    {outcome : Except GeneratorError α × Generator} (asked : kind.Asked g key charset outcome)
    (hothers : ∀ other, other ≠ key → kind.held outcome.2 other = kind.held g other) :
    kind.Step (kind.held g)
      (.generated key charset (outcome.1.mapError GeneratorError.failure))
      (kind.held outcome.2) := by
  cases hheld : kind.held g key with
  | some a =>
    rw [asked.again a hheld]
    exact .again hheld
  | none =>
    have hsucceeds := asked.succeeds_iff hheld
    cases houtcome : outcome.1 with
    | ok a =>
      obtain ⟨hfits, hafter⟩ := asked.new hheld a houtcome
      rw [show kind.held outcome.2 = Function.update (kind.held g) key (some a) from
        Function.eq_update_iff.mpr ⟨hafter, hothers⟩]
      exact .new hheld (hsucceeds.mp ⟨a, houtcome⟩) hfits
    | error e =>
      rw [asked.failed e houtcome]
      refine .refused hheld fun haccepts => ?_
      obtain ⟨a, ha⟩ := hsucceeds.mpr haccepts
      cases houtcome.symm.trans ha

/-- What is held changes with the answers about it, and with no other events. -/
structure Lawful (kind : SecretKind α) (entropy : Entropy) : Prop where
  issued : ∀ r, kind.event? (.issued r) = none
  ended : kind.event? .ended = none
  unanswered : ∀ {g : Generator} {r : Request} (answer : Answer r),
    g.answer? entropy r = none → kind.event? (.answered r answer) = none
  answered : ∀ {g next : Generator} {r : Request} {answer : Answer r},
    g.answer? entropy r = some (answer, next) →
      kind.Run (kind.held g) (kind.event? (.answered r answer)).toList (kind.held next)

theorem users_lawful (entropy : Entropy) : users.Lawful entropy := by
  constructor
  case issued => exact fun r => rfl
  case ended => rfl
  case unanswered =>
    intro g r answer h
    cases r with
    | generateUser key charset => cases h
    | generateString key charset => cases h
    | deleteUser key => cases h
    | deleteString key => cases h
    | _ => rfl
  case answered =>
    intro g next r answer h
    cases r with
    | generateUser key charset =>
      cases h
      exact .of_step ((g.generateUser_asked entropy key charset).step fun other hother =>
        Generator.generateUser_users entropy g charset hother)
    | generateString key charset =>
      cases h
      exact .of_eq (congrArg Table.get? (Generator.generateString_users entropy g key charset))
    | deleteUser key =>
      cases h
      exact .of_step (.of_erased (Table.get?_erase g.users key))
    | deleteString key =>
      cases h
      exact .nil _
    | _ => cases h

theorem strings_lawful (entropy : Entropy) : strings.Lawful entropy := by
  constructor
  case issued => exact fun r => rfl
  case ended => rfl
  case unanswered =>
    intro g r answer h
    cases r with
    | generateUser key charset => cases h
    | generateString key charset => cases h
    | deleteUser key => cases h
    | deleteString key => cases h
    | _ => rfl
  case answered =>
    intro g next r answer h
    cases r with
    | generateString key charset =>
      cases h
      exact .of_step ((g.generateString_asked entropy key charset).step fun other hother =>
        Generator.generateString_strings entropy g charset hother)
    | generateUser key charset =>
      cases h
      exact .of_eq (congrArg Table.get? (Generator.generateUser_strings entropy g key charset))
    | deleteString key =>
      cases h
      exact .of_step (.of_erased (Table.get?_erase g.strings key))
    | deleteUser key =>
      cases h
      exact .nil _
    | _ => cases h

end SecretKind

/-! ## The generator -/

namespace Generator

variable {entropy : Entropy}

/-- Answers requests one after another. Requests to others are not its business. -/
def answerAll (entropy : Entropy) : Generator → List Request → List Event × Generator
  | g, [] => ([], g)
  | g, r :: rest =>
    match g.answer? entropy r with
    | some (answer, next) =>
      let (events, reached) := answerAll entropy next rest
      (.answered r answer :: events, reached)
    | none => answerAll entropy g rest

def Answers (requests : List Request) (events : List Event) : Prop :=
  List.Forall₂ (fun r event => ∃ answer, event = .answered r answer)
    (requests.filter (·.isForSecret)) events

theorem isSome_answer? (entropy : Entropy) (g : Generator) (r : Request) :
    (g.answer? entropy r).isSome = r.isForSecret := by
  cases r <;> rfl

theorem answers_answerAll (g : Generator) (requests : List Request) :
    Answers requests (answerAll entropy g requests).1 := by
  induction requests generalizing g with
  | nil => exact .nil
  | cons r rest ih =>
    rw [Answers, List.filter_cons, ← isSome_answer? entropy g, answerAll]
    cases g.answer? entropy r with
    | none => exact ih g
    | some outcome => exact .cons ⟨outcome.1, rfl⟩ (ih outcome.2)

end Generator

namespace SecretKind

variable {kind : SecretKind α} {entropy : Entropy}

theorem Lawful.run_answerAll (lawful : kind.Lawful entropy) (g : Generator)
    (requests : List Request) :
    kind.Run (kind.held g) ((Generator.answerAll entropy g requests).1.filterMap kind.event?)
      (kind.held (Generator.answerAll entropy g requests).2) := by
  induction requests generalizing g with
  | nil => exact .nil _
  | cons r rest ih =>
    rw [Generator.answerAll]
    cases houtcome : g.answer? entropy r with
    | none => exact ih g
    | some outcome =>
      rw [List.filterMap_eq_flatMap_toList, List.flatMap_cons, ← List.filterMap_eq_flatMap_toList]
      exact (lawful.answered houtcome).append (ih outcome.2)

/-- All that is held has been issued by the events, from nothing. -/
structure Remembers (kind : SecretKind α) (events : List Event) (g : Generator) : Prop where
  run : kind.Run (fun _ => none) (events.filterMap kind.event?) (kind.held g)
  held_iff : ∀ key a, kind.held g key = some a ↔ Issued key a (events.filterMap kind.event?)

theorem Lawful.remembers (lawful : kind.Lawful entropy) (hempty : kind.held {} = fun _ => none)
    (requests : List Request) :
    kind.Remembers (Generator.answerAll entropy {} requests).1
      (Generator.answerAll entropy {} requests).2 := by
  have run := hempty ▸ lawful.run_answerAll {} requests
  refine ⟨run, fun key a => ?_⟩
  rw [run.held_iff]
  simp

end SecretKind

/-- What a generator is like that has come to this state by answering the requests with these
events. -/
structure Generator.RemembersAll (entropy : Entropy) (requests : List Request) (events : List Event)
    (reached : Generator) : Prop where
  answers : Answers requests events
  users : SecretKind.users.Remembers events reached
  strings : SecretKind.strings.Remembers events reached
  user_asked : ∀ key charset,
    SecretKind.users.Asked reached key charset (reached.generateUser entropy key charset)
  string_asked : ∀ key charset,
    SecretKind.strings.Asked reached key charset (reached.generateString entropy key charset)
  issued : ∃ users strings : Finset CredentialKey, reached.issued = users.card + strings.card ∧
    (∀ key, key ∈ users ↔ (reached.users.get? key).isSome) ∧
      ∀ key, key ∈ strings ↔ (reached.strings.get? key).isSome

/-- A generator holds what it has issued under a key and not deleted since, after any requests. -/
theorem generator_remembers (entropy : Entropy) (requests : List Request) :
    (Generator.answerAll entropy {} requests).2.RemembersAll entropy requests
      (Generator.answerAll entropy {} requests).1 := by
  constructor
  case answers => exact Generator.answers_answerAll {} requests
  case users => exact (SecretKind.users_lawful entropy).remembers rfl requests
  case strings => exact (SecretKind.strings_lawful entropy).remembers rfl requests
  case user_asked => exact Generator.generateUser_asked entropy _
  case string_asked => exact Generator.generateString_asked entropy _
  case issued =>
    obtain ⟨users, husers, hmem⟩ :=
      Table.exists_keys (Generator.answerAll entropy {} requests).2.users
    obtain ⟨strings, hstrings, hmem'⟩ :=
      Table.exists_keys (Generator.answerAll entropy {} requests).2.strings
    exact ⟨users, strings, by rw [Generator.issued, husers, hstrings], hmem, hmem'⟩

end ServiceBroker
