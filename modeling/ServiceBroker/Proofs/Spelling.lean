import Mathlib.Data.List.Basic
import ServiceBroker.Extension.Key

/-!
The spellings of an argument name. A name consists of words; between them stand separators, or the
next word is raised. All spellings of the same words have one canonical form, which is the one
without separators.
-/

namespace ServiceBroker.Extension

/-! ## Upper case -/

theorem upperExpansions_plain :
    ∀ e ∈ Text.upperExpansions, e.2 ≠ [] ∧ ∀ n ∈ e.2, isSeparator (Char.ofNat n) = false := by
  decide +kernel

theorem upperRuns_plain :
    ∀ e ∈ Text.upperRuns, ∀ i ≤ e.2.1 - e.1, isSeparator (Char.ofNat (e.2.2.2 + i)) = false := by
  decide +kernel

/-- Raising a character gives at least one, and no separators unless it is one. -/
theorem upper_plain {c : Char} (h : isSeparator c = false) :
    Text.upper c ≠ [] ∧ ∀ d ∈ Text.upper c, isSeparator d = false := by
  simp only [Text.upper]
  split
  · rename_i expansion hlookup
    obtain ⟨before, after, htable, -⟩ := List.lookup_eq_some_iff.mp hlookup
    have hmem : (c.toNat, expansion) ∈ Text.upperExpansions := by simp [htable]
    obtain ⟨hsome, hplain⟩ := upperExpansions_plain _ hmem
    exact ⟨by simpa using hsome, by simpa using hplain⟩
  · split
    · rename_i first last step image hfind
      have hmem := List.mem_of_find?_eq_some hfind
      have hrange := List.find?_some hfind
      simp only [Bool.and_eq_true, decide_eq_true_eq] at hrange
      have hplain := upperRuns_plain _ hmem (c.toNat - first)
        (Nat.sub_le_sub_right hrange.1.2 first)
      exact ⟨List.cons_ne_nil _ _, by simpa using hplain⟩
    · simpa using h

/-! ## Words -/

structure IsWord (word : List Char) : Prop where
  ne_nil : word ≠ []
  plain : ∀ c ∈ word, isSeparator c = false

/-- The word with its first character in upper case. -/
def raised : List Char → List Char
  | [] => []
  | c :: rest => Text.upper c ++ rest

def camelCase : List (List Char) → List Char
  | [] => []
  | first :: rest => first ++ rest.flatMap raised

theorem IsWord.raised {word : List Char} (h : IsWord word) : IsWord (raised word) := by
  cases word with
  | nil => exact absurd rfl h.ne_nil
  | cons c rest =>
    obtain ⟨hsome, hupper⟩ := upper_plain (h.plain c (by simp))
    constructor
    case ne_nil => simp [Extension.raised, hsome]
    case plain =>
      intro d hd
      rcases List.mem_append.mp hd with hd | hd
      · exact hupper d hd
      · exact h.plain d (by simp [hd])

/-- The text goes on with the words. Each of them stands behind separators, or is raised and stands
directly behind the word before it; after the last one there may be more separators. -/
inductive Continues : List (List Char) → List Char → Prop where
  | ends {run : List Char} (separators : ∀ c ∈ run, isSeparator c) : Continues [] run
  | apart {run word text : List Char} {words : List (List Char)} (some : run ≠ [])
      (separators : ∀ c ∈ run, isSeparator c) (isWord : IsWord word)
      (rest : Continues words text) : Continues (word :: words) (run ++ word ++ text)
  | joined {word text : List Char} {words : List (List Char)} (isWord : IsWord word)
      (rest : Continues words text) : Continues (word :: words) (raised word ++ text)

/-- The text is a spelling of the words. Before the first one there may be separators. -/
inductive Spells : List (List Char) → List Char → Prop where
  | starts {run first text : List Char} {words : List (List Char)}
      (separators : ∀ c ∈ run, isSeparator c) (isWord : IsWord first)
      (rest : Continues words text) : Spells (first :: words) (run ++ first ++ text)

/-! ## The canonical form -/

/-- Separators in front of a text leave no trace if the text is to be raised anyway, or is not to
be. -/
theorem canonicalChars_separators {run : List Char} (h : ∀ c ∈ run, isSeparator c) (started : Bool)
    (text : List Char) :
    canonicalChars started started (run ++ text) = canonicalChars started started text := by
  induction run with
  | nil => rfl
  | cons c run ih =>
    rw [List.forall_mem_cons] at h
    rw [List.cons_append, canonicalChars, if_pos h.1, ih h.2]

/-- Behind separators the next character is raised, unless it is the first one. -/
theorem canonicalChars_run {run : List Char} (hsome : run ≠ []) (h : ∀ c ∈ run, isSeparator c)
    (started raise : Bool) (text : List Char) :
    canonicalChars started raise (run ++ text) = canonicalChars started started text := by
  cases run with
  | nil => exact absurd rfl hsome
  | cons c run =>
    rw [List.forall_mem_cons] at h
    rw [List.cons_append, canonicalChars, if_pos h.1, canonicalChars_separators h.2]

theorem canonicalChars_plain {plain : List Char} (h : ∀ c ∈ plain, isSeparator c = false)
    (text : List Char) :
    canonicalChars true false (plain ++ text) = plain ++ canonicalChars true false text := by
  induction plain with
  | nil => rfl
  | cons c plain ih =>
    rw [List.forall_mem_cons] at h
    simp [canonicalChars, h.1, ih h.2]

/-- A word comes out as it is, or raised, and then nothing is to be raised until the next
separator. -/
theorem canonicalChars_word {word : List Char} (h : IsWord word) (started raise : Bool)
    (text : List Char) :
    canonicalChars started raise (word ++ text) =
      (if raise then raised word else word) ++ canonicalChars true false text := by
  cases word with
  | nil => exact absurd rfl h.ne_nil
  | cons c rest =>
    have hplain := h.plain
    rw [List.forall_mem_cons] at hplain
    cases raise <;> simp [canonicalChars, raised, hplain.1, canonicalChars_plain hplain.2]

theorem Continues.canonicalChars_eq {words : List (List Char)} {text : List Char}
    (h : Continues words text) : canonicalChars true false text = words.flatMap raised := by
  induction h with
  | @ends run separators =>
    cases run with
    | nil => rfl
    | cons c run =>
      have hrun := canonicalChars_run (List.cons_ne_nil c run) separators true false []
      simpa [canonicalChars] using hrun
  | apart some separators isWord _ ih =>
    rw [List.append_assoc, canonicalChars_run some separators, canonicalChars_word isWord, ih]
    rfl
  | joined isWord _ ih =>
    rw [canonicalChars_plain isWord.raised.plain, ih]
    rfl

/-- Every spelling of the words has their camel case for its canonical form. -/
theorem Spells.canonicalKey_eq {words : List (List Char)} {key : String}
    (h : Spells words key.toList) : canonicalKey key = String.ofList (camelCase words) := by
  rw [canonicalKey]
  generalize key.toList = text at h
  cases h with
  | starts separators isWord rest =>
    rw [List.append_assoc, canonicalChars_separators separators, canonicalChars_word isWord,
      rest.canonicalChars_eq]
    rfl

theorem canonicalKey_of_separators {key : String} (h : ∀ c ∈ key.toList, isSeparator c) :
    canonicalKey key = "" := by
  have hchars := canonicalChars_separators h false []
  rw [List.append_nil] at hchars
  rw [canonicalKey, hchars]
  rfl

theorem canonicalChars_no_separator (started raise : Bool) (text : List Char) :
    ∀ c ∈ canonicalChars started raise text, isSeparator c = false := by
  induction text generalizing started raise with
  | nil => simp [canonicalChars]
  | cons c text ih =>
    rw [canonicalChars]
    split
    · exact ih started started
    · rename_i hplain
      rw [Bool.not_eq_true] at hplain
      intro d hd
      rcases List.mem_append.mp hd with hd | hd
      · split at hd
        · exact (upper_plain hplain).2 d hd
        · rwa [List.mem_singleton.mp hd]
      · exact ih true false d hd

theorem canonicalKey_of_plain {key : String} (h : ∀ c ∈ key.toList, isSeparator c = false) :
    canonicalKey key = key := by
  have hchars : canonicalChars false false key.toList = key.toList := by
    by_cases hempty : key.toList = []
    · rw [hempty]
      rfl
    · simpa [canonicalChars] using canonicalChars_word ⟨hempty, h⟩ false false []
  rw [canonicalKey, hchars, String.ofList_toList]

/-! ## Every name is a spelling -/

theorem Continues.cons_separator {words : List (List Char)} {text : List Char}
    (h : Continues words text) {c : Char} (hc : isSeparator c) :
    ∃ words, Continues words (c :: text) := by
  cases h with
  | ends separators => exact ⟨[], .ends (List.forall_mem_cons.mpr ⟨hc, separators⟩)⟩
  | @apart run word text words some separators isWord rest =>
    have hall : ∀ d ∈ c :: run, isSeparator d := List.forall_mem_cons.mpr ⟨hc, separators⟩
    exact ⟨_, .apart (List.cons_ne_nil c run) hall isWord rest⟩
  | @joined word text words isWord rest =>
    have hall : ∀ d ∈ [c], isSeparator d := by simpa using hc
    exact ⟨_, .apart (List.cons_ne_nil c []) hall isWord.raised rest⟩

/-- A text is one piece without separators, which may be empty, and goes on with words from
there. -/
theorem exists_continues (text : List Char) :
    ∃ plain rest words, text = plain ++ rest ∧ (∀ c ∈ plain, isSeparator c = false) ∧
      Continues words rest := by
  induction text with
  | nil => exact ⟨[], [], [], rfl, by simp, .ends (by simp)⟩
  | cons c text ih =>
    obtain ⟨plain, rest, words, rfl, hplain, hrest⟩ := ih
    cases hc : isSeparator c with
    | false => exact ⟨c :: plain, rest, words, rfl, List.forall_mem_cons.mpr ⟨hc, hplain⟩, hrest⟩
    | true =>
      by_cases hempty : plain = []
      · subst hempty
        obtain ⟨words, hwords⟩ := hrest.cons_separator hc
        exact ⟨[], _, words, rfl, by simp, hwords⟩
      · have hrun : ∀ d ∈ [c], isSeparator d := by simpa using hc
        exact ⟨[], _, _, rfl, by simp, .apart (List.cons_ne_nil c []) hrun ⟨hempty, hplain⟩ hrest⟩

/-- A text is a spelling of some words, unless it has none. -/
theorem separators_or_spells (text : List Char) :
    (∀ c ∈ text, isSeparator c) ∨ ∃ words, Spells words text := by
  obtain ⟨plain, rest, words, rfl, hplain, hrest⟩ := exists_continues text
  have hnone : ∀ c ∈ ([] : List Char), isSeparator c := by simp
  by_cases hempty : plain = []
  · subst hempty
    cases hrest with
    | ends separators => exact .inl separators
    | apart _ separators isWord rest => exact .inr ⟨_, .starts separators isWord rest⟩
    | @joined word text words isWord rest =>
      have hfirst : Spells (raised word :: words) ([] ++ raised word ++ text) :=
        .starts hnone isWord.raised rest
      exact .inr ⟨_, hfirst⟩
  · exact .inr ⟨_, .starts hnone ⟨hempty, hplain⟩ hrest⟩

theorem continues_flatMap_raised {words : List (List Char)} (h : ∀ word ∈ words, IsWord word) :
    Continues words (words.flatMap raised) := by
  induction words with
  | nil => exact .ends (by simp)
  | cons word words ih =>
    rw [List.forall_mem_cons] at h
    exact .joined h.1 (ih h.2)

theorem spells_camelCase {words : List (List Char)} (hsome : words ≠ [])
    (h : ∀ word ∈ words, IsWord word) : Spells words (camelCase words) := by
  cases words with
  | nil => exact absurd rfl hsome
  | cons first rest =>
    rw [List.forall_mem_cons] at h
    have hnone : ∀ c ∈ ([] : List Char), isSeparator c := by simp
    exact .starts hnone h.1 (continues_flatMap_raised h.2)

/-- All spellings of the same words, with hyphens, with underscores, in camel case or mixed, have
one canonical form, the camel case, and every name is such a spelling unless it has no words at all.
The canonical form has no separators and is its own canonical form, like every name without
separators. -/
theorem canonicalKey_joins_words (key : String) :
    (∀ words, Spells words key.toList → canonicalKey key = String.ofList (camelCase words)) ∧
      (∀ words, words ≠ [] → (∀ word ∈ words, IsWord word) → Spells words (camelCase words)) ∧
      ((∀ c ∈ key.toList, isSeparator c) ∨ ∃ words, Spells words key.toList) ∧
      ((∀ c ∈ key.toList, isSeparator c) → canonicalKey key = "") ∧
      (∀ c ∈ (canonicalKey key).toList, isSeparator c = false) ∧
      ((∀ c ∈ key.toList, isSeparator c = false) → canonicalKey key = key) ∧
      canonicalKey (canonicalKey key) = canonicalKey key := by
  have hplain : ∀ c ∈ (canonicalKey key).toList, isSeparator c = false := by
    rw [canonicalKey, String.toList_ofList]
    exact canonicalChars_no_separator false false key.toList
  exact ⟨fun words h => h.canonicalKey_eq, fun words hsome h => spells_camelCase hsome h,
    separators_or_spells key.toList, canonicalKey_of_separators, hplain, canonicalKey_of_plain,
    canonicalKey_of_plain hplain⟩

/-- A name with more separators than it needs, and the same one half in camel case; its second word
begins with a character that takes two in upper case. -/
theorem canonicalKey_joins_words_staged :
    let words := ["include".toList, "ßpecial".toList, "chars".toList]
    canonicalKey "_-include__ßpecial-chars-" = String.ofList (camelCase words) ∧
      canonicalKey "includeSSpecial_chars" = String.ofList (camelCase words) ∧
      String.ofList (camelCase words) = "includeSSpecialChars" ∧
      canonicalKey "includeSSpecialChars" = "includeSSpecialChars" ∧
      Spells words (camelCase words) ∧ canonicalKey "-_-" = "" := by
  intro words
  have hinclude : IsWord "include".toList := ⟨by simp, by simp [isSeparator]⟩
  have hspecial : IsWord "ßpecial".toList := ⟨by simp, by simp [isSeparator]⟩
  have hchars : IsWord "chars".toList := ⟨by simp, by simp [isSeparator]⟩
  have hnone : ∀ c ∈ ([] : List Char), isSeparator c := by simp
  have hhyphen : ∀ c ∈ ['-'], isSeparator c := by simp [isSeparator]
  have hunderscore : ∀ c ∈ ['_'], isSeparator c := by simp [isSeparator]
  have htwo : ∀ c ∈ ['_', '_'], isSeparator c := by simp [isSeparator]
  have hboth : ∀ c ∈ ['_', '-'], isSeparator c := by simp [isSeparator]
  have hsnake : Spells words "_-include__ßpecial-chars-".toList :=
    .starts hboth hinclude <| .apart (by simp) htwo hspecial <|
      .apart (by simp) hhyphen hchars <| .ends hhyphen
  have hmixed : Spells words "includeSSpecial_chars".toList :=
    .starts hnone hinclude <| .joined hspecial <|
      .apart (by simp) hunderscore hchars <| .ends hnone
  obtain ⟨hform, hcamel, -⟩ := canonicalKey_joins_words "_-include__ßpecial-chars-"
  obtain ⟨hform', -⟩ := canonicalKey_joins_words "includeSSpecial_chars"
  obtain ⟨-, -, -, -, -, hsame, -⟩ := canonicalKey_joins_words "includeSSpecialChars"
  obtain ⟨-, -, -, hempty, -⟩ := canonicalKey_joins_words "-_-"
  refine ⟨hform words hsnake, hform' words hmixed, by decide +kernel, hsame (by simp [isSeparator]),
    hcamel words (by simp [words]) ?_, hempty (by simp [isSeparator])⟩
  simpa [words] using ⟨hinclude, hspecial, hchars⟩

end ServiceBroker.Extension
