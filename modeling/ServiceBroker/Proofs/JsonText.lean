import Mathlib.Data.List.TakeDrop
import ServiceBroker.Json.Reader

/-!
The compact text of a value is read as that value again, whatever follows it. A numeral is the one
token without an end of its own, so what follows it must not go on with it; real numbers are left
out.
-/

namespace ServiceBroker.Json

/-! ### Strings -/

theorem readText_quote (rest : List Char) : readText ('"' :: rest) = .ok ([], rest) := by
  rw [readText]

theorem readText_escape {cs tail s rest : List Char} {c : Char}
    (hescape : readEscape cs = .ok (c, tail)) (htail : readText tail = .ok (s, rest)) :
    readText ('\\' :: cs) = .ok (c :: s, rest) := by
  rw [readText]
  split
  · rename_i heq
    rw [hescape] at heq
    cases heq
  · rename_i heq
    rw [hescape] at heq
    cases heq
    rw [htail]

theorem readText_plain {c : Char} {cs s rest : List Char} (hquote : c ≠ '"') (hslash : c ≠ '\\')
    (hcontrol : ¬ c.toNat < 0x20) (h : readText cs = .ok (s, rest)) :
    readText (c :: cs) = .ok (c :: s, rest) := by
  rw [readText]
  · rw [if_neg hcontrol, h]
  · exact fun h => hquote h
  · exact fun h => hslash h

theorem hexDigit?_digitChar : ∀ d < 16, hexDigit? (Nat.digitChar d) = some d := by decide

theorem readEscape_control {c : Char} (h : c.toNat < 0x20) (cs : List Char) :
    readEscape ('u' :: '0' :: '0' :: Nat.digitChar (c.toNat / 16) :: Nat.digitChar (c.toNat % 16)
      :: cs) = .ok (c, cs) := by
  have hzero : hexDigit? '0' = some 0 := by decide
  have hhigh := hexDigit?_digitChar (c.toNat / 16) (by omega)
  have hlow := hexDigit?_digitChar (c.toNat % 16) (by omega)
  have hunit : ((0 * 16 + 0) * 16 + c.toNat / 16) * 16 + c.toNat % 16 = c.toNat := by omega
  simp only [readEscape, codeUnit, hzero, hhigh, hlow, hunit, bind, Except.bind]
  rw [if_neg (by omega), if_neg (by omega), Char.ofNat_toNat]

theorem readText_charText (c : Char) {cs s rest : List Char} (h : readText cs = .ok (s, rest)) :
    readText (charText c ++ cs) = .ok (c :: s, rest) := by
  unfold charText
  split
  case h_8 hquote hslash _ _ _ _ _ =>
    split
    · rename_i hcontrol
      exact readText_escape (readEscape_control hcontrol cs) h
    · rename_i hcontrol
      exact readText_plain hquote hslash hcontrol h
  -- The escapes of one letter.
  all_goals exact readText_escape rfl h

theorem quotedText_append (s : String) (rest : List Char) :
    quotedText s ++ rest = '"' :: (s.toList.flatMap charText ++ '"' :: rest) := by
  simp [quotedText]

theorem readText_written (s : String) (rest : List Char) :
    readText (s.toList.flatMap charText ++ '"' :: rest) = .ok (s.toList, rest) := by
  induction s.toList with
  | nil => exact readText_quote rest
  | cons c s ih =>
    rw [List.flatMap_cons, List.append_assoc]
    exact readText_charText c ih

/-! ### Integers -/

/-- What does not go on with a numeral. -/
def Delimited (cs : List Char) : Prop :=
  ∀ c ∈ cs.head?, c.isDigit = false ∧ c ≠ '.' ∧ c ≠ 'e' ∧ c ≠ 'E'

theorem delimited_nil : Delimited [] := by simp [Delimited]

namespace Numeral

/-- The integers that have a numeral of their own. -/
def InRange (i : Int) : Prop := -0x8000000000000000 ≤ i ∧ i ≤ maxSignificand

theorem inRange_of_number {n : Numeral} {i : Int} (h : n.number = .ok (.integer i)) :
    InRange i := by
  unfold number at h
  split at h
  case h_2 => split at h <;> cases h
  case h_1 heq =>
    cases h
    have hmax : maxSignificand = 0xFFFFFFFFFFFFFFFF := rfl
    unfold integer? at heq
    split at heq
    · cases heq
    · by_cases hneg : n.negative
      · rw [if_pos hneg, Option.ite_none_right_eq_some] at heq
        obtain ⟨hrange, heq⟩ := heq
        cases heq
        exact ⟨by omega, by omega⟩
      · rw [if_neg hneg, Option.ite_none_right_eq_some] at heq
        obtain ⟨hrange, heq⟩ := heq
        cases heq
        exact ⟨by omega, by omega⟩

theorem head?_toDigits_ne_zero {n : Nat} (h : n ≠ 0) : (Nat.toDigits 10 n).head? ≠ some '0' := by
  induction n using Nat.strongRecOn with
  | ind n ih =>
    rw [Nat.toDigits_eq_if (by decide)]
    split
    · rename_i hlt
      have hdigit : ∀ d < 10, d ≠ 0 → Nat.digitChar d ≠ '0' := by decide
      simpa using hdigit n hlt h
    · have hhead := ih (n / 10) (by omega) (by omega)
      rw [List.head?_append, Option.or_of_isSome (by simp [Nat.toDigits_ne_nil])]
      exact hhead

theorem readDigits_toDigits (n : Nat) {rest : List Char} (hrest : Delimited rest) :
    readDigits (Nat.toDigits 10 n ++ rest) = .ok (Nat.toDigits 10 n, rest) := by
  have hdigits : ∀ c ∈ Nat.toDigits 10 n, c.isDigit = true := fun c =>
    Nat.isDigit_of_mem_toDigits (by decide) (by decide)
  have hspan : (Nat.toDigits 10 n ++ rest).span Char.isDigit = (Nat.toDigits 10 n, rest) := by
    rw [List.span_eq_takeWhile_dropWhile, List.takeWhile_append_of_pos hdigits,
      List.dropWhile_append_of_pos hdigits]
    cases rest with
    | nil => simp
    | cons c rest => simp [(hrest c rfl).1]
  unfold readDigits
  rw [hspan]
  split
  · rename_i heq
    exact absurd (congrArg Prod.fst heq) Nat.toDigits_ne_nil
  · rename_i heq
    exact absurd (congrArg Prod.fst heq) Nat.toDigits_ne_nil
  · rename_i heq
    rw [heq]

theorem readWhole_toDigits (n : Nat) {rest : List Char} (hrest : Delimited rest) :
    readWhole (Nat.toDigits 10 n ++ rest) = .ok (Nat.toDigits 10 n, rest) := by
  simp only [readWhole, readDigits_toDigits n hrest, bind, Except.bind]
  refine if_neg fun ⟨hhead, hlength⟩ => ?_
  by_cases hzero : n = 0
  · subst hzero
    exact hlength rfl
  · exact head?_toDigits_ne_zero hzero hhead

theorem readFraction_delimited {cs : List Char} (h : Delimited cs) :
    readFraction cs = .ok ([], cs) := by
  unfold readFraction
  split
  · exact absurd rfl (h '.' rfl).2.1
  · rfl

theorem readExponent_delimited {cs : List Char} (h : Delimited cs) :
    readExponent cs = .ok (none, cs) := by
  unfold readExponent
  split
  · obtain ⟨-, -, he, hE⟩ := h _ rfl
    rw [if_neg (not_or.mpr ⟨he, hE⟩)]
  · rfl

theorem toDigits_eq_cons (n : Nat) : ∃ c ds, Nat.toDigits 10 n = c :: ds ∧ c.isDigit = true := by
  obtain ⟨c, ds, heq⟩ := List.exists_cons_of_ne_nil (Nat.toDigits_ne_nil (b := 10) (n := n))
  have hmem : c ∈ Nat.toDigits 10 n := heq ▸ List.mem_cons_self
  exact ⟨c, ds, heq, Nat.isDigit_of_mem_toDigits (by decide) (by decide) hmem⟩

theorem read_digits (n : Nat) {rest : List Char} (hrest : Delimited rest) :
    read (Nat.toDigits 10 n ++ rest) = .ok (⟨false, Nat.toDigits 10 n, [], none⟩, rest) := by
  unfold read
  split
  rename_i heq
  split at heq
  · rename_i hminus
    obtain ⟨c, ds, hdigits, hdigit⟩ := toDigits_eq_cons n
    rw [hdigits] at hminus
    cases hminus
    cases hdigit
  · cases heq
    simp only [readWhole_toDigits n hrest, readFraction_delimited hrest,
      readExponent_delimited hrest, bind, Except.bind]

theorem read_minus_digits (n : Nat) {rest : List Char} (hrest : Delimited rest) :
    read ('-' :: Nat.toDigits 10 n ++ rest) = .ok (⟨true, Nat.toDigits 10 n, [], none⟩, rest) := by
  simp only [read, List.cons_append, readWhole_toDigits n hrest, readFraction_delimited hrest,
    readExponent_delimited hrest, bind, Except.bind]

end Numeral

theorem ne_of_numeral {c d : Char} (h : c = '-' ∨ c.isDigit = true)
    (hd : ¬(d = '-' ∨ d.isDigit = true)) : c ≠ d := by
  rintro rfl
  exact hd h

theorem readScalar_numeral {c : Char} (h : c = '-' ∨ c.isDigit = true) (cs : List Char) :
    readScalar (c :: cs) = (do
      let (numeral, rest) ← Numeral.read (c :: cs)
      .ok (.number (← numeral.number), rest)) := by
  rw [readScalar, if_pos h]
  -- No word and no string begins like a numeral.
  all_goals exact ne_of_numeral h (by decide)

theorem readScalar_integerText {i : Int} (h : Numeral.InRange i) {rest : List Char}
    (hrest : Delimited rest) :
    readScalar (integerText i ++ rest) = .ok (.number (.integer i), rest) := by
  obtain ⟨hlow, hhigh⟩ := h
  cases i with
  | ofNat n =>
    obtain ⟨c, ds, hdigits, hdigit⟩ := Numeral.toDigits_eq_cons n
    have hread := Numeral.read_digits n hrest
    have hinteger : Numeral.integer? ⟨false, Nat.toDigits 10 n, [], none⟩ = some (.ofNat n) := by
      simp only [Numeral.integer?, Nat.ofDigitChars_ten_toDigits]
      rw [if_neg (by simp), if_neg Bool.false_ne_true, if_pos (Int.ofNat_le.mp hhigh)]
      rfl
    rw [integerText]
    rw [hdigits, List.cons_append] at hread ⊢
    rw [readScalar_numeral (.inr hdigit), hread]
    simp only [← hdigits, Numeral.number, hinteger, bind, Except.bind]
  | negSucc n =>
    have hread := Numeral.read_minus_digits (n + 1) hrest
    have hinteger :
        Numeral.integer? ⟨true, Nat.toDigits 10 (n + 1), [], none⟩ = some (.negSucc n) := by
      simp only [Numeral.integer?, Nat.ofDigitChars_ten_toDigits]
      rw [if_neg (by simp), if_pos trivial, if_pos ⟨Nat.succ_pos n, by omega⟩]
      rfl
    rw [integerText]
    rw [List.cons_append] at hread ⊢
    rw [readScalar_numeral (.inl rfl), hread]
    simp only [Numeral.number, hinteger, bind, Except.bind]

end ServiceBroker.Json
