import Mathlib.Data.List.Basic

/-!
Texts in the order of their UTF-8 bytes. UTF-8 keeps the order of the code points, so texts compare
by their bytes as they compare by their characters.
-/

namespace ServiceBroker.Text

/-- The bytes of a text in UTF-8. -/
def bytes (s : String) : List UInt8 := s.toUTF8.data.toList

theorem bytes_eq (s : String) : bytes s = s.toList.flatMap String.utf8EncodeChar := by
  rw [bytes, String.toUTF8, ← String.utf8Encode_toList, List.utf8Encode,
    List.toList_data_toByteArray]

/-! ## Characters -/

theorem toNat_lt (c : Char) : c.toNat < 0x110000 := by
  have hvalid := c.valid
  simp only [UInt32.isValidChar, Nat.isValidChar] at hvalid
  change c.val.toNat < 0x110000
  omega

/-- The code point of a character in digits of base 64. How many there are is known by the first
byte, and each of the others is a byte of its own. -/
theorem utf8EncodeChar_cases (c : Char) :
    (∃ i, i < 128 ∧ c.toNat = i ∧ String.utf8EncodeChar c = [.ofNat i]) ∨
    (∃ i j, 2 ≤ i ∧ i < 32 ∧ j < 64 ∧ c.toNat = 64 * i + j ∧
      String.utf8EncodeChar c = [.ofNat (i + 192), .ofNat (j + 128)]) ∨
    (∃ i j k, i < 16 ∧ j < 64 ∧ k < 64 ∧ 0x800 ≤ 4096 * i + 64 * j ∧
      c.toNat = 4096 * i + 64 * j + k ∧
      String.utf8EncodeChar c = [.ofNat (i + 224), .ofNat (j + 128), .ofNat (k + 128)]) ∨
    (∃ i j k l, i < 8 ∧ j < 64 ∧ k < 64 ∧ l < 64 ∧ 0x10000 ≤ 262144 * i + 4096 * j ∧
      c.toNat = 262144 * i + 4096 * j + 64 * k + l ∧
      String.utf8EncodeChar c =
        [.ofNat (i + 240), .ofNat (j + 128), .ofNat (k + 128), .ofNat (l + 128)]) := by
  have hmax := toNat_lt c
  have hval : c.val.toNat = c.toNat := rfl
  simp only [String.utf8EncodeChar, hval]
  generalize c.toNat = n at hmax
  by_cases h1 : n ≤ 0x7F
  · exact .inl ⟨n, by omega, rfl, if_pos h1⟩
  · by_cases h2 : n ≤ 0x7FF
    · refine .inr (.inl ⟨n / 64 % 32, n % 64, by omega, by omega, by omega, by omega, ?_⟩)
      rw [if_neg h1, if_pos h2]
    · by_cases h3 : n ≤ 0xFFFF
      · refine .inr (.inr (.inl ⟨n / 4096 % 16, n / 64 % 64, n % 64, by omega, by omega, by omega,
          by omega, by omega, ?_⟩))
        rw [if_neg h1, if_neg h2, if_pos h3]
      · refine .inr (.inr (.inr ⟨n / 262144 % 8, n / 4096 % 64, n / 64 % 64, n % 64, by omega,
          by omega, by omega, by omega, by omega, by omega, ?_⟩))
        rw [if_neg h1, if_neg h2, if_neg h3]

theorem byte_lt_iff {m n : Nat} (hm : m < 256) (hn : n < 256) :
    UInt8.ofNat m < UInt8.ofNat n ↔ m < n := by
  rw [UInt8.lt_iff_toNat_lt, UInt8.toNat_ofNat', UInt8.toNat_ofNat', Nat.mod_eq_of_lt hm,
    Nat.mod_eq_of_lt hn]

theorem byte_eq_iff {m n : Nat} (hm : m < 256) (hn : n < 256) :
    UInt8.ofNat m = UInt8.ofNat n ↔ m = n := by
  rw [← UInt8.toNat_inj, UInt8.toNat_ofNat', UInt8.toNat_ofNat', Nat.mod_eq_of_lt hm,
    Nat.mod_eq_of_lt hn]

/-- The first byte in which two characters differ puts them in order, whatever follows. -/
theorem utf8EncodeChar_append_lt {c d : Char} (h : c < d) (xs ys : List UInt8) :
    String.utf8EncodeChar c ++ xs < String.utf8EncodeChar d ++ ys := by
  have hlt : c.toNat < d.toNat := h
  rcases utf8EncodeChar_cases c with
    ⟨i, hi, ec, hc⟩ | ⟨i, j, hi, hi', hj, ec, hc⟩ | ⟨i, j, k, hi, hj, hk, hmin, ec, hc⟩ |
      ⟨i, j, k, l, hi, hj, hk, hl, hmin, ec, hc⟩ <;>
  rcases utf8EncodeChar_cases d with
    ⟨i', hi', ed, hd⟩ | ⟨i', j', hi', hi'', hj', ed, hd⟩ |
    ⟨i', j', k', hi', hj', hk', hmin', ed, hd⟩ |
      ⟨i', j', k', l', hi', hj', hk', hl', hmin', ed, hd⟩ <;>
  rw [ec, ed] at hlt <;>
  simp (disch := omega) only [hc, hd, List.cons_append, List.nil_append, List.cons_lt_cons_iff,
    byte_lt_iff, byte_eq_iff] <;>
  omega

theorem utf8EncodeChar_ne_nil (c : Char) : String.utf8EncodeChar c ≠ [] := by
  rcases utf8EncodeChar_cases c with
    ⟨_, -, -, h⟩ | ⟨_, _, -, -, -, -, h⟩ | ⟨_, _, _, -, -, -, -, -, h⟩ |
      ⟨_, _, _, _, -, -, -, -, -, -, h⟩ <;>
  simp [h]

/-! ## Texts -/

theorem flatMap_utf8EncodeChar_lt {s t : List Char} (h : s < t) :
    s.flatMap String.utf8EncodeChar < t.flatMap String.utf8EncodeChar := by
  induction s generalizing t with
  | nil =>
    cases t with
    | nil => exact absurd h (List.lt_irrefl _)
    | cons d t =>
      obtain ⟨b, bs, hb⟩ := List.exists_cons_of_ne_nil (utf8EncodeChar_ne_nil d)
      simp [hb]
  | cons c s ih =>
    cases t with
    | nil => exact absurd h (List.not_lt_nil _)
    | cons d t =>
      simp only [List.flatMap_cons]
      rcases List.cons_lt_cons_iff.mp h with hlt | ⟨rfl, hlt⟩
      · exact utf8EncodeChar_append_lt hlt _ _
      · exact List.append_left_lt (ih hlt)

theorem bytes_lt_bytes_iff {s t : String} : bytes s < bytes t ↔ s < t := by
  have hlt : ∀ {s t : String}, s < t → bytes s < bytes t := by
    intro s t h
    have hchars : s.toList < t.toList := h
    rw [bytes_eq, bytes_eq]
    exact flatMap_utf8EncodeChar_lt hchars
  refine ⟨fun h => ?_, hlt⟩
  by_contra hnot
  rcases Decidable.em (t < s) with hgt | hge
  · exact List.lt_asymm h (hlt hgt)
  · have heq : s = t := String.le_antisymm (String.not_lt.mp hge) (String.not_lt.mp hnot)
    exact List.lt_irrefl _ (heq ▸ h)

end ServiceBroker.Text
