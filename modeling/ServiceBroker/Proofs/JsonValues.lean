import ServiceBroker.Proofs.JsonItems

/-!
A value that was read, and holds no real number, is read again from its compact text. Reading leaves
the members of objects in key order, each key once, so nothing is lost the second time.
-/

namespace ServiceBroker.Json

theorem integerText_eq_cons (i : Int) :
    ∃ c cs, integerText i = c :: cs ∧ (c = '-' ∨ c.isDigit = true) := by
  cases i with
  | ofNat n =>
    obtain ⟨c, ds, heq, hdigit⟩ := Numeral.toDigits_eq_cons n
    exact ⟨c, ds, heq, .inr hdigit⟩
  | negSucc n => exact ⟨'-', _, rfl, .inl rfl⟩

theorem isSpace_eq_false {c : Char} (h : c = '-' ∨ c.isDigit = true) : isSpace c = false := by
  refine Bool.eq_false_iff.mpr fun hspace => ?_
  simp only [isSpace, Bool.or_eq_true, beq_iff_eq] at hspace
  rcases hspace with ((rfl | rfl) | rfl) | rfl <;> exact absurd h (by decide)

namespace Value

mutual

/-- No number in the value is a real number. -/
def integral : Value → Bool
  | .number (.real _) => false
  | .array items => integralItems items
  | .object members => integralMembers members
  | _ => true

def integralItems : List Value → Bool
  | [] => true
  | item :: rest => item.integral && integralItems rest

def integralMembers : List (String × Value) → Bool
  | [] => true
  | (_, value) :: rest => value.integral && integralMembers rest

end

@[simp] theorem integral_array (items : List Value) :
    (Value.array items).integral = items.all integral := by
  rw [integral]
  induction items with
  | nil => rfl
  | cons item rest ih => rw [integralItems, ih, List.all_cons]

@[simp] theorem integral_object (members : List (String × Value)) :
    (Value.object members).integral = members.all (·.2.integral) := by
  rw [integral]
  induction members with
  | nil => rfl
  | cons m rest ih =>
    obtain ⟨key, value⟩ := m
    rw [integralMembers, ih, List.all_cons]

theorem chars_array (items : List Value) :
    (Value.array items).chars = bracketed '[' ']' (items.map chars) := by
  have hitems : itemChars items = items.map chars := by
    induction items with
    | nil => rfl
    | cons item rest ih => rw [itemChars, ih, List.map_cons]
  rw [chars, hitems]

theorem chars_object (members : List (String × Value)) :
    (Value.object members).chars =
      bracketed '\x7b' '\x7d' (members.map fun m => memberText m.1 m.2.chars) := by
  have hmembers : memberChars members = members.map fun m => memberText m.1 m.2.chars := by
    induction members with
    | nil => rfl
    | cons m rest ih =>
      obtain ⟨key, value⟩ := m
      rw [memberChars, ih, List.map_cons]
  rw [chars, hmembers]

theorem chars_eq_cons {v : Value} (h : v.integral) :
    ∃ c cs, v.chars = c :: cs ∧ isSpace c = false ∧ c ≠ ']' ∧ (c = 'n' → v = .null) := by
  cases v with
  | null => exact ⟨'n', _, rfl, by decide, by decide, fun _ => rfl⟩
  | boolean b =>
    cases b <;> exact ⟨_, _, rfl, by decide, by decide, fun hn => absurd hn (by decide)⟩
  | text s => exact ⟨'"', _, rfl, by decide, by decide, fun hn => absurd hn (by decide)⟩
  | array items =>
    obtain ⟨cs, heq⟩ := bracketed_eq_cons '[' ']' (items.map chars)
    exact ⟨'[', cs, (chars_array items).trans heq, by decide, by decide,
      fun hn => absurd hn (by decide)⟩
  | object members =>
    obtain ⟨cs, heq⟩ := bracketed_eq_cons '\x7b' '\x7d'
      (members.map fun m => memberText m.1 m.2.chars)
    exact ⟨'\x7b', cs, (chars_object members).trans heq, by decide, by decide,
      fun hn => absurd hn (by decide)⟩
  | number n =>
    cases n with
    | real x => cases h
    | integer i =>
      obtain ⟨c, cs, heq, hc⟩ := integerText_eq_cons i
      exact ⟨c, cs, heq, isSpace_eq_false hc, ne_of_numeral hc (by decide),
        fun hn => absurd hn (ne_of_numeral hc (by decide))⟩

theorem opens_chars {v : Value} (h : v.integral) : Opens v.chars := by
  obtain ⟨c, cs, heq, hspace, hclosing, -⟩ := chars_eq_cons h
  exact ⟨c, cs, heq, hspace, hclosing⟩

end Value

theorem readScalar_cases {cs rest : List Char} {v : Value} (h : readScalar cs = .ok (v, rest)) :
    v = .null ∨ (∃ b, v = .boolean b) ∨ (∃ s, v = .text s) ∨
      ∃ (numeral : Numeral) (n : Number), v = .number n ∧ numeral.number = .ok n := by
  unfold readScalar at h
  split at h
  case h_1 => cases h
  case h_2 =>
    obtain ⟨_, -, h⟩ := exists_of_bind_eq_ok h
    cases h
    exact .inl rfl
  case h_3 =>
    obtain ⟨_, -, h⟩ := exists_of_bind_eq_ok h
    cases h
    exact .inr (.inl ⟨_, rfl⟩)
  case h_4 =>
    obtain ⟨_, -, h⟩ := exists_of_bind_eq_ok h
    cases h
    exact .inr (.inl ⟨_, rfl⟩)
  case h_5 =>
    obtain ⟨_, -, h⟩ := exists_of_bind_eq_ok h
    cases h
    exact .inr (.inr (.inl ⟨_, rfl⟩))
  case h_6 =>
    split at h
    · obtain ⟨⟨numeral, _⟩, -, h⟩ := exists_of_bind_eq_ok h
      obtain ⟨n, hn, h⟩ := exists_of_bind_eq_ok h
      cases h
      exact .inr (.inr (.inr ⟨numeral, n, rfl, hn⟩))
    · cases h

theorem readValue_cons {c : Char} (hspace : isSpace c = false) (hlist : c ≠ '[')
    (hobject : c ≠ '\x7b') (depth : Nat) (cs : List Char) :
    readValue depth (c :: cs) = readScalar (c :: cs) := by
  cases depth <;>
  · rw [readValue, dropSpace_cons hspace]
    split
    · rename_i heq
      cases heq
      exact absurd rfl hlist
    · rename_i heq
      cases heq
      exact absurd rfl hobject
    · rfl

theorem readValue_scalar {cs rest : List Char} {v : Value} (h : readScalar cs = .ok (v, rest))
    (hintegral : v.integral) (depth : Nat) {tail : List Char} (htail : Delimited tail) :
    readValue depth (v.chars ++ tail) = .ok (v, tail) := by
  rcases readScalar_cases h with rfl | ⟨b, rfl⟩ | ⟨s, rfl⟩ | ⟨numeral, n, rfl, hn⟩
  · exact readValue_cons (by decide) (by decide) (by decide) depth _
  · cases b <;> exact readValue_cons (by decide) (by decide) (by decide) depth _
  · rw [Value.chars, quotedText_append, readValue_cons (by decide) (by decide) (by decide)]
    simp only [readScalar, readText_written, bind, Except.bind, String.ofList_toList]
  · cases n with
    | real x => cases hintegral
    | integer i =>
      have hscalar := readScalar_integerText (Numeral.inRange_of_number hn) htail
      obtain ⟨c, cs', heq, hc⟩ := integerText_eq_cons i
      rw [Value.chars, numberText]
      rw [heq, List.cons_append] at hscalar ⊢
      rw [readValue_cons (isSpace_eq_false hc) (ne_of_numeral hc (by decide))
        (ne_of_numeral hc (by decide)), hscalar]

/-- A value that was read is read again from its compact text. The induction is on the nesting: a
value that could not have been read need not be readable. -/
theorem readValue_again {depth : Nat} {cs rest : List Char} {v : Value}
    (h : readValue depth cs = .ok (v, rest)) (hintegral : v.integral) {tail : List Char}
    (htail : Delimited tail) : readValue depth (v.chars ++ tail) = .ok (v, tail) := by
  induction depth generalizing cs rest v tail with
  | zero =>
    rw [readValue] at h
    split at h
    · cases h
    · cases h
    · exact readValue_scalar h hintegral 0 htail
  | succ depth ih =>
    rw [readValue] at h
    split at h
    · obtain ⟨⟨items, rest'⟩, hitems, h⟩ := exists_of_bind_eq_ok h
      cases h
      rw [Value.integral_array, List.all_eq_true] at hintegral
      have hitem : ∀ x ∈ items, ∀ rest, Delimited rest →
          readValue depth (x.chars ++ rest) = .ok (x, rest) := by
        intro x hx rest hrest
        obtain ⟨_, _, hx'⟩ := exists_of_mem_readItems hitems hx
        exact ih hx' (hintegral x hx) hrest
      have hagain := readItems_bracketed Value.chars
        (fun x hx => Value.opens_chars (hintegral x hx)) hitem tail
      rw [Value.chars_array, bracketed_append]
      show (readItems (readValue depth) _ _ _).bind _ = _
      rw [hagain]
      rfl
    · obtain ⟨⟨members, rest'⟩, hmembers, h⟩ := exists_of_bind_eq_ok h
      cases h
      rw [Value.ofDict, Value.integral_object, List.all_eq_true] at hintegral
      have hitem : ∀ m ∈ (Dict.ofList members).entries, ∀ rest, Delimited rest →
          readValue depth (m.2.chars ++ rest) = .ok (m.2, rest) := by
        intro m hm rest hrest
        obtain ⟨_, _, hm'⟩ := exists_of_mem_readMembers hmembers (Dict.mem_of_mem_ofList hm)
        exact ih hm' (hintegral m hm) hrest
      have hagain := readMembers_bracketed Value.chars hitem tail
      rw [Value.ofDict, Value.chars_object, bracketed_append]
      show (readMembers (readValue depth) _ _ _).bind _ = _
      rw [hagain]
      simp only [Except.bind, Dict.ofList_entries, Value.ofDict]
    · exact readValue_scalar h hintegral (depth + 1) htail

end ServiceBroker.Json
