import ServiceBroker.Json.Codec
import ServiceBroker.Proofs.JsonValues

/-!
Codecs that read back what they write. A codec need not do so for every value of its type, since a
value may nest too deep, but it does for those that it has read itself.
-/

namespace ServiceBroker.Json.Codec

variable {α : Type}

/-- The value is read from the text that is written for it, unless it holds a real number. -/
def ReadsBack (codec : Codec α) (depth : Nat) (x : α) : Prop :=
  (codec.toValue x).integral → ∀ tail, Delimited tail →
    codec.read depth ((codec.toValue x).chars ++ tail) = .ok (x, tail)

/-- Whatever is read reads back, with `height` levels at least. Parts that a text leaves out count
as read, and their text may need some levels. -/
def Stable (codec : Codec α) (height : Nat) : Prop :=
  ∀ ⦃depth : Nat⦄ ⦃cs rest : List Char⦄ ⦃x : α⦄, height ≤ depth →
    codec.read depth cs = .ok (x, rest) → codec.ReadsBack depth x

theorem Stable.mono {codec : Codec α} {height height' : Nat} (h : codec.Stable height)
    (hle : height ≤ height') : codec.Stable height' := fun _ _ _ _ hdepth hread =>
  h (Nat.le_trans hle hdepth) hread

theorem any_stable : any.Stable 0 := fun _ _ _ _ _ hread hintegral _ htail =>
  readValue_again hread hintegral htail

theorem text_readsBack (depth : Nat) (s : String) : text.ReadsBack depth s := by
  intro _ tail _
  show text.read depth (quotedText s ++ tail) = _
  rw [quotedText_append]
  show (readText _).bind _ = _
  rw [readText_written]
  simp only [Except.bind, String.ofList_toList]

theorem text_stable : text.Stable 0 := fun _ _ _ _ _ _ => text_readsBack _ _

/-! ### Options -/

variable {item : Codec α} {depth height : Nat}

theorem option_readsBack_none (item : Codec α) (depth : Nat) :
    (option item).ReadsBack depth none := fun _ _ _ => rfl

theorem option_readsBack_some {x : α} (hnull : item.toValue x ≠ .null)
    (h : item.ReadsBack depth x) : (option item).ReadsBack depth (some x) := by
  intro hintegral tail htail
  replace hintegral : (item.toValue x).integral := hintegral
  have hx := h hintegral tail htail
  obtain ⟨c, cs, heq, hspace, -, hn⟩ := Value.chars_eq_cons hintegral
  show Reader.option item.read depth ((item.toValue x).chars ++ tail) = _
  rw [heq, List.cons_append] at hx ⊢
  rw [Reader.option, dropSpace_cons hspace]
  split
  · rename_i hword
    cases hword
    exact absurd (hn rfl) hnull
  · show (item.read depth _).bind _ = _
    rw [hx]
    rfl

theorem Stable.option (h : item.Stable height) (hnull : ∀ x, item.toValue x ≠ .null) :
    (option item).Stable height := by
  intro depth cs rest x hdepth hread
  simp only [Codec.option, Reader.option] at hread
  split at hread
  · obtain ⟨_, -, hread⟩ := exists_of_bind_eq_ok hread
    cases hread
    exact option_readsBack_none item depth
  · obtain ⟨⟨y, _⟩, hy, hread⟩ := exists_of_bind_eq_ok hread
    cases hread
    exact option_readsBack_some (hnull y) (h hdepth hy)

/-! ### Lists and dictionaries -/

theorem list_readsBack {xs : List α} (h : ∀ x ∈ xs, item.ReadsBack depth x) :
    (list item).ReadsBack (depth + 1) xs := by
  intro hintegral tail _
  have hitems : ∀ x ∈ xs, (item.toValue x).integral := by
    simpa [list, List.all_eq_true] using hintegral
  have hagain := readItems_bracketed (fun x => (item.toValue x).chars)
    (fun x hx => Value.opens_chars (hitems x hx)) (fun x hx => h x hx (hitems x hx)) tail
  have htext : ((list item).toValue xs).chars ++ tail =
      '[' :: (listed true (xs.map fun x => (item.toValue x).chars) ++ ']' :: tail) := by
    simp only [list, Value.chars_array, bracketed_append, List.map_map, Function.comp_def]
  rw [htext]
  exact hagain

theorem dict_readsBack {d : Dict α} (h : ∀ m ∈ d.entries, item.ReadsBack depth m.2) :
    (dict item).ReadsBack (depth + 1) d := by
  intro hintegral tail _
  have hitems : ∀ m ∈ d.entries, (item.toValue m.2).integral := by
    simpa [dict, List.all_eq_true] using hintegral
  have hagain := readMembers_bracketed (fun x => (item.toValue x).chars)
    (fun m hm => h m hm (hitems m hm)) tail
  have htext : ((dict item).toValue d).chars ++ tail = '\x7b' ::
      (listed true (d.entries.map fun m => memberText m.1 (item.toValue m.2).chars) ++
        '\x7d' :: tail) := by
    simp only [dict, Value.chars_object, bracketed_append, List.map_map, Function.comp_def]
  rw [htext]
  show (readMembers (item.read depth) _ _ _).bind _ = _
  rw [hagain]
  simp only [Except.bind, Dict.ofList_entries]

theorem exists_of_enter {depth inner : Nat} (h : enter depth = .ok inner) : depth = inner + 1 := by
  cases depth with
  | zero => cases h
  | succ depth =>
    cases h
    rfl

theorem Stable.list (h : item.Stable height) : (list item).Stable (height + 1) := by
  intro depth cs rest xs hdepth hread
  simp only [Codec.list, Reader.list] at hread
  split at hread
  · obtain ⟨inner, henter, hitems⟩ := exists_of_bind_eq_ok hread
    obtain rfl := exists_of_enter henter
    refine list_readsBack fun x hx => ?_
    obtain ⟨_, _, hitem⟩ := exists_of_mem_readItems hitems hx
    exact h (Nat.le_of_succ_le_succ hdepth) hitem
  · cases hread

theorem Stable.dict (h : item.Stable height) : (dict item).Stable (height + 1) := by
  intro depth cs rest d hdepth hread
  simp only [Codec.dict, Reader.dict] at hread
  split at hread
  · obtain ⟨inner, henter, hrest⟩ := exists_of_bind_eq_ok hread
    obtain rfl := exists_of_enter henter
    obtain ⟨⟨members, _⟩, hmembers, hdict⟩ := exists_of_bind_eq_ok hrest
    cases hdict
    refine dict_readsBack fun m hm => ?_
    obtain ⟨_, _, hitem⟩ := exists_of_mem_readMembers hmembers (Dict.mem_of_mem_ofList hm)
    exact h (Nat.le_of_succ_le_succ hdepth) hitem
  · cases hread

/-! ### Integral values -/

@[simp] theorem integral_text (s : String) : (text.toValue s).integral = true := rfl

@[simp] theorem integral_any (v : Value) : (any.toValue v).integral = v.integral := rfl

@[simp] theorem integral_option (item : Codec α) (x : Option α) :
    ((option item).toValue x).integral = x.all fun x => (item.toValue x).integral := by
  cases x <;> rfl

@[simp] theorem integral_list (item : Codec α) (xs : List α) :
    ((list item).toValue xs).integral = xs.all fun x => (item.toValue x).integral := by
  simp [list, Function.comp_def]

@[simp] theorem integral_dict (item : Codec α) (d : Dict α) :
    ((dict item).toValue d).integral = d.entries.all fun m => (item.toValue m.2).integral := by
  simp [dict, Function.comp_def]

/-! ### Whole texts -/

/-- The compact text of what was decoded decodes to the same. -/
theorem Stable.decode_encode {codec : Codec α} (h : codec.Stable height) (hle : height ≤ maxNesting)
    {text : String} {x : α} (hdecode : codec.decode text = .ok x)
    (hintegral : (codec.toValue x).integral) : codec.decode (codec.encode x) = .ok x := by
  obtain ⟨⟨y, rest⟩, hread, hend⟩ := exists_of_bind_eq_ok hdecode
  simp only at hend
  split at hend
  · cases hend
    have hagain := h hle hread hintegral [] delimited_nil
    rw [List.append_nil] at hagain
    rw [decode, readWhole, encode, Value.render, String.toList_ofList]
    show (codec.read maxNesting _).bind _ = _
    rw [hagain]
    rfl
  · cases hend

end ServiceBroker.Json.Codec
