import ServiceBroker.Proofs.JsonText
import ServiceBroker.Proofs.Outcome

/-!
Arrays and objects written item by item are read item by item. What is asked of an item is that it
is read from its own text, in front of anything that can follow it between brackets.
-/

namespace ServiceBroker.Json

variable {α : Type}

/-! ### Items between brackets -/

def parted (first : Bool) (text : List Char) : List Char := if first then text else ',' :: text

/-- The texts of the items that are left, the first of them perhaps the first of all. -/
def listed : Bool → List (List Char) → List Char
  | _, [] => []
  | first, text :: texts => parted first text ++ listed false texts

theorem listed_false (texts : List (List Char)) :
    listed false texts = texts.flatMap (',' :: ·) := by
  induction texts with
  | nil => rfl
  | cons text texts ih => simp [listed, parted, ih]

theorem bracketed_append (opening closing : Char) (texts : List (List Char)) (rest : List Char) :
    bracketed opening closing texts ++ rest =
      opening :: (listed true texts ++ closing :: rest) := by
  cases texts with
  | nil => rfl
  | cons text texts => simp [bracketed, listed, parted, listed_false]

theorem bracketed_eq_cons (opening closing : Char) (texts : List (List Char)) :
    ∃ cs, bracketed opening closing texts = opening :: cs := by
  cases texts with
  | nil => exact ⟨_, rfl⟩
  | cons text texts => exact ⟨_, rfl⟩

theorem delimited_listed {closing : Char} (h : closing = ']' ∨ closing = '\x7d')
    (texts : List (List Char)) (rest : List Char) :
    Delimited (listed false texts ++ closing :: rest) := by
  cases texts with
  | nil => rcases h with rfl | rfl <;> simp [listed, Delimited]
  | cons text texts => simp [listed, parted, Delimited]

theorem length_le_listed {texts : List (List Char)} (h : ∀ text ∈ texts, text ≠ []) (first : Bool) :
    texts.length ≤ (listed first texts).length := by
  induction texts generalizing first with
  | nil => exact Nat.zero_le _
  | cons text texts ih =>
    have htext : 0 < text.length := List.length_pos_iff.mpr (h text List.mem_cons_self)
    have hrest := ih (fun t ht => h t (List.mem_cons_of_mem _ ht)) false
    have hparted : text.length ≤ (parted first text).length := by
      unfold parted
      split <;> simp
    simp only [listed, List.length_append, List.length_cons]
    omega

/-- An array or an object has more characters than items, so its budget does not run out. -/
theorem length_lt_budget {texts : List (List Char)} (h : ∀ text ∈ texts, text ≠ []) (opening : Char)
    (rest : List Char) : texts.length < (opening :: (listed true texts ++ rest)).length := by
  have hlength := length_le_listed h true
  rw [List.length_cons, List.length_append]
  omega

def Opens (text : List Char) : Prop := ∃ c cs, text = c :: cs ∧ isSpace c = false ∧ c ≠ ']'

theorem Opens.ne_nil {text : List Char} (h : Opens text) : text ≠ [] := by
  obtain ⟨c, cs, rfl, -⟩ := h
  exact List.cons_ne_nil c cs

theorem dropSpace_cons {c : Char} (h : isSpace c = false) (cs : List Char) :
    dropSpace (c :: cs) = c :: cs := by simp [dropSpace, h]

/-! ### Arrays -/

theorem listStep_comma (cs : List Char) :
    listStep false (',' :: cs) =
      match dropSpace cs with
      | [] => .error (.cut .value)
      | ']' :: _ => .error (.syntactic .trailingComma)
      | rest => .ok (.more () rest) := rfl

theorem listStep_parted {text : List Char} (h : Opens text) (first : Bool) (rest : List Char) :
    listStep first (parted first text ++ rest) = .ok (.more () (text ++ rest)) := by
  obtain ⟨c, cs, rfl, hspace, hclosing⟩ := h
  have hbracket : ∀ tail, c :: (cs ++ rest) ≠ ']' :: tail := by
    rintro tail heq
    cases heq
    exact hclosing rfl
  cases first with
  | true =>
    rw [parted, if_pos rfl, List.cons_append, listStep, dropSpace_cons hspace]
    split
    case h_1 heq => cases heq
    case h_2 heq => exact absurd heq (hbracket _)
    case h_3 heq =>
      cases heq
      rfl
  | false =>
    rw [parted, if_neg Bool.false_ne_true, List.cons_append, listStep_comma, List.cons_append,
      dropSpace_cons hspace]
    split
    case h_1 heq => cases heq
    case h_2 heq => exact absurd heq (hbracket _)
    case h_3 => rfl

theorem readItems_listed {item : List Char → Except Fault (α × List Char)} {text : α → List Char}
    {xs : List α} (hopens : ∀ x ∈ xs, Opens (text x))
    (hitem : ∀ x ∈ xs, ∀ rest, Delimited rest → item (text x ++ rest) = .ok (x, rest))
    {budget : List Char} (hbudget : xs.length < budget.length) (first : Bool) (rest : List Char) :
    readItems item budget first (listed first (xs.map text) ++ ']' :: rest) = .ok (xs, rest) := by
  induction xs generalizing budget first with
  | nil =>
    obtain ⟨_, _, rfl⟩ := List.exists_cons_of_length_pos hbudget
    rfl
  | cons x xs ih =>
    obtain ⟨_, budget, rfl⟩ := List.exists_cons_of_length_pos (Nat.zero_lt_of_lt hbudget)
    have hx := hitem x List.mem_cons_self _ (delimited_listed (.inl rfl) (xs.map text) rest)
    have hxs := ih (fun y hy => hopens y (List.mem_cons_of_mem _ hy))
      (fun y hy => hitem y (List.mem_cons_of_mem _ hy)) (Nat.lt_of_succ_lt_succ hbudget) false
    simp only [readItems, List.map_cons, listed, List.append_assoc,
      listStep_parted (hopens x List.mem_cons_self), hx, hxs, bind, Except.bind]

/-- Items read one by one from their own texts are read from the text of the array. -/
theorem readItems_bracketed {item : List Char → Except Fault (α × List Char)}
    (text : α → List Char) {xs : List α} (hopens : ∀ x ∈ xs, Opens (text x))
    (hitem : ∀ x ∈ xs, ∀ rest, Delimited rest → item (text x ++ rest) = .ok (x, rest))
    (rest : List Char) :
    readItems item ('[' :: (listed true (xs.map text) ++ ']' :: rest)) true
      (listed true (xs.map text) ++ ']' :: rest) = .ok (xs, rest) := by
  have hne : ∀ t ∈ xs.map text, t ≠ [] := by
    intro t ht
    obtain ⟨x, hx, rfl⟩ := List.mem_map.mp ht
    exact (hopens x hx).ne_nil
  refine readItems_listed hopens hitem ?_ true rest
  simpa using length_lt_budget hne '[' (']' :: rest)

theorem exists_of_mem_readItems {item : List Char → Except Fault (α × List Char)}
    {budget : List Char} {first : Bool} {cs rest : List Char} {xs : List α}
    (h : readItems item budget first cs = .ok (xs, rest)) {x : α} (hx : x ∈ xs) :
    ∃ cs' rest', item cs' = .ok (x, rest') := by
  induction budget generalizing first cs xs with
  | nil => cases h
  | cons _ budget ih =>
    obtain ⟨step, -, h⟩ := exists_of_bind_eq_ok h
    cases step with
    | closed rest' =>
      cases h
      cases hx
    | more _ rest' =>
      obtain ⟨⟨y, rest''⟩, hy, h⟩ := exists_of_bind_eq_ok h
      obtain ⟨⟨ys, rest'''⟩, hys, h⟩ := exists_of_bind_eq_ok h
      cases h
      rcases List.mem_cons.mp hx with rfl | hx
      · exact ⟨_, _, hy⟩
      · exact ih hys hx

/-! ### Objects -/

theorem readKey_written (key : String) (rest : List Char) :
    readKey (key.toList.flatMap charText ++ '"' :: rest) = .ok (.more key rest) := by
  simp only [readKey, readText_written, bind, Except.bind, String.ofList_toList]

theorem objectStep_parted (key : String) (value : List Char) (first : Bool) (rest : List Char) :
    objectStep first (parted first (memberText key value) ++ rest) =
      .ok (.more key (':' :: value ++ rest)) := by
  have htext : memberText key value ++ rest =
      '"' :: (key.toList.flatMap charText ++ '"' :: (':' :: value ++ rest)) := by
    rw [memberText, List.append_assoc, quotedText_append]
  cases first with
  | true =>
    rw [parted, if_pos rfl, htext]
    exact readKey_written key _
  | false =>
    rw [parted, if_neg Bool.false_ne_true, List.cons_append, htext]
    exact readKey_written key _

theorem memberText_ne_nil (key : String) (value : List Char) : memberText key value ≠ [] := by
  simp [memberText, quotedText]

theorem readColon_cons (rest : List Char) : readColon (':' :: rest) = .ok rest := rfl

theorem readMembers_listed {item : List Char → Except Fault (α × List Char)} {text : α → List Char}
    {members : List (String × α)}
    (hitem : ∀ m ∈ members, ∀ rest, Delimited rest → item (text m.2 ++ rest) = .ok (m.2, rest))
    {budget : List Char} (hbudget : members.length < budget.length) (first : Bool)
    (rest : List Char) :
    readMembers item budget first
      (listed first (members.map fun m => memberText m.1 (text m.2)) ++ '\x7d' :: rest) =
        .ok (members, rest) := by
  induction members generalizing budget first with
  | nil =>
    obtain ⟨_, _, rfl⟩ := List.exists_cons_of_length_pos hbudget
    cases first <;> rfl
  | cons m members ih =>
    obtain ⟨_, budget, rfl⟩ := List.exists_cons_of_length_pos (Nat.zero_lt_of_lt hbudget)
    have hm := hitem m List.mem_cons_self _ (delimited_listed (.inr rfl)
      (members.map fun m => memberText m.1 (text m.2)) rest)
    have hmembers := ih (fun m' hm' => hitem m' (List.mem_cons_of_mem _ hm'))
      (Nat.lt_of_succ_lt_succ hbudget) false
    simp only [readMembers, List.map_cons, listed, List.append_assoc, objectStep_parted,
      List.cons_append, readColon_cons, hm, hmembers, bind, Except.bind]

theorem readMembers_bracketed {item : List Char → Except Fault (α × List Char)}
    (text : α → List Char) {members : List (String × α)}
    (hitem : ∀ m ∈ members, ∀ rest, Delimited rest → item (text m.2 ++ rest) = .ok (m.2, rest))
    (rest : List Char) :
    let texts := members.map fun m => memberText m.1 (text m.2)
    readMembers item ('\x7b' :: (listed true texts ++ '\x7d' :: rest)) true
      (listed true texts ++ '\x7d' :: rest) = .ok (members, rest) := by
  intro texts
  have hne : ∀ t ∈ texts, t ≠ [] := by
    intro t ht
    obtain ⟨m, -, rfl⟩ := List.mem_map.mp ht
    exact memberText_ne_nil m.1 (text m.2)
  refine readMembers_listed hitem ?_ true rest
  simpa [texts] using length_lt_budget hne '\x7b' ('\x7d' :: rest)

theorem exists_of_mem_readMembers {item : List Char → Except Fault (α × List Char)}
    {budget : List Char} {first : Bool} {cs rest : List Char} {members : List (String × α)}
    (h : readMembers item budget first cs = .ok (members, rest)) {m : String × α}
    (hm : m ∈ members) : ∃ cs' rest', item cs' = .ok (m.2, rest') := by
  induction budget generalizing first cs members with
  | nil => cases h
  | cons _ budget ih =>
    obtain ⟨step, -, h⟩ := exists_of_bind_eq_ok h
    cases step with
    | closed rest' =>
      cases h
      cases hm
    | more key rest' =>
      obtain ⟨value, -, h⟩ := exists_of_bind_eq_ok h
      obtain ⟨⟨y, rest''⟩, hy, h⟩ := exists_of_bind_eq_ok h
      obtain ⟨⟨ys, rest'''⟩, hys, h⟩ := exists_of_bind_eq_ok h
      cases h
      rcases List.mem_cons.mp hm with rfl | hm
      · exact ⟨_, _, hy⟩
      · exact ih hys hm

end ServiceBroker.Json
