import Mathlib.Data.List.DropRight
import ServiceBroker.Proofs.TypedArguments

/-!
Lists of texts that are given as one text, with commas between the items. Blanks around an item and
items that are all blank make no difference, so a text of items means the same as the list of them;
a list is taken as it is.
-/

namespace ServiceBroker

open Json (Value View)

/-! ## Trimmed texts -/

namespace Text

structure Trimmed (s : List Char) : Prop where
  first : ∀ c ∈ s.head?, isBlank c = false
  last : ∀ c ∈ s.getLast?, isBlank c = false

theorem trim_eq (s : List Char) : trim s = (s.dropWhile isBlank).rdropWhile isBlank := rfl

theorem dropWhile_blanks {before rest : List Char} (hbefore : ∀ c ∈ before, isBlank c)
    (hfirst : ∀ c ∈ rest.head?, isBlank c = false) : (before ++ rest).dropWhile isBlank = rest := by
  rw [List.dropWhile_append_of_pos hbefore]
  cases rest with
  | nil => rfl
  | cons c rest => simp [hfirst c rfl]

/-- What was put around a trimmed text is dropped. -/
theorem Trimmed.trim_padded {before s after : List Char} (h : Trimmed s) (hsome : s ≠ [])
    (hbefore : ∀ c ∈ before, isBlank c) (hafter : ∀ c ∈ after, isBlank c) :
    trim (before ++ s ++ after) = s := by
  have hfirst : ∀ c ∈ (s ++ after).head?, isBlank c = false := by
    rw [List.head?_append_of_ne_nil _ hsome]
    exact h.first
  have hlast : ∀ c ∈ s.reverse.head?, isBlank c = false := by
    rw [List.head?_reverse]
    exact h.last
  have hreversed : ∀ c ∈ after.reverse, isBlank c := by simpa using hafter
  rw [trim, List.append_assoc, dropWhile_blanks hbefore hfirst, List.reverse_append,
    dropWhile_blanks hreversed hlast, List.reverse_reverse]

theorem trim_eq_nil {s : List Char} (h : ∀ c ∈ s, isBlank c) : trim s = [] := by
  rw [trim_eq, List.dropWhile_eq_nil_iff.mpr h, List.rdropWhile_nil]

theorem trimmed_trim (s : List Char) : Trimmed (trim s) := by
  rw [trim_eq]
  constructor
  case first =>
    intro c hc
    -- Nothing is dropped at the end before the first character that is kept.
    obtain ⟨after, hafter⟩ := List.rdropWhile_prefix isBlank (s.dropWhile isBlank)
    have hfirst : (s.dropWhile isBlank).head? = some c := by
      rw [← hafter, List.head?_append, Option.mem_def.mp hc]
      rfl
    simpa [hfirst] using List.head?_dropWhile_not isBlank s
  case last =>
    intro c hc
    obtain ⟨hsome, rfl⟩ := List.mem_getLast?_eq_getLast hc
    simpa using List.rdropWhile_last_not isBlank (s.dropWhile isBlank) hsome

theorem mem_of_mem_trim {c : Char} {s : List Char} (h : c ∈ trim s) : c ∈ s := by
  have hend := (List.rdropWhile_prefix isBlank (s.dropWhile isBlank)).subset h
  exact (List.dropWhile_suffix isBlank).subset hend

/-- A text is what is left of it when it is trimmed, with blanks around it. -/
theorem exists_padding (s : List Char) :
    ∃ before after, s = before ++ trim s ++ after ∧ (∀ c ∈ before, isBlank c) ∧
      ∀ c ∈ after, isBlank c := by
  refine ⟨s.takeWhile isBlank, (s.dropWhile isBlank).rtakeWhile isBlank, ?_, ?_, ?_⟩
  · rw [trim_eq, List.append_assoc, List.rdropWhile_append_rtakeWhile,
      List.takeWhile_append_dropWhile]
  · exact fun c => List.mem_takeWhile_imp
  · exact fun c => List.mem_rtakeWhile_imp

/-! ## Pieces of a text -/

theorem splitAt_eq_splitOn (separator : Char) (s : List Char) :
    splitAt separator s = s.splitOn separator := by
  induction s with
  | nil => rfl
  | cons c s ih =>
    obtain ⟨piece, pieces, hsplit⟩ := List.exists_cons_of_ne_nil (List.splitOn_ne_nil separator s)
    rw [splitAt, ih, List.splitOn_cons_eq_if_modifyHead, hsplit]
    by_cases hc : c = separator <;> simp [hc]

theorem not_mem_of_mem_splitOn {separator : Char} {s piece : List Char}
    (h : piece ∈ s.splitOn separator) : separator ∉ piece := by
  induction s generalizing piece with
  | nil =>
    rw [List.splitOn_nil, List.mem_singleton] at h
    simp [h]
  | cons c s ih =>
    obtain ⟨first, pieces, hsplit⟩ := List.exists_cons_of_ne_nil (List.splitOn_ne_nil separator s)
    rw [List.splitOn_cons_eq_if_modifyHead, hsplit] at h
    rw [hsplit, List.forall_mem_cons] at ih
    by_cases hc : c = separator
    · rw [if_pos (beq_iff_eq.mpr hc), List.mem_cons, List.mem_cons] at h
      rcases h with rfl | rfl | h
      · simp
      · exact ih.1
      · exact ih.2 piece h
    · rw [if_neg (beq_iff_eq.not.mpr hc), List.modifyHead_cons, List.mem_cons] at h
      rcases h with rfl | h
      · simp [Ne.symm hc, ih.1]
      · exact ih.2 piece h

end Text

/-! ## Items -/

namespace Extension

open Text (isBlank Trimmed)

/-- The text can stand as an item between commas and comes out as it is. -/
structure IsItem (item : String) : Prop where
  ne_empty : item ≠ ""
  plain : ',' ∉ item.toList
  trimmed : Trimmed item.toList

/-- The pieces are the items, with blanks around them, and pieces of nothing but blanks. -/
inductive Parts : List String → List String → Prop where
  | nil : Parts [] []
  | blank {piece : String} {pieces items : List String} (blanks : ∀ c ∈ piece.toList, isBlank c)
      (rest : Parts pieces items) : Parts (piece :: pieces) items
  | item {before item after : String} {pieces items : List String}
      (blanksBefore : ∀ c ∈ before.toList, isBlank c) (isItem : IsItem item)
      (blanksAfter : ∀ c ∈ after.toList, isBlank c) (rest : Parts pieces items) :
      Parts ((before ++ item ++ after) :: pieces) (item :: items)

def kept (pieces : List (List Char)) : List String :=
  ((pieces.map Text.trim).filter (!·.isEmpty)).map String.ofList

theorem splitItems_eq (s : String) : splitItems s = kept (s.toList.splitOn ',') := by
  rw [splitItems, Text.splitAt_eq_splitOn, kept]

theorem kept_blank {piece : List Char} (h : Text.trim piece = []) (pieces : List (List Char)) :
    kept (piece :: pieces) = kept pieces := by
  simp [kept, h]

theorem kept_some {piece : List Char} (h : Text.trim piece ≠ []) (pieces : List (List Char)) :
    kept (piece :: pieces) = String.ofList (Text.trim piece) :: kept pieces := by
  simp [kept, h]

theorem not_comma_of_blanks {piece : List Char} (h : ∀ c ∈ piece, isBlank c) : ',' ∉ piece := by
  intro hmem
  have hcomma : isBlank ',' = false := by decide
  simp [h ',' hmem] at hcomma

theorem Parts.plain {pieces items : List String} (h : Parts pieces items) :
    ∀ piece ∈ pieces, ',' ∉ piece.toList := by
  induction h with
  | nil => simp
  | blank blanks _ ih => exact List.forall_mem_cons.mpr ⟨not_comma_of_blanks blanks, ih⟩
  | item blanksBefore isItem blanksAfter _ ih =>
    refine List.forall_mem_cons.mpr ⟨?_, ih⟩
    simp [not_comma_of_blanks blanksBefore, isItem.plain, not_comma_of_blanks blanksAfter]

theorem Parts.kept_eq {pieces items : List String} (h : Parts pieces items) :
    kept (pieces.map String.toList) = items := by
  induction h with
  | nil => rfl
  | blank blanks _ ih => rw [List.map_cons, kept_blank (Text.trim_eq_nil blanks), ih]
  | @item before item after _ _ blanksBefore isItem blanksAfter _ ih =>
    have hsome : item.toList ≠ [] := by simpa using isItem.ne_empty
    have htrim : Text.trim (before ++ item ++ after).toList = item.toList := by
      simpa using isItem.trimmed.trim_padded hsome blanksBefore blanksAfter
    rw [List.map_cons, kept_some (by rwa [htrim]), htrim, String.ofList_toList, ih]

theorem Parts.splitItems_eq {pieces items : List String} (h : Parts pieces items) :
    splitItems (",".intercalate pieces) = items := by
  rw [Extension.splitItems_eq, String.toList_intercalate]
  by_cases hempty : pieces = []
  · subst hempty
    cases h
    rfl
  · have hplain : ∀ piece ∈ pieces.map String.toList, ',' ∉ piece := by simpa using h.plain
    have hsome : pieces.map String.toList ≠ [] := by simpa using hempty
    have hcomma : ",".toList = [','] := rfl
    rw [hcomma, List.splitOn_intercalate ',' hplain hsome, h.kept_eq]

/-! ## Every text is one of items -/

theorem isItem_trim {piece : List Char} (h : ',' ∉ piece) (hsome : Text.trim piece ≠ []) :
    IsItem (String.ofList (Text.trim piece)) := by
  constructor
  case ne_empty => simpa using hsome
  case plain =>
    rw [String.toList_ofList]
    exact fun hcomma => h (Text.mem_of_mem_trim hcomma)
  case trimmed =>
    rw [String.toList_ofList]
    exact Text.trimmed_trim piece

/-- Pieces without commas are items with blanks around them, and blanks. -/
theorem parts_kept {pieces : List (List Char)} (h : ∀ piece ∈ pieces, ',' ∉ piece) :
    Parts (pieces.map String.ofList) (kept pieces) := by
  induction pieces with
  | nil => exact .nil
  | cons piece pieces ih =>
    rw [List.forall_mem_cons] at h
    obtain ⟨before, after, hpiece, hbefore, hafter⟩ := Text.exists_padding piece
    by_cases hempty : Text.trim piece = []
    · rw [kept_blank hempty, List.map_cons]
      rw [hempty, List.append_nil] at hpiece
      have hblanks : ∀ c ∈ (String.ofList piece).toList, isBlank c := by
        simpa [hpiece, or_imp, forall_and] using And.intro hbefore hafter
      exact .blank hblanks (ih h.2)
    · have hpadded : String.ofList piece =
          String.ofList before ++ String.ofList (Text.trim piece) ++ String.ofList after := by
        rw [← String.ofList_append, ← String.ofList_append, ← hpiece]
      rw [kept_some hempty, List.map_cons, hpadded]
      apply Parts.item _ (isItem_trim h.1 hempty) _ (ih h.2)
      · simpa using hbefore
      · simpa using hafter

theorem exists_parts (s : String) :
    ∃ pieces, ",".intercalate pieces = s ∧ Parts pieces (splitItems s) := by
  refine ⟨(s.toList.splitOn ',').map String.ofList, ?_, ?_⟩
  · have hcomma : ",".toList = [','] := rfl
    rw [← String.toList_inj, String.toList_intercalate, List.map_map, hcomma]
    have hid : String.toList ∘ String.ofList = id := funext fun cs => String.toList_ofList
    rw [hid, List.map_id, List.intercalate_splitOn]
  · rw [splitItems_eq]
    exact parts_kept fun piece => Text.not_mem_of_mem_splitOn

theorem Parts.isItem {pieces items : List String} (h : Parts pieces items) :
    ∀ item ∈ items, IsItem item := by
  induction h with
  | nil => simp
  | blank _ _ ih => exact ih
  | item _ isItem _ _ ih => exact List.forall_mem_cons.mpr ⟨isItem, ih⟩

theorem parts_self {items : List String} (h : ∀ item ∈ items, IsItem item) : Parts items items := by
  induction items with
  | nil => exact .nil
  | cons item items ih =>
    rw [List.forall_mem_cons] at h
    have hnone : ∀ c ∈ "".toList, isBlank c := by simp
    simpa using Parts.item hnone h.1 hnone (ih h.2)

/-! ## Reading -/

theorem stringOrList_listed (items : List String) :
    stringOrList (.array (items.map .text)) = .ok items :=
  FieldType.texts_eq_ok_iff.mpr (.inr rfl)

theorem stringOrList_error {value : Value} (htext : ∀ s, value ≠ .text s)
    (hlist : ∀ items : List String, value ≠ .array (items.map .text)) :
    stringOrList value = .error .stringOrList := by
  cases value with
  | text s => exact absurd rfl (htext s)
  | array values =>
    cases hread : values.mapM View.text with
    | error fault => simp [stringOrList, hread, Except.mapError]
    | ok items =>
      rw [FieldType.mapM_text_eq_ok_iff] at hread
      exact absurd (congrArg Value.array hread) (hlist items)
  | _ => rfl

/-- A text of items with commas between them is read as the list of the items is, however many
blanks stand around them and however many items are blank. Every text is such a text: the items it
is read as are trimmed and without commas, and their text is read as the same items again. A list of
texts is read as it is, and nothing else is read. -/
theorem stringOrList_joined_or_listed :
    (∀ pieces items, Parts pieces items →
      stringOrList (.text (",".intercalate pieces)) = stringOrList (.array (items.map .text))) ∧
    (∀ s, ∃ items, stringOrList (.text s) = .ok items ∧
      (∃ pieces, ",".intercalate pieces = s ∧ Parts pieces items) ∧ (∀ item ∈ items, IsItem item) ∧
      stringOrList (.text (",".intercalate items)) = .ok items) ∧
    (∀ items : List String, stringOrList (.array (items.map .text)) = .ok items) ∧
    ∀ value, (∀ s, value ≠ .text s) → (∀ items : List String, value ≠ .array (items.map .text)) →
      stringOrList value = .error .stringOrList := by
  refine ⟨?joined, ?text, stringOrList_listed, fun value => stringOrList_error⟩
  case joined =>
    intro pieces items h
    rw [stringOrList_listed, stringOrList, h.splitItems_eq]
  case text =>
    intro s
    obtain ⟨pieces, hs, hparts⟩ := exists_parts s
    have hagain := (parts_self hparts.isItem).splitItems_eq
    exact ⟨splitItems s, rfl, ⟨pieces, hs, hparts⟩, hparts.isItem, by rw [stringOrList, hagain]⟩

/-- Two items with a tab, a space and an ideographic space around them, and blank ones. -/
theorem stringOrList_joined_or_listed_staged :
    stringOrList (.text "\tcount, upsert\u3000,, ") = .ok ["count", "upsert"] ∧
      stringOrList (.array [.text " a,b ", .text ""]) = .ok [" a,b ", ""] ∧
      stringOrList (.array [.text "count", .null]) = .error .stringOrList := by
  obtain ⟨hjoined, -, hlisted, herror⟩ := stringOrList_joined_or_listed
  have hcount : IsItem "count" := by
    refine ⟨by simp, by simp, ?_, ?_⟩ <;> simp [isBlank, Text.blankRanges, Text.Ranges.contains]
  have hupsert : IsItem "upsert" := by
    refine ⟨by simp, by simp, ?_, ?_⟩ <;> simp [isBlank, Text.blankRanges, Text.Ranges.contains]
  have htab : ∀ c ∈ "\t".toList, isBlank c := List.all_eq_true.mp rfl
  have hspace : ∀ c ∈ " ".toList, isBlank c := List.all_eq_true.mp rfl
  have hwide : ∀ c ∈ "\u3000".toList, isBlank c := List.all_eq_true.mp rfl
  have hnone : ∀ c ∈ "".toList, isBlank c := List.all_eq_true.mp rfl
  have hparts : Parts ["\t" ++ "count" ++ "", " " ++ "upsert" ++ "\u3000", "", " "]
      ["count", "upsert"] :=
    .item htab hcount hnone <| .item hspace hupsert hwide <| .blank hnone <| .blank hspace .nil
  refine ⟨(hjoined _ _ hparts).trans (hlisted _), hlisted [" a,b ", ""], herror _ (by simp) ?_⟩
  intro items h
  cases items with
  | nil => simp at h
  | cons first rest => cases rest <;> simp at h

end Extension

end ServiceBroker
