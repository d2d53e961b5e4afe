import Mathlib.Data.List.Pairwise
import ServiceBroker.Json.Record
import ServiceBroker.Proofs.Codecs

/-!
Records that read back. A record is seen as parts that are changed one without the others and leave
nothing of it out. However such a record was given, each of its parts was either read or left blank,
so the object with all its fields is read as the same record.
-/

namespace ServiceBroker.Json

variable {S : Type}

/-- A field with the codec that it is made from and the part of the record that it stands for. -/
structure Part (S : Type) where
  optional : Bool
  name : String
  {α : Type}
  codec : Codec α
  get : S → α
  put : α → S → S

namespace Part

def field (p : Part S) : Field S := .make p.optional p.name p.codec p.get p.put

def value (p : Part S) (s : S) : Value := p.codec.toValue (p.get s)

def Apart (p q : Part S) : Prop :=
  (∀ x s, p.get (q.put x s) = p.get s) ∧ ∀ x s, q.get (p.put x s) = q.get s

instance : Std.Symm (Apart : Part S → Part S → Prop) := ⟨fun _ _ h => ⟨h.2, h.1⟩⟩

/-- Whatever the codec of the part read reads back, and so does what the blank record holds. -/
structure Fits (p : Part S) (blank : S) (height : Nat) : Prop where
  stable : p.codec.Stable height
  blank : ∀ {depth : Nat}, height ≤ depth → p.codec.ReadsBack depth (p.get blank)

def Held (parts : List (Part S)) (depth : Nat) (s : S) : Prop :=
  ∀ p ∈ parts, p.codec.ReadsBack depth (p.get s)

/-- The parts are named and changed each for itself, and a record is what its parts make of the
blank one. -/
structure Whole (parts : List (Part S)) (blank : S) : Prop where
  names : (parts.map (·.name)).Nodup
  apart : parts.Pairwise Apart
  get_put : ∀ p ∈ parts, ∀ x s, p.get (p.put x s) = x
  refill : ∀ s, parts.foldl (fun t p => p.put (p.get s) t) blank = s

variable {parts : List (Part S)} {blank : S} {depth height : Nat}

theorem Whole.held_put (hwhole : Whole parts blank) {p : Part S} (hp : p ∈ parts) {x : p.α}
    (hx : p.codec.ReadsBack depth x) {s : S} (hs : Held parts depth s) :
    Held parts depth (p.put x s) := by
  intro q hq
  by_cases heq : q = p
  · subst heq
    rw [hwhole.get_put q hq]
    exact hx
  · rw [(hwhole.apart.forall hq hp heq).1]
    exact hs q hq

theorem Whole.held_change (hwhole : Whole parts blank) (hfits : ∀ p ∈ parts, p.Fits blank height)
    (hdepth : height ≤ depth) {field : Field S} (hfield : field ∈ parts.map Part.field)
    {cs rest : List Char} {change : S → S} (hread : field.read depth cs = .ok (change, rest))
    {s : S} (hs : Held parts depth s) : Held parts depth (change s) := by
  obtain ⟨p, hp, rfl⟩ := List.mem_map.mp hfield
  obtain ⟨⟨x, _⟩, hx, hchange⟩ := exists_of_bind_eq_ok hread
  cases hchange
  exact hwhole.held_put hp ((hfits p hp).stable hdepth hx) hs

theorem Whole.held_of_recordMembers (hwhole : Whole parts blank)
    (hfits : ∀ p ∈ parts, p.Fits blank height) (hdepth : height ≤ depth)
    {budget cs rest : List Char} {first : Bool} {given given' : List String} {s s' : S}
    (h : Reader.recordMembers (parts.map Part.field) depth budget first given s cs =
      .ok (given', s', rest)) (hs : Held parts depth s) : Held parts depth s' := by
  induction budget generalizing first given s cs with
  | nil => cases h
  | cons _ budget ih =>
    obtain ⟨step, -, h⟩ := exists_of_bind_eq_ok h
    cases step with
    | closed rest' =>
      cases h
      exact hs
    | more key rest' =>
      simp only at h
      split at h
      · obtain ⟨_, -, h⟩ := exists_of_bind_eq_ok h
        obtain ⟨_, -, h⟩ := exists_of_bind_eq_ok h
        exact ih h hs
      · rename_i field hfind
        split at h
        · cases h
        · obtain ⟨_, -, h⟩ := exists_of_bind_eq_ok h
          obtain ⟨⟨change, _⟩, hread, h⟩ := exists_of_bind_eq_ok h
          exact ih h (hwhole.held_change hfits hdepth (List.mem_of_find?_eq_some hfind) hread hs)

theorem Whole.held_of_recordItems (hwhole : Whole parts blank)
    (hfits : ∀ p ∈ parts, p.Fits blank height) (hdepth : height ≤ depth) {expected : String}
    {fields : List (Field S)} (hfields : ∀ field ∈ fields, field ∈ parts.map Part.field)
    {index : Nat} {cs rest : List Char} {s s' : S}
    (h : Reader.recordItems expected depth fields index s cs = .ok (s', rest))
    (hs : Held parts depth s) : Held parts depth s' := by
  induction fields generalizing index s cs with
  | nil =>
    obtain ⟨_, -, h⟩ := exists_of_bind_eq_ok h
    cases h
    exact hs
  | cons field fields ih =>
    obtain ⟨step, -, h⟩ := exists_of_bind_eq_ok h
    cases step with
    | closed rest' =>
      simp only at h
      split at h
      · cases h
      · cases h
        exact hs
    | more _ rest' =>
      obtain ⟨⟨change, _⟩, hread, h⟩ := exists_of_bind_eq_ok h
      exact ih (fun f hf => hfields f (List.mem_cons_of_mem _ hf)) h
        (hwhole.held_change hfits hdepth (hfields field List.mem_cons_self) hread hs)

/-! ### Written records -/

theorem find?_field (hnames : (parts.map (·.name)).Nodup) {p : Part S} (hp : p ∈ parts) :
    (parts.map field).find? (·.name == p.name) = some p.field := by
  induction parts with
  | nil => cases hp
  | cons q parts ih =>
    obtain ⟨hq, hrest⟩ := List.nodup_cons.mp hnames
    rcases List.mem_cons.mp hp with rfl | hp
    · rw [List.map_cons, List.find?_cons_of_pos]
      exact beq_self_eq_true _
    · have hne : q.name ≠ p.name := fun heq =>
        hq (List.mem_map.mpr ⟨p, hp, heq.symm⟩)
      rw [List.map_cons, List.find?_cons_of_neg, ih hrest hp]
      exact fun h => hne (beq_iff_eq.mp h)

theorem field_read (p : Part S) {cs rest : List Char} {x : p.α}
    (h : p.codec.read depth cs = .ok (x, rest)) : p.field.read depth cs = .ok (p.put x, rest) := by
  show (p.codec.read depth cs).bind _ = _
  rw [h]
  rfl

/-- The members that are left of a written record, read one after another into `t`. The names given
so far are those of the members before, so no field is read twice. -/
theorem recordMembers_listed (hnames : (parts.map (·.name)).Nodup) {s : S}
    (hheld : Held parts depth s) (hintegral : ∀ p ∈ parts, (p.value s).integral)
    {later : List (Part S)} (hlater : ∀ p ∈ later, p ∈ parts) (hnodup : (later.map (·.name)).Nodup)
    {given : List String} (hgiven : ∀ p ∈ later, p.name ∉ given) {budget : List Char}
    (hbudget : later.length < budget.length) (first : Bool) (t : S) (rest : List Char) :
    Reader.recordMembers (parts.map field) depth budget first given t
      (listed first (later.map fun p => memberText p.name (p.value s).chars) ++ '\x7d' :: rest) =
        .ok ((later.map (·.name)).reverse ++ given,
          later.foldl (fun t p => p.put (p.get s) t) t, rest) := by
  induction later generalizing given budget first t with
  | nil =>
    obtain ⟨_, _, rfl⟩ := List.exists_cons_of_length_pos hbudget
    cases first <;> rfl
  | cons p later ih =>
    obtain ⟨_, budget, rfl⟩ := List.exists_cons_of_length_pos (Nat.zero_lt_of_lt hbudget)
    obtain ⟨hp, hnodup⟩ := List.nodup_cons.mp hnodup
    have hmem := hlater p List.mem_cons_self
    have hfree : given.contains p.name = false := by
      simpa using hgiven p List.mem_cons_self
    have hvalue : p.codec.read depth ((p.value s).chars ++ _) = .ok (p.get s, _) :=
      hheld p hmem (hintegral p hmem) _ (delimited_listed (.inr rfl)
        (later.map fun p => memberText p.name (p.value s).chars) rest)
    have hgiven' : ∀ q ∈ later, q.name ∉ p.name :: given := by
      intro q hq hmem
      rcases List.mem_cons.mp hmem with heq | hmem
      · exact hp (List.mem_map.mpr ⟨q, hq, heq⟩)
      · exact hgiven q (List.mem_cons_of_mem _ hq) hmem
    have hrest := ih (fun q hq => hlater q (List.mem_cons_of_mem _ hq)) hnodup hgiven'
      (Nat.lt_of_succ_lt_succ hbudget) false (p.put (p.get s) t)
    simp only [Reader.recordMembers, List.map_cons, listed, List.append_assoc, objectStep_parted,
      List.cons_append, readColon_cons, bind, Except.bind, find?_field hnames hmem, hfree,
      p.field_read hvalue, Bool.false_eq_true, if_false, hrest, List.reverse_cons, List.nil_append,
      List.foldl_cons]

/-- The members of a written record, read into the blank one. -/
theorem recordMembers_bracketed (hwhole : Whole parts blank) {s : S} (hheld : Held parts depth s)
    (hintegral : ∀ p ∈ parts, (p.value s).integral) (rest : List Char) :
    let texts := parts.map fun p => memberText p.name (p.value s).chars
    ∃ given, (∀ p ∈ parts, p.name ∈ given) ∧
      Reader.recordMembers (parts.map field) depth ('\x7b' :: (listed true texts ++ '\x7d' :: rest))
        true [] blank (listed true texts ++ '\x7d' :: rest) = .ok (given, s, rest) := by
  intro texts
  have hne : ∀ t ∈ texts, t ≠ [] := by
    intro t ht
    obtain ⟨p, -, rfl⟩ := List.mem_map.mp ht
    exact memberText_ne_nil p.name (p.value s).chars
  have hbudget : parts.length < ('\x7b' :: (listed true texts ++ '\x7d' :: rest)).length := by
    simpa [texts] using length_lt_budget hne '\x7b' ('\x7d' :: rest)
  have hread := recordMembers_listed hwhole.names hheld hintegral (fun _ hp => hp) hwhole.names
    (fun _ _ => List.not_mem_nil) hbudget true blank rest
  rw [hwhole.refill] at hread
  exact ⟨_, fun p hp => by simpa using ⟨p, hp, rfl⟩, hread⟩

theorem missingField?_eq_none {given : List String} (h : ∀ p ∈ parts, p.name ∈ given) :
    missingField? (parts.map field) given = none := by
  rw [missingField?, Option.map_eq_none_iff, List.find?_eq_none]
  intro f hf
  obtain ⟨p, hp, rfl⟩ := List.mem_map.mp hf
  have hgiven : given.contains p.field.name = true := List.contains_iff_mem.mpr (h p hp)
  rw [hgiven, Bool.not_true, Bool.and_false]
  exact Bool.false_ne_true

end Part

namespace Codec

variable {parts : List (Part S)} {blank : S} {depth height : Nat}

theorem record_toValue (name : String) (parts : List (Part S)) (blank s : S) :
    (record name blank (parts.map Part.field)).toValue s =
      .object (parts.map fun p => (p.name, p.value s)) := by
  simp only [record, List.map_map]
  rfl

theorem record_readsBack (name : String) (hwhole : Part.Whole parts blank) {s : S}
    (hheld : Part.Held parts depth s) :
    (record name blank (parts.map Part.field)).ReadsBack (depth + 1) s := by
  intro hintegral tail _
  rw [record_toValue, Value.integral_object, List.all_map, List.all_eq_true] at hintegral
  have htext : ((record name blank (parts.map Part.field)).toValue s).chars ++ tail = '\x7b' ::
      (listed true (parts.map fun p => memberText p.name (p.value s).chars) ++ '\x7d' :: tail) := by
    rw [record_toValue, Value.chars_object, bracketed_append, List.map_map]
    rfl
  obtain ⟨given, hgiven, hmembers⟩ := Part.recordMembers_bracketed hwhole hheld hintegral tail
  rw [htext]
  show (Reader.recordMembers (parts.map Part.field) depth _ _ _ _ _).bind _ = _
  rw [hmembers]
  simp only [Except.bind, Part.missingField?_eq_none hgiven]

/-- A record is stable if its parts fit: it needs one level more than they do. -/
theorem Stable.record (name : String) (parts : List (Part S)) (hwhole : Part.Whole parts blank)
    (hfits : ∀ p ∈ parts, p.Fits blank height) :
    (record name blank (parts.map Part.field)).Stable (height + 1) := by
  intro depth cs rest s hdepth hread
  simp only [Codec.record, Reader.record] at hread
  split at hread
  · obtain ⟨inner, henter, hitems⟩ := exists_of_bind_eq_ok hread
    obtain rfl := exists_of_enter henter
    have hinner := Nat.le_of_succ_le_succ hdepth
    exact record_readsBack name hwhole <| hwhole.held_of_recordItems hfits hinner (fun _ h => h)
      hitems fun p hp => (hfits p hp).blank hinner
  · obtain ⟨inner, henter, hrest⟩ := exists_of_bind_eq_ok hread
    obtain rfl := exists_of_enter henter
    have hinner := Nat.le_of_succ_le_succ hdepth
    obtain ⟨⟨given, s', _⟩, hmembers, hgiven⟩ := exists_of_bind_eq_ok hrest
    simp only at hgiven
    split at hgiven
    · cases hgiven
    · cases hgiven
      exact record_readsBack name hwhole <| hwhole.held_of_recordMembers hfits hinner hmembers
        fun p hp => (hfits p hp).blank hinner
  · cases hread

@[simp] theorem integral_record (name : String) (blank s : S) (fields : List (Field S)) :
    ((record name blank fields).toValue s).integral =
      fields.all fun f => (f.toValue s).integral := by
  simp [record, Function.comp_def]

end Codec

/-! ### Kinds of parts -/

namespace Part

variable {α : Type} {optional : Bool} {name : String} {item : Codec α} {blank : S}
  {height height' : Nat}

theorem fits_text (optional : Bool) (name : String) (get : S → String) (put : String → S → S)
    (blank : S) (height : Nat) : (Part.mk optional name .text get put).Fits blank height where
  stable := Codec.text_stable.mono (Nat.zero_le height)
  blank _ := Codec.text_readsBack _ _

theorem fits_option {get : S → Option α} {put : Option α → S → S} (h : item.Stable height)
    (hle : height ≤ height') (hnull : ∀ x, item.toValue x ≠ .null) (hblank : get blank = none) :
    (Part.mk optional name (.option item) get put).Fits blank height' where
  stable := (h.option hnull).mono hle
  blank := by
    intro depth _
    show (Codec.option item).ReadsBack depth (get blank)
    rw [hblank]
    exact Codec.option_readsBack_none item depth

theorem fits_list {get : S → List α} {put : List α → S → S} (h : item.Stable height)
    (hle : height + 1 ≤ height') (hblank : get blank = []) :
    (Part.mk optional name (.list item) get put).Fits blank height' where
  stable := h.list.mono hle
  blank := by
    intro depth hdepth
    obtain ⟨depth, rfl⟩ := Nat.exists_eq_add_one_of_ne_zero (n := depth) (by omega)
    show (Codec.list item).ReadsBack (depth + 1) (get blank)
    rw [hblank]
    exact Codec.list_readsBack fun x hx => absurd hx List.not_mem_nil

theorem fits_dict {get : S → Dict α} {put : Dict α → S → S} (h : item.Stable height)
    (hle : height + 1 ≤ height') (hblank : get blank = .empty) :
    (Part.mk optional name (.dict item) get put).Fits blank height' where
  stable := h.dict.mono hle
  blank := by
    intro depth hdepth
    obtain ⟨depth, rfl⟩ := Nat.exists_eq_add_one_of_ne_zero (n := depth) (by omega)
    show (Codec.dict item).ReadsBack (depth + 1) (get blank)
    rw [hblank]
    exact Codec.dict_readsBack fun m hm => absurd hm List.not_mem_nil

end Part

end ServiceBroker.Json
