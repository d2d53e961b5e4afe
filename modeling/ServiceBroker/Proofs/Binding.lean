import Mathlib.Data.List.Induction
import Mathlib.Data.List.Pairwise
import ServiceBroker.Broker

/-!
Which arguments an extension is configured by. The spelling of an argument counts only in so far as
no two arguments may be spellings of one name; beyond that a configuration is bound from the
canonical names and their values, and so are the faults that it can have.
-/

namespace ServiceBroker.Extension

open Json (Value View)

/-- The configuration of an extension, or the error that says what is wrong with its arguments. -/
def bindFor {S : Type} (extension : String) (view : View S) (args : Parameters) :
    Except ExtensionError S :=
  (bind view args).mapError (.invalidConfiguration extension)

/-- Two different arguments are spellings of one name. -/
def Clash (args : Parameters) : Prop :=
  ∃ key ∈ args.keys, ∃ other ∈ args.keys, key ≠ other ∧ canonicalKey key = canonicalKey other

def Repeats (args : Parameters) (key : String) : Prop :=
  key ∈ args.keys ∧ ∃ smaller ∈ args.keys, smaller < key ∧ canonicalKey smaller = canonicalKey key

/-- The smallest argument that is another spelling of a smaller one. -/
structure FirstRepeat (args : Parameters) (key : String) : Prop where
  repeats : Repeats args key
  first : ∀ smaller, smaller < key → ¬Repeats args smaller

def SameCanonical (args args' : Parameters) : Prop :=
  ∀ name value, (∃ key, args.get? key = some value ∧ canonicalKey key = name) ↔
    ∃ key, args'.get? key = some value ∧ canonicalKey key = name

theorem FirstRepeat.clash {args : Parameters} {key : String} (h : FirstRepeat args key) :
    Clash args := by
  obtain ⟨hkey, smaller, hsmaller, hlt, hcanonical⟩ := h.repeats
  exact ⟨key, hkey, smaller, hsmaller, fun heq => String.lt_irrefl key (heq ▸ hlt),
    hcanonical.symm⟩

theorem FirstRepeat.unique {args : Parameters} {key other : String} (h : FirstRepeat args key)
    (h' : FirstRepeat args other) : key = other := by
  apply String.le_antisymm
  · exact String.not_lt.mp fun hlt => h.first other hlt h'.repeats
  · exact String.not_lt.mp fun hlt => h'.first key hlt h.repeats

/-! ## Adding arguments under their canonical names -/

/-- No two of the arguments are spellings of one name, and none is a spelling of a bound one. -/
structure Apart (bound : Parameters) (entries : List (String × Value)) : Prop where
  free : ∀ e ∈ entries, bound.get? (canonicalKey e.1) = none
  apart : entries.Pairwise fun e e' => canonicalKey e.1 ≠ canonicalKey e'.1

/-- The first argument of the rest is a spelling of a name that is bound or has just been added. -/
def Taken (bound : Parameters) (before : List (String × Value)) (key : String) : Prop :=
  bound.get? (canonicalKey key) ≠ none ∨ ∃ e ∈ before, canonicalKey e.1 = canonicalKey key

theorem Apart.eq_of_canonicalKey_eq {bound : Parameters} {entries : List (String × Value)}
    (h : Apart bound entries) {e e' : String × Value} (he : e ∈ entries) (he' : e' ∈ entries)
    (hcanonical : canonicalKey e.1 = canonicalKey e'.1) : e = e' := by
  have : Std.Symm fun e e' : String × Value => canonicalKey e.1 ≠ canonicalKey e'.1 :=
    ⟨fun _ _ => Ne.symm⟩
  by_contra hne
  exact h.apart.forall he he' hne hcanonical

theorem contains_iff (bound : Parameters) (key : String) :
    bound.contains key ↔ bound.get? key ≠ none :=
  Option.isSome_iff_ne_none

theorem addCanonical_of_apart {bound : Parameters} {entries : List (String × Value)}
    (h : Apart bound entries) :
    ∃ added, addCanonical bound entries = .ok added ∧ ∀ name value,
      added.get? name = some value ↔
        (∃ e ∈ entries, canonicalKey e.1 = name ∧ e.2 = value) ∨ bound.get? name = some value := by
  induction entries generalizing bound with
  | nil => exact ⟨bound, rfl, by simp⟩
  | cons e rest ih =>
    obtain ⟨key, value⟩ := e
    obtain ⟨hfree, hapart⟩ := h
    obtain ⟨hkey, hrest⟩ := List.pairwise_cons.mp hapart
    have hnone : bound.get? (canonicalKey key) = none := hfree (key, value) List.mem_cons_self
    have happart : Apart (bound.insert (canonicalKey key) value) rest := by
      refine ⟨fun e he => ?_, hrest⟩
      rw [Dict.get?_insert, if_neg (hkey e he).symm]
      exact hfree e (List.mem_cons_of_mem _ he)
    obtain ⟨added, hadded, hget⟩ := ih happart
    refine ⟨added, ?_, fun name v => ?_⟩
    · rw [addCanonical, if_neg (by rw [contains_iff, hnone]; exact fun h => h rfl)]
      exact hadded
    · simp only [hget, Dict.get?_insert, List.mem_cons, exists_eq_or_imp]
      by_cases hname : name = canonicalKey key
      · subst hname
        simp [hnone, or_comm]
      · simp [hname, Ne.symm hname]

theorem addCanonical_of_taken {bound : Parameters} {before after : List (String × Value)}
    {key : String} {value : Value} (h : Apart bound before) (htaken : Taken bound before key) :
    addCanonical bound (before ++ (key, value) :: after) =
      .error (.repeated (canonicalKey key)) := by
  induction before generalizing bound with
  | nil =>
    have hbound : bound.get? (canonicalKey key) ≠ none := htaken.resolve_right (by simp)
    rw [List.nil_append, addCanonical, if_pos ((contains_iff _ _).mpr hbound)]
  | cons e rest ih =>
    obtain ⟨k, v⟩ := e
    obtain ⟨hfree, hapart⟩ := h
    obtain ⟨hk, hrest⟩ := List.pairwise_cons.mp hapart
    have hnone : bound.get? (canonicalKey k) = none := hfree (k, v) List.mem_cons_self
    rw [List.cons_append, addCanonical,
      if_neg (by rw [contains_iff, hnone]; exact fun h => h rfl)]
    refine ih ⟨fun e he => ?_, hrest⟩ ?_
    · rw [Dict.get?_insert, if_neg (hk e he).symm]
      exact hfree e (List.mem_cons_of_mem _ he)
    · rw [Taken, Dict.get?_insert]
      rcases htaken with hbound | ⟨e, he, hcanonical⟩
      · left
        split
        · exact Option.some_ne_none _
        · exact hbound
      · rcases List.mem_cons.mp he with rfl | he
        · exact .inl (by rw [if_pos hcanonical.symm]; exact Option.some_ne_none _)
        · exact .inr ⟨e, he, hcanonical⟩

/-- Either no two arguments are spellings of one name, or there is a first one that repeats a
name. -/
theorem apart_or_taken (bound : Parameters) (entries : List (String × Value)) :
    Apart bound entries ∨ ∃ before key value after, entries = before ++ (key, value) :: after ∧
      Apart bound before ∧ Taken bound before key := by
  induction entries using List.reverseRecOn with
  | nil => exact .inl ⟨by simp, .nil⟩
  | append_singleton entries e ih =>
    rcases ih with hentries | ⟨before, key, value, after, rfl, hbefore, htaken⟩
    · by_cases htaken : Taken bound entries e.1
      · exact .inr ⟨entries, e.1, e.2, [], rfl, hentries, htaken⟩
      · simp only [Taken, not_or, not_not, not_exists, not_and] at htaken
        refine .inl ⟨fun e' he' => ?_, ?_⟩
        · rcases List.mem_append.mp he' with he' | he'
          · exact hentries.free e' he'
          · obtain rfl := List.mem_singleton.mp he'
            exact htaken.1
        · rw [List.pairwise_append]
          refine ⟨hentries.apart, List.pairwise_singleton .., fun e' he' e'' he'' => ?_⟩
          obtain rfl := List.mem_singleton.mp he''
          exact htaken.2 e' he'
    · exact .inr ⟨before, key, value, after ++ [e], by simp, hbefore, htaken⟩

/-! ## Canonical arguments -/

theorem firstRepeat_of_taken {args : Parameters} {before after : List (String × Value)}
    {key : String} {value : Value} (hargs : args.entries = before ++ (key, value) :: after)
    (hbefore : Apart .empty before) (htaken : Taken .empty before key) : FirstRepeat args key := by
  have hascending := args.ascending
  rw [hargs] at hascending
  obtain ⟨-, hlater, hcross⟩ := List.pairwise_append.mp hascending
  have hkeys : ∀ {other}, other ∈ args.keys ↔
      (∃ e ∈ before, e.1 = other) ∨ other = key ∨ ∃ e ∈ after, e.1 = other := by
    simp [Dict.keys, hargs]
  -- The arguments before are the smaller ones.
  have hsmaller : ∀ {other}, other ∈ args.keys → other < key → ∃ e ∈ before, e.1 = other := by
    intro other hother hlt
    rcases hkeys.mp hother with hbefore | rfl | ⟨e, he, rfl⟩
    · exact hbefore
    · exact absurd hlt (String.lt_irrefl _)
    · have hgt := (List.pairwise_cons.mp hlater).1 e he
      exact absurd (String.lt_trans hlt hgt) (String.lt_irrefl _)
  constructor
  · obtain ⟨e, he, hcanonical⟩ : ∃ e ∈ before, canonicalKey e.1 = canonicalKey key :=
      htaken.resolve_left fun h => h rfl
    exact ⟨hkeys.mpr (.inr (.inl rfl)), e.1, hkeys.mpr (.inl ⟨e, he, rfl⟩),
      hcross e he _ List.mem_cons_self, hcanonical⟩
  · rintro other hlt ⟨hother, smaller, hmem, hless, hcanonical⟩
    obtain ⟨e, he, rfl⟩ := hsmaller hother hlt
    obtain ⟨e', he', rfl⟩ := hsmaller hmem (String.lt_trans hless hlt)
    obtain rfl := hbefore.eq_of_canonicalKey_eq he' he hcanonical
    exact String.lt_irrefl _ hless

/-- Either no two arguments clash and all are bound, each under its canonical name, or the first one
that repeats a name is refused. -/
theorem canonicalArgs_cases (args : Parameters) :
    (¬Clash args ∧ ∃ bound, canonicalArgs args = .ok bound ∧ ∀ name value,
      bound.get? name = some value ↔ ∃ key, args.get? key = some value ∧ canonicalKey key = name) ∨
    ∃ key, FirstRepeat args key ∧ canonicalArgs args = .error (.repeated (canonicalKey key)) := by
  rcases apart_or_taken .empty args.entries with
    hapart | ⟨before, key, value, after, hargs, hbefore, htaken⟩
  · left
    constructor
    · rintro ⟨key, hkey, other, hother, hne, hcanonical⟩
      obtain ⟨value, hvalue⟩ := args.mem_keys_iff.mp hkey
      obtain ⟨value', hvalue'⟩ := args.mem_keys_iff.mp hother
      have heq := hapart.eq_of_canonicalKey_eq (args.mem_entries_iff.mpr hvalue)
        (args.mem_entries_iff.mpr hvalue') hcanonical
      exact hne (congrArg Prod.fst heq)
    · obtain ⟨bound, hbound, hget⟩ := addCanonical_of_apart hapart
      refine ⟨bound, hbound, fun name value => ?_⟩
      rw [hget]
      constructor
      · rintro (⟨⟨key, v⟩, he, hname, rfl⟩ | hempty)
        · exact ⟨key, args.mem_entries_iff.mp he, hname⟩
        · cases hempty
      · rintro ⟨key, hkey, hname⟩
        exact .inl ⟨(key, value), args.mem_entries_iff.mpr hkey, hname, rfl⟩
  · right
    refine ⟨key, firstRepeat_of_taken hargs hbefore htaken, ?_⟩
    rw [canonicalArgs, hargs]
    exact addCanonical_of_taken hbefore htaken

/-- Without a clash, arguments that are the same under their canonical names are the same for every
configuration. -/
theorem canonicalArgs_congr {args args' : Parameters} (h : ¬Clash args) (h' : ¬Clash args')
    (hsame : SameCanonical args args') : canonicalArgs args = canonicalArgs args' := by
  rcases canonicalArgs_cases args with ⟨-, bound, hbound, hget⟩ | ⟨_, hrepeat, -⟩
  · rcases canonicalArgs_cases args' with ⟨-, bound', hbound', hget'⟩ | ⟨_, hrepeat, -⟩
    · have heq : bound = bound' := by
        refine Dict.ext_get? fun name => Option.ext fun value => ?_
        rw [hget, hget', hsame]
      rw [hbound, hbound', heq]
    · exact absurd hrepeat.clash h'
  · exact absurd hrepeat.clash h

variable {S : Type}

theorem bindFor_of_error {args : Parameters} {fault : BindingFault}
    (h : canonicalArgs args = .error fault) (extension : String) (view : View S) :
    bindFor extension view args = .error (.invalidConfiguration extension fault) := by
  rw [bindFor, bind, h]
  rfl

theorem bindFor_of_ok {args bound : Parameters} (h : canonicalArgs args = .ok bound)
    (extension : String) (view : View S) :
    bindFor extension view args =
      (view (.ofDict bound)).mapError fun m => .invalidConfiguration extension (.mismatch m) := by
  rw [bindFor, bind, h]
  change ((view (.ofDict bound)).mapError _).mapError _ = _
  cases view (.ofDict bound) <;> rfl

theorem bindFor_ne_repeated_of_ok {args bound : Parameters} (h : canonicalArgs args = .ok bound)
    (extension : String) (view : View S) (name : String) :
    bindFor extension view args ≠ .error (.invalidConfiguration extension (.repeated name)) := by
  rw [bindFor_of_ok h]
  cases view (.ofDict bound) with
  | error m => exact fun heq => nomatch heq
  | ok config => exact fun heq => nomatch heq

/-- A name that is given twice is refused whatever its values are and whoever is configured: the
first argument that repeats a smaller one is the one that is told. Where no name is given twice, the
spelling of the arguments and the order that it gives them have no part in the configuration or in
its faults. -/
theorem bind_depends_on_canonicalKey (extension : String) (view : View S) (args : Parameters) :
    ((∃ name, bindFor extension view args =
        .error (.invalidConfiguration extension (.repeated name))) ↔ Clash args) ∧
      (∀ name, bindFor extension view args =
          .error (.invalidConfiguration extension (.repeated name)) ↔
        ∃ key, FirstRepeat args key ∧ canonicalKey key = name) ∧
      (∀ name, (BindingFault.repeated name).message =
        "argument '" ++ name ++ "' is supplied more than once") ∧
      ∀ args', ¬Clash args → ¬Clash args' → SameCanonical args args' →
        bindFor extension view args = bindFor extension view args' := by
  have hnamed : ∀ name, bindFor extension view args =
      .error (.invalidConfiguration extension (.repeated name)) ↔
        ∃ key, FirstRepeat args key ∧ canonicalKey key = name := by
    intro name
    rcases canonicalArgs_cases args with ⟨hclash, bound, hbound, -⟩ | ⟨key, hrepeat, herror⟩
    · refine iff_of_false (bindFor_ne_repeated_of_ok hbound extension view name) ?_
      rintro ⟨key, hrepeat, -⟩
      exact hclash hrepeat.clash
    · rw [bindFor_of_error herror]
      constructor
      · intro heq
        cases heq
        exact ⟨key, hrepeat, rfl⟩
      · rintro ⟨other, hother, rfl⟩
        rw [hrepeat.unique hother]
  refine ⟨⟨?_, fun hclash => ?_⟩, hnamed, fun _ => rfl, fun args' h h' hsame => ?_⟩
  · rintro ⟨name, hrefused⟩
    obtain ⟨key, hrepeat, -⟩ := (hnamed name).mp hrefused
    exact hrepeat.clash
  · rcases canonicalArgs_cases args with ⟨hnone, -⟩ | ⟨key, hrepeat, -⟩
    · exact absurd hclash hnone
    · exact ⟨canonicalKey key, (hnamed _).mpr ⟨key, hrepeat, rfl⟩⟩
  · rw [bindFor, bindFor, bind, bind, canonicalArgs_congr h h' hsame]

theorem exists_canonicalKey_pair {first second : String} (hne : first ≠ second) (x y : Value)
    (name : String) (value : Value) :
    (∃ key, (Dict.ofList [(first, x), (second, y)]).get? key = some value ∧
        canonicalKey key = name) ↔
      (canonicalKey first = name ∧ x = value) ∨ (canonicalKey second = name ∧ y = value) := by
  have hget : ∀ key, (Dict.ofList [(first, x), (second, y)]).get? key =
      if key = second then some y else if key = first then some x else none := by
    intro key
    simp only [Dict.ofList, List.foldl_cons, List.foldl_nil, Dict.get?_insert]
    rfl
  simp only [hget]
  constructor
  · rintro ⟨key, hkey, rfl⟩
    split at hkey
    · rename_i hsecond
      exact .inr ⟨hsecond ▸ rfl, Option.some.inj hkey⟩
    · split at hkey
      · rename_i hfirst
        exact .inl ⟨hfirst ▸ rfl, Option.some.inj hkey⟩
      · cases hkey
  · rintro (⟨rfl, rfl⟩ | ⟨rfl, rfl⟩)
    · exact ⟨first, by rw [if_neg hne, if_pos rfl], rfl⟩
    · exact ⟨second, by rw [if_pos rfl], rfl⟩

/-- Two wrong values in two spellings, of which each puts another one of them first, and a name that
is given twice. -/
theorem bind_depends_on_canonicalKey_staged :
    let args : Parameters :=
      .ofList [("client-id", .boolean true), ("clientName", .boolean false)]
    let respelled : Parameters :=
      .ofList [("clientId", .boolean true), ("client-name", .boolean false)]
    let doubled : Parameters :=
      .ofList [("client-id", .text "a"), ("clientId", .boolean true), ("unknown", .null)]
    args.keys.map canonicalKey = ["clientId", "clientName"] ∧
      respelled.keys.map canonicalKey = ["clientName", "clientId"] ∧
      bindFor "oauth2" OAuth2Config.view args = bindFor "oauth2" OAuth2Config.view respelled ∧
      bindFor "oauth2" OAuth2Config.view doubled =
        .error (.invalidConfiguration "oauth2" (.repeated "clientId")) := by
  intro args respelled doubled
  refine ⟨by decide +kernel, by decide +kernel, ?_, ?_⟩
  · obtain ⟨-, -, -, hcongr⟩ := bind_depends_on_canonicalKey "oauth2" OAuth2Config.view args
    refine hcongr respelled ?_ ?_ ?_
    · unfold Clash
      decide +kernel
    · unfold Clash
      decide +kernel
    · intro name value
      rw [exists_canonicalKey_pair (by decide), exists_canonicalKey_pair (by decide)]
      have hfirst : canonicalKey "client-id" = canonicalKey "clientId" := by decide +kernel
      have hsecond : canonicalKey "clientName" = canonicalKey "client-name" := by decide +kernel
      rw [hfirst, hsecond]
  · obtain ⟨-, hnamed, -⟩ := bind_depends_on_canonicalKey "oauth2" OAuth2Config.view doubled
    refine (hnamed "clientId").mpr ⟨"clientId", ⟨?_, ?_⟩, ?_⟩
    · unfold Repeats
      decide +kernel
    · have hfirst : ∀ smaller ∈ doubled.keys, smaller < "clientId" →
          ¬∃ other ∈ doubled.keys, other < smaller ∧ canonicalKey other = canonicalKey smaller := by
        decide +kernel
      exact fun smaller hlt hrepeats => hfirst smaller hrepeats.1 hlt hrepeats.2
    · decide +kernel

end ServiceBroker.Extension
