import Mathlib.Data.List.Forall2
import ServiceBroker.Lifecycle
import ServiceBroker.Proofs.Course

/-!
The order of a run: which programs issue their requests before which others, and which end before
which others. Every program ends once. Programs of one request each issue them in turn, and end in
the order of the times that the answers take.
-/

namespace ServiceBroker

variable {σ α β : Type}

namespace Event

def isIssued : Event → Bool
  | .issued _ => true
  | _ => false

def isAnswered : Event → Bool
  | .answered _ _ => true
  | _ => false

def isEnded : Event → Bool
  | .ended => true
  | _ => false

end Event

/-- The positions of the programs in the order of their events of one kind. -/
def order (kind : Event → Bool) (log : List LogEntry) : List Nat :=
  (log.filter fun entry => kind entry.event).map LogEntry.task

@[simp] theorem order_append (kind : Event → Bool) (log more : List LogEntry) :
    order kind (log ++ more) = order kind log ++ order kind more := by
  simp [order]

theorem order_cons (kind : Event → Bool) (entry : LogEntry) (rest : List LogEntry) :
    order kind (entry :: rest) =
      if kind entry.event then entry.task :: order kind rest else order kind rest := by
  rw [order, List.filter_cons]
  split <;> rfl

theorem count_order (kind : Event → Bool) (task : Nat) (log : List LogEntry) :
    (order kind log).count task = (eventsOf task log).countP kind := by
  induction log with
  | nil => rfl
  | cons entry rest ih =>
    have hevents := eventsOf_append task [entry] rest
    rw [List.singleton_append] at hevents
    rw [order_cons, hevents, List.countP_append, ← ih]
    by_cases htask : entry.task = task <;> cases hkind : kind entry.event <;>
      simp [eventsOf, htask, hkind, Nat.add_comm]

theorem inOrderOfEnding_eq (log : List LogEntry) (values : List α) :
    inOrderOfEnding log values = (order Event.isEnded log).filterMap (values[·]?) := by
  induction log with
  | nil => rfl
  | cons entry rest ih =>
    obtain ⟨task, event⟩ := entry
    rw [order_cons]
    cases event with
    | issued r => exact ih
    | answered r answer => exact ih
    | ended =>
      simp only [Event.isEnded, if_true, List.filterMap_cons, ← ih]
      rw [inOrderOfEnding, List.filterMap_cons]
      rfl

theorem Program.Course.countP_isEnded {c : Collaborators σ} {p : Program α} {events : List Event}
    {a : α} (course : p.Course c events a) : events.countP Event.isEnded = 1 := by
  induction course with
  | done a => rfl
  | call s _ ih =>
    rw [List.countP_cons_of_neg (by simp [Event.isEnded]),
      List.countP_cons_of_neg (by simp [Event.isEnded]), ih]

namespace Session.Interleaves

variable {c : Collaborators σ} {programs : List (Program α)} {s : σ} {o : Outcome σ (List α)}

/-- Events that every program has once make an order of all programs. -/
theorem order_perm (run : Interleaves c programs s o) (kind : Event → Bool)
    (hkind : ∀ i p, programs[i]? = some p → (eventsOf i o.log).countP kind = 1) :
    (order kind o.log).Perm (List.range programs.length) := by
  rw [List.perm_iff_count]
  intro i
  rw [count_order, List.count_range]
  split
  · rename_i hi
    exact hkind i _ (List.getElem?_eq_getElem hi)
  · rename_i hi
    have hnone : eventsOf i o.log = [] := by
      rw [List.eq_nil_iff_forall_not_mem]
      intro event hevent
      exact hi (run.task_lt (mem_eventsOf.mp hevent))
    rw [hnone]
    rfl

theorem order_isEnded_perm (run : Interleaves c programs s o) :
    (order Event.isEnded o.log).Perm (List.range programs.length) := by
  refine run.order_perm Event.isEnded fun i p hp => ?_
  obtain ⟨a, -, course⟩ := run.course hp
  exact course.countP_isEnded

end Session.Interleaves

/-! ## Single requests -/

def Program.Single (r : Request) (p : Program α) : Prop :=
  ∃ f : Answer r → α, p = .call r fun answer => .done (f answer)

/-- In a run, a program of one request is answered once and ends with what it makes of the
answer. -/
theorem Session.Interleaves.of_single {c : Collaborators σ} {programs : List (Program α)} {s : σ}
    {o : Outcome σ (List α)} (run : Interleaves c programs s o) {i : Nat} {r : Request}
    {f : Answer r → α} (hp : programs[i]? = some (.call r fun answer => .done (f answer))) :
    ∃ t, o.value[i]? = some (f (c.answer r t).1) ∧
      eventsOf i o.log = [.issued r, .answered r (c.answer r t).1, .ended] := by
  obtain ⟨a, ha, course⟩ := run.course hp
  generalize eventsOf i o.log = events at course ⊢
  -- The course is known but for the state in which the request was answered.
  cases course with
  | call t rest =>
    cases rest
    exact ⟨t, ha, rfl⟩

namespace Task

inductive Last : Task α → Prop where
  | ended (a : α) : Last (.ended a)
  | waiting (left : Nat) (r : Request) (f : Answer r → α) :
      Last (.waiting left r fun answer => .done (f answer))

def left? : Task α → Option Nat
  | .ended _ => none
  | .waiting left _ _ => some left

end Task

theorem findIdxs_cons_eq_append (p : β → Bool) (x : β) (xs : List β) (start : Nat) :
    (x :: xs).findIdxs p start =
      (if p x then [start] else []) ++ xs.findIdxs p (start + 1) := by
  rw [List.findIdxs_cons]
  split <;> rfl

/-- The positions of the programs that are answered after so many turns; the first one has the given
position. -/
def due (task turns : Nat) (tasks : List (Task α)) : List Nat :=
  tasks.findIdxs (fun t => t.left? = some turns) task

/-- Entries of programs that end one after another, each as soon as it is answered. -/
structure Endings (entries : List LogEntry) (positions : List Nat) : Prop where
  issued : order Event.isIssued entries = []
  answered : order Event.isAnswered entries = positions
  ended : order Event.isEnded entries = positions

namespace Endings

theorem nil : Endings [] [] := ⟨rfl, rfl, rfl⟩

theorem single (task : Nat) (r : Request) (answer : Answer r) :
    Endings [⟨task, .answered r answer⟩, ⟨task, .ended⟩] [task] := ⟨rfl, rfl, rfl⟩

theorem append {entries more : List LogEntry} {positions others : List Nat}
    (h : Endings entries positions) (h' : Endings more others) :
    Endings (entries ++ more) (positions ++ others) := by
  constructor
  · rw [order_append, h.issued, h'.issued]
    rfl
  · rw [order_append, h.answered, h'.answered]
  · rw [order_append, h.ended, h'.ended]

end Endings

namespace Schedule

variable (c : Collaborators σ)

theorem turn_last (task : Nat) {t : Task α} (h : t.Last) (w : World σ) :
    (turn c task t w).1.Last ∧
      (∀ k, (turn c task t w).1.left? = some k ↔ t.left? = some (k + 1)) ∧
      ∃ entries, (turn c task t w).2.log = w.log ++ entries ∧
        Endings entries (if t.left? = some 0 then [task] else []) := by
  cases h with
  | ended a =>
    exact ⟨.ended a, fun k => by simp [turn, Task.left?], [], by simp [turn], .nil⟩
  | waiting left r f =>
    cases left with
    | zero =>
      refine ⟨.ended _, fun k => by simp [turn, advance, Task.left?], _, ?_,
        .single task r (w.settle c task r).1⟩
      exact List.append_assoc ..
    | succ left =>
      exact ⟨.waiting left r f, fun k => by simp [turn, Task.left?], [], by simp [turn], .nil⟩

theorem turnAll_last (task : Nat) {tasks : List (Task α)} (h : ∀ t ∈ tasks, t.Last) (w : World σ) :
    (∀ t ∈ (turnAll c task tasks w).1, t.Last) ∧
      (∀ k, due task k (turnAll c task tasks w).1 = due task (k + 1) tasks) ∧
      ∃ entries, (turnAll c task tasks w).2.log = w.log ++ entries ∧
        Endings entries (due task 0 tasks) := by
  induction tasks generalizing task w with
  | nil => exact ⟨h, fun _ => rfl, [], (List.append_nil _).symm, .nil⟩
  | cons t rest ih =>
    obtain ⟨ht, hleft, entries, hlog, hentries⟩ := turn_last c task (h t List.mem_cons_self) w
    obtain ⟨hrest, hdue, more, hmore, hendings⟩ :=
      ih (task + 1) (fun t ht => h t (List.mem_cons_of_mem _ ht)) (turn c task t w).2
    rw [turnAll_cons]
    refine ⟨fun t ht' => ?_, fun k => ?_, entries ++ more, ?_, ?_⟩
    · rcases List.mem_cons.mp ht' with rfl | ht'
      · exact ht
      · exact hrest t ht'
    · have hrestdue := hdue k
      simp only [due] at hrestdue ⊢
      rw [List.findIdxs_cons, List.findIdxs_cons, hrestdue]
      simp only [hleft k]
    · rw [hmore, hlog, List.append_assoc]
    · have happend := hentries.append hendings
      simp only [due] at happend ⊢
      rw [findIdxs_cons_eq_append]
      simp only [decide_eq_true_eq]
      exact happend

theorem turns_last (task n : Nat) {tasks : List (Task α)} (h : ∀ t ∈ tasks, t.Last)
    (w : World σ) :
    ∃ entries, (turns c task n tasks w).2.log = w.log ++ entries ∧
      Endings entries ((List.range n).flatMap fun k => due task k tasks) := by
  induction n generalizing tasks w with
  | zero => exact ⟨[], (List.append_nil _).symm, .nil⟩
  | succ n ih =>
    obtain ⟨hlast, hdue, entries, hlog, hentries⟩ := turnAll_last c task h w
    obtain ⟨more, hmore, hendings⟩ := ih hlast (turnAll c task tasks w).2
    refine ⟨entries ++ more, ?_, ?_⟩
    · rw [turns_succ, hmore, hlog, List.append_assoc]
    · -- What is due after `k` further turns was due after `k + 1` before this one.
      have happend := hentries.append hendings
      simp only [hdue] at happend
      rw [List.range_succ_eq_map, List.flatMap_cons, List.flatMap_map]
      exact happend

/-- A request that needs no time is answered at once; another one is due after the round in which it
would be. -/
theorem advance_single (task : Nat) (r : Request) (f : Answer r → α) (w : World σ) :
    let first := advance c task (.call r fun answer => .done (f answer)) w
    first.1.Last ∧ (∀ k, first.1.left? = some k ↔ (c.accept r w.state).1 = k + 1) ∧
      ∃ entries, first.2.log = w.log ++ ⟨task, .issued r⟩ :: entries ∧
        Endings entries (if (c.accept r w.state).1 = 0 then [task] else []) := by
  intro first
  obtain ⟨wait, w', hissue⟩ : ∃ wait w', w.issue c task r = (wait, w') := ⟨_, _, rfl⟩
  have hwait : (c.accept r w.state).1 = wait := congrArg Prod.fst hissue
  have hlog : w'.log = w.log ++ [⟨task, .issued r⟩] :=
    congrArg (fun x => x.2.log) hissue.symm
  rw [hwait]
  cases wait with
  | zero =>
    have hfirst : first = _ := advance_now c hissue
    rw [hfirst]
    refine ⟨.ended _, fun k => by simp [advance, Task.left?], _, ?_,
      .single task r (w'.settle c task r).1⟩
    change (w'.log ++ _) ++ _ = _
    rw [hlog, List.append_assoc, List.append_assoc]
    rfl
  | succ wait =>
    have hfirst : first = _ := advance_later c hissue
    rw [hfirst]
    exact ⟨.waiting wait r f, fun k => by simp [Task.left?], [], hlog, .nil⟩

/-- The first round of programs of one request each: the requests are issued in turn. -/
theorem startAll_single {requests : List Request} {programs : List (Program α)}
    (h : List.Forall₂ Program.Single requests programs) (task : Nat) (w : World σ) :
    ∃ waits : List Nat,
      List.Forall₂ (fun r wait => ∃ s, (c.accept r s).1 = wait) requests waits ∧
      (∀ t ∈ (startAll c task programs w).1, t.Last) ∧
      (∀ k, due task k (startAll c task programs w).1 =
        waits.findIdxs (fun wait => wait = k + 1) task) ∧
      ∃ entries, (startAll c task programs w).2.log = w.log ++ entries ∧
        order Event.isIssued entries = List.range' task programs.length ∧
        order Event.isAnswered entries = waits.findIdxs (fun wait => wait = 0) task ∧
        order Event.isEnded entries = waits.findIdxs (fun wait => wait = 0) task := by
  induction h generalizing task w with
  | nil => exact ⟨[], .nil, by simp [startAll], fun _ => rfl, [], by simp [startAll], rfl, rfl, rfl⟩
  | @cons r p requests programs hp _ ih =>
    obtain ⟨f, rfl⟩ := hp
    obtain ⟨hfirst, hleft, entries, hlog, hentries⟩ := advance_single c task r f w
    obtain ⟨waits, hwaits, hlast, hdue, more, hmore, hissued, hanswered, hended⟩ :=
      ih (task + 1) (advance c task (.call r fun answer => .done (f answer)) w).2
    refine ⟨(c.accept r w.state).1 :: waits, .cons ⟨w.state, rfl⟩ hwaits, ?_, ?_,
      (⟨task, .issued r⟩ :: entries) ++ more, ?_, ?_, ?_, ?_⟩
    · rw [startAll]
      intro t ht
      rcases List.mem_cons.mp ht with rfl | ht
      · exact hfirst
      · exact hlast t ht
    · intro k
      have hrest := hdue k
      rw [startAll]
      simp only [due] at hrest ⊢
      rw [List.findIdxs_cons, List.findIdxs_cons, hrest]
      simp only [hleft k]
    · rw [startAll, ← List.append_assoc, ← hlog]
      exact hmore
    · rw [order_append, order_cons, hentries.issued, hissued]
      rfl
    · change order Event.isAnswered (entries ++ more) = _
      rw [order_append, hentries.answered, hanswered, findIdxs_cons_eq_append]
      simp only [decide_eq_true_eq]
    · change order Event.isEnded (entries ++ more) = _
      rw [order_append, hentries.ended, hended, findIdxs_cons_eq_append]
      simp only [decide_eq_true_eq]

end Schedule

/-- Positions by the times at them, and by themselves where these are equal. -/
def Earlier (waits : Nat → Nat) (i j : Nat) : Prop :=
  waits i < waits j ∨ waits i = waits j ∧ i < j

theorem pairwise_earlier (waits : List Nat) (n : Nat) :
    ((List.range n).flatMap fun k => waits.findIdxs fun wait => wait = k).Pairwise
      (Earlier fun i => waits[i]?.getD 0) := by
  have hmem : ∀ {i k : Nat}, i ∈ waits.findIdxs (fun wait => wait = k) →
      waits[i]?.getD 0 = k := by
    intro i k hi
    obtain ⟨hi, hwait⟩ := List.mem_findIdxs_iff_exists_getElem_pos.mp hi
    rw [List.getElem?_eq_getElem hi]
    exact of_decide_eq_true hwait
  rw [List.pairwise_flatMap]
  constructor
  · intro k _
    refine List.pairwise_findIdxs.imp_of_mem fun hi hj hlt => .inr ⟨?_, hlt⟩
    exact (hmem hi).trans (hmem hj).symm
  · refine List.pairwise_lt_range.imp fun {k l} hlt i hi j hj => .inl ?_
    calc waits[i]?.getD 0 = k := hmem hi
      _ < l := hlt
      _ = waits[j]?.getD 0 := (hmem hj).symm

/-- Programs that issue their requests in turn, and end as soon as they are answered, in the order
of the times that the answers take. -/
structure InTurn (programs : Nat) (waits : Nat → Nat) (log : List LogEntry) : Prop where
  issued : order Event.isIssued log = List.range programs
  answered : order Event.isAnswered log = order Event.isEnded log
  ended : (order Event.isEnded log).Pairwise (Earlier waits)

theorem Session.together_inTurn (c : Collaborators σ) {requests : List Request}
    {programs : List (Program α)} (h : List.Forall₂ Program.Single requests programs) (s : σ) :
    ∃ waits : Nat → Nat, (∀ i r, requests[i]? = some r → ∃ t, (c.accept r t).1 = waits i) ∧
      InTurn programs.length waits (together c programs s).log := by
  obtain ⟨waits, hwaits, hlast, hdue, entries, hlog, hissued, hanswered, hended⟩ :=
    Schedule.startAll_single c h 0 ⟨s, []⟩
  obtain ⟨n, hn⟩ := Schedule.run_rounds c programs s
  obtain ⟨more, hmore, hendings⟩ := Schedule.turns_last c 0 n hlast
    (Schedule.startAll c 0 programs ⟨s, []⟩).2
  have hjoint : (together c programs s).log = entries ++ more := by
    rw [hn, hlog] at hmore
    exact hmore
  have hall : waits.findIdxs (fun wait => wait = 0) ++
      (List.range n).flatMap (fun k => due 0 k (Schedule.startAll c 0 programs ⟨s, []⟩).1) =
        (List.range (n + 1)).flatMap fun k => waits.findIdxs fun wait => wait = k := by
    rw [List.range_succ_eq_map, List.flatMap_cons, List.flatMap_map]
    simp only [hdue]
  refine ⟨fun i => waits[i]?.getD 0, fun i r hr => ?_, ?_⟩
  · obtain ⟨hi, rfl⟩ := List.getElem?_eq_some_iff.mp hr
    have hi' : i < waits.length := hwaits.length_eq ▸ hi
    obtain ⟨t, ht⟩ := hwaits.get hi hi'
    exact ⟨t, ht.trans (by simp [List.getElem?_eq_getElem hi'])⟩
  · constructor
    · rw [hjoint, order_append, hissued, hendings.issued, List.append_nil, List.range_eq_range']
    · rw [hjoint, order_append, order_append, hanswered, hended, hendings.answered, hendings.ended]
    · rw [hjoint, order_append, hended, hendings.ended, hall]
      exact pairwise_earlier waits (n + 1)

/-! ## The requests of a run -/

def Event.request? : Event → Option Request
  | .issued r => some r
  | _ => none

/-- The requests of a run in the order in which they were issued. -/
def requestsIn (log : List LogEntry) : List Request := log.filterMap (·.event.request?)

theorem requestsIn_append (log more : List LogEntry) :
    requestsIn (log ++ more) = requestsIn log ++ requestsIn more := List.filterMap_append ..

theorem mem_requestsIn {log : List LogEntry} {r : Request} :
    r ∈ requestsIn log ↔ ∃ task, ⟨task, .issued r⟩ ∈ log := by
  rw [requestsIn, List.mem_filterMap]
  constructor
  · rintro ⟨⟨task, event⟩, hentry, hevent⟩
    cases event <;> cases hevent
    exact ⟨task, hentry⟩
  · rintro ⟨task, hentry⟩
    exact ⟨_, hentry, rfl⟩

theorem Program.Single.request_eq {c : Collaborators σ} {r : Request} {p : Program α}
    (h : p.Single r) {events : List Event} {a : α} (course : p.Course c events a) {r' : Request}
    (hr : .issued r' ∈ events) : r' = r := by
  obtain ⟨f, rfl⟩ := h
  cases course with
  | call s rest =>
    cases rest
    simpa using hr

theorem requestsIn_eq_filterMap {requests : List Request} {log : List LogEntry}
    (h : ∀ task r, ⟨task, .issued r⟩ ∈ log → requests[task]? = some r) :
    requestsIn log = (order Event.isIssued log).filterMap (requests[·]?) := by
  induction log with
  | nil => rfl
  | cons entry rest ih =>
    obtain ⟨task, event⟩ := entry
    have hrest := ih fun task r hr => h task r (List.mem_cons_of_mem _ hr)
    rw [order_cons, requestsIn, List.filterMap_cons]
    cases event with
    | issued r =>
      have hr := h task r List.mem_cons_self
      simp only [Event.request?, Event.isIssued, if_true, List.filterMap_cons, hr]
      exact congrArg (r :: ·) hrest
    | answered r answer => exact hrest
    | ended => exact hrest

theorem filterMap_range_getElem? (xs : List β) :
    (List.range xs.length).filterMap (xs[·]?) = xs := by
  induction xs with
  | nil => rfl
  | cons x xs ih =>
    rw [List.length_cons, List.range_succ_eq_map, List.filterMap_cons, List.filterMap_map]
    exact congrArg (x :: ·) ih

/-- Programs of one request each issue these requests, in their order, and no others. -/
theorem Session.together_requests (c : Collaborators σ) {requests : List Request}
    {programs : List (Program α)} (h : List.Forall₂ Program.Single requests programs) (s : σ) :
    requestsIn (together c programs s).log = requests := by
  have run := together_interleaves c programs s
  obtain ⟨waits, -, turn⟩ := together_inTurn c h s
  have hissued : ∀ task r, ⟨task, .issued r⟩ ∈ (together c programs s).log →
      requests[task]? = some r := by
    intro task r hr
    have hlt := run.task_lt hr
    have hlt' : task < requests.length := h.length_eq ▸ hlt
    obtain ⟨a, -, course⟩ := run.course (List.getElem?_eq_getElem hlt)
    have hsingle : programs[task].Single requests[task] := h.get hlt' hlt
    rw [hsingle.request_eq course (mem_eventsOf.mpr hr), List.getElem?_eq_getElem hlt']
  rw [requestsIn_eq_filterMap hissued, turn.issued, ← h.length_eq, filterMap_range_getElem?]

end ServiceBroker
