import Mathlib.Data.List.Basic
import ServiceBroker.Work.Session

/-!
A run seen round by round. The schedule follows the first program to its end and only then turns to
the others; this comes to the same as giving every program one turn after another until all have
ended.
-/

namespace ServiceBroker.Schedule

variable {σ α : Type} (c : Collaborators σ)

/-! ## One program -/

theorem advance_now {task : Nat} {r : Request} {next : Answer r → Program α} {w w' : World σ}
    (h : w.issue c task r = (0, w')) :
    advance c task (.call r next) w =
      advance c task (next (w'.settle c task r).1) (w'.settle c task r).2 := by
  rw [advance, h]

theorem advance_later {task wait : Nat} {r : Request} {next : Answer r → Program α}
    {w w' : World σ} (h : w.issue c task r = (wait + 1, w')) :
    advance c task (.call r next) w = (.waiting wait r next, w') := by
  rw [advance, h]

theorem complete_call (task : Nat) (r : Request) (next : Answer r → Program α)
    (rest : List (Task α)) {w w' : World σ} {wait : Nat} (h : w.issue c task r = (wait, w')) :
    complete c task (.call r next) rest w =
      complete c task (next ((turns c (task + 1) wait rest w').2.settle c task r).1)
        (turns c (task + 1) wait rest w').1
        ((turns c (task + 1) wait rest w').2.settle c task r).2 := by
  rw [complete, h]

/-! ## Turns of a list of programs -/

theorem turnAll_cons (task : Nat) (t : Task α) (rest : List (Task α)) (w : World σ) :
    turnAll c task (t :: rest) w =
      ((turn c task t w).1 :: (turnAll c (task + 1) rest (turn c task t w).2).1,
        (turnAll c (task + 1) rest (turn c task t w).2).2) := rfl

theorem turns_succ (task n : Nat) (tasks : List (Task α)) (w : World σ) :
    turns c task (n + 1) tasks w =
      turns c task n (turnAll c task tasks w).1 (turnAll c task tasks w).2 := rfl

theorem turns_add (task m n : Nat) (tasks : List (Task α)) (w : World σ) :
    turns c task (m + n) tasks w =
      turns c task n (turns c task m tasks w).1 (turns c task m tasks w).2 := by
  induction m generalizing tasks w with
  | zero => rw [Nat.zero_add]; rfl
  | succ m ih => rw [Nat.succ_add, turns_succ, ih, turns_succ]

theorem turns_nil (task n : Nat) (w : World σ) :
    turns c task n ([] : List (Task α)) w = ([], w) := by
  induction n with
  | zero => rfl
  | succ n ih => exact ih

theorem turns_ended (task n : Nat) (a : α) (rest : List (Task α)) (w : World σ) :
    turns c task n (.ended a :: rest) w =
      (.ended a :: (turns c (task + 1) n rest w).1, (turns c (task + 1) n rest w).2) := by
  induction n generalizing rest w with
  | zero => rfl
  | succ n ih =>
    rw [turns_succ, turns_succ, turnAll_cons]
    exact ih _ _

theorem turns_waiting (task n left : Nat) (r : Request) (next : Answer r → Program α)
    (rest : List (Task α)) (w : World σ) :
    turns c task n (.waiting (left + n) r next :: rest) w =
      (.waiting left r next :: (turns c (task + 1) n rest w).1,
        (turns c (task + 1) n rest w).2) := by
  induction n generalizing rest w with
  | zero => rfl
  | succ n ih =>
    rw [turns_succ, turns_succ, turnAll_cons, ← Nat.add_assoc]
    exact ih _ _

/-- The turn in which a program gets its answer, after those in which it waited. -/
theorem turns_answered (task left : Nat) (r : Request) (next : Answer r → Program α)
    (rest : List (Task α)) (w : World σ) :
    let waited := turns c (task + 1) left rest w
    let answered := waited.2.settle c task r
    let first := advance c task (next answered.1) answered.2
    let others := turnAll c (task + 1) waited.1 first.2
    turns c task (left + 1) (.waiting left r next :: rest) w = (first.1 :: others.1, others.2) := by
  intro waited answered first others
  have hwait := turns_waiting c task left 0 r next rest w
  rw [Nat.zero_add] at hwait
  rw [turns_add, hwait]
  rfl

/-! ## From the first program to rounds -/

/-- Following a program to its end, and then giving the others the turn they are owed, is a number
of rounds. -/
theorem complete_rounds (task : Nat) (p : Program α) (rest : List (Task α)) (w : World σ) :
    let first := advance c task p w
    let others := turnAll c (task + 1) rest first.2
    let completed := complete c task p rest w
    let owed := turnAll c (task + 1) completed.2.1 completed.2.2
    ∃ n, turns c task n (first.1 :: others.1) others.2 =
      (.ended completed.1 :: owed.1, owed.2) := by
  induction p generalizing rest w with
  | done a => exact ⟨0, rfl⟩
  | call r next ih =>
    intro first others completed owed
    obtain ⟨wait, w', h⟩ : ∃ wait w', w.issue c task r = (wait, w') := ⟨_, _, rfl⟩
    have hcompleted : completed = _ := complete_call c task r next rest h
    cases wait with
    | zero =>
      have hfirst : first = _ := advance_now c h
      obtain ⟨n, hn⟩ := ih (w'.settle c task r).1 rest (w'.settle c task r).2
      refine ⟨n, ?_⟩
      simp only [owed, others, hfirst, hcompleted]
      exact hn
    | succ wait =>
      have hfirst : first = (.waiting wait r next, w') := advance_later c h
      obtain ⟨n, hn⟩ := ih ((turns c (task + 1) (wait + 1) rest w').2.settle c task r).1
        (turns c (task + 1) (wait + 1) rest w').1
        ((turns c (task + 1) (wait + 1) rest w').2.settle c task r).2
      refine ⟨wait + 1 + n, ?_⟩
      simp only [owed, others, hfirst, hcompleted]
      rw [turns_add, turns_answered]
      exact hn

theorem finish_ended (task : Nat) (a : α) (rest : List (Task α)) (w : World σ) :
    finish c task (.ended a :: rest) w =
      (a :: (finish c (task + 1) rest w).1, (finish c (task + 1) rest w).2) := by
  rw [finish]

theorem finish_waiting (task left : Nat) (r : Request) (next : Answer r → Program α)
    (rest : List (Task α)) (w : World σ) :
    let waited := turns c (task + 1) left rest w
    let answered := waited.2.settle c task r
    let completed := complete c task (next answered.1) waited.1 answered.2
    let owed := turnAll c (task + 1) completed.2.1 completed.2.2
    finish c task (.waiting left r next :: rest) w =
      (completed.1 :: (finish c (task + 1) owed.1 owed.2).1,
        (finish c (task + 1) owed.1 owed.2).2) := by
  rw [finish]

theorem finish_rounds (task : Nat) (tasks : List (Task α)) (w : World σ) :
    ∃ n, turns c task n tasks w =
      ((finish c task tasks w).1.map .ended, (finish c task tasks w).2) := by
  induction task, tasks, w using finish.induct c with
  | case1 task w => exact ⟨0, by rw [finish]; rfl⟩
  | case2 task w a rest _ _ _ ih =>
    obtain ⟨n, hn⟩ := ih
    refine ⟨n, ?_⟩
    rw [turns_ended, hn, finish_ended]
    rfl
  | case3 task w left r next rest waited answered completed owed _ _ _ ih =>
    obtain ⟨m, hm⟩ := complete_rounds c task (next answered.1) waited.1 answered.2
    obtain ⟨n, hn⟩ := ih
    refine ⟨left + 1 + (m + n), ?_⟩
    rw [turns_add, turns_answered, turns_add, hm, turns_ended, hn, finish_waiting]
    rfl

/-- A run is the first round and a number of further ones. -/
theorem run_rounds (programs : List (Program α)) (state : σ) :
    ∃ n, turns c 0 n (startAll c 0 programs ⟨state, []⟩).1 (startAll c 0 programs ⟨state, []⟩).2 =
      ((run c programs state).1.map .ended, (run c programs state).2) :=
  finish_rounds c 0 (startAll c 0 programs ⟨state, []⟩).1 (startAll c 0 programs ⟨state, []⟩).2

theorem turns_allEnded (task n : Nat) (values : List α) (w : World σ) :
    turns c task n (values.map .ended) w = (values.map .ended, w) := by
  induction values generalizing task with
  | nil => exact turns_nil c task n w
  | cons a values ih => rw [List.map_cons, turns_ended, ih]

/-- The rounds lead to one end only, however many of them are played. -/
theorem rounds_unique {task m n : Nat} {tasks : List (Task α)} {w u v : World σ}
    {values others : List α} (hm : turns c task m tasks w = (values.map .ended, u))
    (hn : turns c task n tasks w = (others.map .ended, v)) : values = others ∧ u = v := by
  have hleft : turns c task (m + n) tasks w = (values.map .ended, u) := by
    rw [turns_add, hm, turns_allEnded]
  have hright : turns c task (m + n) tasks w = (others.map .ended, v) := by
    rw [Nat.add_comm, turns_add, hn, turns_allEnded]
  obtain ⟨hvalues, hw⟩ := Prod.mk.inj (hleft.symm.trans hright)
  exact ⟨List.map_injective_iff.mpr (fun _ _ h => Task.ended.inj h) hvalues, hw⟩

end ServiceBroker.Schedule

namespace ServiceBroker.Session

variable {σ α : Type} (c : Collaborators σ)

theorem together_nil (s : σ) : together c ([] : List (Program α)) s = ⟨[], [], s⟩ := by
  simp only [together, Schedule.run, Schedule.startAll, Schedule.finish]

theorem complete_call_alone (r : Request) (next : Answer r → Program α) (s : σ)
    (log : List LogEntry) :
    let answered := c.answer r (c.accept r s).2
    Schedule.complete c 0 (.call r next) [] ⟨s, log⟩ =
      Schedule.complete c 0 (next answered.1) []
        ⟨answered.2, log ++ [⟨0, .issued r⟩] ++ [⟨0, .answered r answered.1⟩]⟩ := by
  rw [Schedule.complete_call c 0 r next [] rfl, Schedule.turns_nil]
  rfl

/-- What is in the log already has no part in a run. -/
theorem complete_log (p : Program α) (s : σ) (log : List LogEntry) :
    Schedule.complete c 0 p [] ⟨s, log⟩ =
      ((alone c p s).value, [], ⟨(alone c p s).state, log ++ (alone c p s).log⟩) := by
  induction p generalizing s log with
  | done a => rfl
  | call r next ih =>
    simp only [alone, complete_call_alone]
    rw [ih, ih]
    simp

theorem alone_call (r : Request) (next : Answer r → Program α) (s : σ) :
    let answered := c.answer r (c.accept r s).2
    let rest := alone c (next answered.1) answered.2
    alone c (.call r next) s =
      ⟨rest.value, ⟨0, .issued r⟩ :: ⟨0, .answered r answered.1⟩ :: rest.log, rest.state⟩ := by
  intro answered rest
  rw [alone, complete_call_alone, complete_log]
  rfl

theorem alone_ask (r : Request) (s : σ) :
    let answered := c.answer r (c.accept r s).2
    alone c (Program.ask r) s =
      ⟨answered.1, [⟨0, .issued r⟩, ⟨0, .answered r answered.1⟩, ⟨0, .ended⟩], answered.2⟩ :=
  alone_call c r .done s

theorem together_singleton (p : Program α) (s : σ) :
    together c [p] s = ⟨[(alone c p s).value], (alone c p s).log, (alone c p s).state⟩ := by
  obtain ⟨m, hm⟩ := Schedule.run_rounds c [p] s
  obtain ⟨n, hn⟩ := Schedule.complete_rounds c 0 p [] ⟨s, []⟩
  have hrest : (Schedule.complete c 0 p [] ⟨s, []⟩).2.1 = [] :=
    List.eq_nil_of_length_eq_zero (Schedule.length_complete c 0 p [] ⟨s, []⟩)
  rw [hrest] at hn
  have halone : Schedule.turns c 0 n (Schedule.startAll c 0 [p] ⟨s, []⟩).1
      (Schedule.startAll c 0 [p] ⟨s, []⟩).2 =
        ([(alone c p s).value].map .ended, ⟨(alone c p s).state, (alone c p s).log⟩) := hn
  obtain ⟨hvalues, hw⟩ := Schedule.rounds_unique c hm halone
  simp only [together, hvalues, hw]

end ServiceBroker.Session
