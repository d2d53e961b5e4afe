import ServiceBroker.Work.Program

/-!
Running several programs side by side. Time passes in rounds: in the first round every program runs,
in order, until it waits or ends; in each later round every waiting program comes one tick nearer to
its answer, and one that gets it runs on. The programs of a run share the state of the
collaborators.

The rounds are played from the point of view of the first program that has not ended. While it waits
the others take their turns, so the recursion is on that program, and then on the number of programs
that are left.
-/

namespace ServiceBroker

/-- Those who take requests and answer them. On taking a request they say after how many ticks its
answer comes; both taking and answering may change their state. -/
structure Collaborators (σ : Type) where
  accept : Request → σ → Nat × σ
  answer : (r : Request) → σ → Answer r × σ

/-- Collaborators whose answers take a time that depends on the request alone. -/
def Collaborators.timed {σ : Type} (delay : Request → Nat)
    (answer : (r : Request) → σ → Answer r × σ) : Collaborators σ where
  accept r s := (delay r, s)
  answer := answer

/-- What happens to a program in a run. -/
inductive Event where
  | issued (request : Request)
  | answered (request : Request) (answer : Answer request)
  | ended

/-- An event and the position of its program in the run. -/
structure LogEntry where
  task : Nat
  event : Event

/-- The state of the collaborators and the log of a run so far. -/
structure World (σ : Type) where
  state : σ
  log : List LogEntry

namespace World

variable {σ : Type}

def record (w : World σ) (task : Nat) (event : Event) : World σ :=
  { w with log := w.log ++ [⟨task, event⟩] }

/-- Hands a request to the collaborators, who say how long the answer takes. -/
def issue (w : World σ) (c : Collaborators σ) (task : Nat) (r : Request) : Nat × World σ :=
  let (wait, state) := c.accept r w.state
  (wait, { w with state := state }.record task (.issued r))

/-- Lets the collaborators answer a request now. -/
def settle (w : World σ) (c : Collaborators σ) (task : Nat) (r : Request) : Answer r × World σ :=
  let (answer, state) := c.answer r w.state
  (answer, { w with state := state }.record task (.answered r answer))

end World

/-- A program between two rounds: ended, or waiting for an answer that comes with the turn after
`left` more. -/
inductive Task (α : Type) where
  | ended (value : α)
  | waiting (left : Nat) (request : Request) (next : Answer request → Program α)

namespace Schedule

variable {σ α : Type} (c : Collaborators σ)

/-- Runs a program until it waits or ends. -/
def advance (task : Nat) : Program α → World σ → Task α × World σ
  | .done a, w => (.ended a, w.record task .ended)
  | .call r next, w =>
    match w.issue c task r with
    | (0, w) =>
      let (answer, w) := w.settle c task r
      advance task (next answer) w
    | (wait + 1, w) => (.waiting wait r next, w)

/-- One turn of a program. -/
def turn (task : Nat) : Task α → World σ → Task α × World σ
  | .ended a, w => (.ended a, w)
  | .waiting (left + 1) r next, w => (.waiting left r next, w)
  | .waiting 0 r next, w =>
    let (answer, w) := w.settle c task r
    advance c task (next answer) w

/-- One turn of each program, in order; the first one has the given position. -/
def turnAll (task : Nat) : List (Task α) → World σ → List (Task α) × World σ
  | [], w => ([], w)
  | t :: rest, w =>
    let (t, w) := turn c task t w
    let (rest, w) := turnAll (task + 1) rest w
    (t :: rest, w)

/-- A number of turns of each program. -/
def turns (task : Nat) : Nat → List (Task α) → World σ → List (Task α) × World σ
  | 0, tasks, w => (tasks, w)
  | n + 1, tasks, w =>
    let (tasks, w) := turnAll c task tasks w
    turns task n tasks w

/-- Runs a program to its end. It has the turn, the others have not had theirs in this round; when
it has ended they are still to take it. -/
def complete (task : Nat) : Program α → List (Task α) → World σ → α × List (Task α) × World σ
  | .done a, rest, w => (a, rest, w.record task .ended)
  | .call r next, rest, w =>
    let (wait, w) := w.issue c task r
    let (rest, w) := turns c (task + 1) wait rest w
    let (answer, w) := w.settle c task r
    complete task (next answer) rest w

theorem length_turnAll (task : Nat) (tasks : List (Task α)) (w : World σ) :
    (turnAll c task tasks w).1.length = tasks.length := by
  induction tasks generalizing task w with
  | nil => rfl
  | cons t rest ih => simp [turnAll, ih]

theorem length_turns (task n : Nat) (tasks : List (Task α)) (w : World σ) :
    (turns c task n tasks w).1.length = tasks.length := by
  induction n generalizing tasks w with
  | zero => rfl
  | succ n ih => simp [turns, ih, length_turnAll]

theorem length_complete (task : Nat) (p : Program α) (rest : List (Task α)) (w : World σ) :
    (complete c task p rest w).2.1.length = rest.length := by
  induction p generalizing rest w with
  | done a => rfl
  | call r next ih => simp [complete, ih, length_turns]

/-- Runs programs to their ends, from the beginning of a round. -/
def finish (task : Nat) (tasks : List (Task α)) (w : World σ) : List α × World σ :=
  match tasks with
  | [] => ([], w)
  | .ended a :: rest =>
    let (values, w) := finish (task + 1) rest w
    (a :: values, w)
  | .waiting left r next :: rest =>
    let waited := turns c (task + 1) left rest w
    let answered := waited.2.settle c task r
    let completed := complete c task (next answered.1) waited.1 answered.2
    let owed := turnAll c (task + 1) completed.2.1 completed.2.2
    let (values, w) := finish (task + 1) owed.1 owed.2
    (completed.1 :: values, w)
termination_by tasks.length
decreasing_by
  · simp
  · simp [length_turnAll, length_complete, length_turns]

/-- The first round. -/
def startAll (task : Nat) : List (Program α) → World σ → List (Task α) × World σ
  | [], w => ([], w)
  | p :: rest, w =>
    let (t, w) := advance c task p w
    let (tasks, w) := startAll (task + 1) rest w
    (t :: tasks, w)

/-- Runs programs side by side and returns their values in order. -/
def run (programs : List (Program α)) (state : σ) : List α × World σ :=
  let (tasks, w) := startAll c 0 programs ⟨state, []⟩
  finish c 0 tasks w

end Schedule

end ServiceBroker
