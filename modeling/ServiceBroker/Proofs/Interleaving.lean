import Mathlib.Logic.Relation
import ServiceBroker.Proofs.Rounds

/-!
Runs as interleavings. In one step some program of a run issues a request, gets an answer or ends.
However long the answers take, a run is a sequence of such steps, so what every step preserves holds
at its end.
-/

namespace ServiceBroker

variable {σ α : Type}

/-- Where a program stands in a run, whatever time it has yet to wait. -/
inductive Stage (α : Type) where
  | ready (program : Program α)
  | waiting (request : Request) (next : Answer request → Program α)
  | ended (value : α)

def Task.stage : Task α → Stage α
  | .ended a => .ended a
  | .waiting _ r next => .waiting r next

namespace Schedule

inductive Move (c : Collaborators σ) (task : Nat) :
    Stage α → World σ → Stage α → World σ → Prop where
  | issue (r : Request) (next : Answer r → Program α) (w : World σ) :
      Move c task (.ready (.call r next)) w (.waiting r next) (w.issue c task r).2
  | settle (r : Request) (next : Answer r → Program α) (w : World σ) :
      Move c task (.waiting r next) w (.ready (next (w.settle c task r).1)) (w.settle c task r).2
  | finish (a : α) (w : World σ) :
      Move c task (.ready (.done a)) w (.ended a) (w.record task .ended)

/-- A move of any one program; the first one has the given position. -/
inductive Step (c : Collaborators σ) (task : Nat) :
    List (Stage α) × World σ → List (Stage α) × World σ → Prop where
  | one {t t' : Stage α} {w w' : World σ} (before after : List (Stage α))
      (move : Move c (task + before.length) t w t' w') :
      Step c task (before ++ t :: after, w) (before ++ t' :: after, w')

abbrev Steps (c : Collaborators σ) (task : Nat) :
    List (Stage α) × World σ → List (Stage α) × World σ → Prop :=
  Relation.ReflTransGen (Step c task)

variable {c : Collaborators σ} {task : Nat}

theorem Move.steps {t t' : Stage α} {w w' : World σ} (move : Move c task t w t' w')
    (rest : List (Stage α)) : Steps c task (t :: rest, w) (t' :: rest, w') :=
  .single (.one [] rest move)

theorem Steps.cons {stages stages' : List (Stage α)} {w w' : World σ} (t : Stage α)
    (h : Steps c (task + 1) (stages, w) (stages', w')) :
    Steps c task (t :: stages, w) (t :: stages', w') := by
  refine h.lift (fun x : List (Stage α) × World σ => (t :: x.1, x.2)) ?_
  rintro _ _ ⟨before, after, move⟩
  refine .one (t :: before) after ?_
  rw [List.length_cons, Nat.add_comm before.length, ← Nat.add_assoc]
  exact move

/-! ## The schedule takes steps -/

theorem advance_steps (c : Collaborators σ) (task : Nat) (p : Program α) (w : World σ)
    (rest : List (Stage α)) :
    Steps c task (.ready p :: rest, w)
      ((advance c task p w).1.stage :: rest, (advance c task p w).2) := by
  induction p generalizing w with
  | done a => exact (Move.finish a w).steps rest
  | call r next ih =>
    have hissue : Steps c task (.ready (.call r next) :: rest, w)
        (.waiting r next :: rest, (w.issue c task r).2) := (Move.issue r next w).steps rest
    obtain ⟨wait, w', h⟩ : ∃ wait w', w.issue c task r = (wait, w') := ⟨_, _, rfl⟩
    rw [h] at hissue
    cases wait with
    | zero =>
      rw [advance_now c h]
      exact (hissue.trans ((Move.settle r next w').steps rest)).trans (ih _ _)
    | succ wait =>
      rw [advance_later c h]
      exact hissue

theorem turn_steps (c : Collaborators σ) (task : Nat) (t : Task α) (w : World σ)
    (rest : List (Stage α)) :
    Steps c task (t.stage :: rest, w) ((turn c task t w).1.stage :: rest, (turn c task t w).2) := by
  cases t with
  | ended a => exact .refl
  | waiting left r next =>
    cases left with
    | zero => exact ((Move.settle r next w).steps rest).trans (advance_steps c task _ _ rest)
    | succ left => exact .refl

theorem turnAll_steps (c : Collaborators σ) (task : Nat) (tasks : List (Task α)) (w : World σ) :
    Steps c task (tasks.map Task.stage, w)
      ((turnAll c task tasks w).1.map Task.stage, (turnAll c task tasks w).2) := by
  induction tasks generalizing task w with
  | nil => exact .refl
  | cons t rest ih => exact (turn_steps c task t w _).trans ((ih _ _).cons _)

theorem turns_steps (c : Collaborators σ) (task n : Nat) (tasks : List (Task α)) (w : World σ) :
    Steps c task (tasks.map Task.stage, w)
      ((turns c task n tasks w).1.map Task.stage, (turns c task n tasks w).2) := by
  induction n generalizing tasks w with
  | zero => exact .refl
  | succ n ih => exact (turnAll_steps c task tasks w).trans (ih _ _)

theorem startAll_steps (c : Collaborators σ) (task : Nat) (programs : List (Program α))
    (w : World σ) :
    Steps c task (programs.map .ready, w)
      ((startAll c task programs w).1.map Task.stage, (startAll c task programs w).2) := by
  induction programs generalizing task w with
  | nil => exact .refl
  | cons p rest ih => exact (advance_steps c task p w _).trans ((ih _ _).cons _)

theorem finish_steps (c : Collaborators σ) (task : Nat) (tasks : List (Task α)) (w : World σ) :
    Steps c task (tasks.map Task.stage, w)
      ((finish c task tasks w).1.map .ended, (finish c task tasks w).2) := by
  obtain ⟨n, hn⟩ := finish_rounds c task tasks w
  have h := turns_steps c task n tasks w
  rw [hn, List.map_map] at h
  exact h

/-- A run takes every program from its beginning to its end. -/
theorem run_steps (c : Collaborators σ) (programs : List (Program α)) (s : σ) :
    Steps c 0 (programs.map .ready, ⟨s, []⟩)
      ((run c programs s).1.map .ended, (run c programs s).2) :=
  (startAll_steps c 0 programs ⟨s, []⟩).trans (finish_steps c 0 _ _)

end Schedule

namespace Session

/-- Some interleaving of the programs leads to the outcome. -/
def Interleaves (c : Collaborators σ) (programs : List (Program α)) (s : σ)
    (o : Outcome σ (List α)) : Prop :=
  Schedule.Steps c 0 (programs.map .ready, ⟨s, []⟩) (o.value.map .ended, ⟨o.state, o.log⟩)

theorem together_interleaves (c : Collaborators σ) (programs : List (Program α)) (s : σ) :
    Interleaves c programs s (together c programs s) :=
  Schedule.run_steps c programs s

end Session

end ServiceBroker
