import ServiceBroker.Work.Schedule

/-!
Sessions with the collaborators: a sequence of runs, each of one program or of several side by side.
A session keeps the log of all its runs.
-/

namespace ServiceBroker

structure Outcome (σ α : Type) where
  value : α
  log : List LogEntry
  state : σ

def Session (σ α : Type) := σ → Outcome σ α

namespace Session

variable {σ α β : Type}

protected def pure (a : α) : Session σ α := fun s => ⟨a, [], s⟩

protected def bind (x : Session σ α) (f : α → Session σ β) : Session σ β := fun s =>
  let first := x s
  let second := f first.value first.state
  ⟨second.value, first.log ++ second.log, second.state⟩

instance : Monad (Session σ) where
  pure := Session.pure
  bind := Session.bind

@[simp] theorem pure_apply (a : α) (s : σ) : (pure a : Session σ α) s = ⟨a, [], s⟩ := rfl

/-- The second session goes on where the first one ended. -/
@[simp] theorem bind_apply (x : Session σ α) (f : α → Session σ β) (s : σ) :
    (x >>= f) s =
      ⟨(f (x s).value (x s).state).value, (x s).log ++ (f (x s).value (x s).state).log,
        (f (x s).value (x s).state).state⟩ := rfl

/-- Runs one program to its end. -/
def alone (c : Collaborators σ) (p : Program α) : Session σ α := fun s =>
  let (value, _, w) := Schedule.complete c 0 p [] ⟨s, []⟩
  ⟨value, w.log, w.state⟩

/-- Runs programs side by side. -/
def together (c : Collaborators σ) (programs : List (Program α)) : Session σ (List α) := fun s =>
  let (values, w) := Schedule.run c programs s
  ⟨values, w.log, w.state⟩

end Session

end ServiceBroker
