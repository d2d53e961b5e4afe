import ServiceBroker.Work.Request

/-!
Programs that make requests one after another. A program is a value or a request together with what
follows each answer to it, so what a program may do is fixed before anyone runs it.
-/

namespace ServiceBroker

/-- The answer to a request. -/
abbrev Answer (r : Request) := Except Failure (Response r)

inductive Program (α : Type) where
  | done (value : α)
  | call (request : Request) (next : Answer request → Program α)

namespace Program

variable {α β ε : Type}

protected def bind : Program α → (α → Program β) → Program β
  | .done a, f => f a
  | .call r next, f => .call r fun answer => (next answer).bind f

instance : Monad Program where
  pure := .done
  bind := Program.bind

/-- A request whose answer is the value of the program. -/
def ask (r : Request) : Program (Answer r) := .call r .done

/-- Goes on with the value of a program that did not fail. -/
def andThen (p : Program (Except ε α)) (f : α → Program (Except ε β)) : Program (Except ε β) :=
  p.bind fun
    | .error e => .done (.error e)
    | .ok a => f a

end Program

end ServiceBroker
