import ServiceBroker.Credential.Generator
import ServiceBroker.Work.Schedule

/-!
Collaborators with the random generator among them. It answers every request for a secret at once;
all other requests go on to the others, which know nothing of its secrets.
-/

namespace ServiceBroker

def GeneratorError.failure (e : GeneratorError) : Failure := ⟨e.message, []⟩

namespace Generator

/-- The answer to a request for a secret. -/
def answer? (entropy : Entropy) (generator : Generator) :
    (r : Request) → Option (Answer r × Generator)
  | .generateUser key charset =>
    let (result, generator) := generator.generateUser entropy key charset
    some (result.mapError GeneratorError.failure, generator)
  | .generateString key charset =>
    let (result, generator) := generator.generateString entropy key charset
    some (result.mapError GeneratorError.failure, generator)
  | .deleteUser key => some (.ok (), generator.deleteUser key)
  | .deleteString key => some (.ok (), generator.deleteString key)
  | _ => none

end Generator

variable {σ : Type}

/-- The given collaborators, with the generator in the place of their keeper of credentials. -/
def Collaborators.withGenerator (others : Collaborators σ) (entropy : Entropy) :
    Collaborators (Generator × σ) where
  accept r s :=
    if r.isForSecret then (0, s)
    else
      let (wait, state) := others.accept r s.2
      (wait, s.1, state)
  answer r s :=
    match s.1.answer? entropy r with
    | some (answer, generator) => (answer, generator, s.2)
    | none =>
      let (answer, state) := others.answer r s.2
      (answer, s.1, state)

end ServiceBroker
