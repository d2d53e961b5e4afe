import ServiceBroker.Proofs.Interleaving

/-!
Invariants of runs. A program is judged by what it may ask and what its value may be, whatever
answers it gets; if the requests that it may make keep an invariant, so does every run of such
programs.
-/

namespace ServiceBroker

variable {σ α β ε : Type}

namespace Program

/-- The program asks only what `P` allows, and its value satisfies `Q`. -/
def Ensures (P : Request → Prop) (Q : α → Prop) : Program α → Prop
  | .done a => Q a
  | .call r next => P r ∧ ∀ answer, (next answer).Ensures P Q

def Asks (P : Request → Prop) (p : Program α) : Prop := p.Ensures P fun _ => True

variable {P P' : Request → Prop} {Q Q' : α → Prop}

theorem Ensures.mono {p : Program α} (h : p.Ensures P Q) (hP : ∀ r, P r → P' r)
    (hQ : ∀ a, Q a → Q' a) : p.Ensures P' Q' := by
  induction p with
  | done a => exact hQ a h
  | call r next ih => exact ⟨hP r h.1, fun answer => ih answer (h.2 answer)⟩

theorem Ensures.asks {p : Program α} (h : p.Ensures P Q) : p.Asks P :=
  h.mono (fun _ hr => hr) fun _ _ => trivial

theorem asks_true (p : Program α) : p.Asks fun _ => True := by
  induction p with
  | done a => exact trivial
  | call r next ih => exact ⟨trivial, ih⟩

theorem Ensures.bind {p : Program α} {f : α → Program β} {R : β → Prop} (h : p.Ensures P Q)
    (hf : ∀ a, Q a → (f a).Ensures P R) : (p.bind f).Ensures P R := by
  induction p with
  | done a => exact hf a h
  | call r next ih => exact ⟨h.1, fun answer => ih answer (h.2 answer)⟩

theorem ensures_ask_andThen {r : Request} {f : Response r → Program (Except Failure α)}
    {R : Except Failure α → Prop} (hr : P r) (herror : ∀ failure, R (.error failure))
    (hf : ∀ response, (f response).Ensures P R) : ((ask r).andThen f).Ensures P R := by
  refine ⟨hr, fun answer => ?_⟩
  cases answer with
  | error failure => exact herror failure
  | ok response => exact hf response

end Program

def Stage.Asks (P : Request → Prop) : Stage α → Prop
  | .ready p => p.Asks P
  | .waiting r next => P r ∧ ∀ answer, (next answer).Asks P
  | .ended _ => True

structure Collaborators.Keeps (c : Collaborators σ) (P : Request → Prop) (I : World σ → Prop) :
    Prop where
  issue : ∀ task r w, P r → I w → I (w.issue c task r).2
  settle : ∀ task r w, P r → I w → I (w.settle c task r).2
  ended : ∀ task w, I w → I (w.record task .ended)

theorem Collaborators.keeps_state {c : Collaborators σ} {P : Request → Prop} {J : σ → Prop}
    (haccept : ∀ r s, P r → J s → J (c.accept r s).2)
    (hanswer : ∀ r s, P r → J s → J (c.answer r s).2) : c.Keeps P fun w => J w.state where
  issue _ r w hr hw := haccept r w.state hr hw
  settle _ r w hr hw := hanswer r w.state hr hw
  ended _ _ hw := hw

/-- Each event may say something about the state. It goes on holding after the event if it holds at
once and requests keep it. -/
theorem Collaborators.keeps_told {c : Collaborators σ} {P : Request → Prop}
    (Told : Event → σ → Prop) (hissued : ∀ r s, Told (.issued r) s) (hended : ∀ s, Told .ended s)
    (hanswered : ∀ r s, P r → Told (.answered r (c.answer r s).1) (c.answer r s).2)
    (haccept : ∀ event r s, P r → Told event s → Told event (c.accept r s).2)
    (hanswer : ∀ event r s, P r → Told event s → Told event (c.answer r s).2) :
    c.Keeps P fun w => ∀ entry ∈ w.log, Told entry.event w.state where
  issue task r w hr hw := by
    intro entry hentry
    rcases List.mem_append.mp hentry with hentry | hentry
    · exact haccept _ r _ hr (hw entry hentry)
    · obtain rfl := List.mem_singleton.mp hentry
      exact hissued r _
  settle task r w hr hw := by
    intro entry hentry
    rcases List.mem_append.mp hentry with hentry | hentry
    · exact hanswer _ r _ hr (hw entry hentry)
    · obtain rfl := List.mem_singleton.mp hentry
      exact hanswered r _ hr
  ended task w hw := by
    intro entry hentry
    rcases List.mem_append.mp hentry with hentry | hentry
    · exact hw entry hentry
    · obtain rfl := List.mem_singleton.mp hentry
      exact hended _

/-- What taking or answering a request does to the collaborators. -/
def Collaborators.meet (c : Collaborators σ) (s : σ) : Event → σ
  | .issued r => (c.accept r s).2
  | .answered r _ => (c.answer r s).2
  | .ended => s

/-- The collaborators after some events. None of them is taken back. -/
def Collaborators.after (c : Collaborators σ) (s : σ) (events : List Event) : σ :=
  events.foldl c.meet s

namespace Schedule

variable {c : Collaborators σ} {P : Request → Prop} {I : World σ → Prop} {task : Nat}

theorem Move.keeps {t t' : Stage α} {w w' : World σ} (move : Move c task t w t' w')
    (keeps : c.Keeps P I) (ht : t.Asks P) (hw : I w) : t'.Asks P ∧ I w' := by
  cases move with
  | issue r next => exact ⟨ht, keeps.issue task r w ht.1 hw⟩
  | settle r next => exact ⟨ht.2 _, keeps.settle task r w ht.1 hw⟩
  | finish a => exact ⟨trivial, keeps.ended task w hw⟩

theorem Step.keeps {x y : List (Stage α) × World σ} (step : Step c task x y)
    (keeps : c.Keeps P I) (hx : (∀ t ∈ x.1, t.Asks P) ∧ I x.2) :
    (∀ t ∈ y.1, t.Asks P) ∧ I y.2 := by
  obtain ⟨before, after, move⟩ := step
  obtain ⟨hstages, hw⟩ := hx
  obtain ⟨ht', hw'⟩ := move.keeps keeps (hstages _ (by simp)) hw
  refine ⟨fun t ht => ?_, hw'⟩
  rcases List.mem_append.mp ht with ht | ht
  · exact hstages t (List.mem_append_left _ ht)
  · rcases List.mem_cons.mp ht with rfl | ht
    · exact ht'
    · exact hstages t (List.mem_append_right _ (List.mem_cons_of_mem _ ht))

theorem Steps.keeps {x y : List (Stage α) × World σ} (steps : Steps c task x y)
    (keeps : c.Keeps P I) (hx : (∀ t ∈ x.1, t.Asks P) ∧ I x.2) :
    (∀ t ∈ y.1, t.Asks P) ∧ I y.2 := by
  induction steps with
  | refl => exact hx
  | tail _ step ih => exact step.keeps keeps ih

end Schedule

namespace Session

/-- What the requests of all programs keep holds at the end of every interleaving. -/
theorem Interleaves.keeps {c : Collaborators σ} {P : Request → Prop} {I : World σ → Prop}
    {programs : List (Program α)} {s : σ} {o : Outcome σ (List α)}
    (run : Interleaves c programs s o) (keeps : c.Keeps P I)
    (hprograms : ∀ p ∈ programs, p.Asks P) (h : I ⟨s, []⟩) : I ⟨o.state, o.log⟩ := by
  refine (Schedule.Steps.keeps run keeps ⟨fun t ht => ?_, h⟩).2
  obtain ⟨p, hp, rfl⟩ := List.mem_map.mp ht
  exact hprograms p hp

theorem Interleaves.state_of_silent {c : Collaborators σ} {programs : List (Program α)} {s : σ}
    {o : Outcome σ (List α)} (run : Interleaves c programs s o)
    (hprograms : ∀ p ∈ programs, p.Asks fun _ => False) : o.state = s := by
  have keeps : c.Keeps (fun _ => False) fun w => w.state = s :=
    Collaborators.keeps_state (J := fun t => t = s) (fun _ _ h => h.elim) (fun _ _ h => h.elim)
  exact run.keeps keeps hprograms rfl

/-- A run leaves the collaborators as all its events have made them. -/
theorem Interleaves.state_eq {c : Collaborators σ} {programs : List (Program α)} {s : σ}
    {o : Outcome σ (List α)} (run : Interleaves c programs s o) :
    o.state = c.after s (o.log.map LogEntry.event) := by
  have keeps : c.Keeps (fun _ => True)
      fun w => w.state = c.after s (w.log.map LogEntry.event) := by
    constructor
    case issue =>
      intro task r w _ hw
      simp [World.issue, World.record, Collaborators.after, Collaborators.meet, hw]
    case settle =>
      intro task r w _ hw
      simp [World.settle, World.record, Collaborators.after, Collaborators.meet, hw]
    case ended =>
      intro task w hw
      simp [World.record, Collaborators.after, Collaborators.meet, hw]
  exact run.keeps keeps (fun p _ => p.asks_true) rfl

theorem alone_state (c : Collaborators σ) (p : Program α) (s : σ) :
    (alone c p s).state = c.after s ((alone c p s).log.map LogEntry.event) := by
  have hstate := (together_interleaves c [p] s).state_eq
  rw [together_singleton] at hstate
  exact hstate

end Session

end ServiceBroker
