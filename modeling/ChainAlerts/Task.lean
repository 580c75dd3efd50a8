/-! Running activities as data. A task either is done, or asks one thing of its surroundings and goes
on with the reply; what happens between two requests happens at once. Tasks that run side by side
interleave at their requests, and a task that runs alone is a fold over its surroundings. -/

namespace ChainAlerts

/-- An activity that makes requests `ρ`, is answered with `reply`, and ends with an `α`. -/
inductive Task (ρ : Type) (reply : ρ → Type) (α : Type) where
  | done (result : α)
  | ask (request : ρ) (next : reply request → Task ρ reply α)

namespace Task

variable {ρ : Type} {reply : ρ → Type} {α β σ : Type}

/-- Goes on with another task when the first one is done. -/
def andThen : Task ρ reply α → (α → Task ρ reply β) → Task ρ reply β
  | .done a, f => f a
  | .ask r next, f => .ask r fun answer => (next answer).andThen f

instance : Monad (Task ρ reply) where
  pure := .done
  bind := andThen

/-- Goes on with another task if the first one succeeds; a failure ends both. -/
def ifOk {ε : Type} (t : Task ρ reply (Except ε α)) (f : α → Task ρ reply (Except ε β)) :
    Task ρ reply (Except ε β) :=
  t.andThen fun
    | .ok a => f a
    | .error e => .done (.error e)

/-- Ends with a function of the result. -/
def map (f : α → β) (t : Task ρ reply α) : Task ρ reply β := t.andThen fun a => .done (f a)

/-- The task that makes one request and ends with its reply. -/
def request (r : ρ) : Task ρ reply (reply r) := .ask r .done

/-- The same activity with its requests made as those of another kind. -/
def lift {ρ' : Type} {reply' : ρ' → Type} (embed : ρ → ρ') (view : (r : ρ) → reply' (embed r) → reply r) :
    Task ρ reply α → Task ρ' reply' α
  | .done a => .done a
  | .ask r next => .ask (embed r) fun answer => (next (view r answer)).lift embed view

/-- Runs a task alone: each request is answered from the state that the one before left. -/
def run (answer : (r : ρ) → σ → reply r × σ) : Task ρ reply α → σ → α × σ
  | .done a, s => (a, s)
  | .ask r next, s => let (a, s) := answer r s; (next a).run answer s

@[simp] theorem run_done (answer : (r : ρ) → σ → reply r × σ) (a : α) (s : σ) :
    (done a).run answer s = (a, s) := rfl

theorem run_andThen (answer : (r : ρ) → σ → reply r × σ) (t : Task ρ reply α) (f : α → Task ρ reply β)
    (s : σ) :
    (t.andThen f).run answer s = (f (t.run answer s).1).run answer (t.run answer s).2 := by
  induction t generalizing s with
  | done a => rfl
  | ask r next ih => exact ih (answer r s).1 (answer r s).2

end Task

end ChainAlerts
