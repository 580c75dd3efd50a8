import ChainAlerts.Task

/-! Tasks that run side by side on something they share. One task at a time makes its next request, and a schedule
says which. If no request of some tasks has to do with what the others ask about, the others go on as if those
tasks had never moved. -/

namespace ChainAlerts

namespace Task

variable {ρ : Type} {reply : ρ → Type} {α β σ : Type} {P Q : ρ → Prop}

/-- Every request that a task can make, whatever it is answered, is of a kind. -/
def Asks (P : ρ → Prop) : Task ρ reply α → Prop
  | .done _ => True
  | .ask r next => P r ∧ ∀ answer, (next answer).Asks P

theorem Asks.mono (h : ∀ r, P r → Q r) {t : Task ρ reply α} (ht : t.Asks P) : t.Asks Q := by
  induction t with
  | done a => trivial
  | ask r next ih => exact ⟨h r ht.1, fun answer => ih answer (ht.2 answer)⟩

/-- What a task asks about: two states that look alike to its requests answer them alike. -/
structure SeenBy (answer : (r : ρ) → σ → reply r × σ) (P : ρ → Prop) (alike : σ → σ → Prop) : Prop where
  reply_eq : ∀ {r s s'}, P r → alike s s' → (answer r s).1 = (answer r s').1
  after : ∀ {r s s'}, P r → alike s s' → alike (answer r s).2 (answer r s').2

/-- Requests that nothing of what is seen depends on. -/
def Unseen (answer : (r : ρ) → σ → reply r × σ) (Q : ρ → Prop) (alike : σ → σ → Prop) : Prop :=
  ∀ r s s', Q r → alike s s' → alike (answer r s).2 s'

variable {answer : (r : ρ) → σ → reply r × σ} {alike : σ → σ → Prop} {s s' : σ}

theorem SeenBy.run (h : SeenBy answer P alike) (hs : alike s s') {t : Task ρ reply α} (ht : t.Asks P) :
    (t.run answer s).1 = (t.run answer s').1 ∧ alike (t.run answer s).2 (t.run answer s').2 := by
  induction t generalizing s s' with
  | done a => exact ⟨rfl, hs⟩
  | ask r next ih =>
      simp only [Task.run]
      rw [h.reply_eq ht.1 hs]
      exact ih _ (h.after ht.1 hs) (ht.2 _)

theorem Unseen.run (h : Unseen answer Q alike) (hs : alike s s') {t : Task ρ reply α} (ht : t.Asks Q) :
    alike (t.run answer s).2 s' := by
  induction t generalizing s with
  | done a => exact hs
  | ask r next ih => exact ih _ (h r s s' ht.1 hs) (ht.2 _)

end Task

/-- Tasks that run side by side, and what they share. -/
structure Tasks (ρ : Type) (reply : ρ → Type) (α σ : Type) where
  shared : σ
  tasks : List (Task ρ reply α)

namespace Tasks

variable {ρ : Type} {reply : ρ → Type} {α σ : Type} {P Q : ρ → Prop} (answer : (r : ρ) → σ → reply r × σ)

/-- Lets a task make its next request. -/
def advance (now : Tasks ρ reply α σ) (i : Nat) : Tasks ρ reply α σ :=
  match now.tasks[i]? with
  | some (.ask r next) => ⟨(answer r now.shared).2, now.tasks.set i (next (answer r now.shared).1)⟩
  | _ => now

/-- Lets tasks move as a schedule says. -/
def run (schedule : List Nat) (now : Tasks ρ reply α σ) : Tasks ρ reply α σ := schedule.foldl (advance answer) now

/-- The result of a task that has come to its end. -/
def result? (now : Tasks ρ reply α σ) (i : Nat) : Option α :=
  match now.tasks[i]? with
  | some (.done a) => some a
  | _ => none

/-- Two sets of tasks of which some are in view: these are the same, and see the same. -/
structure Alike (inView : Nat → Bool) (P Q : ρ → Prop) (alike : σ → σ → Prop) (now now' : Tasks ρ reply α σ) :
    Prop where
  shared : alike now.shared now'.shared
  same : ∀ i, inView i → now.tasks[i]? = now'.tasks[i]?
  seen : ∀ i t, inView i → now.tasks[i]? = some t → t.Asks P
  unseen : ∀ i t, ¬ inView i → now.tasks[i]? = some t → t.Asks Q

variable {answer} {inView : Nat → Bool} {alike : σ → σ → Prop} {now now' : Tasks ρ reply α σ}

theorem result?_congr {i : Nat} (h : now.tasks[i]? = now'.tasks[i]?) : now.result? i = now'.result? i := by
  rw [result?, result?, h]

/-- A task that is not in view moves in one of two alike sets of tasks. -/
theorem Alike.advance_unseen (h : Alike inView P Q alike now now') (hunseen : Task.Unseen answer Q alike) {i : Nat}
    (hi : ¬ inView i) : Alike inView P Q alike (now.advance answer i) now' := by
  unfold advance
  split
  next r next htask =>
    obtain ⟨hr, hnext⟩ := h.unseen i _ hi htask
    refine ⟨hunseen _ _ _ hr h.shared, fun j hj => ?_, fun j t hj hjt => ?_, fun j t hj hjt => ?_⟩
    · have hne : i ≠ j := fun heq => hi (heq ▸ hj)
      rw [List.getElem?_set_ne hne]
      exact h.same j hj
    · have hne : i ≠ j := fun heq => hi (heq ▸ hj)
      rw [List.getElem?_set_ne hne] at hjt
      exact h.seen j t hj hjt
    · by_cases hne : i = j
      · subst hne
        rw [List.getElem?_set_self (List.getElem?_eq_some_iff.mp htask).1] at hjt
        obtain rfl := Option.some.inj hjt
        exact hnext _
      · rw [List.getElem?_set_ne hne] at hjt
        exact h.unseen j t hj hjt
  · exact h

/-- A task in view moves in both of two alike sets of tasks. -/
theorem Alike.advance_seen (h : Alike inView P Q alike now now') (hseen : Task.SeenBy answer P alike) {i : Nat}
    (hi : inView i) : Alike inView P Q alike (now.advance answer i) (now'.advance answer i) := by
  unfold advance
  rw [← h.same i hi]
  split
  next r next htask =>
    obtain ⟨hr, hnext⟩ := h.seen i _ hi htask
    have hlength : i < now.tasks.length := (List.getElem?_eq_some_iff.mp htask).1
    have hlength' : i < now'.tasks.length := (List.getElem?_eq_some_iff.mp ((h.same i hi).symm.trans htask)).1
    rw [← hseen.reply_eq hr h.shared]
    refine ⟨hseen.after hr h.shared, fun j hj => ?_, fun j t hj hjt => ?_, fun j t hj hjt => ?_⟩
    · by_cases hne : i = j
      · subst hne
        rw [List.getElem?_set_self hlength, List.getElem?_set_self hlength']
      · rw [List.getElem?_set_ne hne, List.getElem?_set_ne hne]
        exact h.same j hj
    · by_cases hne : i = j
      · subst hne
        rw [List.getElem?_set_self hlength] at hjt
        obtain rfl := Option.some.inj hjt
        exact hnext _
      · rw [List.getElem?_set_ne hne] at hjt
        exact h.seen j t hj hjt
    · have hne : i ≠ j := fun heq => hj (heq ▸ hi)
      rw [List.getElem?_set_ne hne] at hjt
      exact h.unseen j t hj hjt
  · exact h

/-- The tasks in view go on as if no other task had moved. -/
theorem Alike.run (h : Alike inView P Q alike now now') (hseen : Task.SeenBy answer P alike)
    (hunseen : Task.Unseen answer Q alike) (schedule : List Nat) :
    Alike inView P Q alike (now.run answer schedule) (now'.run answer (schedule.filter inView)) := by
  induction schedule generalizing now now' with
  | nil => exact h
  | cons i rest ih =>
      by_cases hi : inView i
      · rw [List.filter_cons_of_pos hi]
        exact ih (h.advance_seen hseen hi)
      · rw [List.filter_cons_of_neg hi]
        exact ih (h.advance_unseen hunseen hi)

end Tasks

end ChainAlerts
