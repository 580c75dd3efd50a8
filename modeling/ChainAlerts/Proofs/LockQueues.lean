import ChainAlerts.Proofs.ReadersAndWriters

/-! Tasks about a lock that look as soon as they have been woken, one after the other, before anything else happens.
The looks come to an end: each takes a sleeper away or leaves one fewer of them woken. Main statement: whoever waits
after that sleeps, and waits for somebody who is inside. -/

namespace ChainAlerts

namespace ReadWriteLock

variable {τ : Type} {l l' : ReadWriteLock τ} {task : τ} {side : Side}

/-- A bound on the looks that are to come. Whenever a sleeper is taken away, all others may have been woken. -/
def looksToCome (l : ReadWriteLock τ) : Nat := l.sleepers.length * l.sleepers.length + l.sleepers.countP (·.woken)

theorem looksToCome_lt_of_length_lt (h : l'.sleepers.length < l.sleepers.length) :
    l'.looksToCome < l.looksToCome := by
  have hwoken : l'.sleepers.countP (·.woken) ≤ l'.sleepers.length := List.countP_le_length
  calc l'.looksToCome ≤ l'.sleepers.length * (l'.sleepers.length + 1) := by
        rw [looksToCome, Nat.mul_succ]
        exact Nat.add_le_add_left hwoken _
    _ < l.sleepers.length * l.sleepers.length := Nat.mul_lt_mul_of_lt_of_le h h (Nat.zero_lt_of_lt h)
    _ ≤ l.looksToCome := Nat.le_add_right _ _

theorem looksToCome_le (l : ReadWriteLock τ) : l.looksToCome ≤ (l.sleepers.length + 1) * (l.sleepers.length + 1) := by
  have hwoken : l.sleepers.countP (·.woken) ≤ l.sleepers.length := List.countP_le_length
  rw [looksToCome, Nat.succ_mul, Nat.mul_succ]
  omega

theorem length_sleepers_enter (l : ReadWriteLock τ) (task : τ) (side : Side) :
    (l.enter task side).sleepers.length = l.sleepers.length := by
  cases side with
  | read => rfl
  | write => exact List.length_map _

theorem mem_inside_ask {entry : τ × Side} (h : entry ∈ (l.ask task side).inside) :
    entry ∈ l.inside ∨ entry.1 = task := by
  cases side <;> exact (mem_inside_look h).imp_right fun hentry => congrArg Prod.fst hentry.1

variable [DecidableEq τ]

theorem length_sleepers_leave (l : ReadWriteLock τ) (task : τ) (side : Side) :
    (l.leave task side).sleepers.length = l.sleepers.length := by
  cases side with
  | read =>
      rw [leave]
      split
      · exact List.length_map _
      · rfl
  | write => exact List.length_map _

/-- A look of a woken task takes it from the sleepers, or it sleeps again and is woken no longer. -/
theorem InOrder.resume_cases (h : l.InOrder 0) {s : Sleeper τ} (hs : s ∈ l.sleepers) (hwoken : s.woken) :
    (l.resume s).sleepers.length < l.sleepers.length ∨
      (l.resume s).inside = l.inside ∧ (l.resume s).looksToCome < l.looksToCome := by
  have hperm : l.sleepers.Perm (s :: (l.rise s.task).sleepers) := h.perm_rise hs
  have hlength : l.sleepers.length = (l.rise s.task).sleepers.length + 1 := hperm.length_eq
  rw [ReadWriteLock.resume, if_pos hwoken, ReadWriteLock.look]
  split
  · left
    rw [length_sleepers_enter, hlength]
    exact Nat.lt_succ_self _
  · right
    have hcount : l.sleepers.countP (·.woken) = (l.rise s.task).sleepers.countP (·.woken) + 1 := by
      rw [hperm.countP_eq, List.countP_cons_of_pos hwoken]
    exact ⟨rfl, by simp [looksToCome, hlength, hcount]⟩

theorem mem_inside_resume {s : Sleeper τ} {entry : τ × Side} (h : entry ∈ (l.resume s).inside) :
    entry ∈ l.inside ∨ entry.1 = s.task := by
  rw [resume] at h
  split at h
  · exact (mem_inside_look h).imp_right fun hentry => congrArg Prod.fst hentry.1
  · exact Or.inl h

end ReadWriteLock

namespace LockQueue

variable {τ : Type} [DecidableEq τ] {q : LockQueue τ} {task : τ}

/-- A queue whose lock has come about by moves of tasks, and in which nobody hasty is inside. -/
structure Ready (q : LockQueue τ) : Prop where
  reachable : q.lock.Reachable
  unhurried : ∀ entry ∈ q.lock.inside, entry.1 ∉ q.hasty

/-- Once the one hasty task has left, if there is one, nobody hasty is inside. -/
theorem ready_hurry (hreachable : q.lock.Reachable)
    (hone : ∀ entry ∈ q.lock.inside, entry.1 ∈ q.hasty → entry.1 = task) : q.hurry.Ready := by
  rw [hurry]
  split
  next entry other side hfound =>
    have hmem : (other, side) ∈ q.lock.inside := List.mem_of_find?_eq_some hfound
    have hhasty : other ∈ q.hasty := by simpa using List.find?_some hfound
    refine ⟨hreachable.step (.leave hmem), fun entry hentry => ?_⟩
    rw [ReadWriteLock.inside_leave] at hentry
    obtain ⟨hentry, hne⟩ := List.mem_filter.mp hentry
    have hother : other = task := hone _ hmem hhasty
    exact fun hhasty' => absurd ((hone entry hentry hhasty').trans hother.symm) (by simpa using hne)
  next hnone =>
    exact ⟨hreachable, fun entry hentry => by simpa using List.find?_eq_none.mp hnone entry hentry⟩

theorem Ready.hurry_eq (h : q.Ready) : q.hurry = q := by
  have hnone : (q.lock.inside.find? fun entry => entry.1 ∈ q.hasty) = none :=
    List.find?_eq_none.mpr fun entry hentry => by simpa using h.unhurried entry hentry
  rw [hurry, hnone]

theorem length_sleepers_hurry (q : LockQueue τ) : q.hurry.lock.sleepers.length = q.lock.sleepers.length := by
  rw [hurry]
  split
  · exact ReadWriteLock.length_sleepers_leave _ _ _
  · rfl

/-- A woken task looks, and leaves again if it is hasty and could enter. -/
theorem Ready.look (h : q.Ready) {s : Sleeper τ} (hs : q.lock.nextWoken? = some s) :
    (hurry { q with lock := q.lock.resume s }).Ready ∧
      (hurry { q with lock := q.lock.resume s }).lock.looksToCome < q.lock.looksToCome := by
  have hmem : s ∈ q.lock.sleepers := List.mem_of_find?_eq_some hs
  have hwoken : s.woken := List.find?_some hs
  have hreachable : (q.lock.resume s).Reachable := h.reachable.step (.look hmem hwoken)
  have hone : ∀ entry ∈ (q.lock.resume s).inside, entry.1 ∈ q.hasty → entry.1 = s.task := fun entry hentry hhasty =>
    (ReadWriteLock.mem_inside_resume hentry).resolve_left fun hin => h.unhurried entry hin hhasty
  refine ⟨ready_hurry hreachable hone, ?_⟩
  · rcases h.reachable.inOrder.resume_cases hmem hwoken with hshorter | ⟨hinside, hfewer⟩
    · refine ReadWriteLock.looksToCome_lt_of_length_lt ?_
      rw [length_sleepers_hurry]
      exact hshorter
    · have hready : Ready { q with lock := q.lock.resume s } := ⟨hreachable, by rw [hinside]; exact h.unhurried⟩
      rw [hready.hurry_eq]
      exact hfewer

/-- Looks come to an end, and nobody is left then who has been woken. -/
theorem Ready.settleWithin (h : q.Ready) {fuel : Nat} (hfuel : q.lock.looksToCome ≤ fuel) :
    (q.settleWithin fuel).Ready ∧ (q.settleWithin fuel).lock.nextWoken? = none := by
  induction fuel generalizing q with
  | zero =>
      refine ⟨h, List.find?_eq_none.mpr fun s hs => ?_⟩
      have hnone : q.lock.sleepers.countP (·.woken) = 0 :=
        Nat.eq_zero_of_le_zero ((Nat.le_add_left _ _).trans hfuel)
      exact List.countP_eq_zero.mp hnone s hs
  | succ fuel ih =>
      rw [LockQueue.settleWithin]
      split
      next hnone => exact ⟨h, hnone⟩
      next s hs =>
        obtain ⟨hready, hfewer⟩ := h.look hs
        exact ih hready (Nat.le_of_lt_succ (hfewer.trans_le hfuel))

theorem Ready.settle (h : q.Ready) : q.settle.Ready ∧ q.settle.lock.nextWoken? = none :=
  h.settleWithin q.lock.looksToCome_le

/-- A queue as it may be found after tasks have asked, have nothing left to do inside, or are called off. -/
inductive Reachable : LockQueue τ → Prop
  | new : Reachable {}
  | ask {q : LockQueue τ} {task : τ} (h : Reachable q) (side : Side) (hfresh : task ∉ q.lock.engaged) :
    Reachable (q.ask task side)
  | release {q : LockQueue τ} (h : Reachable q) (task : τ) : Reachable (q.release task)
  | cancel {q : LockQueue τ} (h : Reachable q) (task : τ) : Reachable (q.cancel task)

theorem Ready.ask (h : q.Ready) (side : Side) (hfresh : task ∉ q.lock.engaged) :
    Ready { q with lock := q.lock.ask task side, hasty := q.hasty.filter (· ≠ task) } where
  reachable := h.reachable.step (.ask side hfresh)
  unhurried := by
    intro entry hentry hhasty
    obtain ⟨hhasty, hne⟩ := List.mem_filter.mp hhasty
    rcases ReadWriteLock.mem_inside_ask hentry with hin | htask
    · exact h.unhurried entry hin hhasty
    · exact absurd htask (by simpa using hne)

theorem Ready.release (h : q.Ready) (task : τ) : (hurry { q with hasty := task :: q.hasty }).Ready :=
  ready_hurry h.reachable fun entry hentry hhasty =>
    (List.mem_cons.mp hhasty).resolve_right (h.unhurried entry hentry)

theorem Ready.cancel (h : q.Ready) (hquiet : q.lock.nextWoken? = none) (task : τ) :
    (q.cancel task).Ready ∧ (q.cancel task).lock.nextWoken? = none := by
  rw [LockQueue.cancel]
  split
  next s hs =>
    refine Ready.settle ⟨h.reachable.step (.callOff (List.mem_of_find?_eq_some hs)), fun entry hentry => ?_⟩
    rw [ReadWriteLock.inside_callOff] at hentry
    exact h.unhurried entry hentry
  next =>
    split
    next other side hs =>
      have hmem : (other, side) ∈ q.lock.inside := List.mem_of_find?_eq_some hs
      have htask : other = task := by simpa using List.find?_some hs
      refine Ready.settle ⟨h.reachable.step (.leave (htask ▸ hmem)), fun entry hentry => ?_⟩
      rw [ReadWriteLock.inside_leave] at hentry
      exact h.unhurried entry (List.mem_filter.mp hentry).1
    next => exact ⟨h, hquiet⟩

theorem Reachable.ready (h : q.Reachable) : q.Ready ∧ q.lock.nextWoken? = none := by
  induction h with
  | new => exact ⟨⟨.new, nofun⟩, rfl⟩
  | ask _ side hfresh ih => exact (ih.1.ask side hfresh).settle
  | release _ task ih => exact (ih.1.release task).settle
  | cancel _ task ih => exact ih.1.cancel ih.2 task

/-- Whoever waits once all looks have come to an end sleeps, and waits for somebody who is inside. -/
theorem Reachable.waits_for_somebody (h : q.Reachable) :
    (∀ s ∈ q.lock.sleepers, s.woken = false) ∧ (q.lock.sleepers ≠ [] → q.lock.inside ≠ []) := by
  obtain ⟨hready, hquiet⟩ := h.ready
  have hasleep : ∀ s ∈ q.lock.sleepers, s.woken = false := fun s hs => by
    simpa using List.find?_eq_none.mp hquiet s hs
  refine ⟨hasleep, fun hsome hempty => ?_⟩
  have horder := hready.reachable.inOrder
  obtain ⟨s, hs, hwoken, -⟩ := horder.exists_woken (horder.admits_write_iff_inside.mpr hempty) hsome
  exact absurd hwoken (by simp [hasleep s hs])

end LockQueue

end ChainAlerts
