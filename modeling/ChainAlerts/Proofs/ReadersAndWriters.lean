import ChainAlerts.ReadWriteLock
import Mathlib.Data.Finset.Card
import Mathlib.Data.List.Nodup

/-! Any tasks that enter and leave a lock, in any order of their moves and with any of them called off while they
wait. The counts of the lock are right at any time, so a writer is inside alone; and whoever sleeps without having
been woken could not enter. When nobody is inside, somebody who sleeps could, and so has been woken: no wake-up is
ever lost. -/

namespace ChainAlerts

/-- How many writers are counted as waiting for a task that comes from a side. -/
def Side.writers : Side → Nat
  | .read => 0
  | .write => 1

namespace ReadWriteLock

/-! Lists in which every element has a key of its own. -/

/-- Taking out what has the key of an element takes out that element. -/
theorem perm_cons_filter_ne {α τ : Type} [DecidableEq τ] {key : α → τ} {xs : List α} {x : α}
    (hnodup : (xs.map key).Nodup) (hx : x ∈ xs) : xs.Perm (x :: xs.filter fun y => key y ≠ key x) := by
  induction xs with
  | nil => cases hx
  | cons y ys ih =>
      rw [List.map_cons, List.nodup_cons] at hnodup
      obtain ⟨hy, hys⟩ := hnodup
      rcases List.mem_cons.mp hx with rfl | hx
      · have hkeep : (ys.filter fun z => key z ≠ key x) = ys :=
          List.filter_eq_self.mpr fun z hz => decide_eq_true fun heq => hy (heq ▸ List.mem_map_of_mem hz)
        rw [List.filter_cons_of_neg (by simp), hkeep]
      · have hne : key y ≠ key x := fun heq => hy (heq ▸ List.mem_map_of_mem hx)
        rw [List.filter_cons_of_pos (by simpa using hne)]
        exact ((ih hys hx).cons y).trans (List.Perm.swap x y _)

variable {τ : Type} {l l' : ReadWriteLock τ} {task : τ} {side : Side} {n : Nat}

theorem admits_read_iff (l : ReadWriteLock τ) : l.admits .read ↔ l.writing = false ∧ l.waitingWriters = 0 := by
  simp [admits]

theorem admits_write_iff (l : ReadWriteLock τ) : l.admits .write ↔ l.writing = false ∧ l.readers = 0 := by
  simp [admits]

/-- The tasks that are inside or wait to enter. -/
def engaged (l : ReadWriteLock τ) : List τ := l.inside.map (·.1) ++ l.sleepers.map (·.task)

/-- A lock whose counts are right, while some writers that are counted as waiting look whether they may enter. -/
structure Counted (looking : Nat) (l : ReadWriteLock τ) : Prop where
  nodup : l.engaged.Nodup
  readers : l.readers = l.inside.countP fun entry => entry.2 = .read
  waitingWriters : l.waitingWriters = (l.sleepers.countP fun s => s.side = .write) + looking
  alone : l.writing = true → ∃ task, l.inside = [(task, .write)]
  readersOnly : l.writing = false → ∀ entry ∈ l.inside, entry.2 = .read

/-- A lock in order: whoever sleeps and has not been woken could not enter. -/
structure InOrder (looking : Nat) (l : ReadWriteLock τ) : Prop extends Counted looking l where
  asleep : ∀ s ∈ l.sleepers, s.woken = false → l.admits s.side = false

theorem inOrder_new : InOrder 0 ({} : ReadWriteLock τ) where
  nodup := List.nodup_nil
  readers := rfl
  waitingWriters := rfl
  alone := nofun
  readersOnly := nofun
  asleep := nofun

theorem Counted.nodup_inside (h : l.Counted n) : (l.inside.map (·.1)).Nodup := (List.nodup_append.mp h.nodup).1

theorem Counted.nodup_sleepers (h : l.Counted n) : (l.sleepers.map (·.task)).Nodup :=
  (List.nodup_append.mp h.nodup).2.1

/-- A writer may enter exactly if nobody is inside. -/
theorem Counted.admits_write_iff_inside (h : l.Counted n) : l.admits .write ↔ l.inside = [] := by
  rw [admits_write_iff]
  constructor
  · rintro ⟨hwriting, hreaders⟩
    refine List.eq_nil_iff_forall_not_mem.mpr fun entry hentry => ?_
    have hnone := List.countP_eq_zero.mp (h.readers.symm.trans hreaders) entry hentry
    exact hnone (by simpa using h.readersOnly hwriting entry hentry)
  · intro hempty
    refine ⟨?_, by rw [h.readers, hempty]; rfl⟩
    by_contra hwrites
    obtain ⟨task, hinside⟩ := h.alone (eq_true_of_ne_false hwrites)
    exact List.cons_ne_nil _ _ (hinside.symm.trans hempty)

theorem engaged_wakeAll (l : ReadWriteLock τ) : l.wakeAll.engaged = l.engaged := by
  simp [engaged, wakeAll]

theorem woken_of_mem_wakeAll {s : Sleeper τ} (hs : s ∈ l.wakeAll.sleepers) : s.woken = true := by
  obtain ⟨s', -, rfl⟩ := List.mem_map.mp hs
  rfl

/-- Once everybody is woken, nobody sleeps who could enter. -/
theorem Counted.wakeAll (h : l.Counted n) : l.wakeAll.InOrder n where
  nodup := by
    rw [engaged_wakeAll]
    exact h.nodup
  readers := h.readers
  waitingWriters := by
    rw [ReadWriteLock.wakeAll, List.countP_map]
    exact h.waitingWriters
  alone := h.alone
  readersOnly := h.readersOnly
  asleep := fun s hs hwoken => absurd (woken_of_mem_wakeAll hs) (by simp [hwoken])

theorem Counted.stopWaiting (h : l.Counted (n + 1)) : l.stopWaiting.InOrder n :=
  wakeAll { h with waitingWriters := congrArg (· - 1) h.waitingWriters }

/-- A task falls asleep that may not enter. -/
theorem InOrder.fallAsleep (h : l.InOrder side.writers) (hfresh : task ∉ l.engaged) (hadmits : l.admits side = false) :
    InOrder 0 { l with sleepers := l.sleepers ++ [{ task, side }] } where
  nodup := by
    have hnodup : (l.engaged ++ [task]).Nodup :=
      List.nodup_append.mpr ⟨h.nodup, List.nodup_singleton task, by
        rintro a ha b hb rfl
        exact hfresh (List.mem_singleton.mp hb ▸ ha)⟩
    simpa [engaged] using hnodup
  readers := h.readers
  waitingWriters := by
    rw [h.waitingWriters, List.countP_append]
    cases side <;> simp [Side.writers]
  alone := h.alone
  readersOnly := h.readersOnly
  asleep := by
    intro s hs hwoken
    rcases List.mem_append.mp hs with hs | hs
    · exact h.asleep s hs hwoken
    · rw [List.mem_singleton.mp hs]
      exact hadmits

theorem nodup_engaged_enter (hnodup : l.engaged.Nodup) (hfresh : task ∉ l.engaged) :
    (((l.inside ++ [(task, side)]).map (·.1)) ++ l.sleepers.map (·.task)).Nodup := by
  have hperm : (((l.inside ++ [(task, side)]).map (·.1)) ++ l.sleepers.map (·.task)).Perm (task :: l.engaged) := by
    simp [engaged, List.perm_middle]
  exact hperm.nodup_iff.mpr (List.nodup_cons.mpr ⟨hfresh, hnodup⟩)

theorem InOrder.enter_read (h : l.InOrder 0) (hfresh : task ∉ l.engaged) (hadmits : l.admits .read) :
    (l.enter task .read).InOrder 0 := by
  have hwriting : l.writing = false := (l.admits_read_iff.mp hadmits).1
  refine ⟨⟨nodup_engaged_enter h.nodup hfresh, ?_, h.waitingWriters, fun hwrites => ?_, ?_⟩, ?_⟩
  · simp [enter, h.readers]
  · exact absurd (hwriting.symm.trans hwrites) Bool.false_ne_true
  · intro _ entry hentry
    rcases List.mem_append.mp hentry with hentry | hentry
    · exact h.readersOnly hwriting entry hentry
    · rw [List.mem_singleton.mp hentry]
  · intro s hs hwoken
    have hblocked := h.asleep s hs hwoken
    cases hside : s.side with
    | read => simpa [enter, admits, hside] using hblocked
    | write => simp [enter, admits]

theorem InOrder.enter_write (h : l.InOrder 1) (hfresh : task ∉ l.engaged) (hadmits : l.admits .write) :
    (l.enter task .write).InOrder 0 := by
  have hstopped : l.stopWaiting.InOrder 0 := h.stopWaiting
  have hinside : (l.enter task .write).inside = [(task, .write)] := by
    simp [enter, ReadWriteLock.stopWaiting, ReadWriteLock.wakeAll, h.admits_write_iff_inside.mp hadmits]
  have hreaders : l.readers = 0 := (l.admits_write_iff.mp hadmits).2
  refine ⟨⟨nodup_engaged_enter hstopped.nodup ?_, ?_, hstopped.waitingWriters, fun _ => ⟨task, hinside⟩, nofun⟩, ?_⟩
  · rwa [ReadWriteLock.stopWaiting, engaged_wakeAll]
  · rw [hinside]
    exact hreaders
  · exact fun s hs hwoken => absurd (woken_of_mem_wakeAll hs) (by simp [hwoken])

/-- A task looks whether it may enter. -/
theorem InOrder.look (h : l.InOrder side.writers) (hfresh : task ∉ l.engaged) : (l.look task side).InOrder 0 := by
  rw [ReadWriteLock.look]
  split
  next hadmits =>
    cases side with
    | read => exact h.enter_read hfresh hadmits
    | write => exact h.enter_write hfresh hadmits
  next hadmits => exact h.fallAsleep hfresh (eq_false_of_ne_true hadmits)

theorem InOrder.ask (h : l.InOrder 0) (hfresh : task ∉ l.engaged) (side : Side) : (l.ask task side).InOrder 0 := by
  cases side with
  | read =>
      have hreader : l.InOrder Side.read.writers := h
      exact hreader.look hfresh
  | write =>
      have hcounted : InOrder Side.write.writers { l with waitingWriters := l.waitingWriters + 1 } := by
        refine ⟨⟨h.nodup, h.readers, congrArg (· + 1) h.waitingWriters, h.alone, h.readersOnly⟩, ?_⟩
        intro s hs hwoken
        have hblocked := h.asleep s hs hwoken
        cases hside : s.side with
        | read => simp [admits]
        | write => simpa [admits, hside] using hblocked
      exact hcounted.look hfresh

/-- When nobody is inside and somebody waits, a task has been woken that may enter. -/
theorem InOrder.exists_woken (h : l.InOrder 0) (hfree : l.admits .write) (hsome : l.sleepers ≠ []) :
    ∃ s ∈ l.sleepers, s.woken ∧ l.admits s.side := by
  have hwoken : ∀ s ∈ l.sleepers, l.admits s.side → s.woken := by
    intro s hs hadmits
    by_contra hasleep
    exact absurd (h.asleep s hs (eq_false_of_ne_true hasleep)) (by simp [hadmits])
  -- A writer that waits may enter; if none does, readers may.
  suffices hmay : ∃ s ∈ l.sleepers, l.admits s.side by
    obtain ⟨s, hs, hadmits⟩ := hmay
    exact ⟨s, hs, hwoken s hs hadmits, hadmits⟩
  by_cases hwriter : ∃ s ∈ l.sleepers, s.side = .write
  · obtain ⟨s, hs, hside⟩ := hwriter
    exact ⟨s, hs, hside ▸ hfree⟩
  · have hnone : (l.sleepers.countP fun s => s.side = .write) = 0 :=
      List.countP_eq_zero.mpr fun s hs => by simpa using fun hside => hwriter ⟨s, hs, hside⟩
    have hreader : l.admits .read :=
      l.admits_read_iff.mpr ⟨(l.admits_write_iff.mp hfree).1, h.waitingWriters.trans hnone⟩
    obtain ⟨s, hs⟩ := List.exists_mem_of_ne_nil _ hsome
    have hside : s.side = .read := by
      cases hside : s.side with
      | read => rfl
      | write => exact absurd ⟨s, hs, hside⟩ hwriter
    exact ⟨s, hs, hside ▸ hreader⟩

/-- Who is inside after a task has looked was there before, or is the task, which may enter. -/
theorem mem_inside_look {entry : τ × Side} (h : entry ∈ (l.look task side).inside) :
    entry ∈ l.inside ∨ entry = (task, side) ∧ l.admits side := by
  rw [look] at h
  split at h
  next hadmits =>
    have hentry : entry ∈ l.inside ++ [(task, side)] := by
      cases side <;> exact h
    exact (List.mem_append.mp hentry).imp_right fun hentry => ⟨List.mem_singleton.mp hentry, hadmits⟩
  · exact Or.inl h

variable [DecidableEq τ]

theorem Counted.perm_rise (h : l.Counted n) {s : Sleeper τ} (hs : s ∈ l.sleepers) :
    l.sleepers.Perm (s :: (l.rise s.task).sleepers) := perm_cons_filter_ne h.nodup_sleepers hs

/-- A task that gets up is engaged no longer; a writer stays counted as waiting. -/
theorem InOrder.rise (h : l.InOrder 0) {s : Sleeper τ} (hs : s ∈ l.sleepers) :
    (l.rise s.task).InOrder s.side.writers ∧ s.task ∉ (l.rise s.task).engaged := by
  have hengaged : l.engaged.Perm (s.task :: (l.rise s.task).engaged) :=
    (((h.perm_rise hs).map Sleeper.task).append_left (l.inside.map Prod.fst)).trans List.perm_middle
  obtain ⟨hfresh, hnodup⟩ := List.nodup_cons.mp (hengaged.nodup_iff.mp h.nodup)
  have hwaiting : l.waitingWriters =
      ((l.rise s.task).sleepers.countP fun other => other.side = .write) + s.side.writers := by
    rw [h.waitingWriters, (h.perm_rise hs).countP_eq, List.countP_cons]
    cases s.side <;> rfl
  exact ⟨⟨⟨hnodup, h.readers, hwaiting, h.alone, h.readersOnly⟩,
    fun other hother => h.asleep other (List.mem_filter.mp hother).1⟩, hfresh⟩

theorem InOrder.resume (h : l.InOrder 0) {s : Sleeper τ} (hs : s ∈ l.sleepers) : (l.resume s).InOrder 0 := by
  rw [ReadWriteLock.resume]
  split
  · obtain ⟨hrisen, hfresh⟩ := h.rise hs
    exact hrisen.look hfresh
  · exact h

theorem InOrder.callOff (h : l.InOrder 0) {s : Sleeper τ} (hs : s ∈ l.sleepers) : (l.callOff s).InOrder 0 := by
  have hrisen := (h.rise hs).1
  rw [ReadWriteLock.callOff]
  split
  next hside =>
    rw [hside] at hrisen
    exact hrisen
  next hside =>
    rw [hside] at hrisen
    exact hrisen.stopWaiting

theorem Counted.nodup_leave (h : l.Counted n) (task : τ) :
    ((l.inside.filter fun entry => entry.1 ≠ task).map (·.1) ++ l.sleepers.map (·.task)).Nodup :=
  h.nodup.sublist ((List.filter_sublist.map _).append_right _)

theorem InOrder.leave_read (h : l.InOrder 0) (hmem : (task, .read) ∈ l.inside) : (l.leave task .read).InOrder 0 := by
  have hwriting : l.writing = false := by
    by_contra hwrites
    obtain ⟨other, hother⟩ := h.alone (eq_true_of_ne_false hwrites)
    rw [hother] at hmem
    cases List.mem_singleton.mp hmem
  have hreaders : l.readers =
      ((l.inside.filter fun entry => entry.1 ≠ task).countP fun entry => entry.2 = .read) + 1 := by
    have hperm : l.inside.Perm ((task, .read) :: l.inside.filter fun entry => entry.1 ≠ task) :=
      perm_cons_filter_ne h.nodup_inside hmem
    rw [h.readers, hperm.countP_eq, List.countP_cons]
    rfl
  have hcounted : Counted 0
      { l with inside := l.inside.filter fun entry => entry.1 ≠ task, readers := l.readers - 1 } :=
    ⟨h.nodup_leave task, congrArg (· - 1) hreaders, h.waitingWriters,
      fun hwrites => absurd (hwriting.symm.trans hwrites) Bool.false_ne_true,
      fun _ entry hentry => h.readersOnly hwriting entry (List.mem_filter.mp hentry).1⟩
  rw [leave]
  split
  · exact hcounted.wakeAll
  next hmany =>
    -- The last reader has not left, so writers that sleep still could not enter.
    refine ⟨hcounted, fun s hs hwoken => ?_⟩
    have hblocked := h.asleep s hs hwoken
    cases hside : s.side with
    | read => simpa [admits, hside] using hblocked
    | write => simpa [admits] using fun _ => hmany

theorem InOrder.leave_write (h : l.InOrder 0) (hmem : (task, .write) ∈ l.inside) : (l.leave task .write).InOrder 0 := by
  have hwriting : l.writing = true := by
    by_contra hwrites
    cases h.readersOnly (eq_false_of_ne_true hwrites) _ hmem
  obtain ⟨other, hother⟩ := h.alone hwriting
  obtain ⟨rfl, -⟩ := Prod.mk.inj (List.mem_singleton.mp (hother ▸ hmem))
  have hempty : (l.inside.filter fun entry => entry.1 ≠ task) = [] := by simp [hother]
  have hreaders : l.readers = 0 := by
    rw [h.readers, hother]
    rfl
  refine Counted.wakeAll ⟨h.nodup_leave task, ?_, h.waitingWriters, nofun, fun _ entry hentry => ?_⟩
  · rw [hempty]
    exact hreaders
  · rw [hempty] at hentry
    cases hentry

/-! Moves of tasks. -/

/-- A move of a task: what it does from one point at which it may be suspended to the next. A task that is inside or
waits asks for nothing else. A task that is told to stop while it waits is called off when it runs next, and waits until
then; being called off inside, it leaves. -/
inductive Step : ReadWriteLock τ → ReadWriteLock τ → Prop
  | ask {l : ReadWriteLock τ} {task : τ} (side : Side) (h : task ∉ l.engaged) : Step l (l.ask task side)
  | look {l : ReadWriteLock τ} {s : Sleeper τ} (h : s ∈ l.sleepers) (hwoken : s.woken) : Step l (l.resume s)
  | leave {l : ReadWriteLock τ} {task : τ} {side : Side} (h : (task, side) ∈ l.inside) : Step l (l.leave task side)
  | callOff {l : ReadWriteLock τ} {s : Sleeper τ} (h : s ∈ l.sleepers) : Step l (l.callOff s)

/-- A lock as it may be found after any moves of any tasks. -/
inductive Reachable : ReadWriteLock τ → Prop
  | new : Reachable {}
  | step {l l' : ReadWriteLock τ} (h : Reachable l) (hstep : Step l l') : Reachable l'

theorem InOrder.step (h : l.InOrder 0) (hstep : Step l l') : l'.InOrder 0 := by
  cases hstep with
  | ask side hfresh => exact h.ask hfresh side
  | look hs _ => exact h.resume hs
  | @leave _ side hmem =>
      cases side with
      | read => exact h.leave_read hmem
      | write => exact h.leave_write hmem
  | callOff hs => exact h.callOff hs

theorem Reachable.inOrder (h : l.Reachable) : l.InOrder 0 := by
  induction h with
  | new => exact inOrder_new
  | step _ hstep ih => exact ih.step hstep

theorem inside_leave (l : ReadWriteLock τ) (task : τ) (side : Side) :
    (l.leave task side).inside = l.inside.filter fun entry => entry.1 ≠ task := by
  cases side with
  | read => rw [leave]; split <;> rfl
  | write => rfl

theorem inside_callOff (l : ReadWriteLock τ) (s : Sleeper τ) : (l.callOff s).inside = l.inside := by
  rw [callOff]
  split <;> rfl

/-- A reader enters by a move only if readers may enter. -/
theorem Step.admits_of_reader (hstep : Step l l') (hin : (task, .read) ∈ l'.inside) (hout : (task, .read) ∉ l.inside) :
    l.admits .read := by
  cases hstep with
  | ask side _ =>
      cases side with
      | read => exact ((mem_inside_look hin).resolve_left hout).2
      | write => cases ((mem_inside_look hin).resolve_left hout).1
  | @look s _ hwoken =>
      rw [resume, if_pos hwoken] at hin
      obtain ⟨hentry, hadmits⟩ := (mem_inside_look hin).resolve_left hout
      rwa [← (Prod.mk.inj hentry).2] at hadmits
  | leave _ =>
      rw [inside_leave] at hin
      exact absurd (List.mem_filter.mp hin).1 hout
  | callOff _ =>
      rw [inside_callOff] at hin
      exact absurd hin hout

/-! Tasks that are inside and tasks that wait. -/

/-- The tasks inside from a side. -/
def tasksInside (l : ReadWriteLock τ) (side : Side) : Finset τ :=
  ((l.inside.filter fun entry => entry.2 = side).map (·.1)).toFinset

/-- The tasks that wait to enter from a side, asleep or woken. -/
def tasksWaiting (l : ReadWriteLock τ) (side : Side) : Finset τ :=
  ((l.sleepers.filter fun s => s.side = side).map (·.task)).toFinset

theorem mem_tasksInside : task ∈ l.tasksInside side ↔ (task, side) ∈ l.inside := by
  simp [tasksInside]

theorem Counted.card_tasksInside (h : l.Counted n) (side : Side) :
    (l.tasksInside side).card = l.inside.countP fun entry => entry.2 = side := by
  have hnodup : ((l.inside.filter fun entry => entry.2 = side).map (·.1)).Nodup :=
    h.nodup_inside.sublist (List.filter_sublist.map _)
  rw [tasksInside, List.toFinset_card_of_nodup hnodup, List.length_map, List.countP_eq_length_filter]

theorem Counted.card_tasksWaiting (h : l.Counted n) (side : Side) :
    (l.tasksWaiting side).card = l.sleepers.countP fun s => s.side = side := by
  have hnodup : ((l.sleepers.filter fun s => s.side = side).map (·.task)).Nodup :=
    h.nodup_sleepers.sublist (List.filter_sublist.map _)
  rw [tasksWaiting, List.toFinset_card_of_nodup hnodup, List.length_map, List.countP_eq_length_filter]

/-- A writer is inside alone, and the lock knows of it. -/
theorem Counted.exclusive (h : l.Counted n) :
    (l.tasksInside .write).card ≤ 1 ∧ (l.writing = true ↔ l.tasksInside .write ≠ ∅) ∧
      (l.tasksInside .write ≠ ∅ → l.tasksInside .read = ∅) := by
  cases hwriting : l.writing with
  | true =>
      obtain ⟨task, hinside⟩ := h.alone hwriting
      have hwrite : l.tasksInside .write = {task} := by simp [tasksInside, hinside]
      have hread : l.tasksInside .read = ∅ := by simp [tasksInside, hinside]
      simp [hwrite, hread]
  | false =>
      have hwrite : l.tasksInside .write = ∅ := by
        refine Finset.eq_empty_iff_forall_notMem.mpr fun task htask => ?_
        cases h.readersOnly hwriting _ (mem_tasksInside.mp htask)
      simp [hwrite]

/-- After any moves of any tasks at most one of them is inside as a writer, and then none as a reader; the lock knows
how many readers are inside and how many writers wait; no reader enters while a writer waits; and if nobody is inside
and somebody waits, a task has been woken that may enter. -/
theorem reachable_exclusive_counted_and_awake (h : l.Reachable) :
    (l.tasksInside .write).card ≤ 1 ∧
    (l.tasksInside .write ≠ ∅ → l.tasksInside .read = ∅) ∧
    (l.writing = true ↔ l.tasksInside .write ≠ ∅) ∧
    l.readers = (l.tasksInside .read).card ∧
    l.waitingWriters = (l.tasksWaiting .write).card ∧
    (∀ l' task, Step l l' → task ∈ l'.tasksInside .read → task ∉ l.tasksInside .read → l.tasksWaiting .write = ∅) ∧
    (l.writing = false → l.readers = 0 → l.sleepers ≠ [] → ∃ s ∈ l.sleepers, s.woken ∧ l.admits s.side) := by
  have horder := h.inOrder
  have hcounted := horder.toCounted
  obtain ⟨hone, hflag, halone⟩ := hcounted.exclusive
  have hwaiting : l.waitingWriters = (l.tasksWaiting .write).card := by
    rw [hcounted.card_tasksWaiting]
    exact hcounted.waitingWriters
  refine ⟨hone, halone, hflag, ?_, hwaiting, fun l' task hstep hin hout => ?_, fun hwriting hreaders =>
    horder.exists_woken (l.admits_write_iff.mpr ⟨hwriting, hreaders⟩)⟩
  · rw [hcounted.card_tasksInside]
    exact hcounted.readers
  · have hadmits := hstep.admits_of_reader (mem_tasksInside.mp hin) (mt mem_tasksInside.mpr hout)
    exact Finset.card_eq_zero.mp (hwaiting.symm.trans (l.admits_read_iff.mp hadmits).2)

/-- A reader leaves while a writer and another reader wait. -/
theorem reachable_exclusive_counted_and_awake_after_reader :
    let l : ReadWriteLock Nat := (((({} : ReadWriteLock Nat).ask 1 .read).ask 2 .write).ask 3 .read).leave 1 .read
    l.Reachable ∧ l.waitingWriters = (l.tasksWaiting .write).card ∧ ∃ s ∈ l.sleepers, s.woken ∧ l.admits s.side := by
  intro l
  have hreachable : l.Reachable :=
    (((Reachable.new.step (.ask .read (by decide))).step (.ask .write (by decide))).step
      (.ask .read (by decide))).step (.leave (by decide))
  obtain ⟨-, -, -, -, hwaiting, -, hawake⟩ := reachable_exclusive_counted_and_awake hreachable
  exact ⟨hreachable, hwaiting, hawake rfl rfl (by decide)⟩

end ReadWriteLock

end ChainAlerts
