import ChainAlerts.SideBySide

/-! The lock of the index among calls that make the index afresh. They all ask as writers, so at most one of them is
inside, and one that asks gets in only while nobody is. -/

namespace ChainAlerts

namespace ReadWriteLock

/-- A lock for which only writers ask. At most one is inside, and as long as it is nobody else gets in. -/
structure WritersOnly (l : ReadWriteLock Nat) : Prop where
  alone : l.inside = [] ∨ l.writing ∧ ∃ i, l.inside = [(i, .write)]
  sleepers : ∀ s ∈ l.sleepers, s.side = .write

variable {l : ReadWriteLock Nat} {i j : Nat}

theorem WritersOnly.new : ({} : ReadWriteLock Nat).WritersOnly := ⟨Or.inl rfl, by simp⟩

theorem WritersOnly.look (h : l.WritersOnly) (i : Nat) :
    (l.look i .write).WritersOnly ∧ ((l.look i .write).inside = l.inside ∨
      l.inside = [] ∧ (l.look i .write).inside = [(i, .write)]) := by
  rw [ReadWriteLock.look]
  split
  next hadmits =>
    have hempty : l.inside = [] := by
      rcases h.alone with hempty | ⟨hwriting, -⟩
      · exact hempty
      · simp [admits, hwriting] at hadmits
    have hinside : (l.enter i .write).inside = [(i, .write)] := by
      simp [enter, stopWaiting, wakeAll, hempty]
    refine ⟨⟨Or.inr ⟨rfl, i, hinside⟩, fun s hs => ?_⟩, Or.inr ⟨hempty, hinside⟩⟩
    obtain ⟨s', hs', rfl⟩ := List.mem_map.mp hs
    exact h.sleepers s' hs'
  · refine ⟨⟨h.alone, fun s hs => ?_⟩, Or.inl rfl⟩
    rcases List.mem_append.mp hs with hs | hs
    · exact h.sleepers s hs
    · rw [List.mem_singleton.mp hs]

theorem WritersOnly.ask (h : l.WritersOnly) (i : Nat) :
    (l.ask i .write).WritersOnly ∧ ((l.ask i .write).inside = l.inside ∨
      l.inside = [] ∧ (l.ask i .write).inside = [(i, .write)]) :=
  WritersOnly.look (l := { l with waitingWriters := l.waitingWriters + 1 }) ⟨h.alone, h.sleepers⟩ i

theorem WritersOnly.resume (h : l.WritersOnly) {s : Sleeper Nat} (hs : s ∈ l.sleepers) :
    (l.resume s).WritersOnly ∧ ((l.resume s).inside = l.inside ∨
      l.inside = [] ∧ (l.resume s).inside = [(s.task, .write)]) := by
  rw [ReadWriteLock.resume]
  split
  · rw [h.sleepers s hs]
    refine WritersOnly.look (l := l.rise s.task) ⟨h.alone, fun other hother => ?_⟩ s.task
    exact h.sleepers other (List.mem_filter.mp hother).1
  · exact ⟨h, Or.inl rfl⟩

theorem WritersOnly.leave (h : l.WritersOnly) (hi : (i, .write) ∈ l.inside) :
    (l.leave i .write).WritersOnly ∧ (l.leave i .write).inside = [] := by
  have hinside : (l.leave i .write).inside = [] := by
    rcases h.alone with hempty | ⟨-, k, hk⟩
    · rw [hempty] at hi
      cases hi
    · rw [hk] at hi
      obtain ⟨rfl, -⟩ := Prod.mk.inj (List.mem_singleton.mp hi)
      simp [ReadWriteLock.leave, wakeAll, hk]
  refine ⟨⟨Or.inl hinside, fun s hs => ?_⟩, hinside⟩
  obtain ⟨s', hs', rfl⟩ := List.mem_map.mp hs
  exact h.sleepers s' hs'

theorem WritersOnly.inside_unique (h : l.WritersOnly) (hi : (i, .write) ∈ l.inside) (hj : (j, .write) ∈ l.inside) :
    i = j := by
  rcases h.alone with hempty | ⟨-, k, hk⟩
  · rw [hempty] at hi
    cases hi
  · rw [hk] at hi hj
    obtain ⟨rfl, -⟩ := Prod.mk.inj (List.mem_singleton.mp hi)
    obtain ⟨rfl, -⟩ := Prod.mk.inj (List.mem_singleton.mp hj)
    rfl

end ReadWriteLock

namespace SideBySide

variable {α : Type}

/-- A call that asks for the index gets in if nobody is inside, and else stays where it is. -/
theorem enterIndex_cases {now : SideBySide α} (h : now.indexLock.WritersOnly) {i : Nat}
    (hi : (i, .write) ∉ now.indexLock.inside) (stance : Stance) (next : Store.Call α) :
    ∃ indexLock : ReadWriteLock Nat, indexLock.WritersOnly ∧
      (indexLock.inside = now.indexLock.inside ∧ now.enterIndex i stance next = { now with indexLock } ∨
        now.indexLock.inside = [] ∧ indexLock.inside = [(i, .write)] ∧
          now.enterIndex i stance next = { now with indexLock }.put i { task := next, stance }) := by
  have hturn : (indexTurn i now.indexLock).WritersOnly ∧
      ((indexTurn i now.indexLock).inside = now.indexLock.inside ∨
        now.indexLock.inside = [] ∧ (indexTurn i now.indexLock).inside = [(i, .write)]) := by
    rw [indexTurn]
    cases hfind : now.indexLock.sleepers.find? fun s => s.task = i with
    | none => exact h.ask i
    | some s =>
        have htask : s.task = i := by simpa using List.find?_some hfind
        have hresume := h.resume (List.mem_of_find?_eq_some hfind)
        rw [htask] at hresume
        exact hresume
  obtain ⟨hwriters, hinside⟩ := hturn
  refine ⟨indexTurn i now.indexLock, hwriters, ?_⟩
  rcases hinside with hsame | ⟨hempty, hin⟩
  · have hout : (i, Side.write) ∉ (indexTurn i now.indexLock).inside := hsame ▸ hi
    refine Or.inl ⟨hsame, ?_⟩
    simp only [enterIndex, if_neg hout]
  · have hmem : (i, Side.write) ∈ (indexTurn i now.indexLock).inside := by
      rw [hin]
      exact List.mem_singleton.mpr rfl
    refine Or.inr ⟨hempty, hin, ?_⟩
    simp only [enterIndex, if_pos hmem]

end SideBySide

end ChainAlerts
