import Mathlib.Data.List.Forall2
import ChainAlerts.Store
import ChainAlerts.Proofs.JsonReading

/-! Reading the rows of a bot one after the other. Either every row is read, and the records stand in the order of
the rows, or the first row that is not read gives the failure. -/

namespace ChainAlerts

/-- A list is read exactly if each of its elements is. -/
theorem exists_mapM_eq_ok_iff {ε α β : Type} {read : α → Except ε β} {xs : List α} :
    (∃ ys, xs.mapM read = .ok ys) ↔ ∀ x ∈ xs, ∃ y, read x = .ok y := by
  induction xs with
  | nil => exact iff_of_true ⟨[], rfl⟩ (by simp)
  | cons x rest ih =>
      rw [List.forall_mem_cons, ← ih, List.mapM_cons]
      constructor
      · rintro ⟨ys, h⟩
        obtain ⟨y, hy, h⟩ := except_bind_eq_ok.mp h
        obtain ⟨others, hothers, -⟩ := except_bind_eq_ok.mp h
        exact ⟨⟨y, hy⟩, others, hothers⟩
      · rintro ⟨⟨y, hy⟩, others, hothers⟩
        rw [hy, hothers]
        exact ⟨y :: others, rfl⟩

/-- Reading a list fails as the first element that is not read. -/
theorem mapM_eq_error_iff {ε α β : Type} {read : α → Except ε β} {xs : List α} {cause : ε} :
    xs.mapM read = .error cause ↔
      ∃ before x after, xs = before ++ x :: after ∧ (∀ y ∈ before, ∃ b, read y = .ok b) ∧ read x = .error cause := by
  induction xs with
  | nil =>
      constructor
      · intro h
        cases h
      · rintro ⟨before, x, after, h, -⟩
        simp at h
  | cons first rest ih =>
      rw [List.mapM_cons]
      cases hfirst : read first with
      | error other =>
          constructor
          · intro h
            obtain rfl : other = cause := Except.error.inj h
            exact ⟨[], first, rest, rfl, by simp, hfirst⟩
          · rintro ⟨before, x, after, h, hbefore, hx⟩
            cases before with
            | nil =>
                obtain ⟨rfl, rfl⟩ := List.cons.inj h
                rw [hfirst] at hx
                rw [Except.error.inj hx]
                rfl
            | cons y before =>
                obtain ⟨rfl, rfl⟩ := List.cons.inj h
                obtain ⟨b, hb⟩ := hbefore _ List.mem_cons_self
                rw [hfirst] at hb
                cases hb
      | ok b =>
          have hrest : (do let bs ← rest.mapM read; pure (b :: bs)) = Except.error cause ↔
              rest.mapM read = .error cause := by
            cases rest.mapM read with
            | ok bs => simp [bind, Except.bind, pure, Except.pure]
            | error other => simp [bind, Except.bind]
          rw [except_ok_bind, hrest, ih]
          constructor
          · rintro ⟨before, x, after, rfl, hbefore, hx⟩
            exact ⟨first :: before, x, after, rfl, List.forall_mem_cons.mpr ⟨⟨b, hfirst⟩, hbefore⟩, hx⟩
          · rintro ⟨before, x, after, h, hbefore, hx⟩
            cases before with
            | nil =>
                obtain ⟨rfl, rfl⟩ := List.cons.inj h
                rw [hfirst] at hx
                cases hx
            | cons y before =>
                obtain ⟨rfl, rfl⟩ := List.cons.inj h
                exact ⟨before, x, after, rfl, fun z hz => hbefore z (List.mem_cons_of_mem _ hz), hx⟩

namespace Store

variable {ρ : Type} (s : Store ρ) {rows : Records}

/-- Rows that are read give one record for each, under the same chat and in the same order. -/
theorem forall₂_records {records : List (Int × ρ)} (h : s.records (.ok rows) = .ok records) :
    List.Forall₂ (fun row record => record.1 = row.1 ∧ s.decode row.1 row.2 = .ok record.2) rows records := by
  induction rows generalizing records with
  | nil =>
      obtain rfl : [] = records := Except.ok.inj h
      exact .nil
  | cons row rest ih =>
      rw [Store.records, List.mapM_cons] at h
      obtain ⟨entry, hentry, h⟩ := except_bind_eq_ok.mp h
      obtain ⟨others, hothers, h⟩ := except_bind_eq_ok.mp h
      obtain rfl : entry :: others = records := Except.ok.inj h
      obtain ⟨first, hfirst, hentry⟩ := except_bind_eq_ok.mp hentry
      obtain rfl : (row.1, first) = entry := Except.ok.inj hentry
      exact .cons ⟨rfl, hfirst⟩ (ih hothers)

theorem mem_records {records : List (Int × ρ)} (h : s.records (.ok rows) = .ok records) {chat : Int} {r : ρ} :
    (chat, r) ∈ records ↔ ∃ payload, (chat, payload) ∈ rows ∧ s.decode chat payload = .ok r := by
  have hrows := s.forall₂_records h
  clear h
  induction hrows with
  | nil => simp
  | @cons row record rest others hfirst _ ih =>
      obtain ⟨other, payload⟩ := row
      obtain ⟨rfl, hread⟩ : record.1 = other ∧ s.decode other payload = .ok record.2 := hfirst
      refine (List.mem_cons.trans (or_congr_right ih)).trans ?_
      constructor
      · rintro (rfl | ⟨found, hfound, hread'⟩)
        · exact ⟨payload, List.mem_cons_self, hread⟩
        · exact ⟨found, List.mem_cons_of_mem _ hfound, hread'⟩
      · rintro ⟨found, hfound, hread'⟩
        rcases List.mem_cons.mp hfound with heq | hfound
        · obtain ⟨rfl, rfl⟩ := Prod.mk.inj heq
          rw [hread] at hread'
          exact Or.inl (Prod.ext rfl (Except.ok.inj hread').symm)
        · exact Or.inr ⟨found, hfound, hread'⟩

theorem exists_entry_iff (row : Int × Json) :
    (∃ entry, (do return (row.1, ← s.decode row.1 row.2)) = Except.ok entry) ↔ ∃ r, s.decode row.1 row.2 = .ok r := by
  cases s.decode row.1 row.2 <;> simp [bind, Except.bind]

/-- Rows are read exactly if each of them is. -/
theorem exists_records_iff :
    (∃ records, s.records (.ok rows) = .ok records) ↔ ∀ row ∈ rows, ∃ r, s.decode row.1 row.2 = .ok r := by
  rw [Store.records, exists_mapM_eq_ok_iff]
  simp only [s.exists_entry_iff]

/-- Rows are not read exactly if one of them is not, and the first such gives the failure. -/
theorem records_eq_error_iff {cause : StoreFailure} :
    s.records (.ok rows) = .error cause ↔ ∃ before row after, rows = before ++ row :: after ∧
      (∀ other ∈ before, ∃ r, s.decode other.1 other.2 = .ok r) ∧ s.decode row.1 row.2 = .error cause := by
  have herror : ∀ row : Int × Json,
      (do return (row.1, ← s.decode row.1 row.2) : Except StoreFailure (Int × ρ)) = .error cause ↔
        s.decode row.1 row.2 = .error cause := by
    intro row
    cases s.decode row.1 row.2 <;> simp [bind, Except.bind]
  rw [Store.records, mapM_eq_error_iff]
  simp only [s.exists_entry_iff, herror]

end Store

end ChainAlerts
