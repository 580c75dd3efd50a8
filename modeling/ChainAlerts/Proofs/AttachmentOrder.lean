import Mathlib.Data.List.Chain
import ChainAlerts.Subscription
import ChainAlerts.Proofs.DecimalOrder

/-! The order of attachments. Settings keep their attachments arranged: none is smaller than the one before
it, and where there are two or more every threshold is a number. Attachments that are arranged stay as they
are, with equal thresholds in the order in which they were given, and whatever was put in order is arranged.
All of this needs only that no two numbers are each smaller than the other. -/

namespace ChainAlerts

namespace Decimal

theorem ltNumber_asymm {a b : Decimal} (h : a.ltNumber b) : b.ltNumber a = false := by
  cases hnan : a.isNan || b.isNan with
  | true => cases a <;> cases b <;> simp_all [ltNumber, isNan]
  | false =>
      obtain ⟨ha, hb⟩ := Bool.or_eq_false_iff.mp hnan
      exact Bool.eq_false_iff.mpr fun h' => lt_asymm ((ltNumber_iff ha hb).mp h) ((ltNumber_iff hb ha).mp h')

end Decimal

namespace Attachment

/-- Two attachments in the order in which they are kept: the later one is not smaller. -/
def InOrder (a b : Attachment) : Prop := b.threshold.ltNumber a.threshold = false

instance (a b : Attachment) : Decidable (InOrder a b) := inferInstanceAs (Decidable (_ = false))

/-- Attachments as settings keep them. -/
def Arranged (attachments : List Attachment) : Prop :=
  attachments.IsChain InOrder ∧ (2 ≤ attachments.length → ∀ a ∈ attachments, a.threshold.isNan = false)

instance (attachments : List Attachment) : Decidable (Arranged attachments) :=
  inferInstanceAs (Decidable (_ ∧ _))

theorem insert_inOrder {a b : Attachment} {rest : List Attachment} (h : InOrder a b) :
    insert a (b :: rest) = a :: b :: rest := by
  rw [insert, if_neg]
  exact Bool.eq_false_iff.mp h

theorem sort_eq_self {attachments : List Attachment} (h : attachments.IsChain InOrder) :
    sort attachments = attachments := by
  induction attachments with
  | nil => rfl
  | cons a rest ih =>
      cases rest with
      | nil => rfl
      | cons b rest =>
          obtain ⟨hab, hrest⟩ := List.isChain_cons_cons.mp h
          have htail : sort (b :: rest) = b :: rest := ih hrest
          calc sort (a :: b :: rest) = insert a (sort (b :: rest)) := rfl
            _ = insert a (b :: rest) := by rw [htail]
            _ = a :: b :: rest := insert_inOrder hab

theorem insert_chain {a : Attachment} {attachments : List Attachment} (h : attachments.IsChain InOrder) :
    (insert a attachments).IsChain InOrder := by
  induction attachments with
  | nil => exact .singleton a
  | cons b rest ih =>
      rw [insert]
      split
      next hlt =>
        -- `b` stays in front of `a`, so what follows it is either `a` or what followed it before
        have hba : InOrder b a := Decimal.ltNumber_asymm hlt
        cases rest with
        | nil => exact .cons_cons hba (.singleton a)
        | cons c rest =>
            obtain ⟨hbc, hrest⟩ := List.isChain_cons_cons.mp h
            have htail := ih hrest
            rw [insert] at htail ⊢
            split
            next hcase =>
              rw [if_pos hcase] at htail
              exact .cons_cons hbc htail
            next hcase =>
              rw [if_neg hcase] at htail
              exact .cons_cons hba htail
      next hnot => exact .cons_cons (Bool.eq_false_iff.mpr hnot) h

theorem sort_chain (attachments : List Attachment) : (sort attachments).IsChain InOrder := by
  induction attachments with
  | nil => exact .nil
  | cons a rest ih => exact insert_chain ih

theorem insert_perm (a : Attachment) (attachments : List Attachment) :
    (insert a attachments).Perm (a :: attachments) := by
  induction attachments with
  | nil => exact .refl _
  | cons b rest ih =>
      rw [insert]
      split
      · exact (ih.cons b).trans (.swap a b rest)
      · exact .refl _

theorem sort_perm (attachments : List Attachment) : (sort attachments).Perm attachments := by
  induction attachments with
  | nil => exact .refl _
  | cons a rest ih => exact (insert_perm a (sort rest)).trans (ih.cons a)

/-- Arranged attachments are already in the order in which they are kept. -/
theorem ordered_eq_self {attachments : List Attachment} (h : Arranged attachments) :
    ordered attachments = .ok attachments := by
  rw [ordered, if_neg, sort_eq_self h.1]
  intro hnan
  simp only [Bool.and_eq_true, decide_eq_true_eq, List.any_eq_true] at hnan
  obtain ⟨hlength, a, hmem, ha⟩ := hnan
  rw [h.2 hlength a hmem] at ha
  cases ha

/-- Attachments that were put in order are a rearrangement of those given, and arranged. -/
theorem arranged_of_ordered {given kept : List Attachment} (h : ordered given = .ok kept) :
    kept.Perm given ∧ Arranged kept := by
  rw [ordered] at h
  split at h
  · cases h
  next hnumbers =>
    obtain rfl := Except.ok.inj h
    have hperm := sort_perm given
    refine ⟨hperm, sort_chain given, fun hlength a hmem => Bool.eq_false_iff.mpr fun hnan => hnumbers ?_⟩
    simp only [Bool.and_eq_true, decide_eq_true_eq, List.any_eq_true]
    exact ⟨hperm.length_eq ▸ hlength, a, hperm.mem_iff.mp hmem, hnan⟩

end Attachment

end ChainAlerts
