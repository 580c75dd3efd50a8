import ChainAlerts.Database
import ChainAlerts.Proofs.Tables

/-! Rows in ascending order of their chats. Storing a payload and removing one keep the order, so a chat has
at most one row, and a question that the new payload answers as the old one did has the same rows as its
answer. -/

namespace ChainAlerts.Records

/-- Rows as the table lists them: in strictly ascending order of the chats. -/
def Ascending (rows : Records) : Prop := rows.Pairwise (·.1 < ·.1)

variable {rows : Records} {chat other : Int} {payload old : Json}

theorem mem_of_get? (h : get? chat rows = some payload) : (chat, payload) ∈ rows := Assoc.mem_of_get? h

theorem Ascending.nodup (h : rows.Ascending) : (Assoc.keys rows).Nodup := by
  rw [Assoc.keys, List.Nodup, List.pairwise_map]
  exact h.imp fun hlt => Int.ne_of_lt hlt

theorem Ascending.get?_eq_some_iff (h : rows.Ascending) :
    get? chat rows = some payload ↔ (chat, payload) ∈ rows :=
  ⟨mem_of_get?, fun hmem => Assoc.get?_of_mem h.nodup hmem⟩

theorem mem_put {row : Int × Json} (h : row ∈ put chat payload rows) : row = (chat, payload) ∨ row ∈ rows := by
  induction rows with
  | nil => exact Or.inl (List.mem_singleton.mp h)
  | cons first rest ih =>
      rw [put] at h
      split at h
      · exact List.mem_cons.mp h
      · split at h
        · exact (List.mem_cons.mp h).imp_right (List.mem_cons_of_mem first)
        · rcases List.mem_cons.mp h with rfl | h
          · exact Or.inr List.mem_cons_self
          · exact (ih h).imp_right (List.mem_cons_of_mem first)

theorem Ascending.put (h : rows.Ascending) : (put chat payload rows).Ascending := by
  induction rows with
  | nil => exact List.pairwise_singleton _ _
  | cons first rest ih =>
      obtain ⟨hfirst, hrest⟩ := List.pairwise_cons.mp h
      rw [Records.put]
      split
      next hlt =>
        refine List.pairwise_cons.mpr ⟨fun row hrow => ?_, h⟩
        rcases List.mem_cons.mp hrow with rfl | hrow
        · exact hlt
        · exact Int.lt_trans hlt (hfirst row hrow)
      next hnot =>
        split
        next heq => exact List.pairwise_cons.mpr ⟨fun row hrow => heq ▸ hfirst row hrow, hrest⟩
        next hne =>
          refine List.pairwise_cons.mpr ⟨fun row hrow => ?_, ih hrest⟩
          rcases mem_put hrow with rfl | hrow
          · change first.1 < chat
            omega
          · exact hfirst row hrow

theorem Ascending.erase (h : rows.Ascending) : (erase chat rows).Ascending := List.Pairwise.filter _ h

theorem mem_of_mem_erase {row : Int × Json} (h : row ∈ erase chat rows) : row ∈ rows := Assoc.mem_of_mem_erase h

/-- The chats whose payload has a property. -/
def chatsWith (p : Json → Bool) (rows : Records) : List Int := (rows.filter fun row => p row.2).map (·.1)

theorem mem_chatsWith {p : Json → Bool} :
    chat ∈ chatsWith p rows ↔ ∃ payload, (chat, payload) ∈ rows ∧ p payload := by
  simp [chatsWith]

/-- The chats with a property are in strictly ascending order too. -/
theorem Ascending.chatsWith (h : rows.Ascending) (p : Json → Bool) : (chatsWith p rows).Pairwise (· < ·) := by
  rw [Records.chatsWith, List.pairwise_map]
  exact List.Pairwise.filter _ h

/-- A payload that has a property just as the one it replaces, or that lacks it as one that is new, leaves the
chats with the property as they are. -/
theorem chatsWith_put (h : rows.Ascending) {p : Json → Bool}
    (hsame : p payload = ((get? chat rows).map p).getD false) :
    chatsWith p (put chat payload rows) = chatsWith p rows := by
  induction rows with
  | nil =>
      have hfalse : p payload = false := hsame
      simp [Records.put, Records.chatsWith, hfalse]
  | cons first rest ih =>
      obtain ⟨hfirst, hrest⟩ := List.pairwise_cons.mp h
      rw [Records.put]
      split
      next hlt =>
        -- the chat comes before every row, so it had none
        have habsent : get? chat (first :: rest) = none := by
          refine Assoc.get?_eq_none_iff.mpr fun hmem => ?_
          obtain ⟨row, hrow, heq⟩ := List.mem_map.mp hmem
          rcases List.mem_cons.mp hrow with rfl | hrow
          · exact absurd heq (Int.ne_of_gt hlt)
          · have := hfirst row hrow
            omega
        rw [habsent] at hsame
        have hfalse : p payload = false := hsame
        simp [Records.chatsWith, hfalse]
      next hnot =>
        split
        next heq =>
          have hfound : get? chat (first :: rest) = some first.2 := by
            rw [get?, heq]
            exact Assoc.get?_cons_self _ _ _
          rw [hfound] at hsame
          have hp : p payload = p first.2 := hsame
          simp only [Records.chatsWith, List.filter_cons, hp]
          split <;> simp [heq]
        next hne =>
          have htail : get? chat (first :: rest) = get? chat rest :=
            Assoc.get?_cons_of_ne (fun heq => hne heq.symm) _ _
          rw [htail] at hsame
          have hrec := ih hrest hsame
          simp only [Records.chatsWith] at hrec ⊢
          simp only [List.filter_cons]
          split <;> simp [hrec]

end ChainAlerts.Records
