import Mathlib.Algebra.Ring.Int.Defs
import Mathlib.Data.List.Induction
import ChainAlerts.Event
import ChainAlerts.Proofs.JsonReading

/-! The net changes of a swap. Amounts of one token add up, the wrapped native token and the native one being one token,
and each token has one change, in the order in which the tokens first occur. -/

namespace ChainAlerts

section

variable {α : Type} [DecidableEq α] {xs : List α}

theorem eraseDups_concat (xs : List α) (x : α) :
    (xs ++ [x]).eraseDups = xs.eraseDups ++ if x ∈ xs then [] else [x] := by
  rw [List.eraseDups_append]
  by_cases h : x ∈ xs <;> simp [List.removeAll, h, List.eraseDups_cons]

theorem nodup_eraseDups (xs : List α) : xs.eraseDups.Nodup := by
  induction xs using List.reverseRecOn with
  | nil => exact List.nodup_nil
  | append_singleton xs x ih =>
      rw [eraseDups_concat]
      by_cases h : x ∈ xs
      · rw [if_pos h, List.append_nil]
        exact ih
      · rw [if_neg h]
        refine List.nodup_append.mpr ⟨ih, List.nodup_singleton x, ?_⟩
        rintro y hy z hz rfl
        exact h (List.mem_singleton.mp hz ▸ List.mem_eraseDups.mp hy)

end

/-- The sum of a token's amounts. -/
def netAmount (token : String) : List (String × Int) → Int
  | [] => 0
  | leg :: rest => (if leg.1 = token then leg.2 else 0) + netAmount token rest

theorem netAmount_append (token : String) (legs more : List (String × Int)) :
    netAmount token (legs ++ more) = netAmount token legs + netAmount token more := by
  induction legs with
  | nil => rw [List.nil_append, netAmount, Int.zero_add]
  | cons leg rest ih => rw [List.cons_append, netAmount, netAmount, ih, Int.add_assoc]

theorem netAmount_singleton (token : String) (leg : String × Int) :
    netAmount token [leg] = if leg.1 = token then leg.2 else 0 := Int.add_zero _

theorem netAmount_eq_zero {token : String} {legs : List (String × Int)} (h : token ∉ Assoc.keys legs) :
    netAmount token legs = 0 := by
  induction legs with
  | nil => rfl
  | cons leg rest ih =>
      obtain ⟨hne, hrest⟩ := not_or.mp fun hmem => h (List.mem_cons.mpr hmem)
      rw [netAmount, ih hrest, if_neg fun heq => hne heq.symm]
      rfl

/-- Adding an amount to a table of amounts changes that of one token, or adds the token at the end. -/
theorem addChange_map (token : String) (amount : Int) (f : String → Int) {tokens : List String}
    (htokens : tokens.Nodup) :
    addChange token amount (tokens.map fun t => (t, f t)) =
      (tokens.map fun t => (t, f t + if token = t then amount else 0)) ++
        if token ∈ tokens then [] else [(token, amount)] := by
  induction tokens with
  | nil => rfl
  | cons first rest ih =>
      obtain ⟨hfresh, hrest⟩ := List.nodup_cons.mp htokens
      by_cases h : first = token
      · subst h
        have hkept : (rest.map fun t => (t, f t + if first = t then amount else 0)) = rest.map fun t => (t, f t) := by
          refine List.map_congr_left fun t ht => ?_
          have hne : first ≠ t := by
            rintro rfl
            exact hfresh ht
          rw [if_neg hne, Int.add_zero]
        simp [addChange, hkept]
      · have hne : ¬token = first := fun heq => h heq.symm
        simp [addChange, h, hne, ih hrest]

theorem netChanges_concat (legs : List (String × Int)) (leg : String × Int) :
    netChanges (legs ++ [leg]) = addChange leg.1 leg.2 (netChanges legs) := by
  rw [netChanges, List.foldl_append]
  rfl

/-- The net changes: for each token that occurs, in the order of the first occurrences, the sum of its amounts. -/
theorem netChanges_eq (legs : List (String × Int)) :
    netChanges legs = (Assoc.keys legs).eraseDups.map fun t => (t, netAmount t legs) := by
  induction legs using List.reverseRecOn with
  | nil => rfl
  | append_singleton legs leg ih =>
      have hkeys : Assoc.keys (legs ++ [leg]) = Assoc.keys legs ++ [leg.1] := by simp [Assoc.keys]
      rw [netChanges_concat, ih, addChange_map _ _ _ (nodup_eraseDups _), hkeys, eraseDups_concat, List.map_append]
      simp only [netAmount_append, netAmount_singleton, List.mem_eraseDups]
      by_cases hmem : leg.1 ∈ Assoc.keys legs
      · simp [hmem]
      · simp [hmem, netAmount_eq_zero hmem]

/-- A token has a net change if it occurs, and it is the sum of its amounts. -/
theorem mem_netChanges {token : String} {amount : Int} {legs : List (String × Int)} :
    (token, amount) ∈ netChanges legs ↔ token ∈ Assoc.keys legs ∧ amount = netAmount token legs := by
  rw [netChanges_eq, List.mem_map]
  constructor
  · rintro ⟨t, ht, heq⟩
    obtain ⟨rfl, rfl⟩ := Prod.mk.inj heq
    exact ⟨List.mem_eraseDups.mp ht, rfl⟩
  · rintro ⟨htoken, rfl⟩
    exact ⟨token, List.mem_eraseDups.mpr htoken, rfl⟩

/-- Adding an amount to a token adds it to the total. -/
theorem sum_addChange (token : String) (amount : Int) (changes : List (String × Int)) :
    ((addChange token amount changes).map (·.2)).sum = (changes.map (·.2)).sum + amount := by
  induction changes with
  | nil => simp [addChange]
  | cons change rest ih =>
      obtain ⟨t, n⟩ := change
      rw [addChange]
      split
      · simp only [List.map_cons, List.sum_cons]
        omega
      · simp only [List.map_cons, List.sum_cons, ih]
        omega

/-- Nothing is lost and nothing counted twice: the net changes have the total of all amounts. -/
theorem sum_netChanges (legs : List (String × Int)) :
    ((netChanges legs).map (·.2)).sum = (legs.map (·.2)).sum := by
  induction legs using List.reverseRecOn with
  | nil => rfl
  | append_singleton legs leg ih =>
      rw [netChanges_concat, sum_addChange, ih, List.map_append, List.sum_append]
      simp

/-- The legs that are read from filed amounts: each account under its normal name, with the amount of its text. -/
theorem forall₂_readLegs {entries : List (String × Json)} {legs : List (String × Int)}
    (h : readLegs entries = .ok legs) :
    List.Forall₂ (fun entry leg => leg.1 = normalizeToken entry.1 ∧ entry.2.integerOfText = .ok leg.2) entries
      legs := by
  induction entries generalizing legs with
  | nil =>
      obtain rfl : [] = legs := Except.ok.inj h
      exact .nil
  | cons entry rest ih =>
      rw [readLegs, List.mapM_cons] at h
      obtain ⟨leg, hleg, h⟩ := except_bind_eq_ok.mp h
      obtain ⟨others, hothers, h⟩ := except_bind_eq_ok.mp h
      obtain rfl : leg :: others = legs := Except.ok.inj h
      obtain ⟨amount, hamount, hleg⟩ := except_bind_eq_ok.mp hleg
      obtain rfl : (normalizeToken entry.1, amount) = leg := Except.ok.inj hleg
      exact .cons ⟨rfl, hamount⟩ (ih hothers)

theorem keys_readLegs {entries : List (String × Json)} {legs : List (String × Int)} (h : readLegs entries = .ok legs) :
    Assoc.keys legs = (Assoc.keys entries).map normalizeToken := by
  have hlegs := forall₂_readLegs h
  clear h
  induction hlegs with
  | nil => rfl
  | cons hleg _ ih => simp only [Assoc.keys, List.map_cons] at ih ⊢; rw [hleg.1, ih]

theorem mem_readLegs {entries : List (String × Json)} {legs : List (String × Int)} (h : readLegs entries = .ok legs)
    {account : String} {amount : Json} (hmem : (account, amount) ∈ entries) :
    ∃ n, amount.integerOfText = .ok n ∧ (normalizeToken account, n) ∈ legs := by
  have hlegs := forall₂_readLegs h
  clear h
  induction hlegs with
  | nil => cases hmem
  | @cons entry leg _ _ hleg _ ih =>
      rcases List.mem_cons.mp hmem with rfl | hrest
      · obtain ⟨hname, hamount⟩ := hleg
        exact ⟨leg.2, hamount, List.mem_cons.mpr (Or.inl (Prod.ext hname.symm rfl))⟩
      · obtain ⟨n, hn, hlater⟩ := ih hrest
        exact ⟨n, hn, List.mem_cons_of_mem leg hlater⟩

/-- No leg is of the wrapped native token: it goes by the name of the native one. -/
theorem normalizeToken_ne_wrappedNear (account : String) : normalizeToken account ≠ wrappedNear := by
  rw [normalizeToken]
  split
  · decide
  next h => exact h

theorem ne_wrappedNear_of_mem_keys {entries : List (String × Json)} {legs : List (String × Int)}
    (h : readLegs entries = .ok legs) {token : String} (hmem : token ∈ Assoc.keys legs) : token ≠ wrappedNear := by
  rw [keys_readLegs h] at hmem
  obtain ⟨account, -, rfl⟩ := List.mem_map.mp hmem
  exact normalizeToken_ne_wrappedNear account

theorem normalizeToken_of_ne {account : String} (h : account ≠ wrappedNear) : normalizeToken account = account :=
  if_neg h

end ChainAlerts
