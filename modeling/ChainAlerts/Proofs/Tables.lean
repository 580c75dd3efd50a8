import Mathlib.Data.List.Nodup
import ChainAlerts.Assoc

/-! The keys of a table. Putting a value adds its key at most once, erasing a key removes it, and a sequence
of pairs whose keys differ is itself the table it amounts to. -/

namespace ChainAlerts.Assoc

variable {κ ν : Type} [DecidableEq κ] {key k : κ} {value : ν} {table : List (κ × ν)}

theorem mem_of_get? (h : get? key table = some value) : (key, value) ∈ table := by
  induction table with
  | nil => cases h
  | cons entry rest ih =>
      rw [get?] at h
      split at h
      next heq =>
        obtain rfl := Option.some.inj h
        rw [← heq]
        exact List.mem_cons_self
      · exact List.mem_cons_of_mem entry (ih h)

theorem get?_of_mem (hkeys : (keys table).Nodup) (h : (key, value) ∈ table) : get? key table = some value := by
  induction table with
  | nil => cases h
  | cons entry rest ih =>
      obtain ⟨hfresh, hrest⟩ := List.nodup_cons.mp hkeys
      rcases List.mem_cons.mp h with rfl | h
      · simp [get?]
      · have hne : entry.1 ≠ key := by
          intro heq
          have hmem : key ∈ rest.map (·.1) := List.mem_map_of_mem (f := Prod.fst) h
          rw [← heq] at hmem
          exact hfresh hmem
        rw [get?, if_neg hne]
        exact ih hrest h

/-- A selection of rows finds what is found under a key, if it takes every row of the key. -/
theorem get?_filter {p : κ × ν → Bool} (hp : ∀ value, p (key, value)) (table : List (κ × ν)) :
    get? key (table.filter p) = get? key table := by
  induction table with
  | nil => rfl
  | cons entry rest ih =>
      by_cases h : entry.1 = key
      · obtain rfl : entry.1 = key := h
        rw [List.filter_cons_of_pos (hp entry.2), get?, get?, if_pos rfl, if_pos rfl]
      · by_cases hentry : p entry
        · rw [List.filter_cons_of_pos hentry, get?, get?, if_neg h, if_neg h, ih]
        · rw [List.filter_cons_of_neg hentry, ih, get?, if_neg h]

/-- The rows of one key hold what is found under it. -/
theorem get?_filter_self (key : κ) (table : List (κ × ν)) :
    get? key (table.filter (·.1 = key)) = get? key table :=
  get?_filter (by simp) table

theorem contains_iff : contains key table ↔ key ∈ keys table := by
  induction table with
  | nil => simp [contains, get?, keys]
  | cons entry rest ih =>
      by_cases h : entry.1 = key
      · simp [contains, get?, keys, h]
      · have hne : ¬ key = entry.1 := fun e => h e.symm
        simpa [contains, get?, keys, h, hne] using ih

theorem get?_eq_none_iff : get? key table = none ↔ key ∉ keys table := by
  rw [← contains_iff, contains]
  cases get? key table <;> simp

theorem mem_keys_put : k ∈ keys (put key value table) ↔ k = key ∨ k ∈ keys table := by
  induction table with
  | nil => simp [put, keys]
  | cons entry rest ih =>
      by_cases h : entry.1 = key
      · simp [put, keys, h]
      · simp only [put, h, if_false, keys, List.map_cons, List.mem_cons]
        rw [show k ∈ (put key value rest).map (·.1) ↔ k = key ∨ k ∈ rest.map (·.1) from ih]
        exact or_left_comm

theorem contains_put : contains k (put key value table) = (decide (k = key) || contains k table) := by
  rw [Bool.eq_iff_iff, contains_iff, mem_keys_put, Bool.or_eq_true, decide_eq_true_eq, contains_iff]

theorem nodup_keys_put (h : (keys table).Nodup) : (keys (put key value table)).Nodup := by
  induction table with
  | nil => simp [put, keys]
  | cons entry rest ih =>
      obtain ⟨hfresh, hrest⟩ := List.nodup_cons.mp h
      by_cases hkey : entry.1 = key
      · rw [put, if_pos hkey]
        exact List.nodup_cons.mpr ⟨hkey ▸ hfresh, hrest⟩
      · rw [put, if_neg hkey]
        refine List.nodup_cons.mpr ⟨fun hmem => ?_, ih hrest⟩
        rcases mem_keys_put.mp hmem with heq | hmem
        · exact hkey heq
        · exact hfresh hmem

theorem mem_put {entry : κ × ν} (h : entry ∈ put key value table) : entry = (key, value) ∨ entry ∈ table := by
  induction table with
  | nil => exact Or.inl (List.mem_singleton.mp h)
  | cons first rest ih =>
      rw [put] at h
      split at h
      · rcases List.mem_cons.mp h with rfl | h
        · exact Or.inl rfl
        · exact Or.inr (List.mem_cons_of_mem first h)
      · rcases List.mem_cons.mp h with rfl | h
        · exact Or.inr List.mem_cons_self
        · exact (ih h).imp_right (List.mem_cons_of_mem first)

omit [DecidableEq κ] in
/-- Keys of a table whose values are changed or left out, key by key. -/
theorem keys_filterMap_sublist {μ : Type} (g : κ → ν → Option μ) (table : List (κ × ν)) :
    (keys (table.filterMap fun entry => (g entry.1 entry.2).map (entry.1, ·))).Sublist (keys table) := by
  induction table with
  | nil => exact List.Sublist.slnil
  | cons entry rest ih =>
      rw [List.filterMap_cons]
      cases g entry.1 entry.2 with
      | none => exact List.Sublist.cons _ ih
      | some value => exact List.Sublist.cons_cons _ ih

theorem get?_filterMap {μ : Type} (g : κ → ν → Option μ) (h : (keys table).Nodup) :
    get? key (table.filterMap fun entry => (g entry.1 entry.2).map (entry.1, ·)) =
      (get? key table).bind (g key) := by
  induction table with
  | nil => rfl
  | cons entry rest ih =>
      obtain ⟨hfresh, hrest⟩ := List.nodup_cons.mp h
      specialize ih hrest
      rw [List.filterMap_cons]
      by_cases hkey : entry.1 = key
      · subst hkey
        rw [get?, if_pos rfl]
        cases hvalue : g entry.1 entry.2 with
        | none =>
            have hnone : get? entry.1 rest = none := get?_eq_none_iff.mpr hfresh
            simp [ih, hnone, hvalue]
        | some value => simp [hvalue]
      · rw [get?, if_neg hkey]
        cases g entry.1 entry.2 with
        | none => exact ih
        | some value => simpa [get?, hkey] using ih

theorem mem_keys_erase : k ∈ keys (erase key table) ↔ k ≠ key ∧ k ∈ keys table := by
  simp only [keys, erase, List.mem_map, List.mem_filter, decide_eq_true_eq]
  constructor
  · rintro ⟨entry, ⟨hmem, hne⟩, rfl⟩
    exact ⟨hne, entry, hmem, rfl⟩
  · rintro ⟨hne, entry, hmem, rfl⟩
    exact ⟨entry, ⟨hmem, hne⟩, rfl⟩

theorem contains_erase : contains k (erase key table) = (decide (k ≠ key) && contains k table) := by
  rw [Bool.eq_iff_iff, contains_iff, mem_keys_erase, Bool.and_eq_true, decide_eq_true_eq, contains_iff]

theorem nodup_keys_erase (h : (keys table).Nodup) : (keys (erase key table)).Nodup :=
  (List.Sublist.map Prod.fst List.filter_sublist).nodup h

theorem mem_of_mem_erase {entry : κ × ν} (h : entry ∈ erase key table) : entry ∈ table :=
  (List.mem_filter.mp h).1

theorem nodup_keys_ofPairs (pairs : List (κ × ν)) : (keys (ofPairs pairs)).Nodup := by
  have hfold : ∀ (pairs table : List (κ × ν)), (keys table).Nodup →
      (keys (pairs.foldl (fun table pair => put pair.1 pair.2 table) table)).Nodup := by
    intro pairs
    induction pairs with
    | nil => exact fun table h => h
    | cons pair pairs ih => exact fun table h => ih _ (nodup_keys_put h)
  exact hfold pairs [] List.nodup_nil

theorem mem_of_mem_ofPairs {pairs : List (κ × ν)} {entry : κ × ν} (h : entry ∈ ofPairs pairs) :
    entry ∈ pairs := by
  have hfold : ∀ (pairs table : List (κ × ν)),
      entry ∈ pairs.foldl (fun table pair => put pair.1 pair.2 table) table → entry ∈ table ∨ entry ∈ pairs := by
    intro pairs
    induction pairs with
    | nil => exact fun table h => Or.inl h
    | cons pair pairs ih =>
        intro table h
        rcases ih _ h with h | h
        · rcases mem_put h with rfl | h
          · exact Or.inr List.mem_cons_self
          · exact Or.inl h
        · exact Or.inr (List.mem_cons_of_mem pair h)
  rcases hfold pairs [] h with h | h
  · cases h
  · exact h

theorem mem_keys_ofPairs {pairs : List (κ × ν)} : key ∈ keys (ofPairs pairs) ↔ key ∈ keys pairs := by
  have hfold : ∀ table : List (κ × ν),
      key ∈ keys (pairs.foldl (fun table pair => put pair.1 pair.2 table) table) ↔
        key ∈ keys table ∨ key ∈ keys pairs := by
    induction pairs with
    | nil => simp [keys]
    | cons pair rest ih =>
        intro table
        rw [List.foldl_cons, ih, mem_keys_put]
        simp only [keys, List.map_cons, List.mem_cons]
        tauto
  exact (hfold []).trans (by simp [keys])

theorem put_of_not_mem (h : key ∉ keys table) : put key value table = table ++ [(key, value)] := by
  induction table with
  | nil => rfl
  | cons entry rest ih =>
      obtain ⟨hne, hrest⟩ := not_or.mp (fun hmem => h (List.mem_cons.mpr hmem))
      rw [put, if_neg fun heq => hne heq.symm, ih hrest, List.cons_append]

theorem ofPairs_of_nodup {pairs : List (κ × ν)} (h : (keys pairs).Nodup) : ofPairs pairs = pairs := by
  have hfold : ∀ (pairs table : List (κ × ν)), (keys (table ++ pairs)).Nodup →
      pairs.foldl (fun table pair => put pair.1 pair.2 table) table = table ++ pairs := by
    intro pairs
    induction pairs with
    | nil => intro table _; simp
    | cons pair pairs ih =>
        intro table hnodup
        have hfresh : pair.1 ∉ keys table := by
          rw [keys, List.map_append, List.map_cons, List.nodup_append] at hnodup
          exact fun hmem => hnodup.2.2 _ hmem _ List.mem_cons_self rfl
        have htail := ih (table ++ [pair]) (by rwa [List.append_assoc])
        rw [List.append_assoc] at htail
        have hput : put pair.1 pair.2 table = table ++ [pair] := put_of_not_mem hfresh
        change pairs.foldl _ (put pair.1 pair.2 table) = _
        rw [hput]
        exact htail
  exact hfold pairs [] h

end ChainAlerts.Assoc
