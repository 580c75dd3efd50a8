/-! Tables kept as lists of keys and values in the order in which the keys first came. Putting a
value under a key that is there leaves the key at its place. The main statements say what a look-up
finds after each change. -/

namespace ChainAlerts.Assoc

variable {κ ν : Type} [DecidableEq κ]

/-- The value under a key. -/
def get? (key : κ) : List (κ × ν) → Option ν
  | [] => none
  | (k, v) :: rest => if k = key then some v else get? key rest

def contains (key : κ) (table : List (κ × ν)) : Bool := (get? key table).isSome

/-- Puts a value under a key, at the end if the key is new. -/
def put (key : κ) (value : ν) : List (κ × ν) → List (κ × ν)
  | [] => [(key, value)]
  | (k, v) :: rest => if k = key then (key, value) :: rest else (k, v) :: put key value rest

def erase (key : κ) (table : List (κ × ν)) : List (κ × ν) := table.filter fun (k, _) => k ≠ key

def keys (table : List (κ × ν)) : List κ := table.map (·.1)

/-- The table that a sequence of keys and values amounts to. -/
def ofPairs (pairs : List (κ × ν)) : List (κ × ν) :=
  pairs.foldl (fun table (k, v) => put k v table) []

@[simp] theorem get?_cons_self (key : κ) (value : ν) (rest : List (κ × ν)) :
    get? key ((key, value) :: rest) = some value := by
  rw [get?, if_pos rfl]

@[simp] theorem get?_cons_of_ne {key k : κ} (h : k ≠ key) (value : ν) (rest : List (κ × ν)) :
    get? key ((k, value) :: rest) = get? key rest := by
  rw [get?, if_neg h]

@[simp] theorem get?_put_self (key : κ) (value : ν) (table : List (κ × ν)) :
    get? key (put key value table) = some value := by
  induction table with
  | nil => simp [put]
  | cons entry rest ih =>
    obtain ⟨k, v⟩ := entry
    by_cases h : k = key <;> simp [put, h, ih]

theorem get?_put_of_ne {key other : κ} (h : other ≠ key) (value : ν) (table : List (κ × ν)) :
    get? other (put key value table) = get? other table := by
  induction table with
  | nil => simp [put, get?, h.symm]
  | cons entry rest ih =>
    by_cases he : entry.1 = key
    · simp [put, get?, he, h.symm]
    · simp only [put, he, if_false, get?, ih]

@[simp] theorem get?_erase_self (key : κ) (table : List (κ × ν)) : get? key (erase key table) = none := by
  induction table with
  | nil => rfl
  | cons entry rest ih =>
    by_cases h : entry.1 = key
    · simpa [erase, List.filter_cons, h] using ih
    · simpa [erase, List.filter_cons, h, get?] using ih

theorem get?_erase_of_ne {key other : κ} (h : other ≠ key) (table : List (κ × ν)) :
    get? other (erase key table) = get? other table := by
  induction table with
  | nil => rfl
  | cons entry rest ih =>
    by_cases hk : entry.1 = key
    · have ho : entry.1 ≠ other := fun e => h (e.symm.trans hk)
      rw [show get? other (entry :: rest) = get? other rest by simp [get?, ho], ← ih]
      simp [erase, hk]
    · have hc : erase key (entry :: rest) = entry :: erase key rest := by simp [erase, hk]
      simp only [hc, get?, ih]

end ChainAlerts.Assoc
