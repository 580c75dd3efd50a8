import ChainAlerts.Proofs.ChatLockKeeping

/-! Calls under way. One that moves changes its own place among them and no other's, and it has at most so many
moves left. Their results are there once each of them has ended. -/

namespace ChainAlerts

namespace SideBySide

variable {α : Type}

/-- How the calls stand to the locks of chats. -/
def stanceOf (now : SideBySide α) (i : Nat) : Stance := (now.calls[i]?.map (·.stance)).getD .free

theorem stanceOf_eq {now : SideBySide α} {i : Nat} {call : UnderWay α} (h : now.calls[i]? = some call) :
    now.stanceOf i = call.stance := by
  rw [stanceOf, h]
  rfl

/-- A call that moves changes its own stance and no other's. -/
theorem stanceOf_update {now now' : SideBySide α} {i : Nat} {call : UnderWay α} (hself : now'.calls[i]? = some call)
    (hothers : ∀ j, j ≠ i → now'.calls[j]? = now.calls[j]?) :
    now'.stanceOf = Function.update now.stanceOf i call.stance := by
  funext j
  by_cases hj : j = i
  · subst hj
    rw [Function.update_self, stanceOf_eq hself]
  · rw [Function.update_of_ne hj, stanceOf, hothers j hj, stanceOf]

theorem getElem?_put_self {now : SideBySide α} {i : Nat} (h : i < now.calls.length) (call : UnderWay α) :
    (now.put i call).calls[i]? = some call := List.getElem?_set_self h

theorem getElem?_put_of_ne (now : SideBySide α) {i j : Nat} (h : j ≠ i) (call : UnderWay α) :
    (now.put i call).calls[j]? = now.calls[j]? := List.getElem?_set_ne (Ne.symm h)

theorem results?_map {now : SideBySide α} {results : List α} (h : now.results? = some results) :
    now.calls.map result? = results.map some := by
  rw [results?] at h
  generalize now.calls = calls at h ⊢
  induction calls generalizing results with
  | nil =>
      obtain rfl := Option.some.inj h
      rfl
  | cons call rest ih =>
      rw [List.mapM_cons] at h
      cases hcall : result? call with
      | none =>
          rw [hcall] at h
          cases h
      | some result =>
          cases hrest : rest.mapM result? with
          | none =>
              rw [hcall, hrest] at h
              cases h
          | some others =>
              rw [hcall, hrest] at h
              obtain rfl := Option.some.inj h
              rw [List.map_cons, List.map_cons, hcall, ih hrest]

theorem exists_unfinished {now : SideBySide α} (h : now.results? = none) :
    ∃ (i : Nat) (call : UnderWay α), now.calls[i]? = some call ∧ result? call = none := by
  rw [results?] at h
  generalize now.calls = calls at h ⊢
  induction calls with
  | nil => cases h
  | cons call rest ih =>
      cases hcall : result? call with
      | none => exact ⟨0, call, rfl, hcall⟩
      | some result =>
          have hrest : rest.mapM result? = none := by
            rw [List.mapM_cons, hcall] at h
            cases hrest : rest.mapM result? with
            | none => rfl
            | some others =>
                rw [hrest] at h
                cases h
          obtain ⟨i, other, hother, hnone⟩ := ih hrest
          exact ⟨i + 1, other, hother, hnone⟩

/-- How many moves an edit has left at most, if it never waits in vain. -/
def movesLeft (call : UnderWay α) : Nat :=
  match call.task, call.stance with
  | .ask (.lock _) _, .waiting .. => 4
  | .ask (.lock _) _, _ => 5
  | .ask (.read _) _, _ => 3
  | .ask (.write ..) _, _ => 2
  | .ask (.unlock _) _, _ => 1
  | _, _ => 0

def totalLeft (now : SideBySide α) : Nat := now.calls.foldr (fun call left => movesLeft call + left) 0

theorem totalLeft_set {now now' : SideBySide α} {i : Nat} {old call : UnderWay α} (hold : now.calls[i]? = some old)
    (h : now'.calls = now.calls.set i call) (hless : movesLeft call < movesLeft old) :
    now'.totalLeft < now.totalLeft := by
  rw [totalLeft, totalLeft, h]
  clear h
  generalize now.calls = calls at hold
  induction calls generalizing i with
  | nil => cases hold
  | cons first rest ih =>
      cases i with
      | zero =>
          obtain rfl := Option.some.inj hold
          simp only [List.set_cons_zero, List.foldr_cons]
          omega
      | succ i =>
          have hrest := ih hold
          simp only [List.set_cons_succ, List.foldr_cons]
          omega

/-- Whether a call has not come to its end and need not wait. -/
def canMove (now : SideBySide α) (i : Nat) : Bool :=
  now.calls[i]?.any (fun call => (result? call).isNone) && !now.waits i

/-- Whether a call is about to read or to write the payload of a chat. -/
def isEditing (chat : Int) (call : UnderWay α) : Bool :=
  match call.task with
  | .ask (.read other) _ | .ask (.write other _) _ => other = chat
  | _ => false

end SideBySide

end ChainAlerts
