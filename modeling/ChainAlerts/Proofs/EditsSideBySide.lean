import ChainAlerts.Proofs.CallsUnderWay
import ChainAlerts.Proofs.EditRequests

/-! Edits that run side by side. An edit takes effect at one moment: when it reads, if what it reads settles it,
and else when it writes. Between the two it holds the lock of its chat, so nobody else stores a payload for the
chat, and the payload it has made is still the one it would make. So the edits come to what they come to in turn,
in the order in which they took effect. -/

namespace ChainAlerts

namespace Store

open SideBySide

variable {ρ ε α : Type}

/-- How far an edit has come, with its result once it has taken effect. What it is about to write is what it makes
of the payload that is there. -/
inductive Stage (s : Store ρ) (e : Edit ρ ε α) (shelf : Shelf) :
    UnderWay (EditResult ρ ε α) → Option (EditResult ρ ε α) → Prop where
  | asking : Stage s e shelf { task := e.call s } none
  | waiting (lock : Nat) : Stage s e shelf { task := e.call s, stance := .waiting e.chat lock } none
  | reading (lock : Nat) : Stage s e shelf { task := e.reads s, stance := .holding e.chat lock } none
  | writing (lock : Nat) {payload : Json} {kept : ρ × α}
      (hplan : e.plan s (shelf.database.get s.codec.collection s.bot e.chat) = .ok (payload, kept)) :
      Stage s e shelf { task := e.writes s payload kept, stance := .holding e.chat lock } none
  | leaving (lock : Nat) (result : EditResult ρ ε α) :
      Stage s e shelf { task := e.leave result, stance := .holding e.chat lock } (some result)
  | ended (result : EditResult ρ ε α) : Stage s e shelf { task := .done result } (some result)

/-- The edits that have taken effect, with their results. -/
def settled (edits : List (Edit ρ ε α)) (outcomes : List (Option (EditResult ρ ε α))) :
    List (Edit ρ ε α × EditResult ρ ε α) :=
  (edits.zip outcomes).filterMap fun (e, outcome) => outcome.map (e, ·)

/-- The edits that have taken effect did so one after another, and the others have not been felt. -/
structure Serial (s : Store ρ) (edits : List (Edit ρ ε α)) (start : Shelf)
    (outcomes : List (Option (EditResult ρ ε α))) (order : List (Edit ρ ε α × EditResult ρ ε α))
    (now : SideBySide (EditResult ρ ε α)) : Prop where
  calls_length : now.calls.length = edits.length
  outcomes_length : outcomes.length = edits.length
  stages : ∀ {i : Nat} {e : Edit ρ ε α}, edits[i]? = some e → ∃ call outcome, now.calls[i]? = some call ∧
    outcomes[i]? = some outcome ∧ Stage s e now.shelf call outcome
  inTurn : s.inTurn (order.map (·.1)) start = (order.map (·.2), now.shelf)
  perm : order.Perm (settled edits outcomes)
  locks : now.chatLocks.Kept now.stanceOf

section

variable {s : Store ρ} {e : Edit ρ ε α} {shelf shelf' : Shelf} {call : UnderWay (EditResult ρ ε α)}
  {outcome : Option (EditResult ρ ε α)} {result : EditResult ρ ε α}

/-- An edit is as far as it was if the payload of its chat stays while it holds the lock. -/
theorem Stage.keep (h : Stage s e shelf call outcome)
    (hkeep : ∀ lock, call.stance = .holding e.chat lock →
      shelf'.database.get s.codec.collection s.bot e.chat = shelf.database.get s.codec.collection s.bot e.chat) :
    Stage s e shelf' call outcome := by
  cases h with
  | asking => exact .asking
  | waiting lock => exact .waiting lock
  | reading lock => exact .reading lock
  | writing lock hplan =>
      refine .writing lock ?_
      rw [hkeep lock rfl]
      exact hplan
  | leaving lock result => exact .leaving lock result
  | ended result => exact .ended result

/-- Whoever is about to read or to write holds the lock of its chat. -/
theorem Stage.holding_of_isEditing (h : Stage s e shelf call outcome) {chat : Int}
    (hediting : isEditing chat call) : ∃ lock, call.stance = .holding chat lock := by
  cases h with
  | asking | waiting =>
      rw [Edit.call_eq] at hediting
      cases hediting
  | reading lock | writing lock hplan =>
      obtain rfl : e.chat = chat := of_decide_eq_true hediting
      exact ⟨lock, rfl⟩
  | leaving | ended => cases hediting

theorem Stage.of_result? (h : Stage s e shelf call outcome) (hresult : result? call = some result) :
    call.stance = .free ∧ outcome = some result := by
  cases h with
  | asking | waiting =>
      rw [result?, Edit.call_eq] at hresult
      cases hresult
  | reading | writing | leaving => cases hresult
  | ended => exact ⟨rfl, hresult⟩

/-- An edit that has not ended can move unless it waits for a lock that does not admit it. -/
theorem Stage.canMove {now : SideBySide (EditResult ρ ε α)} {i : Nat} (h : Stage s e shelf call outcome)
    (hcall : now.calls[i]? = some call) (hunfinished : result? call = none)
    (hadmits : ∀ chat lock, call.stance = .waiting chat lock → now.chatLocks.admits lock i) : now.canMove i := by
  rw [SideBySide.canMove, SideBySide.waits, hcall]
  cases h with
  | asking =>
      rw [Edit.call_eq]
      rfl
  | waiting lock =>
      rw [Edit.call_eq]
      simp [result?, hadmits e.chat lock rfl]
  | reading | writing | leaving => rfl
  | ended => cases hunfinished

theorem settled_set {edits : List (Edit ρ ε α)} {outcomes : List (Option (EditResult ρ ε α))} {i : Nat}
    (he : edits[i]? = some e) (houtcome : outcomes[i]? = some none) (result : EditResult ρ ε α) :
    (settled edits (outcomes.set i (some result))).Perm (settled edits outcomes ++ [(e, result)]) := by
  induction edits generalizing outcomes i with
  | nil => cases he
  | cons first rest ih =>
      cases outcomes with
      | nil => cases houtcome
      | cons outcome outcomes =>
          cases i with
          | zero =>
              obtain rfl := Option.some.inj he
              obtain rfl := Option.some.inj houtcome
              exact (List.perm_append_singleton _ _).symm
          | succ i =>
              have hrest := ih he houtcome
              cases outcome with
              | none => exact hrest
              | some other => exact hrest.cons (first, other)

theorem settled_map_some (edits : List (Edit ρ ε α)) (results : List (EditResult ρ ε α)) :
    settled edits (results.map some) = edits.zip results := by
  rw [settled, List.zip_map_right, List.filterMap_map]
  exact List.filterMap_some

end

section

variable {s : Store ρ} {edits : List (Edit ρ ε α)} {start : Shelf}
  {outcomes : List (Option (EditResult ρ ε α))} {order : List (Edit ρ ε α × EditResult ρ ε α)}
  {now : SideBySide (EditResult ρ ε α)} {e : Edit ρ ε α} {i : Nat}

theorem serial_begin (s : Store ρ) (edits : List (Edit ρ ε α)) (start : Shelf) :
    Serial s edits start (edits.map fun _ => none) [] (begin start (edits.map (·.call s))) where
  calls_length := by simp [begin]
  outcomes_length := List.length_map _
  stages := by
    intro i e he
    refine ⟨{ task := e.call s }, none, by simp [begin, he], ?_, .asking⟩
    rw [List.getElem?_map, he]
    rfl
  inTurn := rfl
  perm := by
    have hnone : settled edits (edits.map fun _ => none) = [] := by
      rw [settled, List.filterMap_eq_nil_iff]
      intro pair hpair
      obtain ⟨e, outcome⟩ := pair
      obtain ⟨_, -, rfl⟩ := List.mem_map.mp (List.of_mem_zip hpair).2
      rfl
    rw [hnone]
  locks := by
    refine ChatLocks.kept_new fun i => ?_
    rw [stanceOf]
    simp only [begin, List.getElem?_map]
    cases edits[i]? <;> rfl

/-- A call that is under way is an edit at some stage. -/
theorem Serial.stage_of (h : Serial s edits start outcomes order now) {call : UnderWay (EditResult ρ ε α)}
    (hcall : now.calls[i]? = some call) :
    ∃ e outcome, edits[i]? = some e ∧ outcomes[i]? = some outcome ∧ Stage s e now.shelf call outcome := by
  have hi : i < edits.length := by
    rw [← h.calls_length]
    exact (List.getElem?_eq_some_iff.mp hcall).1
  have he : edits[i]? = some edits[i] := List.getElem?_eq_getElem hi
  obtain ⟨call', outcome, hcall', houtcome, hstage⟩ := h.stages he
  obtain rfl := Option.some.inj (hcall.symm.trans hcall')
  exact ⟨edits[i], outcome, he, houtcome, hstage⟩

/-- An edit goes on and is not felt. -/
theorem Serial.goOn (h : Serial s edits start outcomes order now) (he : edits[i]? = some e)
    {outcome : Option (EditResult ρ ε α)} (houtcome : outcomes[i]? = some outcome)
    {call : UnderWay (EditResult ρ ε α)} (hstage : Stage s e now.shelf call outcome) {chatLocks : ChatLocks}
    (hlocks : chatLocks.Kept (Function.update now.stanceOf i call.stance)) :
    Serial s edits start outcomes order ({ now with chatLocks }.put i call) := by
  have hi : i < now.calls.length := by
    rw [h.calls_length]
    exact (List.getElem?_eq_some_iff.mp he).1
  refine ⟨?_, h.outcomes_length, ?_, h.inTurn, h.perm, ?_⟩
  · rw [← h.calls_length]
    exact List.length_set
  · intro j other hother
    by_cases hj : j = i
    · subst hj
      obtain rfl := Option.some.inj (he.symm.trans hother)
      exact ⟨call, outcome, getElem?_put_self hi call, houtcome, hstage⟩
    · rw [getElem?_put_of_ne _ hj]
      exact h.stages hother
  · have hstances : ({ now with chatLocks }.put i call).stanceOf = Function.update now.stanceOf i call.stance :=
      stanceOf_update (getElem?_put_self hi call) fun _ hj => getElem?_put_of_ne _ hj call
    rw [hstances]
    exact hlocks

/-- An edit takes effect. It comes to what it comes to alone, and no chat's payload changes under the others that
hold a lock. -/
theorem Serial.settle (h : Serial s edits start outcomes order now) (he : edits[i]? = some e)
    (houtcome : outcomes[i]? = some none) {lock : Nat} (hstance : now.stanceOf i = .holding e.chat lock)
    {result : EditResult ρ ε α} {shelf : Shelf} (halone : s.runAlone (e.call s) now.shelf = (result, shelf))
    (hkeep : ∀ chat, chat ≠ e.chat →
      shelf.database.get s.codec.collection s.bot chat = now.shelf.database.get s.codec.collection s.bot chat) :
    Serial s edits start (outcomes.set i (some result)) (order ++ [(e, result)])
      ({ now with shelf }.put i { task := e.leave result, stance := .holding e.chat lock }) := by
  have hi : i < now.calls.length := by
    rw [h.calls_length]
    exact (List.getElem?_eq_some_iff.mp he).1
  have hi' : i < outcomes.length := (List.getElem?_eq_some_iff.mp houtcome).1
  refine ⟨?_, ?_, ?_, ?_, ?_, ?_⟩
  · rw [← h.calls_length]
    exact List.length_set
  · rw [← h.outcomes_length]
    exact List.length_set
  · intro j other hother
    by_cases hj : j = i
    · subst hj
      obtain rfl := Option.some.inj (he.symm.trans hother)
      exact ⟨_, some result, getElem?_put_self hi _, List.getElem?_set_self hi', .leaving lock result⟩
    · obtain ⟨call, outcome, hcall, hout, hstage⟩ := h.stages hother
      refine ⟨call, outcome, ?_, ?_, hstage.keep fun lock' hholding => hkeep other.chat ?_⟩
      · rw [getElem?_put_of_ne _ hj]
        exact hcall
      · rw [List.getElem?_set_ne (Ne.symm hj)]
        exact hout
      · -- two edits of one chat do not both hold its lock
        intro heq
        rw [← stanceOf_eq hcall, heq] at hholding
        exact hj (h.locks.holding_unique hholding hstance)
  · rw [List.map_append, List.map_singleton, inTurn_concat, h.inTurn, halone, List.map_append]
    rfl
  · exact (h.perm.append_right _).trans (settled_set he houtcome result).symm
  · have hstances : ({ now with shelf }.put i { task := e.leave result, stance := .holding e.chat lock }).stanceOf =
        Function.update now.stanceOf i (.holding e.chat lock) :=
      stanceOf_update (getElem?_put_self hi _) fun _ hj => getElem?_put_of_ne _ hj _
    rw [hstances, Function.update_eq_self_iff.mpr hstance.symm]
    exact h.locks

/-- After a move of a call edits have taken effect in turn, and if the call needed not wait it has come closer to its
end. -/
def Advances (s : Store ρ) (edits : List (Edit ρ ε α)) (start : Shelf) (now : SideBySide (EditResult ρ ε α)) (i : Nat)
    (now' : SideBySide (EditResult ρ ε α)) : Prop :=
  ∃ outcomes order, Serial s edits start outcomes order now' ∧ (now.canMove i → now'.totalLeft < now.totalLeft)

theorem Serial.asks (h : Serial s edits start outcomes order now) (he : edits[i]? = some e)
    (houtcome : outcomes[i]? = some none) (hcall : now.calls[i]? = some { task := e.call s }) :
    Advances s edits start now i (now.askChat i e.chat (e.call s) (e.reads s)) := by
  obtain ⟨lock, chatLocks, hask, hkept⟩ := h.locks.ask (stanceOf_eq hcall) e.chat
  have hleft : movesLeft { task := e.call s } = 5 := by
    rw [Edit.call_eq]
    rfl
  simp only [askChat, hask]
  split at hkept
  next hheld =>
    rw [if_pos hheld]
    refine ⟨outcomes, order, h.goOn he houtcome (.reading lock) hkept, fun _ => ?_⟩
    exact totalLeft_set hcall rfl (hleft ▸ (by decide : 3 < 5))
  next hbusy =>
    rw [if_neg hbusy]
    refine ⟨outcomes, order, h.goOn he houtcome (.waiting lock) hkept, fun _ => ?_⟩
    refine totalLeft_set hcall rfl (hleft ▸ ?_)
    rw [Edit.call_eq]
    exact (by decide : 4 < 5)

theorem Serial.takes (h : Serial s edits start outcomes order now) (he : edits[i]? = some e)
    (houtcome : outcomes[i]? = some none) {lock : Nat}
    (hcall : now.calls[i]? = some { task := e.call s, stance := .waiting e.chat lock }) :
    Advances s edits start now i (now.takeChat i e.chat lock (e.reads s)) := by
  rw [takeChat]
  split
  next hadmits =>
    have hkept := h.locks.take (stanceOf_eq hcall) hadmits
    refine ⟨outcomes, order, h.goOn he houtcome (.reading lock) hkept, fun _ => ?_⟩
    refine totalLeft_set hcall rfl ?_
    rw [Edit.call_eq]
    exact (by decide : 3 < 4)
  next hshut =>
    refine ⟨outcomes, order, h, fun hmoves => absurd ?_ hshut⟩
    rw [canMove, waits, hcall, Edit.call_eq] at hmoves
    simpa [result?] using hmoves

theorem Serial.reads (h : Serial s edits start outcomes order now) (he : edits[i]? = some e)
    (houtcome : outcomes[i]? = some none) {lock : Nat}
    (hcall : now.calls[i]? = some { task := e.reads s, stance := .holding e.chat lock }) :
    Advances s edits start now i (now.put i {
      task := e.afterRead s (now.shelf.database.get s.codec.collection s.bot e.chat)
      stance := .holding e.chat lock }) := by
  have hstance := stanceOf_eq hcall
  rw [Edit.afterRead]
  cases hplan : e.plan s (now.shelf.database.get s.codec.collection s.bot e.chat) with
  | error result =>
      have hsettled := h.settle he houtcome hstance (e.alone_of_plan_error s hplan) fun _ _ => rfl
      exact ⟨_, _, hsettled, fun _ => totalLeft_set hcall rfl (by decide : 1 < 3)⟩
  | ok planned =>
      refine ⟨outcomes, order, h.goOn he houtcome (.writing lock hplan) ?_,
        fun _ => totalLeft_set hcall rfl (by decide : 2 < 3)⟩
      rw [Function.update_eq_self_iff.mpr hstance.symm]
      exact h.locks

/-- Whatever call moves, edits that have taken effect in turn have done so afterwards. -/
theorem Serial.advance (h : Serial s edits start outcomes order now) (i : Nat) :
    Advances s edits start now i (SideBySide.advance s.codec.collection s.bot now i) := by
  rw [SideBySide.advance]
  cases hcall : now.calls[i]? with
  | none =>
      refine ⟨outcomes, order, h, fun hmove => ?_⟩
      rw [canMove, hcall] at hmove
      cases hmove
  | some call =>
      obtain ⟨e, outcome, he, houtcome, hstage⟩ := h.stage_of hcall
      have hstance := stanceOf_eq hcall
      cases hstage with
      | asking =>
          have hmove : now.move s.codec.collection s.bot i { task := e.call s } =
              now.askChat i e.chat (e.call s) (e.reads s) := by
            rw [Edit.call_eq]
            rfl
          simp only [hmove]
          exact h.asks he houtcome hcall
      | waiting lock =>
          have hmove : now.move s.codec.collection s.bot i
              { task := e.call s, stance := .waiting e.chat lock } =
              now.takeChat i e.chat lock (e.reads s) := by
            rw [Edit.call_eq]
            rfl
          simp only [hmove]
          exact h.takes he houtcome hcall
      | reading lock => exact h.reads he houtcome hcall
      | @writing lock payload kept hplan =>
          have hsettled := h.settle he houtcome hstance (e.alone_of_plan_ok s hplan) fun _ hne =>
            get_answer_write_ne _ _ payload now.shelf hne
          exact ⟨_, _, hsettled, fun _ => totalLeft_set hcall rfl (by decide : 1 < 2)⟩
      | leaving lock result =>
          exact ⟨outcomes, order, h.goOn he houtcome (.ended result) (h.locks.release hstance),
            fun _ => totalLeft_set hcall rfl (by decide : 0 < 1)⟩
      | ended result =>
          refine ⟨outcomes, order, h, fun hmove => ?_⟩
          rw [canMove, hcall] at hmove
          cases hmove

theorem Serial.run (schedule : List Nat) (h : Serial s edits start outcomes order now) :
    ∃ outcomes' order', Serial s edits start outcomes' order'
      (SideBySide.run s.codec.collection s.bot schedule now) := by
  induction schedule generalizing outcomes order now with
  | nil => exact ⟨outcomes, order, h⟩
  | cons i rest ih =>
      obtain ⟨outcomes', order', h', -⟩ := h.advance i
      exact ih h'

/-- A call that stands to a lock has not ended, and moves unless it waits and is not admitted. -/
theorem Serial.canMove_of_engaged (h : Serial s edits start outcomes order now) (hengaged : now.stanceOf i ≠ .free)
    (hadmits : ∀ chat lock, now.stanceOf i = .waiting chat lock → now.chatLocks.admits lock i) : now.canMove i := by
  cases hcall : now.calls[i]? with
  | none =>
      rw [stanceOf, hcall] at hengaged
      exact absurd rfl hengaged
  | some call =>
      obtain ⟨e, outcome, -, -, hstage⟩ := h.stage_of hcall
      rw [stanceOf_eq hcall] at hengaged hadmits
      apply hstage.canMove hcall ?_ hadmits
      cases hresult : result? call with
      | none => rfl
      | some result => exact absurd (hstage.of_result? hresult).1 hengaged

/-- As long as some edit has not ended, some edit that has not ended need not wait. -/
theorem Serial.exists_canMove (h : Serial s edits start outcomes order now) (hunfinished : now.results? = none) :
    ∃ i, now.canMove i := by
  obtain ⟨i, call, hcall, hnone⟩ := exists_unfinished hunfinished
  obtain ⟨e, outcome, -, -, hstage⟩ := h.stage_of hcall
  cases hstance : call.stance with
  | free =>
      refine ⟨i, hstage.canMove hcall hnone fun chat lock hwaiting => ?_⟩
      rw [hstance] at hwaiting
      cases hwaiting
  | holding =>
      refine ⟨i, hstage.canMove hcall hnone fun chat lock hwaiting => ?_⟩
      rw [hstance] at hwaiting
      cases hwaiting
  | waiting chat lock =>
      rcases h.locks.exists_unblocked ((stanceOf_eq hcall).trans hstance) with ⟨j, hholding⟩ | ⟨j, hwaiting, hadmits⟩
      · refine ⟨j, h.canMove_of_engaged ?_ fun chat lock hwaiting => ?_⟩
        · rw [hholding]
          exact Stance.noConfusion
        · rw [hholding] at hwaiting
          cases hwaiting
      · refine ⟨j, h.canMove_of_engaged ?_ fun chat lock hwaiting' => ?_⟩
        · rw [hwaiting]
          exact Stance.noConfusion
        · rw [hwaiting] at hwaiting'
          obtain ⟨-, rfl⟩ := Stance.waiting.inj hwaiting'
          exact hadmits

theorem Serial.editing_unique (h : Serial s edits start outcomes order now) {i j : Nat} {chat : Int}
    (hi : now.calls[i]?.any (isEditing chat)) (hj : now.calls[j]?.any (isEditing chat)) : i = j := by
  have hholds : ∀ k, now.calls[k]?.any (isEditing chat) → ∃ lock, now.stanceOf k = .holding chat lock := by
    intro k hk
    obtain ⟨call, hcall, hediting⟩ := (Option.any_eq_true _ _).mp hk
    obtain ⟨e, outcome, -, -, hstage⟩ := h.stage_of hcall
    rw [stanceOf_eq hcall]
    exact hstage.holding_of_isEditing hediting
  obtain ⟨lock, hlock⟩ := hholds i hi
  obtain ⟨lock', hlock'⟩ := hholds j hj
  exact h.locks.holding_unique hlock hlock'

/-- Once all edits have ended, each has taken effect with the result it ended with, and no lock is left. -/
theorem Serial.ended (h : Serial s edits start outcomes order now) {results : List (EditResult ρ ε α)}
    (hresults : now.results? = some results) :
    outcomes = results.map some ∧ now.chatLocks.table = [] := by
  have hmap := results?_map hresults
  have hlength : results.length = edits.length := by
    have hsame := congrArg List.length hmap
    rw [List.length_map, List.length_map, h.calls_length] at hsame
    exact hsame.symm
  have hends : ∀ i (hi : i < edits.length), ∃ call, now.calls[i]? = some call ∧ call.stance = .free ∧
      outcomes[i]? = (results.map some)[i]? := by
    intro i hi
    obtain ⟨call, outcome, hcall, houtcome, hstage⟩ := h.stages (List.getElem?_eq_getElem hi)
    have hresult : some (result? call) = (results.map some)[i]? := by
      rw [← hmap, List.getElem?_map, hcall]
      rfl
    have hlt : i < results.length := hlength ▸ hi
    rw [List.getElem?_map, List.getElem?_eq_getElem hlt] at hresult
    obtain ⟨hfree, rfl⟩ := hstage.of_result? (Option.some.inj hresult)
    refine ⟨call, hcall, hfree, ?_⟩
    rw [houtcome, List.getElem?_map, List.getElem?_eq_getElem hlt]
    rfl
  constructor
  · apply List.ext_getElem?
    intro i
    by_cases hi : i < edits.length
    · obtain ⟨call, -, -, houtcome⟩ := hends i hi
      exact houtcome
    · have houtcomes : outcomes.length ≤ i := by
        rw [h.outcomes_length]
        exact Nat.le_of_not_lt hi
      have hresults : (results.map some).length ≤ i := by
        rw [List.length_map, hlength]
        exact Nat.le_of_not_lt hi
      rw [List.getElem?_eq_none houtcomes, List.getElem?_eq_none hresults]
  · refine h.locks.table_eq_nil fun i => ?_
    cases hcall : now.calls[i]? with
    | none =>
        rw [stanceOf, hcall]
        rfl
    | some call =>
        have hi : i < edits.length := by
          rw [← h.calls_length]
          exact (List.getElem?_eq_some_iff.mp hcall).1
        obtain ⟨call', hcall', hfree, -⟩ := hends i hi
        rw [stanceOf_eq hcall']
        exact hfree

theorem Serial.exists_end (h : Serial s edits start outcomes order now) :
    ∃ rest, (SideBySide.run s.codec.collection s.bot rest now).results?.isSome := by
  induction hleft : now.totalLeft using Nat.strong_induction_on generalizing outcomes order now with
  | _ left ih =>
      cases hresults : now.results? with
      | some results => exact ⟨[], Option.isSome_iff_exists.mpr ⟨results, hresults⟩⟩
      | none =>
          obtain ⟨i, hmoves⟩ := h.exists_canMove hresults
          obtain ⟨outcomes', order', h', hcloser⟩ := h.advance i
          obtain ⟨rest, hrest⟩ := ih _ (hleft ▸ hcloser hmoves) h' rfl
          exact ⟨i :: rest, hrest⟩

end

/-- Edits side by side come to what they come to in turn. Two of them are never between reading and writing the
payload of one chat. Once all have ended no lock is left, and there is an order of the edits, with their results,
in which each comes to its result alone after those before it, and in which those on a chat that did not fail make
of the chat's row, one after another, the row that is there. -/
theorem edits_not_lost (s : Store ρ) (edits : List (Edit ρ ε α)) (start : Shelf) (schedule : List Nat) :
    let now := SideBySide.run s.codec.collection s.bot schedule (begin start (edits.map (·.call s)))
    (∀ (i j : Nat) (chat : Int), now.calls[i]?.any (isEditing chat) → now.calls[j]?.any (isEditing chat) → i = j) ∧
    ∀ results, now.results? = some results → now.chatLocks.table = [] ∧ results.length = edits.length ∧
      ∃ order : List (Edit ρ ε α × EditResult ρ ε α), order.Perm (edits.zip results) ∧
        s.inTurn (order.map (·.1)) start = (order.map (·.2), now.shelf) ∧
        ∀ chat, s.row chat now.shelf =
          (order.filter fun settled => settled.2.isOk && settled.1.chat = chat).foldl
            (fun row settled => settled.1.onRow s row) (s.row chat start) := by
  intro now
  obtain ⟨outcomes, order, h⟩ := (serial_begin s edits start).run schedule
  refine ⟨fun i j chat => h.editing_unique, fun results hresults => ?_⟩
  obtain ⟨rfl, htable⟩ := h.ended hresults
  have hlength : results.length = edits.length := by
    rw [← h.outcomes_length, List.length_map]
  refine ⟨htable, hlength, order, ?_, h.inTurn, fun chat => ?_⟩
  · rw [← settled_map_some]
    exact h.perm
  · have hrow := s.inTurn_row (order.map (·.1)) start chat
    rw [h.inTurn, ← List.unzip_fst, ← List.unzip_snd, List.zip_unzip] at hrow
    exact hrow

/-- Whatever edits side by side have done so far, they can all come to their end. -/
theorem edits_can_end (s : Store ρ) (edits : List (Edit ρ ε α)) (start : Shelf) (schedule : List Nat) :
    ∃ rest, (SideBySide.run s.codec.collection s.bot (schedule ++ rest)
      (begin start (edits.map (·.call s)))).results?.isSome := by
  obtain ⟨outcomes, order, h⟩ := (serial_begin s edits start).run schedule
  obtain ⟨rest, hrest⟩ := h.exists_end
  refine ⟨rest, ?_⟩
  rw [SideBySide.run, List.foldl_append]
  exact hrest

/-- Two edits of one chat, one that is refused, and one of a chat that has no record. -/
def contendingEdits : List (Edit Subscriber String Unit) := [
  { chat := 5, default := some {}, change := fun r => .ok (r.withToken (.fungible "a.near") {}, ()) },
  { chat := 5, default := some {}, change := fun r => .ok (r.withToken (.prelaunch 7) {}, ()) },
  { chat := 5, default := none, change := fun _ => .error "no" },
  { chat := 6, default := none, change := fun r => .ok (r, ()) }]

/-- The second waits for the first, the third for both, and the fourth ends in between. -/
def contendingSchedule : List Nat := [0, 1, 0, 3, 2, 0, 1, 1, 0, 1, 1, 1, 2, 3, 1, 3, 2, 3, 2, 2]

theorem edits_not_lost_contending :
    let s := Subscriptions.store 1
    let now := SideBySide.run s.codec.collection s.bot contendingSchedule
      (begin {} (contendingEdits.map (·.call s)))
    ∃ (results : List (EditResult Subscriber String Unit))
      (order : List (Edit Subscriber String Unit × EditResult Subscriber String Unit)),
      now.results? = some results ∧ results.map Except.isOk = [true, true, false, true] ∧
      order.Perm (contendingEdits.zip results) ∧
      s.row 5 now.shelf = (order.filter fun settled => settled.2.isOk && settled.1.chat = 5).foldl
        (fun row settled => settled.1.onRow s row) none := by
  intro s now
  have hends : now.results?.map (·.map Except.isOk) = some [true, true, false, true] := by decide +kernel
  obtain ⟨results, hresults, hok⟩ := Option.map_eq_some_iff.mp hends
  obtain ⟨-, hend⟩ := edits_not_lost s contendingEdits {} contendingSchedule
  obtain ⟨-, -, order, hperm, -, hrow⟩ := hend results hresults
  exact ⟨results, order, hresults, hok, hperm, hrow 5⟩

end Store

end ChainAlerts
