import ChainAlerts.Proofs.CallsUnderWay
import ChainAlerts.Proofs.IndexDuties
import ChainAlerts.Proofs.IndexLocking

/-! Calls that chats make of a bot side by side. Somebody always owes a new index, or the index finds what the
records say, or somebody has just listed the records and will publish what they say. A payload that leaves the
followers as they are does so because the row it was made from is still there: nobody else edits the chat, and the
record is not deleted in between. So the index is exact once all calls have ended. A record that is deleted
between the reading and the writing of an edit comes back, and the index does not know. -/

namespace ChainAlerts

namespace SideBySide

variable {α : Type}

/-- Whether a call is about to write the payload of a chat. -/
def isWriting (chat : Int) (call : UnderWay α) : Bool :=
  match call.task with
  | .ask (.write other _) _ => other = chat
  | _ => false

/-- The chat whose payload a call is about to delete. -/
def removing? (call : UnderWay α) : Option Int :=
  match call.task with
  | .ask (.remove chat) _ => some chat
  | _ => none

/-- If a call that moves deletes a payload, no call is about to write one in its place. -/
def undisturbed (now : SideBySide α) (i : Nat) : Bool :=
  match now.calls[i]?.bind removing? with
  | some chat => now.calls.all fun call => !isWriting chat call
  | none => true

/-- Along a schedule nobody deletes a payload that another call has read and is about to write. -/
def removalsApart (collection : String) (bot : Int) : List Nat → SideBySide α → Bool
  | [], _ => true
  | i :: rest, now => now.undisturbed i && removalsApart collection bot rest (advance collection bot now i)

end SideBySide

namespace Subscriptions

open Store SideBySide

/-- How a call in a phase stands to the lock of its chat. -/
inductive Stands {α : Type} : Phase → Stance → Call α → Prop where
  | free {task : Call α} : Stands .free .free task
  | waiting {chat : Int} {lock : Nat} {next : Unit → Call α} :
      Stands .free (.waiting chat lock) (.ask (.lock chat) next)
  | editing {chat : Int} {seen : Option (Option Json)} {lock : Nat} {task : Call α} :
      Stands (.editing chat seen) (.holding chat lock) task
  | indexing {task : Call α} : Stands .indexing .free task
  | listed {entries : List (Token × List Int)} {task : Call α} : Stands (.listed entries) .free task

def Phase.inIndex : Phase → Bool
  | .indexing | .listed _ => true
  | _ => false

/-- A call that goes on keeps to what it owes, is inside the index exactly if its phase says so, and what it has
read of a chat is still there if it is about to write. -/
structure Goes {α : Type} (bot : Int) (shelf : Shelf) (indexLock : ReadWriteLock Nat) (i : Nat) (call : UnderWay α)
    (phase : Phase) (owes : Bool) : Prop where
  obeys : Obeys bot Settled phase owes call.task
  stands : Stands phase call.stance call.task
  fresh : ∀ chat row, phase = .editing chat (some row) → isWriting chat call →
    Records.get? chat (rows bot shelf.database) = row
  inIndex : phase.inIndex ↔ (i, .write) ∈ indexLock.inside

/-- What calls have listed is what the records say; and if none has listed them, the index is exact. -/
structure Current (bot : Int) (shelf : Shelf) (phases : Nat → Phase) : Prop where
  listed : ∀ i entries, phases i = .listed entries →
    ∀ token, SubscriberIndex.found entries token = followers bot shelf.database token
  exact : (∀ i entries, phases i ≠ .listed entries) → Exact bot shelf

/-- Calls under way, each in its phase. Some call owes a new index, or all that is known of followers is current. -/
structure Settling {α : Type} (bot : Int) (now : SideBySide α) (phases : Nat → Phase) (owes : Nat → Bool) :
    Prop where
  sound : Sound bot now.shelf.database
  goes : ∀ {i : Nat} {call : UnderWay α}, now.calls[i]? = some call →
    Goes bot now.shelf now.indexLock i call (phases i) (owes i)
  absent : ∀ {i : Nat}, now.calls[i]? = none → phases i = .free ∧ owes i = false
  chatLocks : now.chatLocks.Kept now.stanceOf
  indexLock : now.indexLock.WritersOnly
  current : (∃ i, owes i) ∨ Current bot now.shelf phases

section

variable {α : Type} {bot : Int} {now : SideBySide α} {phases : Nat → Phase} {owes : Nat → Bool} {i : Nat}
  {old call : UnderWay α} {phase : Phase} {owing : Bool}

/-- A call about to write has read the chat, whose lock it holds. -/
theorem Goes.of_isWriting {shelf : Shelf} {lock : ReadWriteLock Nat} {chat : Int}
    (h : Goes bot shelf lock i call phase owing) (hwriting : isWriting chat call) :
    (∃ row, phase = .editing chat (some row)) ∧ ∃ number, call.stance = .holding chat number := by
  obtain ⟨task, stance⟩ := call
  have hobeys := h.obeys
  have hstands := h.stands
  cases hobeys with
  | write | change =>
      obtain rfl := of_decide_eq_true hwriting
      cases hstands
      exact ⟨⟨_, rfl⟩, _, rfl⟩
  | _ => cases hwriting

/-- A call moves, and the others are where they were. -/
theorem Settling.step (h : Settling bot now phases owes) (now' : SideBySide α) (call : UnderWay α) (phase : Phase)
    (owing : Bool) (hself : now'.calls[i]? = some call) (hothers : ∀ j, j ≠ i → now'.calls[j]? = now.calls[j]?)
    (hsound : Sound bot now'.shelf.database) (hgoes : Goes bot now'.shelf now'.indexLock i call phase owing)
    (hrows : ∀ j other chat, j ≠ i → now.calls[j]? = some other → isWriting chat other →
      Records.get? chat (rows bot now'.shelf.database) = Records.get? chat (rows bot now.shelf.database))
    (hinside : ∀ j, j ≠ i → ((j, Side.write) ∈ now'.indexLock.inside ↔ (j, .write) ∈ now.indexLock.inside))
    (hchat : now'.chatLocks.Kept (Function.update now.stanceOf i call.stance))
    (hindex : now'.indexLock.WritersOnly)
    (hcurrent : (∃ j, Function.update owes i owing j) ∨
      Current bot now'.shelf (Function.update phases i phase)) :
    Settling bot now' (Function.update phases i phase) (Function.update owes i owing) where
  sound := hsound
  goes := by
    intro j other hother
    by_cases hj : j = i
    · subst hj
      obtain rfl := Option.some.inj (hself.symm.trans hother)
      rw [Function.update_self, Function.update_self]
      exact hgoes
    · rw [hothers j hj] at hother
      rw [Function.update_of_ne hj, Function.update_of_ne hj]
      have hgo := h.goes hother
      refine ⟨hgo.obeys, hgo.stands, fun chat row hphase hwriting => ?_, hgo.inIndex.trans (hinside j hj).symm⟩
      rw [hrows j other chat hj hother hwriting]
      exact hgo.fresh chat row hphase hwriting
  absent := by
    intro j hnone
    have hj : j ≠ i := by
      rintro rfl
      cases hself.symm.trans hnone
    rw [hothers j hj] at hnone
    rw [Function.update_of_ne hj, Function.update_of_ne hj]
    exact h.absent hnone
  chatLocks := by
    rw [stanceOf_update hself hothers]
    exact hchat
  indexLock := hindex
  current := hcurrent

/-- A call that stands to the locks as before leaves them kept. -/
theorem Settling.chatLocks_same (h : Settling bot now phases owes) (hold : now.calls[i]? = some old) :
    now.chatLocks.Kept (Function.update now.stanceOf i old.stance) := by
  rw [Function.update_eq_self_iff.mpr (stanceOf_eq hold).symm]
  exact h.chatLocks

theorem Current.update {shelf : Shelf} (h : Current bot shelf phases) (hold : ∀ entries, phases i ≠ .listed entries)
    (hnew : ∀ entries, phase ≠ .listed entries) : Current bot shelf (Function.update phases i phase) where
  listed := by
    intro j entries hj
    by_cases hji : j = i
    · subst hji
      rw [Function.update_self] at hj
      exact absurd hj (hnew entries)
    · rw [Function.update_of_ne hji] at hj
      exact h.listed j entries hj
  exact := by
    intro hnone
    refine h.exact fun j entries hj => ?_
    by_cases hji : j = i
    · subst hji
      exact hold entries hj
    · refine hnone j entries ?_
      rw [Function.update_of_ne hji]
      exact hj

/-- A call moves that neither changes the records nor is about the index. -/
theorem Settling.quiet (h : Settling bot now phases owes) (hold : now.calls[i]? = some old) (call : UnderWay α)
    (phase : Phase) {chatLocks : ChatLocks} (hobeys : Obeys bot Settled phase (owes i) call.task)
    (hstands : Stands phase call.stance call.task)
    (hfresh : ∀ chat row, phase = .editing chat (some row) → isWriting chat call →
      Records.get? chat (rows bot now.shelf.database) = row)
    (hout : (phases i).inIndex = false) (hout' : phase.inIndex = false)
    (hchat : chatLocks.Kept (Function.update now.stanceOf i call.stance)) :
    ∃ phases' owes', Settling bot ({ now with chatLocks }.put i call) phases' owes' := by
  have hi : i < now.calls.length := (List.getElem?_eq_some_iff.mp hold).1
  have hin : ∀ {p : Phase}, p.inIndex = false → ∀ entries, p ≠ .listed entries := by
    rintro _ hp entries rfl
    cases hp
  refine ⟨_, _, h.step ({ now with chatLocks }.put i call) call phase (owes i) (getElem?_put_self hi call)
    (fun j hj => getElem?_put_of_ne _ hj call) h.sound ⟨hobeys, hstands, hfresh, ?_⟩ (fun _ _ _ _ _ _ => rfl)
    (fun _ _ => Iff.rfl) hchat h.indexLock ?_⟩
  · rw [hout', ← hout]
    exact (h.goes hold).inIndex
  · rw [Function.update_eq_self]
    exact h.current.imp_right fun hcurrent => hcurrent.update (hin hout) (hin hout')

end

section

variable {α : Type} {bot chat : Int} {now : SideBySide α} {phases : Nat → Phase} {owes : Nat → Bool} {i lock : Nat}

theorem Stores.get?_of_ne {r : Subscriber} {db db' : Database} (h : Stores bot chat r db db') {other : Int}
    (hne : other ≠ chat) : Records.get? other (rows bot db') = Records.get? other (rows bot db) := by
  rcases h with rfl | hrows
  · rfl
  · rw [hrows]
    exact Records.get?_put_of_ne hne _ _

theorem Stores.followers {r : Subscriber} {db db' : Database} (h : Stores bot chat r db db') (hsound : Sound bot db)
    (hsame : FollowsAlike (Records.get? chat (rows bot db)) r.toJson) (token : Token) :
    followers bot db' token = followers bot db token := by
  rcases h with rfl | hrows
  · rfl
  · rw [Subscriptions.followers, hrows]
    exact Records.chatsWith_put hsound.ascending (hsame token)

theorem Current.of_followers {shelf shelf' : Shelf} (h : Current bot shelf phases) (hindex : shelf'.index = shelf.index)
    (hsame : ∀ token, followers bot shelf'.database token = followers bot shelf.database token) :
    Current bot shelf' phases where
  listed := fun j entries hj token => (h.listed j entries hj token).trans (hsame token).symm
  exact := by
    intro hnone token
    rw [hindex, hsame]
    exact h.exact hnone token

/-- Calls that are about to write the payload of a chat hold its lock, so there is one of them at most. -/
theorem Settling.isWriting_ne (h : Settling bot now phases owes) (hi : now.stanceOf i = .holding chat lock) {j : Nat}
    {other : UnderWay α} {chat' : Int} (hj : j ≠ i) (hother : now.calls[j]? = some other)
    (hwriting : isWriting chat' other) : chat' ≠ chat := by
  rintro rfl
  obtain ⟨-, number, hstance⟩ := (h.goes hother).of_isWriting hwriting
  exact hj (h.chatLocks.holding_unique ((stanceOf_eq hother).trans hstance) hi)

theorem Settling.askChat (h : Settling bot now phases owes) {next : Unit → Call α} {task : Call α}
    (htask : task = .ask (.lock chat) next) (hold : now.calls[i]? = some { task }) (hphase : phases i = .free)
    (hobeys : Obeys bot Settled .free (owes i) task)
    (hnext : Obeys bot Settled (.editing chat none) (owes i) (next ())) :
    ∃ phases' owes', Settling bot (now.askChat i chat task (next ())) phases' owes' := by
  obtain ⟨number, chatLocks, hask, hkept⟩ := h.chatLocks.ask (stanceOf_eq hold) chat
  have hout : (phases i).inIndex = false := by rw [hphase]; rfl
  simp only [SideBySide.askChat, hask]
  split at hkept
  next hheld =>
    rw [if_pos hheld]
    exact h.quiet hold { task := next (), stance := .holding chat number } (.editing chat none) hnext .editing
      (fun _ _ heq => by cases heq) hout rfl hkept
  next hbusy =>
    rw [if_neg hbusy]
    refine h.quiet hold { task, stance := .waiting chat number } .free hobeys ?_ (fun _ _ heq => by cases heq)
      hout rfl hkept
    rw [htask]
    exact .waiting

theorem Settling.takeChat (h : Settling bot now phases owes) {next : Unit → Call α} {task : Call α}
    (hold : now.calls[i]? = some { task, stance := .waiting chat lock }) (hphase : phases i = .free)
    (hnext : Obeys bot Settled (.editing chat none) (owes i) (next ())) :
    ∃ phases' owes', Settling bot (now.takeChat i chat lock (next ())) phases' owes' := by
  rw [SideBySide.takeChat]
  split
  next hadmits =>
    have hout : (phases i).inIndex = false := by rw [hphase]; rfl
    exact h.quiet hold { task := next (), stance := .holding chat lock } (.editing chat none) hnext .editing
      (fun _ _ heq => by cases heq) hout rfl (h.chatLocks.take (stanceOf_eq hold) hadmits)
  · exact ⟨phases, owes, h⟩

theorem Settling.read (h : Settling bot now phases owes) {task : Call α}
    {next : Except DatabaseError (Option Json) → Call α}
    (hold : now.calls[i]? = some { task, stance := .holding chat lock }) (hphase : phases i = .editing chat none)
    (hfail : Database.fits chat = false → ∀ cause,
      Obeys bot Settled (.editing chat none) (owes i) (next (.error cause)))
    (hfound : ∀ row, Database.fits chat → (∀ payload ∈ row, IsRecord payload) →
      Obeys bot Settled (.editing chat (some row)) (owes i) (next (.ok row))) :
    ∃ phases' owes', Settling bot (now.put i {
      task := next (now.shelf.database.get Subscriber.codec.collection bot chat)
      stance := .holding chat lock : UnderWay α }) phases' owes' := by
  have hout : (phases i).inIndex = false := by rw [hphase]; rfl
  have hlocks : now.chatLocks.Kept (Function.update now.stanceOf i (.holding chat lock)) := h.chatLocks_same hold
  rw [Database.get, h.sound.serves.begin]
  cases hfits : Database.fits chat with
  | false =>
      simp only [List.all_cons, hfits]
      exact h.quiet hold _ _ (hfail hfits _) .editing (fun _ _ heq => by cases heq) hout rfl hlocks
  | true =>
      simp only [List.all_cons, List.all_nil, hfits]
      refine h.quiet hold _ _ (hfound _ hfits fun payload hpayload => ?_) .editing (fun _ _ heq _ => ?_) hout rfl hlocks
      · exact h.sound.wellFormed _ (Records.mem_of_get? hpayload)
      · obtain ⟨rfl, hrow⟩ := Phase.editing.inj heq
        exact Option.some.inj hrow

/-- A call writes a payload that leaves the followers as they are, or it owes from then on. -/
theorem Settling.write (h : Settling bot now phases owes) {task : Call α}
    {next : Except DatabaseError Unit → Call α} {row : Option Json} {r : Subscriber} {owing : Bool}
    (htask : task = .ask (.write chat r.toJson) next)
    (hold : now.calls[i]? = some { task, stance := .holding chat lock }) (hphase : phases i = .editing chat (some row))
    (hfits : Database.fits chat) (hr : r.WellFormed)
    (howing : FollowsAlike row r.toJson ∧ owing = owes i ∨ owing = true)
    (hnext : Obeys bot Settled (.editing chat none) owing (next (.ok ()))) :
    ∃ phases' owes', Settling bot (now.move Subscriber.codec.collection bot i
      { task, stance := .holding chat lock : UnderWay α }) phases' owes' := by
  obtain ⟨db, hput, hsound, hstores⟩ := h.sound.put hfits hr
  have hmove : now.move Subscriber.codec.collection bot i { task, stance := .holding chat lock } =
      { now with shelf := { now.shelf with database := db } }.put i
        { task := next (.ok ()), stance := .holding chat lock } := by
    rw [htask]
    simp only [move, answer_write_ok hput]
  have hi : i < now.calls.length := (List.getElem?_eq_some_iff.mp hold).1
  have hlocks : now.chatLocks.Kept (Function.update now.stanceOf i (.holding chat lock)) := h.chatLocks_same hold
  have hrow : Records.get? chat (rows bot now.shelf.database) = row := by
    refine (h.goes hold).fresh chat row hphase ?_
    rw [htask]
    exact decide_eq_true rfl
  rw [hmove]
  refine ⟨_, _, h.step _ _ (.editing chat none) owing (getElem?_put_self hi _)
    (fun j hj => getElem?_put_of_ne _ hj _) hsound ⟨hnext, .editing, (fun _ _ heq => by cases heq), ?_⟩ ?_
    (fun _ _ => Iff.rfl) ?_ h.indexLock ?_⟩
  · have hin := (h.goes hold).inIndex
    rw [hphase] at hin
    exact hin
  · -- the others that are about to write hold locks of other chats, whose rows stay
    intro j other chat' hj hother hwriting
    exact hstores.get?_of_ne (h.isWriting_ne (stanceOf_eq hold) hj hother hwriting)
  · exact hlocks
  · rcases howing with ⟨hsame, rfl⟩ | rfl
    · rw [Function.update_eq_self]
      refine h.current.imp_right fun hcurrent => ?_
      have hkept : Current bot { now.shelf with database := db } phases :=
        hcurrent.of_followers rfl (hstores.followers h.sound (hrow.symm ▸ hsame))
      refine hkept.update (fun entries heq => ?_) fun entries heq => by cases heq
      rw [hphase] at heq
      cases heq
    · exact Or.inl ⟨i, by rw [Function.update_self]⟩

theorem Settling.leaveChat (h : Settling bot now phases owes) {task : Call α} {next : Unit → Call α}
    {seen : Option (Option Json)} (hold : now.calls[i]? = some { task, stance := .holding chat lock })
    (hphase : phases i = .editing chat seen) (hnext : Obeys bot Settled .free (owes i) (next ())) :
    ∃ phases' owes', Settling bot (now.leaveChat i chat lock (next ())) phases' owes' := by
  have hout : (phases i).inIndex = false := by rw [hphase]; rfl
  exact h.quiet hold { task := next () } .free hnext .free (fun _ _ heq => by cases heq) hout rfl
    (h.chatLocks.release (stanceOf_eq hold))

/-- A call deletes a payload, which nobody is about to write, and owes from then on. -/
theorem Settling.remove (h : Settling bot now phases owes) {task : Call α}
    {next : Except DatabaseError (Option Json) → Call α} (htask : task = .ask (.remove chat) next)
    (hold : now.calls[i]? = some { task }) (hphase : phases i = .free) (hapart : now.undisturbed i)
    (hfail : Database.fits chat = false → ∀ cause, Obeys bot Settled .free (owes i) (next (.error cause)))
    (hremoved : ∀ row, (∀ payload ∈ row, IsRecord payload) → Obeys bot Settled .free true (next (.ok row))) :
    ∃ phases' owes', Settling bot (now.move Subscriber.codec.collection bot i { task : UnderWay α }) phases'
      owes' := by
  have hout : (phases i).inIndex = false := by rw [hphase]; rfl
  have hlocks : now.chatLocks.Kept (Function.update now.stanceOf i .free) := h.chatLocks_same hold
  cases hfits : Database.fits chat with
  | false =>
      have hanswer : answer Subscriber.codec.collection bot (.remove chat) now.shelf =
          (.error (.fault .rowKeyTooLarge), now.shelf) := by
        simp only [answer, Database.delete, h.sound.serves.begin, List.all_cons, hfits]
        rfl
      have hmove : now.move Subscriber.codec.collection bot i { task } =
          now.put i { task := next (.error (.fault .rowKeyTooLarge)) } := by
        rw [htask]
        simp only [move, hanswer]
      rw [hmove]
      exact h.quiet hold _ .free (hfail hfits _) .free (fun _ _ heq => by cases heq) hout rfl hlocks
  | true =>
      obtain ⟨db, hdelete, hsound, hrows⟩ := h.sound.delete hfits
      have hanswer : answer Subscriber.codec.collection bot (.remove chat) now.shelf =
          (.ok (Records.get? chat (rows bot now.shelf.database)), { now.shelf with database := db }) := by
        simp only [answer, hdelete]
      have hmove : now.move Subscriber.codec.collection bot i { task } =
          { now with shelf := { now.shelf with database := db } }.put i
            { task := next (.ok (Records.get? chat (rows bot now.shelf.database))) } := by
        rw [htask]
        simp only [move, hanswer]
      have hi : i < now.calls.length := (List.getElem?_eq_some_iff.mp hold).1
      have hobeys := hremoved (Records.get? chat (rows bot now.shelf.database)) fun payload hpayload =>
        h.sound.wellFormed _ (Records.mem_of_get? hpayload)
      rw [hmove]
      refine ⟨_, _, h.step _ _ .free true (getElem?_put_self hi _) (fun j hj => getElem?_put_of_ne _ hj _) hsound
        ⟨hobeys, .free, (fun _ _ heq => by cases heq), ?_⟩ ?_ (fun _ _ => Iff.rfl) hlocks h.indexLock ?_⟩
      · have hin := (h.goes hold).inIndex
        rw [hphase] at hin
        exact hin
      · -- deleting takes no lock: nothing but the schedule keeps others from being about to write
        intro j other chat' hj hother hwriting
        refine hrows chat' fun heq => ?_
        subst heq
        rw [undisturbed, hold, htask] at hapart
        have hnot := List.all_eq_true.mp hapart other (List.mem_of_getElem? hother)
        rw [hwriting] at hnot
        cases hnot
      · exact Or.inl ⟨i, by rw [Function.update_self]⟩

/-- The records that listing the rows of a sound database gives. -/
theorem Sound.areRecords {db : Database} (h : Sound bot db) :
    ∃ records, AreRecords bot (rows bot db) records ∧
      db.list Subscriber.codec.collection bot = .ok (rows bot db) := by
  have hlist : db.list Subscriber.codec.collection bot = .ok (rows bot db) := by
    rw [Database.list, h.serves.begin]
    rfl
  obtain ⟨records, hrecords, hwell, hfollowers⟩ := h.records
  have hrows : (store bot).records (.ok (rows bot db)) = .ok records := by
    rw [← hlist]
    exact hrecords
  exact ⟨records, ⟨hrows, hwell, hfollowers⟩, hlist⟩

theorem Settling.list (h : Settling bot now phases owes) {task : Call α} {next : Except DatabaseError Records → Call α}
    (hold : now.calls[i]? = some { task }) (hphase : phases i = .free)
    (hnext : ∀ rows records, AreRecords bot rows records → Obeys bot Settled .free (owes i) (next (.ok rows))) :
    ∃ phases' owes', Settling bot (now.put i {
      task := next (now.shelf.database.list Subscriber.codec.collection bot) : UnderWay α }) phases' owes' := by
  have hout : (phases i).inIndex = false := by rw [hphase]; rfl
  have hlocks : now.chatLocks.Kept (Function.update now.stanceOf i .free) := h.chatLocks_same hold
  obtain ⟨records, hrecords, hlist⟩ := h.sound.areRecords
  rw [hlist]
  exact h.quiet hold _ .free (hnext _ records hrecords) .free (fun _ _ heq => by cases heq) hout rfl hlocks

/-- Whoever is inside the index is there alone. -/
theorem Settling.inIndex_unique (h : Settling bot now phases owes) {j : Nat} (hi : (phases i).inIndex)
    (hj : (phases j).inIndex) : i = j := by
  have hinside : ∀ k, (phases k).inIndex → (k, Side.write) ∈ now.indexLock.inside := by
    intro k hk
    cases hcall : now.calls[k]? with
    | none =>
        rw [(h.absent hcall).1] at hk
        cases hk
    | some call => exact (h.goes hcall).inIndex.mp hk
  exact h.indexLock.inside_unique (hinside i hi) (hinside j hj)

theorem Settling.enterIndex (h : Settling bot now phases owes) {task : Call α} {next : Unit → Call α}
    (hold : now.calls[i]? = some { task }) (hphase : phases i = .free)
    (hnext : Obeys bot Settled .indexing (owes i) (next ())) :
    ∃ phases' owes', Settling bot (now.enterIndex i .free (next ())) phases' owes' := by
  have hgo := h.goes hold
  have hi : i < now.calls.length := (List.getElem?_eq_some_iff.mp hold).1
  have hlocks : now.chatLocks.Kept (Function.update now.stanceOf i .free) := h.chatLocks_same hold
  have hnot : (i, Side.write) ∉ now.indexLock.inside := by
    intro hmem
    have hin := hgo.inIndex.mpr hmem
    rw [hphase] at hin
    cases hin
  have hfree : ∀ entries, phases i ≠ .listed entries := by
    intro entries heq
    rw [hphase] at heq
    cases heq
  obtain ⟨indexLock, hwriters, ⟨hsame, hstay⟩ | ⟨hempty, hin, henter⟩⟩ :=
    enterIndex_cases h.indexLock hnot .free (next ())
  · rw [hstay]
    refine ⟨phases, owes, h.sound, fun hcall => ?_, h.absent, h.chatLocks, hwriters, h.current⟩
    have hgo := h.goes hcall
    exact ⟨hgo.obeys, hgo.stands, hgo.fresh, hgo.inIndex.trans (by rw [hsame])⟩
  · rw [henter]
    have hin' : ((Phase.indexing).inIndex = true) ↔ (i, Side.write) ∈ indexLock.inside := by
      rw [hin]
      simp [Phase.inIndex]
    refine ⟨_, _, h.step _ _ .indexing (owes i) (getElem?_put_self hi _) (fun j hj => getElem?_put_of_ne _ hj _)
      h.sound ⟨hnext, .indexing, (fun _ _ heq => by cases heq), hin'⟩ (fun _ _ _ _ _ _ => rfl) ?_ hlocks hwriters ?_⟩
    · intro j hj
      change (j, Side.write) ∈ indexLock.inside ↔ _
      rw [hin, hempty]
      simp [hj]
    · rw [Function.update_eq_self]
      exact h.current.imp_right fun hcurrent => hcurrent.update hfree fun entries heq => by cases heq

/-- A call that is inside the index and lists the records knows what they say, and owes nothing any more. -/
theorem Settling.listIndexed (h : Settling bot now phases owes) {task : Call α}
    {next : Except DatabaseError Records → Call α} (hold : now.calls[i]? = some { task })
    (hphase : phases i = .indexing)
    (hnext : ∀ rows records, AreRecords bot rows records →
      Obeys bot Settled (.listed (SubscriberIndex.ofRecords records)) false (next (.ok rows))) :
    ∃ phases' owes', Settling bot (now.put i {
      task := next (now.shelf.database.list Subscriber.codec.collection bot) : UnderWay α }) phases' owes' := by
  have hi : i < now.calls.length := (List.getElem?_eq_some_iff.mp hold).1
  have hlocks : now.chatLocks.Kept (Function.update now.stanceOf i .free) := h.chatLocks_same hold
  obtain ⟨records, hrecords, hlist⟩ := h.sound.areRecords
  have hinside := (h.goes hold).inIndex
  rw [hphase] at hinside
  rw [hlist]
  refine ⟨_, _, h.step _ _ (.listed (SubscriberIndex.ofRecords records)) false (getElem?_put_self hi _)
    (fun j hj => getElem?_put_of_ne _ hj _) h.sound
    ⟨hnext _ records hrecords, .listed, (fun _ _ heq => by cases heq), hinside⟩ (fun _ _ _ _ _ _ => rfl)
    (fun _ _ => Iff.rfl) hlocks h.indexLock ?_⟩
  -- while another call owes a new index, nothing is claimed of what is listed
  by_cases howes : ∃ j, j ≠ i ∧ owes j
  · obtain ⟨j, hj, howing⟩ := howes
    exact Or.inl ⟨j, by rw [Function.update_of_ne hj]; exact howing⟩
  · refine Or.inr ⟨fun j entries hj token => ?_, fun hnone => ?_⟩
    · by_cases hji : j = i
      · subst hji
        rw [Function.update_self] at hj
        obtain rfl := Phase.listed.inj hj
        exact (SubscriberIndex.found_ofRecords token fun record hrecord => (hrecords.2.1 record hrecord).2.tokens).trans
          (hrecords.2.2 token)
      · rw [Function.update_of_ne hji] at hj
        exact absurd (h.inIndex_unique (by rw [hj]; rfl) (by rw [hphase]; rfl)) hji
    · refine absurd ?_ (hnone i (SubscriberIndex.ofRecords records))
      rw [Function.update_self]

/-- A call publishes what it has listed. If that is what the records say, the index is exact. -/
theorem Settling.publish (h : Settling bot now phases owes) {task : Call α} {next : Unit → Call α}
    {entries : List (Token × List Int)} (hold : now.calls[i]? = some { task }) (hphase : phases i = .listed entries)
    (hnext : Obeys bot Settled .indexing (owes i) (next ())) :
    ∃ phases' owes', Settling bot
      ({ now with shelf := { now.shelf with index := now.shelf.index.renew entries } }.put i
        { task := next () }) phases' owes' := by
  have hi : i < now.calls.length := (List.getElem?_eq_some_iff.mp hold).1
  have hlocks : now.chatLocks.Kept (Function.update now.stanceOf i .free) := h.chatLocks_same hold
  have hinside := (h.goes hold).inIndex
  rw [hphase] at hinside
  refine ⟨_, _, h.step _ _ .indexing (owes i) (getElem?_put_self hi _) (fun j hj => getElem?_put_of_ne _ hj _)
    h.sound ⟨hnext, .indexing, (fun _ _ heq => by cases heq), hinside⟩ (fun _ _ _ _ _ _ => rfl) (fun _ _ => Iff.rfl)
    hlocks h.indexLock ?_⟩
  rw [Function.update_eq_self]
  refine h.current.imp_right fun hcurrent => ⟨fun j entries' hj => ?_, fun _ => hcurrent.listed i entries hphase⟩
  by_cases hji : j = i
  · subst hji
    rw [Function.update_self] at hj
    cases hj
  · rw [Function.update_of_ne hji] at hj
    exact absurd (h.inIndex_unique (by rw [hj]; rfl) (by rw [hphase]; rfl)) hji

theorem Settling.leaveIndex (h : Settling bot now phases owes) {task : Call α} {next : Unit → Call α}
    (hold : now.calls[i]? = some { task }) (hphase : phases i = .indexing)
    (hnext : Obeys bot Settled .free (owes i) (next ())) :
    ∃ phases' owes', Settling bot ({ now with indexLock := now.indexLock.leave i .write }.put i { task := next () })
      phases' owes' := by
  have hi : i < now.calls.length := (List.getElem?_eq_some_iff.mp hold).1
  have hlocks : now.chatLocks.Kept (Function.update now.stanceOf i .free) := h.chatLocks_same hold
  have hin : (i, Side.write) ∈ now.indexLock.inside := (h.goes hold).inIndex.mp (by rw [hphase]; rfl)
  obtain ⟨hwriters, hempty⟩ := h.indexLock.leave hin
  have hout : ((Phase.free).inIndex = true) ↔ (i, Side.write) ∈ (now.indexLock.leave i .write).inside := by
    rw [hempty]
    simp [Phase.inIndex]
  refine ⟨_, _, h.step _ _ .free (owes i) (getElem?_put_self hi _) (fun j hj => getElem?_put_of_ne _ hj _)
    h.sound ⟨hnext, .free, (fun _ _ heq => by cases heq), hout⟩ (fun _ _ _ _ _ _ => rfl) ?_ hlocks hwriters ?_⟩
  · intro j hj
    change (j, Side.write) ∈ (now.indexLock.leave i .write).inside ↔ _
    rw [hempty]
    refine ⟨fun hmem => (by cases hmem), fun hmem => ?_⟩
    exact absurd (h.indexLock.inside_unique hmem hin) hj
  · rw [Function.update_eq_self]
    refine h.current.imp_right fun hcurrent => hcurrent.update (fun entries heq => ?_) fun entries heq => by cases heq
    rw [hphase] at heq
    cases heq

/-- Whatever call moves, if it disturbs nobody, calls that settle go on settling. -/
theorem Settling.advance (h : Settling bot now phases owes) (i : Nat) (hapart : now.undisturbed i) :
    ∃ phases' owes', Settling bot (SideBySide.advance Subscriber.codec.collection bot now i) phases' owes' := by
  rw [SideBySide.advance]
  cases hold : now.calls[i]? with
  | none => exact ⟨phases, owes, h⟩
  | some call =>
      have hgo := h.goes hold
      obtain ⟨task, stance⟩ := call
      have hobeys := hgo.obeys
      have hstands := hgo.stands
      generalize hphase : phases i = phase at hobeys hstands
      generalize howing : owes i = owing at hobeys
      cases hobeys with
      | done => exact ⟨phases, owes, h⟩
      | lock hnext =>
          subst howing
          cases hstands with
          | free => exact h.askChat rfl hold hphase (.lock hnext) hnext
          | waiting => exact h.takeChat hold hphase hnext
      | read hfail hfound =>
          subst howing
          cases hstands
          exact h.read hold hphase hfail hfound
      | write hfits hr hsame hnext =>
          cases hstands
          exact h.write rfl hold hphase hfits hr (Or.inl ⟨hsame, howing.symm⟩) hnext
      | change hfits hr hnext =>
          cases hstands
          exact h.write rfl hold hphase hfits hr (Or.inr rfl) hnext
      | unlock hnext =>
          subst howing
          cases hstands
          exact h.leaveChat hold hphase hnext
      | remove hfail hremoved =>
          subst howing
          cases hstands
          exact h.remove rfl hold hphase hapart hfail hremoved
      | list hnext =>
          subst howing
          cases hstands
          exact h.list hold hphase hnext
      | lockIndex hnext =>
          subst howing
          cases hstands
          exact h.enterIndex hold hphase hnext
      | listIndexed hnext =>
          cases hstands
          exact h.listIndexed hold hphase hnext
      | publish hnext =>
          subst howing
          cases hstands
          exact h.publish hold hphase hnext
      | unlockIndex hnext =>
          subst howing
          cases hstands
          exact h.leaveIndex hold hphase hnext

theorem Settling.run (schedule : List Nat) (h : Settling bot now phases owes)
    (hapart : removalsApart Subscriber.codec.collection bot schedule now) :
    ∃ phases' owes', Settling bot (SideBySide.run Subscriber.codec.collection bot schedule now) phases' owes' := by
  induction schedule generalizing now phases owes with
  | nil => exact ⟨phases, owes, h⟩
  | cons i rest ih =>
      obtain ⟨hfirst, hrest⟩ := (Bool.and_eq_true _ _).mp hapart
      obtain ⟨phases', owes', h'⟩ := h.advance i hfirst
      exact ih h' hrest

theorem settling_begin {start : Shelf} (hstart : Consistent bot start) {tasks : List (Call α)}
    (htasks : ∀ task ∈ tasks, Obeys bot Settled .free false task) :
    Settling bot (begin start tasks) (fun _ => .free) fun _ => false where
  sound := hstart.sound
  goes := by
    intro i call hcall
    rw [begin, List.getElem?_map] at hcall
    obtain ⟨task, htask, rfl⟩ := Option.map_eq_some_iff.mp hcall
    have hobeys := htasks task (List.mem_of_getElem? htask)
    exact ⟨hobeys, .free, (fun _ _ heq => by cases heq), by simp [Phase.inIndex, begin]⟩
  absent := fun _ => ⟨rfl, rfl⟩
  chatLocks := by
    refine ChatLocks.kept_new fun i => ?_
    rw [stanceOf]
    simp only [begin, List.getElem?_map]
    cases tasks[i]? <;> rfl
  indexLock := ReadWriteLock.WritersOnly.new
  current := Or.inr ⟨fun _ _ heq => (by cases heq), fun _ => hstart.exact⟩

/-- Once all calls have ended nobody owes anything, and the index is exact. -/
theorem Settling.consistent (h : Settling bot now phases owes) {results : List α}
    (hresults : now.results? = some results) :
    Consistent bot now.shelf := by
  have hended : ∀ j, phases j = .free ∧ owes j = false := by
    intro j
    cases hcall : now.calls[j]? with
    | none => exact h.absent hcall
    | some call =>
        have hresult : some (result? call) = (results.map some)[j]? := by
          rw [← results?_map hresults, List.getElem?_map, hcall]
          rfl
        rw [List.getElem?_map] at hresult
        obtain ⟨result, -, hsome⟩ := Option.map_eq_some_iff.mp hresult.symm
        obtain ⟨task, stance⟩ := call
        have hobeys := (h.goes hcall).obeys
        generalize hphase : phases j = phase at hobeys
        generalize howing : owes j = owing at hobeys
        cases hobeys with
        | done hends => exact ⟨rfl, hends⟩
        | _ => cases hsome
  refine ⟨h.sound, ?_⟩
  rcases h.current with ⟨j, howing⟩ | hcurrent
  · rw [(hended j).2] at howing
    cases howing
  · refine hcurrent.exact fun j entries hj => ?_
    rw [(hended j).1] at hj
    cases hj

end

/-- After calls side by side, none of which deletes a record that another has read and is about to write, the index
finds for each token the chats whose stored record has it: all of them and no others, in strictly ascending
order. -/
theorem index_exact_side_by_side (bot : Int) (start : Shelf) (hstart : Begins bot start) (calls : List ChatCall)
    (hcalls : ∀ call ∈ calls, call.Valid) (schedule : List Nat)
    (hapart : removalsApart Subscriber.codec.collection bot schedule (begin start (calls.map (·.attempt bot)))) :
    let now := SideBySide.run Subscriber.codec.collection bot schedule (begin start (calls.map (·.attempt bot)))
    ∀ results, now.results? = some results → ∀ token, (now.shelf.index.lookup token).Pairwise (· < ·) ∧
      ∀ chat, chat ∈ now.shelf.index.lookup token ↔
        ∃ s, recordOf bot chat now.shelf.database = .ok (some s) ∧ s.follows token := by
  intro now results hresults token
  have htasks : ∀ task ∈ calls.map (·.attempt bot), Obeys bot Settled .free false task := by
    intro task htask
    obtain ⟨call, hcall, rfl⟩ := List.mem_map.mp htask
    exact (hcalls call hcall).obeys bot
  obtain ⟨phases, owes, h⟩ := (settling_begin hstart.consistent htasks).run schedule hapart
  have hconsistent : Consistent bot now.shelf := h.consistent hresults
  rw [hconsistent.exact token]
  exact ⟨hconsistent.sound.ascending.chatsWith _, hconsistent.sound.mem_followers token⟩

/-- Two chats follow a token while one of them is disabled and a third is forgotten. -/
def contendingCalls : List ChatCall := [
  .follow 1 (.fungible "a.near") none, .setEnabled 1 false, .forget 2, .follow 3 (.fungible "a.near") none]

def contendingMoves : List Nat := [
  0, 1, 3, 0, 3, 0, 0, 2, 0, 3, 1, 3, 2, 0, 3, 1, 0, 0, 2, 2, 3, 1, 1, 2, 2, 3, 3, 3, 1, 2, 2, 3, 3, 3, 3]

theorem index_exact_side_by_side_contending :
    let now := SideBySide.run Subscriber.codec.collection 1 contendingMoves
      (begin {} (contendingCalls.map (·.attempt 1)))
    now.results?.isSome ∧ now.shelf.index.lookup (.fungible "a.near") = [1, 3] ∧
      ∃ s, recordOf 1 1 now.shelf.database = .ok (some s) ∧ s.follows (.fungible "a.near") := by
  intro now
  have hstart : Begins 1 {} := .empty ⟨rfl, rfl, by decide⟩ rfl rfl
  have htoken : Token.parse (Token.fungible "a.near").key = .ok (.fungible "a.near") :=
    Token.parse_key (by decide) rfl
  have hvalid : ∀ call ∈ contendingCalls, call.Valid := by
    intro call hcall
    simp only [contendingCalls, List.mem_cons, List.not_mem_nil, or_false] at hcall
    rcases hcall with rfl | rfl | rfl | rfl
    · exact ⟨htoken, by simp⟩
    · trivial
    · trivial
    · exact ⟨htoken, by simp⟩
  have hapart : removalsApart Subscriber.codec.collection 1 contendingMoves
      (begin {} (contendingCalls.map (·.attempt 1))) := by decide +kernel
  have hends : now.results?.isSome := by decide +kernel
  have hlookup : now.shelf.index.lookup (.fungible "a.near") = [1, 3] := by decide +kernel
  obtain ⟨results, hresults⟩ := Option.isSome_iff_exists.mp hends
  obtain ⟨-, hmem⟩ := index_exact_side_by_side 1 {} hstart contendingCalls hvalid contendingMoves hapart results
    hresults (.fungible "a.near")
  exact ⟨hends, hlookup, (hmem 1).mp (by rw [hlookup]; decide)⟩

/-- A chat follows a token, is disabled, and is forgotten between the reading and the writing. Its record comes
back, and the index does not know. -/
theorem index_misses_restored_record :
    let calls : List ChatCall := [.follow 1 (.fungible "a.near") none, .setEnabled 1 false, .forget 1]
    let now := SideBySide.run Subscriber.codec.collection 1 [0, 0, 0, 0, 0, 0, 0, 0, 1, 1, 2, 2, 2, 2, 2, 1, 1]
      (begin {} (calls.map (·.attempt 1)))
    now.results?.map (·.map Except.isOk) = some [true, true, true] ∧
      now.shelf.index.lookup (.fungible "a.near") = [] ∧
      followers 1 now.shelf.database (.fungible "a.near") = [1] := by
  refine ⟨?_, ?_, ?_⟩ <;> decide +kernel

end Subscriptions

end ChainAlerts
