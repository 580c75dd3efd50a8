import ChainAlerts.SideBySide
import ChainAlerts.Proofs.Tables

/-! The table of locks is kept by the calls themselves. Its count for a chat is the number of calls that hold
the chat's lock or wait for it, the lock in it is the one that all of them asked for, and it is in use by exactly
these calls. Asking, taking and letting go keep the table in this state; so two calls never hold the lock of one
chat, and nothing is left in the table once nobody holds a lock or waits for one. -/

namespace ChainAlerts

namespace ChatLock

variable {l : ChatLock} {call : Nat}

/-- The calls that hold a lock or wait for it, in the order in which they asked. -/
def queue (l : ChatLock) : List Nat := l.holder.toList ++ l.waiting

/-- A lock in use. The first call that waits has been told exactly if nobody holds the lock. -/
structure InUse (l : ChatLock) : Prop where
  used : l.queue ≠ []
  nodup : l.queue.Nodup
  told : l.told ↔ l.holder = none

theorem queue_of_holder (h : l.holder = some call) : l.queue = call :: l.waiting := by
  rw [queue, h]
  rfl

theorem queue_of_no_holder (h : l.holder = none) : l.queue = l.waiting := by
  rw [queue, h]
  rfl

theorem inUse_new (call : Nat) : (ask call {}).InUse where
  used := List.cons_ne_nil call []
  nodup := List.nodup_singleton call
  told := by simp [ask]

/-- Whoever asks for a lock in use has to wait. -/
theorem InUse.ask_eq (h : l.InUse) (call : Nat) : l.ask call = { l with waiting := l.waiting ++ [call] } := by
  have hbusy : (l.holder.isNone && l.waiting.isEmpty) = false := by
    cases hholder : l.holder with
    | some other => rfl
    | none =>
        have hwaiting : l.waiting ≠ [] := by
          rw [← queue_of_no_holder hholder]
          exact h.used
        simpa using hwaiting
  rw [ask, hbusy]
  rfl

theorem InUse.queue_ask (h : l.InUse) (call : Nat) : (l.ask call).queue = l.queue ++ [call] := by
  rw [h.ask_eq, queue, queue, List.append_assoc]

theorem InUse.ask (h : l.InUse) (hfresh : call ∉ l.queue) : (l.ask call).InUse where
  used := by
    rw [h.queue_ask]
    simp
  nodup := by
    rw [h.queue_ask]
    exact List.nodup_append.mpr ⟨h.nodup, List.nodup_singleton call, by
      intro other hother c hc
      rw [List.mem_singleton.mp hc]
      rintro rfl
      exact hfresh hother⟩
  told := by
    rw [h.ask_eq]
    exact h.told

/-- A lock that admits a call is free, and the call is the first that waits for it. -/
theorem InUse.of_admits (h : l.InUse) (hadmits : l.admits call) :
    l.holder = none ∧ l.waiting = call :: l.waiting.tail := by
  rw [admits, Bool.and_eq_true, decide_eq_true_eq] at hadmits
  refine ⟨h.told.mp hadmits.1, ?_⟩
  cases hwaiting : l.waiting with
  | nil =>
      rw [hwaiting] at hadmits
      cases hadmits.2
  | cons first rest =>
      rw [hwaiting] at hadmits
      obtain rfl := Option.some.inj hadmits.2
      rfl

theorem InUse.queue_take (h : l.InUse) (hadmits : l.admits call) : (l.take call).queue = l.queue := by
  obtain ⟨hholder, hwaiting⟩ := h.of_admits hadmits
  rw [queue_of_no_holder hholder, hwaiting]
  rfl

theorem InUse.take (h : l.InUse) (hadmits : l.admits call) : (l.take call).InUse where
  used := by
    rw [h.queue_take hadmits]
    exact h.used
  nodup := by
    rw [h.queue_take hadmits]
    exact h.nodup
  told := by simp [ChatLock.take]

theorem InUse.letGo (h : l.InUse) (hholder : l.holder = some call) (hwaiting : l.waiting ≠ []) :
    l.letGo.InUse where
  used := hwaiting
  nodup := by
    have hnodup := h.nodup
    rw [queue_of_holder hholder] at hnodup
    exact (List.nodup_cons.mp hnodup).2
  told := by simp [ChatLock.letGo, hwaiting]

end ChatLock

namespace ChatLocks

variable {t : ChatLocks} {stance : Nat → Stance} {i : Nat} {chat : Int} {lock users : Nat}

/-- A call stands to no lock of another chat. -/
def Stance.About (chat : Int) (s : Stance) : Prop :=
  ∀ other n, other ≠ chat → s ≠ .holding other n ∧ s ≠ .waiting other n

theorem about_free (chat : Int) : Stance.About chat .free := fun _ _ _ => ⟨Stance.noConfusion, Stance.noConfusion⟩

theorem about_waiting (chat : Int) (lock : Nat) : Stance.About chat (.waiting chat lock) :=
  fun _ _ hother => ⟨Stance.noConfusion, fun heq => hother (Stance.waiting.inj heq).1.symm⟩

theorem about_holding (chat : Int) (lock : Nat) : Stance.About chat (.holding chat lock) :=
  fun _ _ hother => ⟨fun heq => hother (Stance.holding.inj heq).1.symm, Stance.noConfusion⟩

/-- The lock of a chat is in use by exactly the calls that hold it or wait for it, and counts them. -/
structure ServesChat (stance : Nat → Stance) (chat : Int) (lock users : Nat) (l : ChatLock) : Prop where
  inUse : l.InUse
  users : l.queue.length = users
  holding : ∀ i, stance i = .holding chat lock ↔ l.holder = some i
  waiting : ∀ i, stance i = .waiting chat lock ↔ i ∈ l.waiting

/-- The table is kept for calls that stand to the locks as they do. -/
structure Kept (t : ChatLocks) (stance : Nat → Stance) : Prop where
  serves : ∀ {chat lock users}, Assoc.get? chat t.table = some (lock, users) →
    ∃ l, t.locks[lock]? = some l ∧ ServesChat stance chat lock users l
  listed : ∀ {i chat lock}, stance i = .waiting chat lock ∨ stance i = .holding chat lock →
    ∃ users, Assoc.get? chat t.table = some (lock, users)
  apart : ∀ {chat other lock users users'}, Assoc.get? chat t.table = some (lock, users) →
    Assoc.get? other t.table = some (lock, users') → chat = other

theorem kept_new (h : ∀ i, stance i = .free) : ({} : ChatLocks).Kept stance where
  serves := fun hget => by cases hget
  listed := fun {i _ _} hengaged => by
    rw [h i] at hengaged
    rcases hengaged with hengaged | hengaged <;> cases hengaged
  apart := fun hget => by cases hget

/-- Two calls never hold the lock of one chat. -/
theorem Kept.holding_unique (h : t.Kept stance) {j lock' : Nat} (hi : stance i = .holding chat lock)
    (hj : stance j = .holding chat lock') : i = j := by
  obtain ⟨users, hget⟩ := h.listed (Or.inr hi)
  obtain ⟨users', hget'⟩ := h.listed (Or.inr hj)
  obtain ⟨rfl, -⟩ := Prod.mk.inj (Option.some.inj (hget.symm.trans hget'))
  obtain ⟨l, -, hserves⟩ := h.serves hget
  have hholder : some i = some j := ((hserves.holding i).mp hi).symm.trans ((hserves.holding j).mp hj)
  exact Option.some.inj hholder

/-- Nothing is left in the table once nobody holds a lock or waits for one. -/
theorem Kept.table_eq_nil (h : t.Kept stance) (hfree : ∀ i, stance i = .free) : t.table = [] := by
  cases htable : t.table with
  | nil => rfl
  | cons entry rest =>
      obtain ⟨chat, lock, users⟩ := entry
      have hget : Assoc.get? chat t.table = some (lock, users) := by
        rw [htable]
        exact Assoc.get?_cons_self _ _ _
      obtain ⟨l, -, hserves⟩ := h.serves hget
      exfalso
      refine hserves.inUse.used (List.eq_nil_iff_forall_not_mem.mpr fun call hmem => ?_)
      rcases List.mem_append.mp hmem with hmem | hmem
      · have hholding := (hserves.holding call).mpr (Option.mem_toList.mp hmem)
        rw [hfree call] at hholding
        cases hholding
      · have hwaiting := (hserves.waiting call).mpr hmem
        rw [hfree call] at hwaiting
        cases hwaiting

/-- Whoever stands to no lock is in no queue. -/
theorem ServesChat.not_mem_queue {l : ChatLock} (h : ServesChat stance chat lock users l)
    (hi : stance i = .free) : i ∉ l.queue := by
  intro hmem
  rcases List.mem_append.mp hmem with hmem | hmem
  · have hholding := (h.holding i).mpr (Option.mem_toList.mp hmem)
    rw [hi] at hholding
    cases hholding
  · have hwaiting := (h.waiting i).mpr hmem
    rw [hi] at hwaiting
    cases hwaiting

/-- What a call does about one chat does not matter to the lock of another. -/
theorem ServesChat.update {l : ChatLock} {s : Stance} (h : ServesChat stance chat lock users l)
    (hold : ∀ n, stance i ≠ .holding chat n ∧ stance i ≠ .waiting chat n)
    (hnew : ∀ n, s ≠ .holding chat n ∧ s ≠ .waiting chat n) :
    ServesChat (Function.update stance i s) chat lock users l where
  inUse := h.inUse
  users := h.users
  holding := by
    intro j
    by_cases hj : j = i
    · subst hj
      have hnot : l.holder ≠ some j := fun hholder => (hold lock).1 ((h.holding j).mpr hholder)
      simp [(hnew lock).1, hnot]
    · rw [Function.update_of_ne hj]
      exact h.holding j
  waiting := by
    intro j
    by_cases hj : j = i
    · subst hj
      have hnot : j ∉ l.waiting := fun hmem => (hold lock).2 ((h.waiting j).mpr hmem)
      simp [(hnew lock).2, hnot]
    · rw [Function.update_of_ne hj]
      exact h.waiting j

/-- A lock that is made for a chat which nobody stands to serves the call that asks first. -/
theorem servesChat_new (hnone : ∀ j n, stance j ≠ .holding chat n ∧ stance j ≠ .waiting chat n) (i lock : Nat) :
    ServesChat (Function.update stance i (.holding chat lock)) chat lock 1 (ChatLock.ask i {}) where
  inUse := ChatLock.inUse_new i
  users := rfl
  holding := by
    intro j
    by_cases hj : j = i
    · subst hj
      simp [ChatLock.ask]
    · rw [Function.update_of_ne hj]
      exact ⟨fun hholding => absurd hholding (hnone j lock).1, fun heq => absurd (Option.some.inj heq).symm hj⟩
  waiting := by
    intro j
    by_cases hj : j = i
    · subst hj
      simp [ChatLock.ask]
    · rw [Function.update_of_ne hj]
      exact ⟨fun hwaiting => absurd hwaiting (hnone j lock).2, fun hmem => absurd hmem List.not_mem_nil⟩

theorem ServesChat.ask {l : ChatLock} (h : ServesChat stance chat lock users l) (hi : stance i = .free) :
    ServesChat (Function.update stance i (.waiting chat lock)) chat lock (users + 1) (l.ask i) := by
  have hfresh : i ∉ l.queue := h.not_mem_queue hi
  have hholder : l.holder ≠ some i := by
    intro hholder
    rw [ChatLock.queue_of_holder hholder] at hfresh
    exact hfresh List.mem_cons_self
  refine ⟨h.inUse.ask hfresh, ?_, fun j => ?_, fun j => ?_⟩
  · rw [h.inUse.queue_ask, List.length_append, h.users, List.length_singleton]
  · rw [h.inUse.ask_eq]
    by_cases hj : j = i
    · subst hj
      simp [hholder]
    · rw [Function.update_of_ne hj]
      exact h.holding j
  · rw [h.inUse.ask_eq]
    by_cases hj : j = i
    · subst hj
      simp
    · rw [Function.update_of_ne hj, h.waiting j]
      simp [hj]

theorem ServesChat.take {l : ChatLock} (h : ServesChat stance chat lock users l) (hadmits : l.admits i) :
    ServesChat (Function.update stance i (.holding chat lock)) chat lock users (l.take i) := by
  obtain ⟨hnone, hwaiting⟩ := h.inUse.of_admits hadmits
  have hnodup : (i :: l.waiting.tail).Nodup := by
    rw [← hwaiting, ← ChatLock.queue_of_no_holder hnone]
    exact h.inUse.nodup
  refine ⟨h.inUse.take hadmits, ?_, fun j => ?_, fun j => ?_⟩
  · rw [h.inUse.queue_take hadmits, h.users]
  · by_cases hj : j = i
    · subst hj
      simp [ChatLock.take]
    · rw [Function.update_of_ne hj, h.holding j, hnone]
      simp [ChatLock.take, Ne.symm hj]
  · by_cases hj : j = i
    · subst hj
      simp [ChatLock.take, (List.nodup_cons.mp hnodup).1]
    · rw [Function.update_of_ne hj, h.waiting j, hwaiting]
      simp [ChatLock.take, hj]

theorem ServesChat.letGo {l : ChatLock} (h : ServesChat stance chat lock users l) (hi : stance i = .holding chat lock)
    (hmany : users ≠ 1) : ServesChat (Function.update stance i .free) chat lock (users - 1) l.letGo := by
  have hholder : l.holder = some i := (h.holding i).mp hi
  have hqueue : l.queue = i :: l.waiting := ChatLock.queue_of_holder hholder
  have hnodup : (i :: l.waiting).Nodup := by
    rw [← hqueue]
    exact h.inUse.nodup
  have husers : users = l.waiting.length + 1 := by
    rw [← h.users, hqueue, List.length_cons]
  have hwaiting : l.waiting ≠ [] := by
    intro hnil
    rw [hnil] at husers
    exact hmany husers
  refine ⟨h.inUse.letGo hholder hwaiting, ?_, fun j => ⟨fun hj => ?_, fun hj => by cases hj⟩, fun j => ?_⟩
  · rw [husers]
    rfl
  · by_cases hij : j = i
    · subst hij
      rw [Function.update_self] at hj
      cases hj
    · rw [Function.update_of_ne hij] at hj
      have hholder' := (h.holding j).mp hj
      rw [hholder] at hholder'
      exact absurd (Option.some.inj hholder').symm hij
  · by_cases hij : j = i
    · subst hij
      rw [Function.update_self]
      exact ⟨Stance.noConfusion, fun hmem => absurd hmem (List.nodup_cons.mp hnodup).1⟩
    · rw [Function.update_of_ne hij]
      exact h.waiting j

theorem Kept.lt_length (h : t.Kept stance) (hget : Assoc.get? chat t.table = some (lock, users)) :
    lock < t.locks.length := by
  obtain ⟨l, hl, -⟩ := h.serves hget
  exact (List.getElem?_eq_some_iff.mp hl).1

/-- A change of one chat's lock and entry leaves the table kept, if the lock is no other chat's and serves the
chat as far as it is still listed. -/
theorem Kept.change {t' : ChatLocks} {s : Stance} (h : t.Kept stance) (chat : Int) (lock : Nat)
    (hown : ∀ other users, other ≠ chat → Assoc.get? other t.table ≠ some (lock, users))
    (hold : Stance.About chat (stance i)) (hnew : Stance.About chat s)
    (htable : ∀ other, other ≠ chat → Assoc.get? other t'.table = Assoc.get? other t.table)
    (hlocks : ∀ n, n < t.locks.length → n ≠ lock → t'.locks[n]? = t.locks[n]?)
    (hserves : ∀ n users, Assoc.get? chat t'.table = some (n, users) → n = lock ∧
      ∃ l, t'.locks[lock]? = some l ∧ ServesChat (Function.update stance i s) chat lock users l)
    (hlisted : ∀ j n, Function.update stance i s j = .waiting chat n ∨
      Function.update stance i s j = .holding chat n → ∃ users, Assoc.get? chat t'.table = some (n, users)) :
    t'.Kept (Function.update stance i s) where
  serves := by
    intro other n users hget
    by_cases hother : other = chat
    · subst hother
      obtain ⟨rfl, hl⟩ := hserves n users hget
      exact hl
    · rw [htable other hother] at hget
      have hne : n ≠ lock := by
        rintro rfl
        exact hown other users hother hget
      obtain ⟨l, hl, hl'⟩ := h.serves hget
      refine ⟨l, (hlocks n (h.lt_length hget) hne).trans hl, ?_⟩
      exact hl'.update (fun n => hold other n hother) (fun n => hnew other n hother)
  listed := by
    intro j other n hj
    by_cases hother : other = chat
    · subst hother
      exact hlisted j n hj
    · rw [htable other hother]
      by_cases hij : j = i
      · subst hij
        rw [Function.update_self] at hj
        rcases hj with hj | hj
        · exact absurd hj (hnew other n hother).2
        · exact absurd hj (hnew other n hother).1
      · rw [Function.update_of_ne hij] at hj
        exact h.listed hj
  apart := by
    intro a b n users users' ha hb
    by_cases hachat : a = chat
    · by_cases hbchat : b = chat
      · rw [hachat, hbchat]
      · rw [hachat] at ha
        rw [htable b hbchat, (hserves n users ha).1] at hb
        exact absurd hb (hown b users' hbchat)
    · rw [htable a hachat] at ha
      by_cases hbchat : b = chat
      · rw [hbchat] at hb
        rw [(hserves n users' hb).1] at ha
        exact absurd ha (hown a users hachat)
      · rw [htable b hbchat] at hb
        exact h.apart ha hb

theorem Kept.own (h : t.Kept stance) (hget : Assoc.get? chat t.table = some (lock, users)) :
    ∀ other users', other ≠ chat → Assoc.get? other t.table ≠ some (lock, users') :=
  fun _ _ hother hget' => hother (h.apart hget' hget)

/-- Whoever stands to a lock of a chat, as far as it is listed, stands to the one that is listed. -/
theorem Kept.lock_eq (h : t.Kept stance) (hget : Assoc.get? chat t.table = some (lock, users)) {j n : Nat}
    (hj : stance j = .waiting chat n ∨ stance j = .holding chat n) : n = lock := by
  obtain ⟨users', hlisted⟩ := h.listed hj
  rw [hget] at hlisted
  exact (Prod.mk.inj (Option.some.inj hlisted)).1.symm

theorem Kept.unlisted (h : t.Kept stance) (hget : Assoc.get? chat t.table = none) (j n : Nat) :
    stance j ≠ .holding chat n ∧ stance j ≠ .waiting chat n := by
  constructor
  · intro hj
    obtain ⟨users, hlisted⟩ := h.listed (Or.inr hj)
    rw [hget] at hlisted
    cases hlisted
  · intro hj
    obtain ⟨users, hlisted⟩ := h.listed (Or.inl hj)
    rw [hget] at hlisted
    cases hlisted

/-- A call that stands to no lock asks for that of a chat which has one, and waits. -/
theorem Kept.ask_listed (h : t.Kept stance) (hi : stance i = .free)
    (hget : Assoc.get? chat t.table = some (lock, users)) :
    let t' : ChatLocks :=
      { locks := t.locks.modify lock (·.ask i), table := Assoc.put chat (lock, users + 1) t.table }
    t'.Kept (Function.update stance i (.waiting chat lock)) ∧ t'.holder? lock ≠ some i := by
  intro t'
  obtain ⟨l, hl, hserves⟩ := h.serves hget
  have hlock : t'.locks[lock]? = some (l.ask i) := by
    simp [t', hl]
  have hserves' := hserves.ask hi
  constructor
  · refine h.change chat lock (h.own hget) (hi ▸ about_free chat) (about_waiting chat lock)
      (fun other hother => Assoc.get?_put_of_ne hother _ _)
      (fun n _ hne => List.getElem?_modify_ne _ _ hne.symm) ?_ ?_
    · intro n users' hn
      rw [Assoc.get?_put_self] at hn
      obtain ⟨rfl, rfl⟩ := Prod.mk.inj (Option.some.inj hn)
      exact ⟨rfl, l.ask i, hlock, hserves'⟩
    · intro j n hj
      refine ⟨users + 1, ?_⟩
      rw [Assoc.get?_put_self]
      by_cases hij : j = i
      · subst hij
        rw [Function.update_self] at hj
        rcases hj with hj | hj
        · rw [(Stance.waiting.inj hj).2]
        · cases hj
      · rw [Function.update_of_ne hij] at hj
        rw [h.lock_eq hget hj]
  · rw [holder?, hlock]
    intro hholder
    have hholding := (hserves'.holding i).mpr hholder
    rw [Function.update_self] at hholding
    cases hholding

/-- A call asks for the lock of a chat which has none, and holds the one that is made. -/
theorem Kept.ask_unlisted (h : t.Kept stance) (hi : stance i = .free) (hget : Assoc.get? chat t.table = none) :
    let t' : ChatLocks :=
      { locks := t.locks ++ [ChatLock.ask i {}], table := Assoc.put chat (t.locks.length, 1) t.table }
    t'.Kept (Function.update stance i (.holding chat t.locks.length)) ∧ t'.holder? t.locks.length = some i := by
  intro t'
  have hlock : t'.locks[t.locks.length]? = some (ChatLock.ask i {}) := by
    simp [t']
  constructor
  · refine h.change chat t.locks.length (fun other users' _ hother' => Nat.lt_irrefl _ (h.lt_length hother'))
      (hi ▸ about_free chat) (about_holding chat _) (fun other hother => Assoc.get?_put_of_ne hother _ _)
      (fun n hn _ => List.getElem?_append_left hn) ?_ ?_
    · intro n users' hn
      rw [Assoc.get?_put_self] at hn
      obtain ⟨rfl, rfl⟩ := Prod.mk.inj (Option.some.inj hn)
      exact ⟨rfl, _, hlock, servesChat_new (h.unlisted hget) i _⟩
    · intro j n hj
      refine ⟨1, ?_⟩
      rw [Assoc.get?_put_self]
      by_cases hij : j = i
      · subst hij
        rw [Function.update_self] at hj
        rcases hj with hj | hj
        · cases hj
        · rw [(Stance.holding.inj hj).2]
      · rw [Function.update_of_ne hij] at hj
        rcases hj with hj | hj
        · exact absurd hj (h.unlisted hget j n).2
        · exact absurd hj (h.unlisted hget j n).1
  · rw [holder?, hlock]
    rfl

/-- A call that stands to no lock asks for that of a chat, and then holds it or waits for it. -/
theorem Kept.ask (h : t.Kept stance) (hi : stance i = .free) (chat : Int) :
    ∃ lock t', t.ask i chat = (lock, t') ∧
      t'.Kept (Function.update stance i
        (if t'.holder? lock = some i then .holding chat lock else .waiting chat lock)) := by
  cases hget : Assoc.get? chat t.table with
  | some entry =>
      obtain ⟨lock, users⟩ := entry
      obtain ⟨hkept, hwaits⟩ := h.ask_listed hi hget
      simp only [ChatLocks.ask, hget]
      refine ⟨lock, _, rfl, ?_⟩
      rw [if_neg hwaits]
      exact hkept
  | none =>
      obtain ⟨hkept, hholds⟩ := h.ask_unlisted hi hget
      simp only [ChatLocks.ask, hget]
      refine ⟨t.locks.length, _, rfl, ?_⟩
      rw [if_pos hholds]
      exact hkept

/-- A call that waits and is admitted takes the lock. -/
theorem Kept.take (h : t.Kept stance) (hi : stance i = .waiting chat lock) (hadmits : t.admits lock i) :
    (t.take lock i).Kept (Function.update stance i (.holding chat lock)) := by
  obtain ⟨users, hget⟩ := h.listed (Or.inl hi)
  obtain ⟨l, hl, hserves⟩ := h.serves hget
  have hfirst : l.admits i := by
    rw [ChatLocks.admits, hl] at hadmits
    exact hadmits
  have hlock : (t.take lock i).locks[lock]? = some (l.take i) := by
    simp [ChatLocks.take, hl]
  refine h.change chat lock (h.own hget) (hi ▸ about_waiting chat lock) (about_holding chat lock)
    (fun other _ => rfl) (fun n _ hne => List.getElem?_modify_ne _ _ hne.symm) ?_ ?_
  · intro n users' hn
    obtain ⟨rfl, rfl⟩ := Prod.mk.inj (Option.some.inj (hn.symm.trans hget))
    exact ⟨rfl, l.take i, hlock, hserves.take hfirst⟩
  · intro j n hj
    refine ⟨users, ?_⟩
    by_cases hij : j = i
    · subst hij
      rw [Function.update_self] at hj
      rcases hj with hj | hj
      · cases hj
      · rw [← (Stance.holding.inj hj).2]
        exact hget
    · rw [Function.update_of_ne hij] at hj
      rw [h.lock_eq hget hj]
      exact hget

/-- A call that holds the lock of a chat lets go of it. -/
theorem Kept.release (h : t.Kept stance) (hi : stance i = .holding chat lock) :
    (t.release chat lock).Kept (Function.update stance i .free) := by
  obtain ⟨users, hget⟩ := h.listed (Or.inr hi)
  obtain ⟨l, hl, hserves⟩ := h.serves hget
  have hlock : (t.release chat lock).locks[lock]? = some l.letGo := by
    simp [ChatLocks.release, hl]
  have htable : (t.release chat lock).table =
      if users = 1 then Assoc.erase chat t.table else Assoc.put chat (lock, users - 1) t.table := by
    simp only [ChatLocks.release, hget]
  refine h.change chat lock (h.own hget) (hi ▸ about_holding chat lock) (about_free chat) ?_
    (fun n _ hne => List.getElem?_modify_ne _ _ hne.symm) ?_ ?_
  · intro other hother
    rw [htable]
    split
    · exact Assoc.get?_erase_of_ne hother _
    · exact Assoc.get?_put_of_ne hother _ _
  · intro n users' hn
    rw [htable] at hn
    split at hn
    · rw [Assoc.get?_erase_self] at hn
      cases hn
    next hmany =>
      rw [Assoc.get?_put_self] at hn
      obtain ⟨rfl, rfl⟩ := Prod.mk.inj (Option.some.inj hn)
      exact ⟨rfl, l.letGo, hlock, hserves.letGo hi hmany⟩
  · intro j n hj
    by_cases hij : j = i
    · subst hij
      rw [Function.update_self] at hj
      rcases hj with hj | hj <;> cases hj
    · rw [Function.update_of_ne hij] at hj
      obtain rfl := h.lock_eq hget hj
      -- whoever still stands to the lock of the chat waits, so the chat stays listed
      have hmem : j ∈ l.waiting := by
        rcases hj with hj | hj
        · exact (hserves.waiting j).mp hj
        · exact absurd (h.holding_unique hj hi) hij
      have hmany : users ≠ 1 := by
        have hpos := List.length_pos_of_mem hmem
        rw [← hserves.users, ChatLock.queue_of_holder ((hserves.holding i).mp hi), List.length_cons]
        omega
      rw [htable, if_neg hmany]
      exact ⟨users - 1, Assoc.get?_put_self _ _ _⟩

/-- As long as a call waits for a lock, some call holds it or may take it. -/
theorem Kept.exists_unblocked (h : t.Kept stance) (hi : stance i = .waiting chat lock) :
    (∃ j, stance j = .holding chat lock) ∨ ∃ j, stance j = .waiting chat lock ∧ t.admits lock j := by
  obtain ⟨users, hget⟩ := h.listed (Or.inl hi)
  obtain ⟨l, hl, hserves⟩ := h.serves hget
  cases hholder : l.holder with
  | some j => exact Or.inl ⟨j, (hserves.holding j).mpr hholder⟩
  | none =>
      have htold : l.told := hserves.inUse.told.mpr hholder
      have hmem : i ∈ l.waiting := (hserves.waiting i).mp hi
      cases hwaiting : l.waiting with
      | nil =>
          rw [hwaiting] at hmem
          cases hmem
      | cons first rest =>
          refine Or.inr ⟨first, (hserves.waiting first).mpr (by simp [hwaiting]), ?_⟩
          rw [ChatLocks.admits, hl]
          simp [ChatLock.admits, htold, hwaiting]

end ChatLocks

end ChainAlerts
