import ChainAlerts.Assoc

/-! The locks under which records of chats are edited. A chat has a lock only while calls hold it or wait for
it; the table counts these calls and drops the lock with the last of them, so that a later call is given a new
one. A lock that is let go is not handed over: the first call that waits is told, and takes the lock when it
comes to run. Nobody gets in before it. -/

namespace ChainAlerts

/-- A lock: who holds it, who waits for it, in the order in which they asked, and whether the first of these
has been told that it is free. -/
structure ChatLock where
  holder : Option Nat := none
  waiting : List Nat := []
  told : Bool := false
  deriving DecidableEq, Repr

namespace ChatLock

/-- A call asks. It is let in if nobody holds the lock and nobody waits, and else waits behind the others. -/
def ask (call : Nat) (l : ChatLock) : ChatLock :=
  if l.holder.isNone && l.waiting.isEmpty then { l with holder := some call }
  else { l with waiting := l.waiting ++ [call] }

/-- Whether a call that waits may take the lock. -/
def admits (l : ChatLock) (call : Nat) : Bool := l.told && l.waiting.head? = some call

/-- The first call that waits takes the lock. -/
def take (call : Nat) (l : ChatLock) : ChatLock := { holder := some call, waiting := l.waiting.tail }

/-- The lock is let go, and the first call that waits is told. -/
def letGo (l : ChatLock) : ChatLock := { l with holder := none, told := !l.waiting.isEmpty }

end ChatLock

/-- Every lock that was made so far, by its number, and for each chat the number of its lock with the number of
calls that hold it or wait for it. -/
structure ChatLocks where
  locks : List ChatLock := []
  table : List (Int × Nat × Nat) := []
  deriving DecidableEq, Repr

namespace ChatLocks

/-- A call asks for the lock of a chat, which is made if the chat has none. The result is the lock's number. -/
def ask (call : Nat) (chat : Int) (t : ChatLocks) : Nat × ChatLocks :=
  match Assoc.get? chat t.table with
  | some (lock, users) =>
    (lock, { locks := t.locks.modify lock (·.ask call), table := Assoc.put chat (lock, users + 1) t.table })
  | none =>
    (t.locks.length, {
      locks := t.locks ++ [ChatLock.ask call {}]
      table := Assoc.put chat (t.locks.length, 1) t.table })

/-- Who holds a lock. -/
def holder? (lock : Nat) (t : ChatLocks) : Option Nat := t.locks[lock]?.bind (·.holder)

/-- Whether a call that waits for a lock may take it. -/
def admits (lock call : Nat) (t : ChatLocks) : Bool := t.locks[lock]?.any (·.admits call)

def take (lock call : Nat) (t : ChatLocks) : ChatLocks := { t with locks := t.locks.modify lock (·.take call) }

/-- A call lets go of the lock of a chat and is counted no longer. -/
def release (chat : Int) (lock : Nat) (t : ChatLocks) : ChatLocks where
  locks := t.locks.modify lock ChatLock.letGo
  table :=
    match Assoc.get? chat t.table with
    | some (l, users) => if users = 1 then Assoc.erase chat t.table else Assoc.put chat (l, users - 1) t.table
    | none => t.table

end ChatLocks

end ChainAlerts
