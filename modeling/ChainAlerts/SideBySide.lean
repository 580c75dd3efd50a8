import ChainAlerts.ChatLocks
import ChainAlerts.ReadWriteLock
import ChainAlerts.Store

/-! Calls of one bot that run side by side. One call at a time makes its next request and goes on to the one
after it; which call moves is for a schedule to say, so the calls interleave at their requests in every way
there is. A call that asks for the lock of a chat, or for that of the index, may have to wait: until it is let
in its moves change nothing. -/

namespace ChainAlerts

/-- How a call stands to the lock of a chat: it has none, waits for one, or holds one. -/
inductive Stance where
  | free
  | waiting (chat : Int) (lock : Nat)
  | holding (chat : Int) (lock : Nat)
  deriving DecidableEq, Repr

/-- A call under way: what is left of it to do, and how it stands to the locks of chats. -/
structure UnderWay (α : Type) where
  task : Store.Call α
  stance : Stance := .free

/-- Calls that run side by side, what they work on, and the locks that keep them apart. -/
structure SideBySide (α : Type) where
  shelf : Store.Shelf
  chatLocks : ChatLocks := {}
  indexLock : ReadWriteLock Nat := {}
  calls : List (UnderWay α)

namespace SideBySide

open Store

variable {α : Type}

/-- Calls that begin. -/
def begin (shelf : Shelf) (calls : List (Call α)) : SideBySide α :=
  { shelf, calls := calls.map fun task => { task } }

def put (i : Nat) (call : UnderWay α) (s : SideBySide α) : SideBySide α := { s with calls := s.calls.set i call }

/-- A call asks for the lock of a chat. -/
def askChat (i : Nat) (chat : Int) (task next : Call α) (s : SideBySide α) : SideBySide α :=
  let (lock, chatLocks) := s.chatLocks.ask i chat
  let call : UnderWay α :=
    if chatLocks.holder? lock = some i then { task := next, stance := .holding chat lock }
    else { task, stance := .waiting chat lock }
  { s with chatLocks }.put i call

/-- A call that waits for the lock of a chat looks again. -/
def takeChat (i : Nat) (chat : Int) (lock : Nat) (next : Call α) (s : SideBySide α) : SideBySide α :=
  if s.chatLocks.admits lock i then
    { s with chatLocks := s.chatLocks.take lock i }.put i { task := next, stance := .holding chat lock }
  else s

/-- A call lets go of the lock of a chat. -/
def leaveChat (i : Nat) (chat : Int) (lock : Nat) (next : Call α) (s : SideBySide α) : SideBySide α :=
  { s with chatLocks := s.chatLocks.release chat lock }.put i { task := next }

/-- The lock of the index after a call has asked for it, or has looked again if it sleeps. -/
def indexTurn (i : Nat) (lock : ReadWriteLock Nat) : ReadWriteLock Nat :=
  match lock.sleepers.find? fun sleeper => sleeper.task = i with
  | some sleeper => lock.resume sleeper
  | none => lock.ask i .write

/-- A call tries to get into the index. -/
def enterIndex (i : Nat) (stance : Stance) (next : Call α) (s : SideBySide α) : SideBySide α :=
  let indexLock := indexTurn i s.indexLock
  if (i, Side.write) ∈ indexLock.inside then { s with indexLock }.put i { task := next, stance }
  else { s with indexLock }

/-- A call makes its next request, which is answered as far as locks let it. -/
def move (collection : String) (bot : Int) (i : Nat) (call : UnderWay α) (s : SideBySide α) : SideBySide α :=
  match call.task, call.stance with
  | .done _, _ => s
  | .ask (.lock chat) next, .free => s.askChat i chat call.task (next ())
  | .ask (.lock _) next, .waiting chat lock => s.takeChat i chat lock (next ())
  | .ask (.lock _) _, .holding .. => s
  | .ask (.unlock _) next, .holding chat lock => s.leaveChat i chat lock (next ())
  | .ask (.unlock _) _, _ => s
  | .ask .lockIndex next, stance => s.enterIndex i stance (next ())
  | .ask .unlockIndex next, stance =>
    { s with indexLock := s.indexLock.leave i .write }.put i { task := next (), stance }
  | .ask r next, stance =>
    let (reply, shelf) := answer collection bot r s.shelf
    { s with shelf }.put i { task := next reply, stance }

/-- Lets a call move. -/
def advance (collection : String) (bot : Int) (s : SideBySide α) (i : Nat) : SideBySide α :=
  match s.calls[i]? with
  | some call => s.move collection bot i call
  | none => s

/-- Lets calls move as a schedule says. -/
def run (collection : String) (bot : Int) (schedule : List Nat) (s : SideBySide α) : SideBySide α :=
  schedule.foldl (advance collection bot) s

/-- The result of a call that has come to its end. -/
def result? (call : UnderWay α) : Option α :=
  match call.task with
  | .done result => some result
  | .ask .. => none

/-- The results of all calls once each has come to its end. -/
def results? (s : SideBySide α) : Option (List α) := s.calls.mapM result?

/-- Whether a call has to wait until another one lets it in. -/
def waits (s : SideBySide α) (i : Nat) : Bool :=
  match s.calls[i]? with
  | some { task := .ask (.lock _) _, stance := .waiting _ lock } => !s.chatLocks.admits lock i
  | _ => false

end SideBySide

end ChainAlerts
