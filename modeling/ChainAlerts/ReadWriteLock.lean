/-! A lock that any number of readers may hold together or one writer alone. A writer that waits keeps
new readers out. Tasks that cannot enter sleep; they are woken together, in the order in which they fell
asleep, whenever somebody leaves or stops waiting, and each looks again for itself.

What a task does between falling asleep and being woken happens at once, so the lock is a state with
five moves: a task asks, a woken task looks again, a task leaves, and a task is called off either asleep
or inside. -/

namespace ChainAlerts

/-- The side from which a task enters. -/
inductive Side where
  | read | write
  deriving DecidableEq, Repr

/-- A task that sleeps, or that has been woken and not yet looked again. -/
structure Sleeper (τ : Type) where
  task : τ
  side : Side
  woken : Bool := false
  deriving DecidableEq, Repr

/-- The lock and the tasks about it. -/
structure ReadWriteLock (τ : Type) where
  readers : Nat := 0
  writing : Bool := false
  waitingWriters : Nat := 0
  sleepers : List (Sleeper τ) := []
  inside : List (τ × Side) := []
  deriving Repr

namespace ReadWriteLock

variable {τ : Type} [DecidableEq τ]

/-- Whether a task may enter from a side. A writer that asks counts as waiting itself. -/
def admits (l : ReadWriteLock τ) : Side → Bool
  | .read => !l.writing && l.waitingWriters == 0
  | .write => !l.writing && l.readers == 0

/-- Wakes everybody. -/
def wakeAll (l : ReadWriteLock τ) : ReadWriteLock τ :=
  { l with sleepers := l.sleepers.map fun s => { s with woken := true } }

/-- A writer waits no longer, which others have to know. -/
def stopWaiting (l : ReadWriteLock τ) : ReadWriteLock τ :=
  wakeAll { l with waitingWriters := l.waitingWriters - 1 }

/-- Lets a task in. -/
def enter (l : ReadWriteLock τ) (task : τ) : Side → ReadWriteLock τ
  | .read => { l with readers := l.readers + 1, inside := l.inside ++ [(task, .read)] }
  | .write =>
    let l := l.stopWaiting
    { l with writing := true, inside := l.inside ++ [(task, .write)] }

/-- A task looks whether it may enter, and falls asleep if it may not. -/
def look (l : ReadWriteLock τ) (task : τ) (side : Side) : ReadWriteLock τ :=
  if l.admits side then l.enter task side
  else { l with sleepers := l.sleepers ++ [{ task, side }] }

/-- A task asks for a side. -/
def ask (l : ReadWriteLock τ) (task : τ) (side : Side) : ReadWriteLock τ :=
  match side with
  | .read => l.look task .read
  | .write => look { l with waitingWriters := l.waitingWriters + 1 } task .write

/-- A task is asleep no longer. -/
def rise (l : ReadWriteLock τ) (task : τ) : ReadWriteLock τ :=
  { l with sleepers := l.sleepers.filter fun s => s.task ≠ task }

/-- A woken task looks again. -/
def resume (l : ReadWriteLock τ) (s : Sleeper τ) : ReadWriteLock τ :=
  if s.woken then (l.rise s.task).look s.task s.side else l

/-- A task leaves. -/
def leave (l : ReadWriteLock τ) (task : τ) (side : Side) : ReadWriteLock τ :=
  let l := { l with inside := l.inside.filter fun entry => entry.1 ≠ task }
  match side with
  | .read =>
    let l := { l with readers := l.readers - 1 }
    if l.readers = 0 then l.wakeAll else l
  | .write => wakeAll { l with writing := false }

/-- A sleeping task is called off. -/
def callOff (l : ReadWriteLock τ) (s : Sleeper τ) : ReadWriteLock τ :=
  match s.side with
  | .read => l.rise s.task
  | .write => (l.rise s.task).stopWaiting

/-- The task that looks again next. -/
def nextWoken? (l : ReadWriteLock τ) : Option (Sleeper τ) := l.sleepers.find? (·.woken)

end ReadWriteLock

/-- A lock and the tasks that leave as soon as they are in. -/
structure LockQueue (τ : Type) where
  lock : ReadWriteLock τ := {}
  hasty : List τ := []
  deriving Repr

namespace LockQueue

variable {τ : Type} [DecidableEq τ]

/-- Hasty tasks that are in leave. -/
def hurry (q : LockQueue τ) : LockQueue τ :=
  match q.lock.inside.find? fun entry => entry.1 ∈ q.hasty with
  | some (task, side) => { q with lock := q.lock.leave task side }
  | none => q

/-- Lets woken tasks look again, one after the other, as long as there are any and at most a number of
times. -/
def settleWithin : Nat → LockQueue τ → LockQueue τ
  | 0, q => q
  | fuel + 1, q =>
    match q.lock.nextWoken? with
    | none => q
    | some s => settleWithin fuel (hurry { q with lock := q.lock.resume s })

/-- Lets woken tasks look again until nobody is left to. A look either takes a sleeper away or leaves one
fewer of them woken. -/
def settle (q : LockQueue τ) : LockQueue τ :=
  settleWithin ((q.lock.sleepers.length + 1) * (q.lock.sleepers.length + 1)) q

/-- A task asks for a side and holds it. -/
def ask (q : LockQueue τ) (task : τ) (side : Side) : LockQueue τ :=
  settle { q with lock := q.lock.ask task side, hasty := q.hasty.filter (· ≠ task) }

/-- A task has nothing left to do inside. -/
def release (q : LockQueue τ) (task : τ) : LockQueue τ := (hurry { q with hasty := task :: q.hasty }).settle

/-- A task is called off, wherever it is. -/
def cancel (q : LockQueue τ) (task : τ) : LockQueue τ :=
  match q.lock.sleepers.find? fun s => s.task = task with
  | some s => settle { q with lock := q.lock.callOff s }
  | none =>
    match q.lock.inside.find? fun entry => entry.1 = task with
    | some (_, side) => settle { q with lock := q.lock.leave task side }
    | none => q

end LockQueue

end ChainAlerts
