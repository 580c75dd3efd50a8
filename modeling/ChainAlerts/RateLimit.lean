import ChainAlerts.Fault
import ChainAlerts.Number.Num
import ChainAlerts.Redis

/-! Limits on how many notifications a chat receives. Time is cut into buckets of each window's
length, and each chat has a counter for each window and bucket. Windows are counted in the order
given; the first one over its limit rejects the attempt and the ones behind it do not count it. The
first attempt that a window rejects in a bucket may tell the chat so. -/

namespace ChainAlerts

structure Window where
  name : String
  seconds : Int
  limit : Int
  deriving DecidableEq, Repr

/-- A rejected attempt: the window, the number of attempts it has seen, and whether the chat is to be
told. -/
structure LimitExceeded where
  window : Window
  count : Int
  tell : Bool
  deriving DecidableEq, Repr

/-- A limiter for one bot. Its keys start with the mark and the bot's number. -/
structure Limiter where
  bot : Int
  windows : List Window
  mark : String := "near_fanout:ratelimit:"
  deriving DecidableEq, Repr

inductive LimitFailure where
  | unavailable (chat : Int) (cause : Redis.Failure)
  | fault (cause : Fault)

namespace Window

/-- A window's length in the largest unit that divides it. -/
def describe (w : Window) : String :=
  let units : List (String × Int) := [("day", 86400), ("hour", 3600), ("minute", 60)]
  match units.find? fun (_, size) => w.seconds % size = 0 with
  | some (unit, size) =>
    let count := w.seconds / size
    Text.intText count ++ " " ++ unit ++ (if count = 1 then "" else "s")
  | none => Text.intText w.seconds ++ " seconds"

end Window

namespace LimitExceeded

def notice (e : LimitExceeded) : String :=
  s!"You have reached the notification limit of {e.count}/{e.window.limit} messages in " ++
    s!"{e.window.describe}. Please fix your settings."

end LimitExceeded

namespace LimitFailure

def message : LimitFailure → String
  | .unavailable chat cause => s!"Rate limit check failed for chat {chat}: {cause.message}"
  | .fault f => f.message

end LimitFailure

namespace Limiter

/-- A task that uses the shared store only. -/
abbrev Counting (α : Type) := Task Redis.Request Redis.Request.Reply α

def key (l : Limiter) (chat : Int) (w : Window) (bucket : Int) : String :=
  l.mark ++ Text.intText l.bot ++ ":" ++ Text.intText chat ++ ":" ++ w.name ++ ":" ++ Text.intText bucket

/-- The key that tells that a rejection has been announced. -/
def noticeKey (counter : String) : String := counter ++ ":notice"

/-- Makes one request; a failure ends the task. -/
def attempt {α : Type} (chat : Int) (r : Redis.Request) (next : r.Result → Counting (Except LimitFailure α)) :
    Counting (Except LimitFailure α) :=
  .ask r fun
    | .ok result => next result
    | .error cause => .done (.error (.unavailable chat cause))

/-- Counts an attempt in one window: a new counter is given its expiry, and an attempt over the limit
claims the announcement. -/
def countIn (chat : Int) (w : Window) (counter : String)
    (next : Counting (Except LimitFailure (Option LimitExceeded))) :
    Counting (Except LimitFailure (Option LimitExceeded)) :=
  attempt chat (.incr counter) fun (count : Int) =>
    let judge : Counting (Except LimitFailure (Option LimitExceeded)) :=
      if w.limit < count then
        attempt chat (.claim (noticeKey counter) w.seconds) fun (claimed : Bool) =>
          .done (.ok (some ⟨w, count, claimed⟩))
      else next
    if count = 1 then attempt chat (.expire counter w.seconds) fun _ => judge else judge

/-- Counts an attempt in each window until one rejects it. -/
def countAll (l : Limiter) (chat seconds : Int) :
    List Window → Counting (Except LimitFailure (Option LimitExceeded))
  | [] => .done (.ok none)
  | w :: rest =>
    if w.seconds = 0 then .done (.error (.fault .zeroDivisor))
    else countIn chat w (l.key chat w (seconds.fdiv w.seconds)) (l.countAll chat seconds rest)

/-- The whole seconds of a moment. -/
def wholeSeconds : Num → Except Fault Int
  | .int n => .ok n
  | .float x =>
    match x with
    | .finite .. => .ok (x.truncate?.getD 0)
    | .infinite _ => .error .infinityToInteger
    | .nan => .error .nanToInteger

/-- Counts an attempt to notify a chat and tells whether it is over a limit. -/
def check (l : Limiter) (chat : Int) (now : Num) : Counting (Except LimitFailure (Option LimitExceeded)) :=
  if l.windows.isEmpty then .done (.ok none)
  else
    match wholeSeconds now with
    | .ok seconds => l.countAll chat seconds l.windows
    | .error f => .done (.error (.fault f))

/-- Counts an attempt when nothing else runs. -/
def checkAlone (l : Limiter) (chat : Int) (now : Num) (redis : Redis.State) :
    Except LimitFailure (Option LimitExceeded) × Redis.State :=
  (l.check chat now).run Redis.State.answer redis

end Limiter

end ChainAlerts
