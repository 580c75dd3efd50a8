import ChainAlerts.Dispatch

/-! A bot's deliveries and notices side by side. One job at a time makes its next request and goes on to the one
after it; which job moves is for a schedule to say, and what time it is, what comes of rendering and whether the chat
service takes a notification is given with each move. Others may use the shared store in between. A counter is kept
for as long as its window from the first attempt on, so within its bucket it does not lapse. A job keeps what it has
asked and how it was answered. -/

namespace ChainAlerts.Dispatch

/-- What a job is for: to deliver a draft to a chat, or to tell a chat that its limit is reached. A notice knows the
time of the attempt that caused it. -/
inductive Duty (δ : Type) where
  | delivery (chat : Int) (draft : δ)
  | notice (chat : Int) (exceeded : LimitExceeded) (time : Option Num)

def Duty.chat {δ : Type} : Duty δ → Int
  | .delivery chat _ => chat
  | .notice chat _ _ => chat

/-- A request that was made, and its answer. -/
structure Deed (δ : Type) where
  request : Request δ
  reply : request.Reply

/-- The time that a job read, if it has read one. -/
def timeRead {δ : Type} (deeds : List (Deed δ)) : Option Num :=
  deeds.findSome? fun
    | ⟨.now, (time : Num)⟩ => some time
    | _ => none

/-- A job under way: what is left of it to do, what it has done, and whether it has been cleared away. -/
structure Tracked (δ : Type) where
  duty : Duty δ
  rest : Activity δ
  deeds : List (Deed δ) := []
  cleared : Bool := false

/-- How a move finds the surroundings. -/
structure World (δ : Type) where
  now : Num
  render : δ → Rendering
  accept : Notification → Except SendError Unit

/-- The jobs of a bot, how many of them were started and how they ended, and the store they share. -/
structure Deliveries (δ : Type) where
  redis : Redis.State
  jobs : List (Tracked δ) := []
  counts : Counts := {}

/-- A move of a schedule: a delivery is started, a job makes its next request, or someone else uses the store. -/
inductive Move (δ : Type) where
  | spawn (chat : Int) (draft : δ)
  | go (job : Nat) (world : World δ)
  | outside (command : Redis.Request)

variable {δ : Type}

def World.answer (world : World δ) : (r : Request δ) → Redis.State → r.Reply × Redis.State
  | .now, redis => (world.now, redis)
  | .redis command, redis => redis.answer command
  | .announce .., redis => ((), redis)
  | .render draft, redis => (world.render draft, redis)
  | .pause _, redis => ((), redis)
  | .send note, redis => (world.accept note, redis)

namespace Deliveries

/-- Starts the delivery of a draft. -/
def spawn (d : Dispatcher δ) (chat : Int) (draft : δ) (s : Deliveries δ) : Deliveries δ :=
  { s with
    jobs := s.jobs ++ [{ duty := .delivery chat draft, rest := d.deliver chat draft }]
    counts := { s.counts with spawned := s.counts.spawned + 1 } }

/-- The jobs that a request starts. -/
def started (d : Dispatcher δ) (time : Option Num) : Request δ → List (Tracked δ)
  | .announce chat e => [{ duty := .notice chat e time, rest := d.announce chat e }]
  | _ => []

/-- Lets a job make its next request. A job that has come to its end is counted and cleared away. -/
def go (d : Dispatcher δ) (i : Nat) (world : World δ) (s : Deliveries δ) : Deliveries δ :=
  match s.jobs[i]? with
  | none => s
  | some job =>
    if job.cleared then s
    else
      match job.rest with
      | .done outcome =>
        { s with jobs := s.jobs.set i { job with cleared := true }, counts := s.counts.add outcome }
      | .ask r next =>
        let (reply, redis) := world.answer r s.redis
        let job' := { job with rest := next reply, deeds := job.deeds ++ [⟨r, reply⟩] }
        { s with redis, jobs := s.jobs.set i job' ++ started d (timeRead job.deeds) r }

def move (d : Dispatcher δ) (s : Deliveries δ) : Move δ → Deliveries δ
  | .spawn chat draft => s.spawn d chat draft
  | .go i world => s.go d i world
  | .outside command => { s with redis := (s.redis.answer command).2 }

/-- Makes the moves of a schedule. -/
def run (d : Dispatcher δ) (moves : List (Move δ)) (s : Deliveries δ) : Deliveries δ := moves.foldl (move d) s

/-- No job is pending. -/
def isIdle (s : Deliveries δ) : Bool := s.jobs.all (·.cleared)

end Deliveries

end ChainAlerts.Dispatch
