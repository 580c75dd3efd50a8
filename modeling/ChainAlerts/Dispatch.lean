import ChainAlerts.Prices
import ChainAlerts.RateLimit
import ChainAlerts.Telegram
import ChainAlerts.Markdown

/-! Delivery of notifications. Each one is a job of its own: the chat's limit is checked, the
notification is rendered and sent. A job that fails leaves the others alone. A job that finds the limit
reached may start another job, which waits a while and then tells the chat so.

Time passes in turns. In a turn every job that is there runs until it ends or waits; a job that ended
in one turn is gone in the next. -/

namespace ChainAlerts

/-- What rendering a draft came to. -/
inductive Rendering where
  | ready (note : Notification)
  | nothing
  | failed

/-- Everything that deliveries use and change: the store and the web, the price list, the chat service,
the clock, and the delays for which jobs have waited. -/
structure Surroundings where
  net : Net := {}
  prices : PriceList := []
  telegram : Telegram := {}
  clock : Num := .int 0
  pauses : List Num := []

namespace Dispatch

/-- What a job asks of its surroundings. -/
inductive Request (δ : Type) where
  | now
  | redis (command : Redis.Request)
  | announce (chat : Int) (exceeded : LimitExceeded)
  | render (draft : δ)
  | pause (delay : Num)
  | send (note : Notification)

def Request.Reply {δ : Type} : Request δ → Type
  | .now => Num
  | .redis command => command.Reply
  | .announce .. => Unit
  | .render _ => Rendering
  | .pause _ => Unit
  | .send _ => Except SendError Unit

/-- How a job ended. A job that broke off is not counted. -/
inductive Outcome where
  | sent | limited | skipped | failed | brokeOff | noticeSent | noticeLost
  deriving DecidableEq, Repr

/-- A job's activity. -/
abbrev Activity (δ : Type) : Type := Task (Request δ) Request.Reply Outcome

/-- A job: still to do something, or over and not yet cleared away. -/
inductive Job (δ : Type) where
  | active (rest : Activity δ)
  | over

/-- How many jobs were started and how they ended. -/
structure Counts where
  spawned : Nat := 0
  sent : Nat := 0
  limited : Nat := 0
  skipped : Nat := 0
  failed : Nat := 0
  notices : Nat := 0
  deriving DecidableEq, Repr

def Counts.add (c : Counts) : Outcome → Counts
  | .sent => { c with sent := c.sent + 1 }
  | .limited => { c with limited := c.limited + 1 }
  | .skipped => { c with skipped := c.skipped + 1 }
  | .failed => { c with failed := c.failed + 1 }
  | .noticeSent => { c with notices := c.notices + 1 }
  | .brokeOff | .noticeLost => c

end Dispatch

/-- A bot's deliveries: the limiter that guards them, if there is one, whether sending is only
pretended, and the jobs under way. -/
structure Dispatcher (δ : Type) where
  bot : Int
  limiter : Option Limiter := none
  dryRun : Bool := false
  noticeDelay : Num := .float (.ofInt 10)
  jobs : List (Dispatch.Job δ) := []
  counts : Dispatch.Counts := {}

namespace Dispatcher

open Dispatch

variable {δ : Type}

/-- Sends a notification, or pretends to. -/
def hand (d : Dispatcher δ) (note : Notification) (good bad : Outcome) : Activity δ :=
  if d.dryRun then .done good
  else
    .ask (.send note) fun
      | .ok _ => .done good
      | .error _ => .done bad

/-- Renders a draft and sends what comes of it. -/
def finish (d : Dispatcher δ) (draft : δ) : Activity δ :=
  .ask (.render draft) fun
    | .ready note => d.hand note .sent .failed
    | .nothing => .done .skipped
    | .failed => .done .failed

/-- Delivers a draft to a chat unless the chat's limit is reached. A limiter that cannot be asked lets
every delivery pass. -/
def deliver (d : Dispatcher δ) (chat : Int) (draft : δ) : Activity δ :=
  match d.limiter with
  | none => d.finish draft
  | some limiter =>
    .ask .now fun (now : Num) =>
      ((limiter.check chat now).lift Request.redis fun _ reply => reply).andThen fun
        | .ok none => d.finish draft
        | .ok (some e) => if e.tell then .ask (.announce chat e) fun _ => .done .limited else .done .limited
        | .error (.unavailable ..) => d.finish draft
        | .error (.fault _) => .done .brokeOff

/-- Tells a chat that its limit is reached, after a delay that lets what is under way arrive first. A
pretended notice is not counted. -/
def announce (d : Dispatcher δ) (chat : Int) (e : LimitExceeded) : Activity δ :=
  .ask (.pause d.noticeDelay) fun _ =>
    if d.dryRun then .done .noticeLost
    else d.hand { chat, text := Markdown.escape e.notice } .noticeSent .noticeLost

def pending (d : Dispatcher δ) : Nat := d.jobs.length

/-- Starts the delivery of a draft. -/
def spawn (d : Dispatcher δ) (chat : Int) (draft : δ) : Dispatcher δ :=
  { d with
    jobs := d.jobs ++ [.active (d.deliver chat draft)]
    counts := { d.counts with spawned := d.counts.spawned + 1 } }

/-- What came of a job in one turn: what is left of it, how it ended if it did, and the limits to be
announced. -/
structure Progress (δ : Type) where
  job : Job δ
  outcome : Option Outcome := none
  limits : List (Int × LimitExceeded) := []

/-- Runs an activity until it ends or waits. -/
def advance (render : δ → Surroundings → Rendering × Surroundings) (bot : Int) :
    Activity δ → Surroundings → Progress δ × Surroundings
  | .done outcome, s => ({ job := .over, outcome := some outcome }, s)
  | .ask .now next, s => advance render bot (next s.clock) s
  | .ask (.redis command) next, s =>
    let (reply, net) := s.net.command command
    advance render bot (next reply) { s with net }
  | .ask (.announce chat e) next, s =>
    let (progress, s) := advance render bot (next ()) s
    ({ progress with limits := (chat, e) :: progress.limits }, s)
  | .ask (.render draft) next, s =>
    let (rendering, s) := render draft s
    advance render bot (next rendering) s
  | .ask (.pause delay) next, s => ({ job := .active (next ()) }, { s with pauses := s.pauses ++ [delay] })
  | .ask (.send note) next, s =>
    let (reply, telegram) := s.telegram.send bot note
    advance render bot (next reply) { s with telegram }

/-- Runs jobs in order. The result is the jobs that are left, how jobs ended and the limits to be
announced, each in order. -/
def runJobs (render : δ → Surroundings → Rendering × Surroundings) (bot : Int) :
    List (Job δ) → Surroundings →
      (List (Job δ) × List Outcome × List (Int × LimitExceeded)) × Surroundings
  | [], s => (([], [], []), s)
  | .over :: rest, s => runJobs render bot rest s
  | .active activity :: rest, s =>
    let (progress, s) := advance render bot activity s
    let ((jobs, outcomes, limits), s) := runJobs render bot rest s
    ((progress.job :: jobs, progress.outcome.toList ++ outcomes, progress.limits ++ limits), s)

def turn (render : δ → Surroundings → Rendering × Surroundings) (d : Dispatcher δ) (s : Surroundings) :
    Dispatcher δ × Surroundings :=
  let ((jobs, outcomes, limits), s) := runJobs render d.bot d.jobs s
  ({ d with
    jobs := jobs ++ limits.map fun (chat, e) => .active (d.announce chat e)
    counts := outcomes.foldl Counts.add d.counts }, s)

def turns (render : δ → Surroundings → Rendering × Surroundings) :
    Nat → Dispatcher δ → Surroundings → Dispatcher δ × Surroundings
  | 0, d, s => (d, s)
  | n + 1, d, s => let (d, s) := d.turn render s; turns render n d s

/-- Lets every job come to its end. Four turns are enough: in the first one deliveries end, in the
second the notices they started begin to wait, in the third these are sent, and in the fourth they are
cleared away. -/
def settle (render : δ → Surroundings → Rendering × Surroundings) (d : Dispatcher δ) (s : Surroundings) :
    Dispatcher δ × Surroundings :=
  turns render 4 d s

/-- Breaks every job off. -/
def close (d : Dispatcher δ) : Dispatcher δ := { d with jobs := [] }

end Dispatcher

end ChainAlerts
