import ChainAlerts.Intake
import ChainAlerts.Registry

/-! The running service: the bots that the settings name, the event streams they are fed from, and the list
of prices that is kept up to date. It is started, takes messages, and is stopped; a service that was stopped
can be started again, with bots made anew. What has been started in the background gets its turn only when
the service waits for something. -/

namespace ChainAlerts

/-- Where a pipeline stands. A pipeline that could not be started has failed until it is stopped. -/
inductive Phase where
  | stopped | running | failed
  deriving DecidableEq, Repr

namespace Phase

def name : Phase → String
  | .stopped => "stopped"
  | .running => "running"
  | .failed => "error"

/-- A phase as errors show it. -/
def label (p : Phase) : String := "PipelineState." ++ String.ofList (p.name.toList.map Char.toUpper)

end Phase

/-- What runs in the background: nothing, something that waits for its turn, or something at work. -/
inductive Background where
  | idle | waiting | working
  deriving DecidableEq, Repr

inductive Session where
  | none | opened | closed
  deriving DecidableEq, Repr

/-- Why a pipeline was not started. -/
inductive StartError where
  | notStopped (phase : Phase)
  | prices (cause : OracleFailure)

def StartError.message : StartError → String
  | .notStopped phase => "Cannot start pipeline in state " ++ phase.label
  | .prices cause => cause.message

/-- The service with everything that it has built so far. -/
structure Pipeline where
  settings : Settings
  dryRun : Bool := false
  hub : Hub := {}
  phase : Phase := .stopped
  background : Background := .idle
  session : Session := .none
  streams : List (Feed × EventStream) := []
  refreshFailures : Nat := 0
  intake : Intake := {}
  hasRun : Bool := false

namespace Pipeline

def isRunning (p : Pipeline) : Bool := p.phase = .running

/-- A pipeline by its settings, which say whether notifications are only made and not sent unless that is
said apart. -/
def ofSettings (settings : Settings) (dryRun : Option Bool) : Pipeline :=
  { settings, dryRun := dryRun.getD settings.dryRun }

/-- The oracle that the settings describe. Answers to view calls are kept in the shared store. -/
def oracle (s : Settings) : Oracle :=
  { url := s.near.pricesUrl
    client := some { url := s.near.nodeUrl, cached := true, lifetime := s.near.viewLifetime } }

/-- The chats that gather all tokens. -/
def routes (s : Settings) : TrendingRoutes :=
  { trending := s.trending.trending, dumpers := s.trending.dumpers, excluded := s.excludedTokens }

/-- The stream of a feed. -/
def streamOf (s : Settings) (feed : Feed) : EventStream :=
  { url := EventStream.address s.events.url feed.kind feed.testnet
    maxDelay := .int s.events.maxReconnectDelay
    staleAfter := .int s.events.staleWarning }

/-- The deliveries of a bot. -/
def dispatcherOf (s : Settings) (dryRun : Bool) (bot : Int) : Dispatcher Draft :=
  { bot, limiter := some { bot, windows := s.windows }, dryRun }

/-- All bots of the settings, none of which has seen an event. The table, what is outside and the list of
prices stay. -/
def freshHub (s : Settings) (dryRun : Bool) (h : Hub) : Hub :=
  let bots := (Registry.ofTokens s.botTokens).map (·.number)
  let start : Hub :=
    { oracle := oracle s, routes := routes s, database := h.database, surroundings := h.surroundings }
  let registered := bots.foldl (fun h bot => h.register (dispatcherOf s dryRun bot)) start
  bots.foldl (fun h bot => (h.addBot bot).2) registered

/-- Fetches the price list once; the list is replaced only if that succeeds. -/
def fetchPrices (p : Pipeline) : Option OracleFailure × Pipeline :=
  let outside := p.hub.surroundings
  let (result, net) := ((oracle p.settings).refresh outside.prices).run outside.net
  let (failure, prices) := match result with
    | .ok (_, prices) => (none, prices)
    | .error e => (some e, outside.prices)
  (failure, { p with hub := { p.hub with surroundings := { outside with net, prices } } })

/-- Starts a pipeline. It does without prices if the list cannot be fetched, but not if fetching it fails
in a way that nothing is prepared for. -/
def start (p : Pipeline) : Except StartError Unit × Pipeline :=
  if p.phase ≠ .stopped then (.error (.notStopped p.phase), p)
  else
    let outside := { p.hub.surroundings with prices := [] }
    match fetchPrices { p with hub := { p.hub with surroundings := outside } } with
    | (some (.fault f), p) => failed (.fault f) p
    | (some (.crash text), p) => failed (.crash text) p
    | (_, p) =>
      (.ok (), { p with
        hub := freshHub p.settings p.dryRun p.hub
        phase := .running, background := .waiting, session := .opened, refreshFailures := 0, hasRun := true
        streams := (Feed.followed p.settings.events.testnet).map fun feed => (feed, streamOf p.settings feed) })
where
  failed (cause : OracleFailure) (p : Pipeline) : Except StartError Unit × Pipeline :=
    (.error (.prices cause), { p with
      phase := .failed, session := .closed, intake := { p.intake with lastError := some cause.message } })

/-- Fetches the price list in the background. A failure is counted. -/
def refreshPrices (p : Pipeline) : Pipeline :=
  match fetchPrices p with
  | (some (.oracle _), p) => { p with refreshFailures := p.refreshFailures + 1 }
  | (_, p) => p

/-- Lets what waits in the background begin: the price list is fetched and all streams connect. -/
def wait (p : Pipeline) : Pipeline :=
  match p.background with
  | .waiting =>
    let p := refreshPrices p
    { p with
      background := .working
      streams := p.streams.map fun (feed, s) => (feed, s.join p.hub.surroundings.clock) }
  | .idle | .working => p

/-- Stops a pipeline. Deliveries under way are given up; streams that have not connected yet never do, but
the price list is fetched if it was about to be. -/
def stop (p : Pipeline) : Pipeline :=
  if p.phase = .stopped then p
  else
    let p := if p.background = .waiting then refreshPrices p else p
    { p with hub := p.hub.close, phase := .stopped, background := .idle, session := .closed }

/-- Hands an event of a feed to the bots, as the callback of the feed's stream. -/
def callback (feed : Feed) : EventStream.Callback (Intake × Hub) := fun event (stream, s) =>
  let (fault, s) := Intake.take Hub.observe feed event s
  (fault.isNone, (stream, s))

/-- Takes a message on one of the streams. A message that breaks the stream makes it connect again. -/
def take (feed : Feed) (stream : EventStream) (message : String) (s : Intake × Hub) :
    EventStream × (Intake × Hub) :=
  let now := s.2.surroundings.clock
  match EventStream.receive now (callback feed) message (stream, s) with
  | (none, r) => r
  | (some f, (stream, s)) => (stream.rejoin (.badMessage f) now, s)

/-- Takes a message on the first stream of an address. -/
def takeAt (url message : String) : List (Feed × EventStream) → Intake × Hub →
    List (Feed × EventStream) × (Intake × Hub)
  | [], s => ([], s)
  | (feed, stream) :: rest, s =>
    if stream.url = url then
      let (stream, s) := take feed stream message s
      ((feed, stream) :: rest, s)
    else
      let (rest, s) := takeAt url message rest s
      ((feed, stream) :: rest, s)

/-- Takes a message that arrives at an address, and waits for the deliveries that come of it. A pipeline
that does not run takes none. -/
def receive (url message : String) (p : Pipeline) : Pipeline :=
  if !p.isRunning then p
  else
    let p := p.wait
    let (streams, intake, hub) := takeAt url message p.streams (p.intake, p.hub)
    { p with streams, intake, hub := hub.settle }

/-- Runs a pipeline until it is cancelled or stopped from outside. Cancelling comes last, when all that waits has
had its turn. The result is the phase it ran in and the phase it ended in. -/
def run (cancelled : Bool) (p : Pipeline) : Except StartError (Phase × Phase) × Pipeline :=
  match p.start with
  | (.error e, p) => (.error e, p.stop)
  | (.ok _, p) =>
    let ended := (if cancelled then p.wait else p).stop
    (.ok (p.phase, ended.phase), ended)

/-- Starts a pipeline and stops it at once. -/
def startAndStop (p : Pipeline) : Except StartError (Phase × Phase) × Pipeline :=
  match p.start with
  | (.error e, p) => (.error e, p)
  | (.ok _, p) => (.ok (p.phase, p.stop.phase), p.stop)

end Pipeline

end ChainAlerts
