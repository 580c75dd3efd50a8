import ChainAlerts.LogAlerts

/-! All bots together: the store they share, what is outside, each bot's deliveries, and the three kinds
of notification. An observed event is handed to the notifications it is meant for; the deliveries that
come of it are started at once and run on their own. -/

namespace ChainAlerts

/-- An observed event, by the notifications it is meant for. -/
inductive ChainEvent where
  | trade (e : TradeEvent)
  | structured (e : StructuredLog)
  | text (e : TextLog)

/-- The bots and what they share. -/
structure Hub where
  versions : VersionScheme := .standard
  oracle : Oracle := {}
  routes : TrendingRoutes := {}
  database : Database := {}
  surroundings : Surroundings := {}
  dispatchers : List (Int × Dispatcher Draft) := []
  trades : TradeAlerts := {}
  structuredLogs : LogAlerts := {}
  textLogs : LogAlerts := {}

namespace Hub

/-- Registers a bot by its deliveries. -/
def register (d : Dispatcher Draft) (h : Hub) : Hub :=
  { h with dispatchers := Assoc.put d.bot d h.dispatchers }

/-- Lets a registered bot take part in all notifications, and tells whether it could join those of
trades. -/
def addBot (bot : Int) (h : Hub) : Bool × Hub :=
  let (joined, trades) := h.trades.addBot bot h.database
  (joined, { h with
    trades, structuredLogs := h.structuredLogs.addBot bot, textLogs := h.textLogs.addBot bot })

/-- Runs a call on a bot's subscriptions, if the bot takes part in the notifications of trades. -/
def callSubscriptions? {α : Type} (call : Int → Subscriptions.Attempt α) (bot : Int) (h : Hub) :
    Option (Except SubscriptionError α × Hub) :=
  (h.trades.call? call bot h.database).map fun (result, database, trades) =>
    (result, { h with database, trades })

/-- Runs a call on a bot's filters for a kind of log. -/
def callFilters {log filter α : Type} (kind : LogKind log filter)
    (call : LogKind log filter → Int → FilterLists.Attempt α) (bot : Int) (h : Hub) :
    Except FilterError α × Hub :=
  let (result, shelf) := (FilterLists.store kind bot).runAlone (call kind bot) { database := h.database }
  (result, { h with database := shelf.database })

def spawn (h : Hub) (s : Spawn) : Hub :=
  match Assoc.get? s.bot h.dispatchers with
  | some d => { h with dispatchers := Assoc.put s.bot (d.spawn s.chat s.draft) h.dispatchers }
  | none => h

def spawnAll (h : Hub) (spawns : List Spawn) : Hub := spawns.foldl spawn h

/-- Hands an event to the notifications it is meant for. A fault that passes ends the handling; what was
started before stays. -/
def observe (event : ChainEvent) (h : Hub) : Option Fault × Hub :=
  match event with
  | .trade e =>
    let (result, r) := TradeAlerts.handle
      { oracle := h.oracle, prices := h.surroundings.prices, routes := h.routes } e
      { database := h.database, net := h.surroundings.net, alerts := h.trades }
    let h := { h with
      database := r.database, trades := r.alerts, surroundings := { h.surroundings with net := r.net } }
    (match result with | .ok _ => none | .error f => some f, h.spawnAll r.spawns)
  | .structured e =>
    let ((fault, spawns), structuredLogs) := h.structuredLogs.handle (LogKind.structured h.versions) h.database e
    (fault, spawnAll { h with structuredLogs } spawns)
  | .text e =>
    let ((fault, spawns), textLogs) := h.textLogs.handle LogKind.text h.database e
    (fault, spawnAll { h with textLogs } spawns)

/-- Lets one bot's deliveries come to their end. -/
def settleBot (h : Hub) (bot : Int) : Hub :=
  match Assoc.get? bot h.dispatchers with
  | some d =>
    let (d, surroundings) := d.settle (Draft.render h.oracle) h.surroundings
    { h with surroundings, dispatchers := Assoc.put bot d h.dispatchers }
  | none => h

/-- Lets all deliveries come to their end, bot by bot. -/
def settle (h : Hub) : Hub := (h.dispatchers.map (·.1)).foldl settleBot h

/-- Breaks all deliveries off and signs the bots out. -/
def close (h : Hub) : Hub :=
  let telegram := (h.dispatchers.map (·.1)).foldl (fun (t : Telegram) bot => t.signOut bot) h.surroundings.telegram
  { h with
    dispatchers := h.dispatchers.map fun (bot, d) => (bot, d.close)
    surroundings := { h.surroundings with telegram } }

/-- Hands out what has been delivered since it was last asked for. -/
def takeDelivered (h : Hub) : List Delivered × Hub :=
  let telegram := h.surroundings.telegram
  let emptied := { telegram with delivered := [] }
  (telegram.delivered, { h with surroundings := { h.surroundings with telegram := emptied } })

end Hub

end ChainAlerts
