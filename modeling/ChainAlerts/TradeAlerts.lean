import ChainAlerts.Draft
import ChainAlerts.Matching
import ChainAlerts.Subscriptions

/-! Notifications of trades, changes of liquidity and auctions for all bots. An event goes to every bot;
each bot matches it against its own index. What fails in the matching of one bot does not keep the event
from the others. The launch of a token moves the subscriptions of its auction to the token. -/

namespace ChainAlerts

/-- A delivery that is to be started. -/
structure Spawn where
  bot : Int
  chat : Int
  draft : Draft

/-- A bot's index and the counts of its matching. -/
structure TradeBot where
  index : SubscriberIndex := {}
  counts : MatchCounts := {}

/-- The bots that take part and what has happened so far. -/
structure TradeAlerts where
  bots : List (Int × TradeBot) := []
  events : Nat := 0
  dispatched : Nat := 0
  launches : Nat := 0
  botErrors : Nat := 0
  skippedBots : List Int := []

/-- The events that trade notifications are about. -/
inductive TradeEvent where
  | swap (e : Swap)
  | liquidity (e : LiquidityChange)
  | auction (e : AuctionEvent)

/-- The changes that an event makes. -/
def TradeEvent.balanceChanges : TradeEvent → List BalanceChange
  | .swap e => e.balanceChanges
  | .liquidity e => e.balanceChanges
  | .auction e => e.balanceChanges

namespace TradeAlerts

/-- What the handling of an event looks up. -/
structure Sources where
  oracle : Oracle
  prices : PriceList
  routes : TrendingRoutes

/-- How far the handling of an event has come. -/
structure Round where
  database : Database
  net : Net
  alerts : TradeAlerts
  spawns : List Spawn := []

/-- Runs a call on a bot's subscriptions. -/
def perform {α : Type} (call : Int → Subscriptions.Attempt α) (bot : Int) (shelf : Store.Shelf) :
    Except SubscriptionError α × Store.Shelf :=
  (Subscriptions.store bot).runAlone (call bot) shelf

/-- Lets a bot take part once its index is made. A bot whose index cannot be made is left out. -/
def addBot (bot : Int) (database : Database) (t : TradeAlerts) : Bool × TradeAlerts :=
  match perform Subscriptions.rebuild bot { database } with
  | (.ok _, shelf) => (true, { t with bots := Assoc.put bot { index := shelf.index } t.bots })
  | (.error _, _) => (false, { t with skippedBots := t.skippedBots ++ [bot] })

/-- Runs a call on the subscriptions of a bot that takes part. -/
def call? {α : Type} (call : Int → Subscriptions.Attempt α) (bot : Int) (database : Database)
    (t : TradeAlerts) : Option (Except SubscriptionError α × Database × TradeAlerts) :=
  match Assoc.get? bot t.bots with
  | none => none
  | some b =>
    let (result, shelf) := perform call bot { database, index := b.index }
    some (result, shelf.database, { t with bots := Assoc.put bot { b with index := shelf.index } t.bots })

/-- Matches an event for one bot. A failure is counted and goes no further. -/
def matchFor (sources : Sources) (changes : List BalanceChange) (bot : Int) (b : TradeBot) (r : Round) : Round :=
  let matcher : Matcher := {
    bot, index := b.index, database := r.database, oracle := sources.oracle, prices := sources.prices
    routes := sources.routes }
  let (outcome, state) := Matching.changes matcher changes { net := r.net, counts := b.counts }
  let alerts := { r.alerts with bots := Assoc.put bot { b with counts := state.counts } r.alerts.bots }
  { r with
    net := state.net
    spawns := r.spawns ++ state.alerts.map fun a => ⟨bot, a.chat, .trade a.chat a.settings a.trade⟩
    alerts := match outcome with
      | .ok n => { alerts with dispatched := alerts.dispatched + n }
      | .error _ => { alerts with botErrors := alerts.botErrors + 1 } }

/-- The announcements of a launch to the chats that were moved, disabled ones excepted. -/
def launchSpawns (bot auction : Int) (account : String) (moved : List (Int × Bool)) : List Spawn :=
  (moved.filter (·.2)).map fun (chat, _) => ⟨bot, chat, .ready (launchNotification chat auction account)⟩

/-- Moves one bot's subscriptions of an auction to the launched token. Errors of the store and of the
index are counted and go no further. -/
def launchFor (auction : Int) (account : String) (bot : Int) (b : TradeBot) (r : Round) :
    Except Fault Unit × Round :=
  let (result, shelf) :=
    perform (Subscriptions.migrate · (.prelaunch auction) (.fungible account)) bot
      { database := r.database, index := b.index }
  let r := { r with
    database := shelf.database
    alerts := { r.alerts with bots := Assoc.put bot { b with index := shelf.index } r.alerts.bots } }
  match result with
  | .ok moved => (.ok (), { r with spawns := r.spawns ++ launchSpawns bot auction account moved })
  | .error (.store (.fault f)) | .error (.settings f) => (.error f, r)
  | .error _ => (.ok (), { r with alerts := { r.alerts with botErrors := r.alerts.botErrors + 1 } })

/-- Moves the subscriptions of all bots until a fault passes. -/
def launchAll (auction : Int) (account : String) : List (Int × TradeBot) → Round → Except Fault Unit × Round
  | [], r => (.ok (), r)
  | (bot, b) :: rest, r =>
    match launchFor auction account bot b r with
    | (.ok _, r) => launchAll auction account rest r
    | (.error f, r) => (.error f, r)

/-- Handles an event for all bots. -/
def handle (sources : Sources) (event : TradeEvent) (r : Round) : Except Fault Unit × Round :=
  let r := { r with alerts := { r.alerts with events := r.alerts.events + 1 } }
  match event with
  | .auction (.launch auction account _ _) =>
    launchAll auction account r.alerts.bots
      { r with alerts := { r.alerts with launches := r.alerts.launches + 1 } }
  | event =>
    (.ok (), r.alerts.bots.foldl (fun r (bot, b) => matchFor sources event.balanceChanges bot b r) r)

end TradeAlerts

end ChainAlerts
