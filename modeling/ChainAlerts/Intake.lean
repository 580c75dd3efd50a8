import ChainAlerts.EventStream
import ChainAlerts.Hub

/-! The feeds of events that the service follows, and what is counted as their payloads come in. A payload
is read as the event of its feed and handed on; a structured log of the main network is read a second
time, as a step in an auction. A payload that turns out malformed is counted and dropped. -/

namespace ChainAlerts

/-- A feed: a kind of event on a network. -/
inductive Feed where
  | swaps
  | liquidity
  | structuredLogs (testnet : Bool)
  | textLogs (testnet : Bool)
  deriving DecidableEq, Repr

namespace Feed

def kind : Feed → String
  | .swaps => "trade_swap"
  | .liquidity => "liquidity_pool"
  | .structuredLogs _ => "log_nep297"
  | .textLogs _ => "log_text"

/-- Whether a feed is of the test network. -/
def testnet : Feed → Bool
  | .swaps | .liquidity => false
  | .structuredLogs testnet | .textLogs testnet => testnet

/-- The feeds that are followed. Of the test network only logs are. -/
def followed (testnet : Bool) : List Feed :=
  [.swaps, .liquidity, .structuredLogs false, .textLogs false] ++
    if testnet then [.structuredLogs true, .textLogs true] else []

/-- A way to read a payload. The event it announces may be of no interest. -/
abbrev Reading : Type := Json → Except Fault (Option ChainEvent)

def readSwap : Reading := fun data => do return some (.trade (.swap (← Swap.ofJson data)))

def readLiquidity : Reading := fun data => do return some (.trade (.liquidity (← LiquidityChange.ofJson data)))

def readStructured (testnet : Bool) : Reading := fun data => do
  return some (.structured (← StructuredLog.ofJson testnet data))

def readText (testnet : Bool) : Reading := fun data => do return some (.text (← TextLog.ofJson testnet data))

def readAuction : Reading := fun data => do
  return (← AuctionEvent.ofJson? data).map fun e => .trade (.auction e)

/-- The ways in which the payloads of a feed are read, one after the other. Auctions are held on the main
network only. -/
def readings : Feed → List Reading
  | .swaps => [readSwap]
  | .liquidity => [readLiquidity]
  | .structuredLogs true => [readStructured true]
  | .structuredLogs false => [readStructured false, readAuction]
  | .textLogs testnet => [readText testnet]

end Feed

/-- What has come in so far. -/
structure Intake where
  received : Nat := 0
  swaps : Nat := 0
  liquidity : Nat := 0
  auctions : Nat := 0
  structuredLogs : Nat := 0
  textLogs : Nat := 0
  errors : Nat := 0
  lastError : Option String := none
  deriving DecidableEq, Repr

namespace Intake

/-- Counts an event by what it is. -/
def note (event : ChainEvent) (c : Intake) : Intake :=
  match event with
  | .trade (.swap _) => { c with swaps := c.swaps + 1 }
  | .trade (.liquidity _) => { c with liquidity := c.liquidity + 1 }
  | .trade (.auction _) => { c with auctions := c.auctions + 1 }
  | .structured _ => { c with structuredLogs := c.structuredLogs + 1 }
  | .text _ => { c with textLogs := c.textLogs + 1 }

/-- Counts a malformed payload. -/
def drop (cause : Fault) (c : Intake) : Intake :=
  { c with errors := c.errors + 1, lastError := some cause.message }

variable {σ : Type}

/-- Where events are handed on to. The handling of an event may end in a fault. -/
abbrev Sink (σ : Type) : Type := ChainEvent → σ → Option Fault × σ

/-- Reads a payload in several ways, one after the other, and hands on what is read. A malformed payload
is not read any further; every other fault passes. -/
def readAll (sink : Sink σ) (payload : Json) : List Feed.Reading → Intake × σ → Option Fault × (Intake × σ)
  | [], s => (none, s)
  | read :: rest, (c, s) =>
    match read payload with
    | .error f => if f.isMalformed then (none, (c.drop f, s)) else (some f, (c, s))
    | .ok none => readAll sink payload rest (c, s)
    | .ok (some event) =>
      match sink event s with
      | (none, s) => readAll sink payload rest (c.note event, s)
      | (some f, s) => (some f, (c.note event, s))

/-- Takes in a payload of a feed. -/
def take (sink : Sink σ) (feed : Feed) (payload : Json) (s : Intake × σ) : Option Fault × (Intake × σ) :=
  readAll sink payload feed.readings ({ s.1 with received := s.1.received + 1 }, s.2)

end Intake

end ChainAlerts
