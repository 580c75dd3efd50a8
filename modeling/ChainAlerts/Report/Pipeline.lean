import ChainAlerts.Pipeline
import ChainAlerts.Report.Hub

/-! How a pipeline stands, as JSON. -/

namespace ChainAlerts

/-- A stream by its address, its state and its counts. -/
def EventStream.report (s : EventStream) : Json :=
  .arr [.str s.url, .str s.state.name, .int s.stats.messages, .int s.stats.events, .int s.stats.staleEvents,
    .int s.stats.callbackErrors]

namespace Pipeline

/-- The phase, the counts and the streams. -/
def report (p : Pipeline) : Json :=
  let c := p.intake
  .obj [("state", .str p.phase.name), ("is_running", .bool p.isRunning), ("started", .bool p.hasRun),
    ("events_received", .int c.received), ("trade_swaps", .int c.swaps), ("liquidity_events", .int c.liquidity),
    ("prelaunch_events", .int c.auctions), ("nep297_logs", .int c.structuredLogs), ("text_logs", .int c.textLogs),
    ("errors", .int c.errors), ("last_error", .ofText? c.lastError), ("has_last_event", .bool (0 < c.received)),
    ("streams", .arr (p.streams.map fun (_, s) => s.report))]

/-- What was started: the bots, the streams with what each asks for, and the number of known prices. -/
def reportStart (p : Pipeline) : Json :=
  .obj [("bots", .arr (p.hub.dispatchers.map fun (bot, _) => .int bot)),
    ("streams", .arr (p.streams.map fun (_, s) => .arr [.str s.url, .str EventStream.subscription])),
    ("tokens", .int p.hub.surroundings.prices.length), ("refresh_failures", .int p.refreshFailures)]

/-- How a pipeline ended: its phase, what it asked of the web, and whether its session is closed. -/
def reportStop (p : Pipeline) : Json :=
  .obj [("state", .str p.phase.name), ("requests", .arr (p.hub.surroundings.net.web.requests.map WebRequest.report)),
    ("session_closed", .bool (p.session = .closed))]

end Pipeline

end ChainAlerts
