import ChainAlerts.Hub
import ChainAlerts.Report.Delivery

/-! The counts of all bots and of each kind of notification as JSON. -/

namespace ChainAlerts

def MatchCounts.report (c : MatchCounts) : Json :=
  .obj [("changes_seen", .int c.changes), ("candidates", .int c.candidates), ("dispatched", .int c.dispatched),
    ("skipped_disabled", .int c.disabled), ("skipped_vanished", .int c.vanished),
    ("skipped_polarity", .int c.unwanted), ("skipped_min_amount", .int c.tooSmall),
    ("store_errors", .int c.unreadable)]

def LogAlerts.report (l : LogAlerts) : Json :=
  .obj [("events", .int l.events), ("dispatched", .int l.dispatched), ("store_errors", .int l.storeErrors)]

/-- A chat's settings with its tokens in order. -/
def Subscriber.report (s : Subscriber) : Json :=
  .obj [("enabled", .bool s.enabled),
    ("tokens", .arr (s.tokens.map fun (token, settings) => .arr [.str token.key, settings.toJson]))]

/-- The counts of a bot. A bot that takes no part in the notifications of trades has no index. -/
def Hub.reportBot (h : Hub) (bot : Int) (d : Dispatcher Draft) : Json :=
  let b := Assoc.get? bot h.trades.bots
  .obj [("bot", .int bot), ("dispatcher", d.counts.report),
    ("generation", .ofOption (fun (b : TradeBot) => .int b.index.generation) b),
    ("matcher", .ofOption (fun (b : TradeBot) => b.counts.report) b)]

def Hub.report (h : Hub) : Json :=
  .obj [("bots", .arr (h.dispatchers.map fun (bot, d) => h.reportBot bot d)),
    ("buybot", .obj [("events", .int h.trades.events), ("dispatched", .int h.trades.dispatched),
      ("launches", .int h.trades.launches), ("bot_errors", .int h.trades.botErrors),
      ("skipped_bots", .arr (h.trades.skippedBots.map .int))]),
    ("nep297_logs", h.structuredLogs.report), ("text_logs", h.textLogs.report)]

end ChainAlerts
