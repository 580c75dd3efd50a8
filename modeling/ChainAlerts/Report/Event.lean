import ChainAlerts.Event
import ChainAlerts.Json.Options

/-! Events as JSON, for whoever looks at what was read from a payload. A moment outside the years that a
calendar shows is reported as such. -/

namespace ChainAlerts

/-- Signed amounts under their tokens, in order. -/
def reportLegs (legs : List (String × Int)) : Json :=
  .arr (legs.map fun (token, amount) => .arr [.str token, .ofBig amount])

/-- The calendar form of a moment. -/
def reportMoment (nanoseconds : Int) : Json :=
  match Instant.calendar? nanoseconds with
  | some s => .str s
  | none => .obj [("error", .str "range")]

def Swap.report (e : Swap) : Json :=
  .obj [("type", .str "TradeSwapEvent"), ("trader", .str e.trader), ("balance_changes", reportLegs e.changes),
    ("block_height", .ofBig e.blockHeight), ("block_timestamp_nanosec", .ofBig e.nanoseconds),
    ("transaction_id", .str e.transaction), ("referrer", e.referrer), ("timestamp", reportMoment e.nanoseconds)]

def LiquidityChange.report (e : LiquidityChange) : Json :=
  .obj [("type", .str "LiquidityPoolEvent"), ("provider_account_id", .str e.provider), ("pool_id", .str e.pool),
    ("tokens", reportLegs [e.first, e.second]), ("block_height", .ofBig e.blockHeight),
    ("block_timestamp_nanosec", .ofBig e.nanoseconds), ("transaction_id", .str e.transaction),
    ("timestamp", reportMoment e.nanoseconds)]

def TextLog.report (e : TextLog) : Json :=
  .obj [("type", .str "LogTextEvent"), ("account_id", .str e.account), ("predecessor_id", .str e.predecessor),
    ("log_text", .str e.line), ("transaction_id", .str e.transaction), ("block_height", .ofBig e.blockHeight),
    ("block_timestamp_nanosec", .ofBig e.nanoseconds), ("is_testnet", .bool e.testnet),
    ("timestamp", reportMoment e.nanoseconds)]

def StructuredLog.report (e : StructuredLog) : Json :=
  .obj [("type", .str "LogNep297Event"), ("account_id", .str e.account), ("predecessor_id", .str e.predecessor),
    ("event_standard", .str e.standard), ("event_version", .str e.version), ("event_event", .str e.event),
    ("event_data", e.data), ("transaction_id", .str e.transaction), ("block_height", .ofBig e.blockHeight),
    ("block_timestamp_nanosec", .ofBig e.nanoseconds), ("is_testnet", .bool e.testnet),
    ("timestamp", reportMoment e.nanoseconds)]

def AuctionEvent.report : AuctionEvent → Json
  | .deposit auction trader amount transaction nanoseconds referrer =>
    .obj [("type", .str "PrelaunchDepositEvent"), ("auction_id", .ofBig auction), ("trader", .str trader),
      ("amount", .ofBig amount), ("transaction_id", .str transaction),
      ("block_timestamp_nanosec", .ofBig nanoseconds), ("referrer", referrer)]
  | .withdraw auction trader amount transaction nanoseconds =>
    .obj [("type", .str "PrelaunchWithdrawEvent"), ("auction_id", .ofBig auction), ("trader", .str trader),
      ("amount", .ofBig amount), ("transaction_id", .str transaction),
      ("block_timestamp_nanosec", .ofBig nanoseconds)]
  | .launch auction token transaction nanoseconds =>
    .obj [("type", .str "PrelaunchFinalizeEvent"), ("auction_id", .ofBig auction),
      ("token_account_id", .str token), ("transaction_id", .str transaction),
      ("block_timestamp_nanosec", .ofBig nanoseconds)]

end ChainAlerts
