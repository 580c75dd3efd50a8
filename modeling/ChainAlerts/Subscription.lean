import ChainAlerts.Assoc
import ChainAlerts.Notification
import ChainAlerts.Token

/-! What a chat asked for: for each token it follows, the changes it wants to hear of, from which
amount on, and how a notification is to look. Attachments are kept in ascending order of their
thresholds; equal thresholds keep the order in which they were given. -/

namespace ChainAlerts

/-- The least amount a chat wants to hear of, in a token's smallest units or in dollars. -/
inductive MinAmount where
  | token (raw : Int)
  | usd (value : Decimal)
  deriving DecidableEq, Repr

/-- The direction of a change. -/
inductive Polarity where
  | buy | sell | lpAdd | lpRemove
  deriving DecidableEq, Repr

inductive Currency where
  | token | usd
  deriving DecidableEq, Repr

/-- Media that is sent when a change is at least as large as the threshold. -/
structure Attachment where
  threshold : Decimal
  media : Media
  deriving DecidableEq, Repr

/-- A part of a trade notification. -/
inductive Component where
  | emoji (sign : String) (usdPerEmoji : Decimal) (maxEmojis : Int)
  | tradeAmount
  | trader
  | price
  | marketCap
  | contractAddress
  | whaleAlert (threshold : Decimal)
  | txLink
  deriving DecidableEq, Repr

/-- The parts of a notification unless a chat chooses others. -/
def Component.defaults : List Component :=
  [.emoji (String.singleton (Char.ofNat 0x1f7e2)) (.ofNat 10) 50, .tradeAmount, .trader, .price, .marketCap,
    .txLink]

/-- The settings for one followed token. -/
structure Subscription where
  buys : Bool := true
  sells : Bool := false
  lpAdd : Bool := false
  lpRemove : Bool := false
  minAmount : MinAmount := .usd (.ofNat 0)
  attachments : List Attachment := []
  currency : Currency := .usd
  components : List Component := Component.defaults
  links : List Button := []
  buttons : List (List Button) := []
  deriving DecidableEq, Repr

/-- One chat's settings: the tokens it follows, in the order in which it began to. -/
structure Subscriber where
  enabled : Bool := true
  tokens : List (Token × Subscription) := []
  deriving DecidableEq, Repr

namespace Polarity

def name : Polarity → String
  | .buy => "buy"
  | .sell => "sell"
  | .lpAdd => "lp_add"
  | .lpRemove => "lp_remove"

def all : List Polarity := [.buy, .sell, .lpAdd, .lpRemove]

def ofJson (v : Json) : Except Fault Polarity :=
  match all.find? fun p => v.isText p.name with
  | some p => .ok p
  | none => .error (.notMember "Polarity" v)

end Polarity

namespace Currency

def name : Currency → String
  | .token => "token"
  | .usd => "usd"

def ofJson (v : Json) : Except Fault Currency :=
  match [Currency.token, .usd].find? fun c => v.isText c.name with
  | some c => .ok c
  | none => .error (.notMember "AttachmentCurrency" v)

end Currency

namespace MinAmount

/-- Whether an amount is short enough to be written as a text. -/
def isWritable : MinAmount → Bool
  | .token raw => Integer.isWritable raw
  | .usd _ => true

def toJson : MinAmount → Json
  | .token raw => .obj [("type", .str "token"), ("amount", .str (Text.intText raw))]
  | .usd value => .obj [("type", .str "usd"), ("amount", .str value.text)]

def ofJson (v : Json) : Except Fault MinAmount := do
  let kind ← v.fieldOrNull "type"
  if kind.isText "token" then return .token (← (← v.field "amount").integer)
  else if kind.isText "usd" then return .usd (← (← v.field "amount").decimal)
  else throw (.unknownThreshold kind)

/-- An amount that may not be given; none is given means every amount. -/
def ofJson? : Option Json → Except Fault MinAmount
  | some v => ofJson v
  | none => .ok (.usd (.ofNat 0))

end MinAmount

namespace Attachment

def toJson (a : Attachment) : Json :=
  .obj [("threshold", .str a.threshold.text), ("media", a.media.toJson)]

def ofJson (v : Json) : Except Fault Attachment := do
  return { threshold := ← (← v.field "threshold").decimal, media := ← Media.ofJson (← v.field "media") }

/-- Puts an attachment before the first one whose threshold is not smaller. -/
def insert (a : Attachment) : List Attachment → List Attachment
  | [] => [a]
  | b :: rest => if b.threshold.ltNumber a.threshold then b :: insert a rest else a :: b :: rest

/-- Attachments in ascending order of their thresholds, equal ones in the order given. -/
def sort (attachments : List Attachment) : List Attachment := attachments.foldr insert []

/-- Attachments in the order in which they are kept. Two or more cannot be ordered if a threshold is
no number. -/
def ordered (attachments : List Attachment) : Except Fault (List Attachment) :=
  if 2 ≤ attachments.length && attachments.any (·.threshold.isNan) then .error (.arithmetic .invalid)
  else .ok (sort attachments)

end Attachment

namespace Component

/-- The components without settings of their own. -/
def plain : List (String × Component) :=
  [("trade_amount", .tradeAmount), ("trader", .trader), ("price", .price), ("market_cap", .marketCap),
    ("contract_address", .contractAddress), ("tx_link", .txLink)]

def toJson : Component → Json
  | .emoji sign usdPerEmoji maxEmojis =>
    .obj [("type", .str "emoji"), ("emoji", .str sign), ("usd_per_emoji", .str usdPerEmoji.text),
      ("max_emojis", .int maxEmojis)]
  | .whaleAlert threshold => .obj [("type", .str "whale_alert"), ("threshold_usd", .str threshold.text)]
  | .tradeAmount => .obj [("type", .str "trade_amount")]
  | .trader => .obj [("type", .str "trader")]
  | .price => .obj [("type", .str "price")]
  | .marketCap => .obj [("type", .str "market_cap")]
  | .contractAddress => .obj [("type", .str "contract_address")]
  | .txLink => .obj [("type", .str "tx_link")]

def ofJson (v : Json) : Except Fault Component := do
  let kind ← v.fieldOrNull "type"
  match kind with
  | .str "emoji" =>
    return .emoji (← v.field "emoji").text (← (← v.field "usd_per_emoji").decimal)
      (← (← v.field "max_emojis").integer)
  | .str "whale_alert" => return .whaleAlert (← (← v.field "threshold_usd").decimal)
  | .str name =>
    match Assoc.get? name plain with
    | some component => return component
    | none => throw (.unknownComponent kind)
  | .arr _ | .obj _ => throw (.unhashable kind.kind)
  | _ => throw (.unknownComponent kind)

def listOfJson (v : Json) : Except Fault (List Component) := do (← v.elements).mapM ofJson

/-- Components that may not be given. -/
def listOfJson? : Option Json → Except Fault (List Component)
  | some v => listOfJson v
  | none => .ok defaults

end Component

namespace Subscription

/-- Whether changes of a direction are wanted. -/
def wants (s : Subscription) : Polarity → Bool
  | .buy => s.buys
  | .sell => s.sells
  | .lpAdd => s.lpAdd
  | .lpRemove => s.lpRemove

/-- Asks for the changes of a direction, or no longer does. -/
def setPolarity (s : Subscription) (p : Polarity) (wanted : Bool) : Subscription :=
  match p with
  | .buy => { s with buys := wanted }
  | .sell => { s with sells := wanted }
  | .lpAdd => { s with lpAdd := wanted }
  | .lpRemove => { s with lpRemove := wanted }

/-- The settings with their attachments in order. -/
def arranged (s : Subscription) : Except Fault Subscription := do
  return { s with attachments := ← Attachment.ordered s.attachments }

def toJson (s : Subscription) : Json :=
  .obj [("buys", .bool s.buys), ("sells", .bool s.sells), ("lp_add", .bool s.lpAdd),
    ("lp_remove", .bool s.lpRemove), ("min_amount", s.minAmount.toJson),
    ("attachments", .arr (s.attachments.map Attachment.toJson)),
    ("attachment_currency", .str s.currency.name),
    ("components", .arr (s.components.map Component.toJson)), ("links", .arr (s.links.map Button.toJson)),
    ("buttons", .arr (s.buttons.map fun row => .arr (row.map Button.toJson)))]

/-- A yes-or-no setting; every value that counts as set means yes. -/
def flag (key : String) (default : Bool) (v : Json) : Except Fault Bool := do
  return ((← v.field? key).getD (.bool default)).truth

/-- Reads the settings for one token. What is not given has its default. -/
def ofJson (v : Json) : Except Fault Subscription := do
  let buys ← flag "buys" true v
  let sells ← flag "sells" false v
  let lpAdd ← flag "lp_add" false v
  let lpRemove ← flag "lp_remove" false v
  let minAmount ← MinAmount.ofJson? (← v.field? "min_amount")
  let attachments ← (← ((← v.field? "attachments").getD (.arr [])).elements).mapM Attachment.ofJson
  let currency ← Currency.ofJson ((← v.field? "attachment_currency").getD (.str "usd"))
  let components ← Component.listOfJson? (← v.field? "components")
  let links ← (← ((← v.field? "links").getD (.arr [])).elements).mapM Button.ofJson
  let buttons ← Button.rowsOfJson ((← v.field? "buttons").getD (.arr []))
  arranged { buys, sells, lpAdd, lpRemove, minAmount, attachments, currency, components, links, buttons }

end Subscription

namespace Subscriber

/-- Follows a token under the given settings. -/
def withToken (s : Subscriber) (token : Token) (settings : Subscription) : Subscriber :=
  { s with tokens := Assoc.put token settings s.tokens }

/-- Follows a token no longer. -/
def withoutToken (s : Subscriber) (token : Token) : Subscriber :=
  { s with tokens := Assoc.erase token s.tokens }

def follows (s : Subscriber) (token : Token) : Bool := Assoc.contains token s.tokens

/-- A token and its settings as a field of a record. -/
def writeEntry (entry : Token × Subscription) : String × Json := (entry.1.key, entry.2.toJson)

/-- Reads a field of a record as a token and its settings. -/
def readEntry (field : String × Json) : Except Fault (Token × Subscription) := do
  return (← Token.parse field.1, ← Subscription.ofJson field.2)

def toJson (s : Subscriber) : Json :=
  .obj [("enabled", .bool s.enabled), ("tokens", .obj (Assoc.ofPairs (s.tokens.map writeEntry)))]

/-- Whether every integer that is written as a text is short enough. -/
def isWritable (s : Subscriber) : Bool :=
  s.tokens.all fun (token, settings) => token.isWritable && settings.minAmount.isWritable

/-- A chat's settings as a payload, if they can be written. -/
def write (s : Subscriber) : Except Fault Json :=
  if s.isWritable then .ok s.toJson else .error .tooLongToWrite

/-- Reads a chat's settings. Two keys that file the same token count as one, with the later
settings. -/
def ofJson (v : Json) : Except Fault Subscriber := do
  let enabled ← Subscription.flag "enabled" true v
  let entries ← ((← v.field? "tokens").getD (.obj [])).entries
  let tokens ← entries.mapM readEntry
  return { enabled, tokens := Assoc.ofPairs tokens }

end Subscriber

end ChainAlerts
