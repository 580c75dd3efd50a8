import ChainAlerts.Amount
import ChainAlerts.Markdown
import ChainAlerts.Prices
import ChainAlerts.Valuation

/-! Notifications of trades. A notification is a headline, the components the chat chose and its links.
Each component is made on its own: one that fails is replaced by a word, and one that has nothing to
show is left out. -/

namespace ChainAlerts

/-- What a notification is about. The amount is in units of `valueToken`, which is the token itself or
the native one for a token still in its auction. -/
structure Trade where
  token : Token
  valueToken : String
  amount : Int
  polarity : Polarity
  trader : String
  transaction : String
  metadata : Option TokenMetadata := none
  price : Option Decimal := none

/-- What stands in place of a component that failed. -/
def errorMark : String := "Error"

namespace Trade

def usd (t : Trade) : Except Fault (Option Decimal) :=
  usdValue t.amount t.price (t.metadata.map (·.decimals))

def verb (t : Trade) : String :=
  match t.polarity with
  | .buy => "Bought"
  | .sell => "Sold"
  | .lpAdd => "Added"
  | .lpRemove => "Removed"

def headline (t : Trade) (symbol : String) : String :=
  match t.polarity with
  | .buy => symbol ++ " Buy!"
  | .sell => symbol ++ " Sell!"
  | .lpAdd => symbol ++ " Liquidity Added"
  | .lpRemove => symbol ++ " Liquidity Removed"

def isPrelaunch (t : Trade) : Bool :=
  match t.token with
  | .prelaunch _ => true
  | .fungible _ => false

end Trade

namespace Component

/-- The length beyond which no text is made, and the bound on how often one is repeated. -/
def longest : Nat := 1099511627776
def repeatBound : Nat := 9223372036854775808

/-- A text repeated. A text beyond all bounds is not made. -/
def repeated (s : String) (n : Nat) : Except Fault String :=
  if repeatBound ≤ n ∨ longest < n * s.length then .error .repeatTooLarge
  else if s = "" then .ok ""
  else .ok (String.join (List.replicate n s))

/-- The whole number of times that one value goes into another. -/
def quotient (value unit : Decimal) : Except Fault Int := do
  match ← (value.div unit).mapError Fault.arithmetic with
  | .finite s c e => return ((Decimal.finite s c e).truncate?).getD 0
  | .infinite _ => throw .infinityToInteger
  | .nan .. => throw .nanToInteger

/-- One sign for each unit of value, at least one and at most `maxEmojis`. -/
def emojiRow (t : Trade) (sign : String) (unit : Decimal) (maxEmojis : Int) : Except Fault String := do
  match ← t.usd with
  | none => return sign
  | some value =>
    if ← unit.isNonpositive.mapError .arithmetic then return sign
    repeated sign (max 1 (min maxEmojis (← quotient value unit))).toNat

/-- The amount in whole tokens, with its value if that is known and positive. -/
def amountLine (t : Trade) : Except Fault String := do
  match t.metadata with
  | none => throw .noMetadata
  | some m =>
    let amount ← Amount.tokenText t.amount.natAbs m.decimals m.symbol
    let text := t.verb ++ ": " ++ amount
    match ← t.usd with
    | none => return Markdown.escape text
    | some value =>
      if ← value.isNonpositive.mapError .arithmetic then return Markdown.escape text
      return Markdown.escape (text ++ " (" ++ (← Amount.usdOfDecimal value) ++ ")")

def priceLine (t : Trade) : Except Fault String :=
  match t.isPrelaunch, t.price with
  | false, some perToken => do return Markdown.escape ("Price: " ++ (← Amount.usdOfDecimal perToken))
  | _, _ => .ok ""

/-- Whether the supply has to be known for the market capitalisation to be shown. -/
def needsSupply (t : Trade) : Bool := !t.isPrelaunch && t.price.isSome && t.metadata.isSome

/-- A signed integer as a decimal number. -/
def decimalOfInt (n : Int) : Decimal := .finite (n < 0) n.natAbs 0

def marketCapLine (t : Trade) (supply : Int) : Except Fault String := do
  match t.price, t.metadata with
  | some perToken, some m =>
    let value ← (do (← (decimalOfInt supply).div (← Decimal.tenPower m.decimals)).mul perToken :
      Except DecimalFault Decimal).mapError .arithmetic
    return Markdown.escape ("Market Cap: " ++ (← Amount.usdOfDecimal value))
  | _, _ => return ""

def contractLine (t : Trade) : String :=
  match t.token with
  | .fungible account =>
    let mark := String.singleton (Char.ofNat 96)
    "CA: " ++ mark ++ Markdown.escape account ++ mark
  | .prelaunch auction =>
    let n := Text.intText auction
    "[Pre\\-launch auction \\#" ++ n ++ "](https://meme.cooking/meme/" ++ n ++ ")"

/-- The sign of a whale. -/
def whale : String := String.singleton (Char.ofNat 0x1f40b)

def whaleLine (t : Trade) (threshold : Decimal) : Except Fault String := do
  match ← t.usd with
  | none => return ""
  | some value =>
    if ← (value.lt threshold).mapError .arithmetic then return ""
    return Markdown.escape (whale ++ " Whale alert! " ++ (← Amount.usdOfDecimal value))

/-- A component that needs nothing but the trade itself. The market capitalisation is none of
these. -/
def plainText (t : Trade) : Component → Except Fault String
  | .emoji sign unit maxEmojis => emojiRow t sign unit maxEmojis
  | .tradeAmount => amountLine t
  | .trader => .ok ("Trader: " ++ Markdown.accountLink t.trader)
  | .price => priceLine t
  | .marketCap => .ok ""
  | .contractAddress => .ok (contractLine t)
  | .whaleAlert threshold => whaleLine t threshold
  | .txLink => .ok (Markdown.transactionLink t.transaction "Tx")

/-- A component's text, or the mark of its failure. -/
def render (o : Oracle) (prices : PriceList) (t : Trade) (c : Component) : StateM Net String := do
  match c with
  | .marketCap =>
    if needsSupply t then
      match ← o.totalSupply prices t.valueToken with
      | .ok supply => return (marketCapLine t supply).toOption.getD errorMark
      | .error _ => return errorMark
    else return ""
  | c => return (plainText t c).toOption.getD errorMark

/-- The texts of components, the empty ones left out. -/
def renderAll (o : Oracle) (prices : PriceList) (t : Trade) (components : List Component) :
    StateM Net (List String) := do
  return (← components.mapM (render o prices t)).filter (· ≠ "")

end Component

/-- The line of links under a notification, if there are any. -/
def linkLines (links : List Button) : List String :=
  if links.isEmpty then []
  else ["", " \\| ".intercalate (links.map fun b => Markdown.link b.text b.url)]

/-- The notification of a trade to a chat with the given settings. -/
def tradeNotification (o : Oracle) (prices : PriceList) (chat : Int) (settings : Subscription) (t : Trade)
    (symbol : String) : StateM Net (Except Fault Notification) := do
  let body ← Component.renderAll o prices t settings.components
  let lines := ["*" ++ Markdown.escape (t.headline symbol) ++ "*", ""] ++ body ++ linkLines settings.links
  return do
    let magnitude ← settings.currency.magnitude t.amount t.usd
    return {
      chat
      text := "\n".intercalate lines
      buttons := settings.buttons
      media := ← Attachment.select magnitude none settings.attachments
      context := [("token", t.token.key), ("tx", t.transaction)] }

/-- The announcement that a token followed before its launch now trades. -/
def launchNotification (chat auction : Int) (token : String) : Notification where
  chat
  text :=
    let mark := String.singleton (Char.ofNat 96)
    "*" ++ Markdown.escape ("Pre-launch #" ++ Text.intText auction ++ " has launched!") ++ "*\n\n" ++
      Markdown.escape "Your notification settings now follow" ++ " " ++ mark ++ Markdown.escape token ++ mark
  context := [("token", token), ("auction", Text.intText auction)]

/-- The name of a token in a headline. -/
def displaySymbol (token : Token) (metadata : Option TokenMetadata) : String :=
  match token with
  | .prelaunch auction => "Pre-launch #" ++ Text.intText auction
  | .fungible account => (metadata.map (·.symbol)).getD account

end ChainAlerts
