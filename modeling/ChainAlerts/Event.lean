import ChainAlerts.Instant
import ChainAlerts.Token

/-! Events observed on chain, and how each is read from the payload that announces it. Amounts are in
a token's smallest units and signed. -/

namespace ChainAlerts

/-- A swap: what each token's balance of the trader changed by. Positive changes were received,
negative ones given away. -/
structure Swap where
  trader : String
  changes : List (String × Int)
  blockHeight : Int
  nanoseconds : Int
  transaction : String
  referrer : Json

/-- Liquidity added to or taken from a pool of two tokens. -/
structure LiquidityChange where
  provider : String
  pool : String
  first : String × Int
  second : String × Int
  blockHeight : Int
  nanoseconds : Int
  transaction : String

/-- A step in a pre-launch auction. Deposits and withdrawals are in NEAR; a launch names the token
that the auction became. -/
inductive AuctionEvent where
  | deposit (auction : Int) (trader : String) (amount : Int) (transaction : String) (nanoseconds : Int)
      (referrer : Json)
  | withdraw (auction : Int) (trader : String) (amount : Int) (transaction : String) (nanoseconds : Int)
  | launch (auction : Int) (token : String) (transaction : String) (nanoseconds : Int)

/-- A line of text that a contract logged. -/
structure TextLog where
  account : String
  predecessor : String
  line : String
  transaction : String
  blockHeight : Int
  nanoseconds : Int
  testnet : Bool

/-- A structured event that a contract logged, with the standard and version it claims to follow. -/
structure StructuredLog where
  account : String
  predecessor : String
  standard : String
  version : String
  event : String
  data : Json
  transaction : String
  blockHeight : Int
  nanoseconds : Int
  testnet : Bool

/-- Adds an amount to a token's change; a token not yet there comes last. -/
def addChange (token : String) (amount : Int) : List (String × Int) → List (String × Int)
  | [] => [(token, amount)]
  | (t, n) :: rest => if t = token then (t, n + amount) :: rest else (t, n) :: addChange token amount rest

/-- The net change of each token, in the order in which the tokens first occur. -/
def netChanges (legs : List (String × Int)) : List (String × Int) :=
  legs.foldl (fun changes (token, amount) => addChange token amount changes) []

/-- Reads amounts filed under token accounts. -/
def readLegs (entries : List (String × Json)) : Except Fault (List (String × Int)) :=
  entries.mapM fun (account, amount) => do return (normalizeToken account, ← amount.integerOfText)

namespace Swap

def ofJson (data : Json) : Except Fault Swap := do
  let legs ← readLegs (← ((← data.field? "balance_changes").getD (.obj [])).entries)
  return {
    changes := netChanges legs
    trader := (← data.field "trader").text
    blockHeight := ← (← data.field "block_height").integer
    nanoseconds := ← (← data.field "block_timestamp_nanosec").integerOfText
    transaction := (← data.field "transaction_id").text
    referrer := ← data.fieldOrNull "referrer" }

end Swap

namespace LiquidityChange

/-- Reads a change of liquidity, which names exactly two tokens. -/
def ofJson (data : Json) : Except Fault LiquidityChange := do
  let legs ← readLegs (← ((← data.field? "tokens").getD (.obj [])).entries)
  match legs with
  | [first, second] => return {
      first, second
      provider := (← data.field "provider_account_id").text
      pool := (← data.field "pool_id").text
      blockHeight := ← (← data.field "block_height").integer
      nanoseconds := ← (← data.field "block_timestamp_nanosec").integerOfText
      transaction := (← data.field "transaction_id").text }
  | _ => throw (.tokenCount legs.length)

end LiquidityChange

namespace AuctionEvent

/-- The standard that the auction contract's events follow. -/
def standard : String := "meme-cooking"

def transaction : AuctionEvent → String
  | .deposit _ _ _ t _ _ | .withdraw _ _ _ t _ | .launch _ _ t _ => t

/-- Reads the event that a structured log announces, if the auction contract emitted it and it is one
of the three that matter here. -/
def ofJson? (data : Json) : Except Fault (Option AuctionEvent) := do
  if !(← data.fieldOrNull "account_id").isText auctionContract then return none
  if !(← data.fieldOrNull "event_standard").isText standard then return none
  let event ← data.fieldOrNull "event_event"
  let data' ← data.fieldOrNull "event_data"
  let details := if data'.truth then data' else .obj []
  let transaction := ((← data.field? "transaction_id").getD (.str "")).text
  let nanoseconds ← ((← data.field? "block_timestamp_nanosec").getD (.int 0)).integerOfText
  if event.isText "deposit" then
    return some (.deposit (← (← details.field "meme_id").integer) (← details.field "account_id").text
      (← (← details.field "amount").integerOfText) transaction nanoseconds (← details.fieldOrNull "referrer"))
  else if event.isText "withdraw" then
    return some (.withdraw (← (← details.field "meme_id").integer) (← details.field "account_id").text
      (← (← details.field "amount").integerOfText) transaction nanoseconds)
  else if event.isText "create_token" then
    return some (.launch (← (← details.field "meme_id").integer) (← details.field "token_id").text
      transaction nanoseconds)
  else return none

end AuctionEvent

namespace TextLog

def ofJson (testnet : Bool) (data : Json) : Except Fault TextLog := do
  return {
    account := (← data.field "account_id").text
    predecessor := (← data.field "predecessor_id").text
    line := (← data.field "log_text").text
    transaction := (← data.field "transaction_id").text
    blockHeight := ← (← data.field "block_height").integer
    nanoseconds := ← (← data.field "block_timestamp_nanosec").integerOfText
    testnet }

/-- A short description of a logged line. -/
def describe (log : TextLog) : String := s!"log {log.account} tx {log.transaction}"

end TextLog

namespace StructuredLog

def ofJson (testnet : Bool) (data : Json) : Except Fault StructuredLog := do
  return {
    account := (← data.field "account_id").text
    predecessor := (← data.field "predecessor_id").text
    standard := (← data.field "event_standard").text
    version := (← data.field "event_version").text
    event := (← data.field "event_event").text
    data := ← data.fieldOrNull "event_data"
    transaction := (← data.field "transaction_id").text
    blockHeight := ← (← data.field "block_height").integer
    nanoseconds := ← (← data.field "block_timestamp_nanosec").integerOfText
    testnet }

/-- A short description of a structured event. -/
def describe (log : StructuredLog) : String :=
  s!"{log.standard}/{log.event} from {log.account} tx {log.transaction}"

end StructuredLog

end ChainAlerts
