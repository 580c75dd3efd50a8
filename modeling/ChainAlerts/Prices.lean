import ChainAlerts.Token
import ChainAlerts.ViewCall

/-! Prices, metadata and supplies of tokens. Prices come from a list that is fetched again and again;
metadata and supply of a token that is not listed are asked of its contract. -/

namespace ChainAlerts

/-- A token's name, symbol and number of decimals. -/
structure TokenMetadata where
  name : String
  symbol : String
  decimals : Int
  deriving DecidableEq, Repr

structure TokenInfo where
  account : String
  price : Decimal
  metadata : TokenMetadata
  totalSupply : Int
  circulatingSupply : Int
  deriving DecidableEq, Repr

/-- The list of prices, by token. -/
abbrev PriceList : Type := List (String × TokenInfo)

/-- Where prices are fetched, and how contracts are asked if they are. -/
structure Oracle where
  url : String := "http://prices"
  client : Option ViewCall.Client := none

/-- Why something about a token is not known. -/
inductive OracleError where
  | noMetadata (token : String)
  | metadata (token : String) (cause : ViewCall.Failure)
  | noSupply (token : String)
  | supply (token : String) (cause : ViewCall.Failure)
  | fetch (cause : String)
  | notObject

/-- The oracle's failure: an error of its own, or one that nothing guards against. -/
inductive OracleFailure where
  | oracle (e : OracleError)
  | fault (f : Fault)
  | crash (text : String)

def OracleError.message : OracleError → String
  | .noMetadata token => s!"No metadata for {token}"
  | .metadata token cause => s!"Failed to get metadata for {token}: {cause.message}"
  | .noSupply token => s!"No total supply for {token}"
  | .supply token cause => s!"Failed to get total supply for {token}: {cause.message}"
  | .fetch cause => s!"Failed to fetch price list: {cause}"
  | .notObject => "Price list is not an object"

def OracleFailure.message : OracleFailure → String
  | .oracle e => e.message
  | .fault f => f.message
  | .crash text => text

namespace TokenMetadata

/-- The native token's metadata. -/
def near : TokenMetadata := ⟨"NEAR", "NEAR", 24⟩

def ofJson (v : Json) : Except Fault TokenMetadata := do
  return {
    name := (← v.field "name").text
    symbol := (← v.field "symbol").text
    decimals := ← (← v.field "decimals").integer }

end TokenMetadata

namespace TokenInfo

def ofJson (account : String) (v : Json) : Except Fault TokenInfo := do
  return {
    account
    price := ← (← v.field "price_usd_hardcoded").decimal
    metadata := ← TokenMetadata.ofJson (← v.field "metadata")
    totalSupply := ← ((← v.field? "total_supply").getD (.int 0)).integerOfText
    circulatingSupply := ← ((← v.field? "circulating_supply").getD (.int 0)).integerOfText }

end TokenInfo

namespace PriceList

/-- The faults for which an entry is left out of the list. -/
def isSkipped (f : Fault) : Bool := f.isMalformed || f.faultClass = .decimalInvalid

/-- Reads the entries of a list one by one, leaving out the malformed ones. -/
def readEntries : List (String × Json) → Except Fault PriceList
  | [] => .ok []
  | (account, v) :: rest =>
    match TokenInfo.ofJson account v with
    | .ok info => do return (account, info) :: (← readEntries rest)
    | .error f => if isSkipped f then readEntries rest else .error f

/-- The list with the native token at the price of the wrapped one. -/
def withNative (prices : PriceList) : PriceList :=
  match Assoc.get? wrappedNear prices with
  | some info => Assoc.put nativeNear info prices
  | none => prices

/-- The list that a payload amounts to, and the number of its entries. A payload without a usable
entry leaves the current list in place. -/
def load (current : PriceList) (payload : Json) : Except Fault (Nat × PriceList) := do
  let entries ← readEntries (← payload.entries)
  if entries.isEmpty then return (0, current)
  let prices := withNative entries
  return (prices.length, prices)

/-- The price of a whole token in dollars. A price of zero or below counts as unknown. -/
def price (prices : PriceList) (token : String) : Except Fault (Option Decimal) :=
  match Assoc.get? token prices with
  | none => .ok none
  | some info =>
    match info.price.isNonpositive with
    | .ok true => .ok none
    | .ok false => .ok (some info.price)
    | .error e => .error (.arithmetic e)

end PriceList

namespace Oracle

/-- Fetches the price list once. -/
def refresh (o : Oracle) (current : PriceList) : StateM Net (Except OracleFailure (Nat × PriceList)) := fun net =>
  let (response, net) := net.ask (.list o.url)
  let use (body : Json) : Except OracleFailure (Nat × PriceList) :=
    match body with
    | .obj _ => (current.load body).mapError .fault
    | _ => .error (.oracle .notObject)
  let outcome := match response with
    | .failed text | .timedOut text => .error (.oracle (.fetch text))
    | .crashed text => .error (.crash text)
    | .value body => use body
    | .text s =>
      match Json.decode s with
      | .ok body => use body
      | .error f => .error (.oracle (.fetch f.message))
  (outcome, net)

/-- A failed call as the oracle's failure: calls that fail and the faults of a class are its errors,
others pass. -/
def ofCall (guarded : Fault → Bool) (error : ViewCall.Failure → OracleError) : ViewCall.Failure → OracleFailure
  | .call e => .oracle (error (.call e))
  | .fault f => if guarded f then .oracle (error (.fault f)) else .fault f
  | .crash text => .crash text

/-- A token's metadata. -/
def metadata (o : Oracle) (prices : PriceList) (token : String) :
    StateM Net (Except OracleFailure TokenMetadata) := do
  if token = nativeNear then return .ok .near
  match Assoc.get? token prices, o.client with
  | some info, _ => return .ok info.metadata
  | none, none => return .error (.oracle (.noMetadata token))
  | none, some client =>
    let answer ← client.call token "ft_metadata" (.obj [])
    let read := answer >>= fun v => (TokenMetadata.ofJson v).mapError .fault
    return read.mapError (ofCall Fault.isMalformed (.metadata token))

/-- A token's total supply in its smallest units. -/
def totalSupply (o : Oracle) (prices : PriceList) (token : String) :
    StateM Net (Except OracleFailure Int) := do
  let listed := (Assoc.get? token prices).bind fun info =>
    if 0 < info.totalSupply then some info.totalSupply else none
  match listed, o.client with
  | some supply, _ => return .ok supply
  | none, none => return .error (.oracle (.noSupply token))
  | none, some client =>
    if token = nativeNear then return .error (.oracle (.noSupply token))
    let answer ← client.call token "ft_total_supply" (.obj [])
    let read := answer >>= fun v => v.integerOfText.mapError .fault
    return read.mapError (ofCall Fault.isBadValue (.supply token))

/-- A result that is unknown rather than an error of the oracle. -/
def unlessUnknown {α : Type} : Except OracleFailure α → Except OracleFailure (Option α)
  | .ok a => .ok (some a)
  | .error (.oracle _) => .ok none
  | .error e => .error e

/-- A token's metadata, if it is known. -/
def metadata? (o : Oracle) (prices : PriceList) (token : String) :
    StateM Net (Except OracleFailure (Option TokenMetadata)) := do
  return unlessUnknown (← o.metadata prices token)

/-- A token's number of decimals, if it is known. -/
def decimals? (o : Oracle) (prices : PriceList) (token : String) :
    StateM Net (Except OracleFailure (Option Int)) := do
  return unlessUnknown ((← o.metadata prices token).map (·.decimals))

end Oracle

end ChainAlerts
