import ChainAlerts.Event
import ChainAlerts.Subscription

/-! What an event means for one token: a signed change of its amount, which has a direction unless it
is zero. -/

namespace ChainAlerts

/-- What a change comes from. -/
inductive ChangeKind where
  | trade | liquidity | prelaunch
  deriving DecidableEq, Repr

def ChangeKind.name : ChangeKind → String
  | .trade => "trade"
  | .liquidity => "liquidity"
  | .prelaunch => "prelaunch"

def ChangeKind.ofJson (v : Json) : Except Fault ChangeKind :=
  match [ChangeKind.trade, .liquidity, .prelaunch].find? fun kind => v.isText kind.name with
  | some kind => .ok kind
  | none => .error (.notMember "ChangeKind" v)

/-- The direction of a change; no change has none. -/
def ChangeKind.polarity? (kind : ChangeKind) (amount : Int) : Option Polarity :=
  if amount = 0 then none
  else
    match kind with
    | .trade | .prelaunch => some (if 0 < amount then .buy else .sell)
    | .liquidity => some (if 0 < amount then .lpAdd else .lpRemove)

/-- One token's change. The amount is in units of `valueToken`: the token itself, or the native one for a
token still in its auction. A swap's changes are the legs of each of them. -/
structure BalanceChange where
  token : Token
  valueToken : String
  amount : Int
  kind : ChangeKind
  trader : String
  transaction : String
  legs : List (String × Int) := []
  deriving DecidableEq, Repr

namespace BalanceChange

def polarity? (c : BalanceChange) : Option Polarity := c.kind.polarity? c.amount

end BalanceChange

/-- The changes that a swap makes, in the order of its legs. -/
def Swap.balanceChanges (e : Swap) : List BalanceChange :=
  e.changes.map fun (account, amount) =>
    { token := .fungible account, valueToken := account, amount, kind := .trade, trader := e.trader,
      transaction := e.transaction, legs := e.changes }

/-- The changes of a pool's two tokens. -/
def LiquidityChange.balanceChanges (e : LiquidityChange) : List BalanceChange :=
  [e.first, e.second].map fun (account, amount) =>
    { token := .fungible account, valueToken := account, amount, kind := .liquidity, trader := e.provider,
      transaction := e.transaction }

/-- The change that a step in an auction makes: deposits add to it, withdrawals take away. -/
def AuctionEvent.balanceChanges : AuctionEvent → List BalanceChange
  | .deposit auction trader amount transaction _ _ =>
    [{ token := .prelaunch auction, valueToken := nativeNear, amount, kind := .prelaunch, trader, transaction }]
  | .withdraw auction trader amount transaction _ =>
    [{ token := .prelaunch auction, valueToken := nativeNear, amount := -amount, kind := .prelaunch, trader,
       transaction }]
  | .launch .. => []

/-- Chats that gather the changes of all tokens. They are shown the other leg of a swap: one chat what was
bought, the other what was sold. Excluded tokens are never shown there. -/
structure TrendingRoutes where
  trending : Option Int := none
  dumpers : Option Int := none
  excluded : List String := []
  deriving DecidableEq, Repr

namespace TrendingRoutes

def isSpecial (r : TrendingRoutes) (chat : Int) : Bool := r.trending = some chat || r.dumpers = some chat

/-- Whether a leg may be shown to a chat: it is not excluded and goes in the chat's direction. -/
def eligible (r : TrendingRoutes) (chat : Int) (leg : String × Int) : Bool :=
  !r.excluded.contains leg.1 && leg.2 ≠ 0 && decide (0 < leg.2) == decide (r.trending = some chat)

/-- The first of the largest legs. -/
def largest? : List (String × Int) → Option (String × Int)
  | [] => none
  | leg :: rest =>
    match largest? rest with
    | none => some leg
    | some other => some (if leg.2.natAbs < other.2.natAbs then other else leg)

/-- The leg that is shown to a chat. -/
def pickLeg (r : TrendingRoutes) (chat : Int) (legs : List (String × Int)) : Option (String × Int) :=
  largest? (legs.filter (r.eligible chat))

end TrendingRoutes

end ChainAlerts
