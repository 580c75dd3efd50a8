import ChainAlerts.BalanceChange
import ChainAlerts.Store
import ChainAlerts.TradeNote

/-! Which chats hear of a change. The index names candidates; each candidate's record is then read and
decides: whether the chat is enabled and still follows the token, wants the direction, and finds the
change large enough. A candidate whose record cannot be read is passed over. -/

namespace ChainAlerts

/-- A notification of a trade that a chat is to receive. -/
structure TradeAlert where
  chat : Int
  settings : Subscription
  trade : Trade

/-- What became of a candidate that is not notified. -/
inductive Skip where
  | unreadable | vanished | disabled | unwanted | tooSmall | noLeg
  deriving DecidableEq, Repr

/-- How many changes and candidates were seen and what became of them. -/
structure MatchCounts where
  changes : Nat := 0
  candidates : Nat := 0
  dispatched : Nat := 0
  disabled : Nat := 0
  vanished : Nat := 0
  unwanted : Nat := 0
  tooSmall : Nat := 0
  unreadable : Nat := 0
  deriving DecidableEq, Repr

def MatchCounts.skip (c : MatchCounts) : Skip → MatchCounts
  | .unreadable => { c with unreadable := c.unreadable + 1 }
  | .vanished => { c with vanished := c.vanished + 1 }
  | .disabled => { c with disabled := c.disabled + 1 }
  | .unwanted => { c with unwanted := c.unwanted + 1 }
  | .tooSmall => { c with tooSmall := c.tooSmall + 1 }
  | .noLeg => c

/-- What ends the matching of an event. -/
inductive MatchFailure where
  | fault (cause : Fault)
  | oracle (cause : OracleFailure)

/-- What one bot's matching works with. -/
structure Matcher where
  bot : Int
  index : SubscriberIndex
  database : Database
  oracle : Oracle
  prices : PriceList
  routes : TrendingRoutes

/-- How far the matching of an event has come: what is outside, the counts, and the alerts so far. -/
structure Matching where
  net : Net
  counts : MatchCounts
  alerts : List TradeAlert := []

namespace Matching

/-- The settings by which a chat judges a change further, unless its record already rules the change
out. -/
def screen (c : BalanceChange) (p : Polarity) : Option Subscriber → Except Skip Subscription
  | none => .error .vanished
  | some s =>
    if !s.enabled then .error .disabled
    else
      match Assoc.get? c.token s.tokens with
      | none => .error .vanished
      | some settings => if settings.wants p then .ok settings else .error .unwanted

/-- What a chat is shown of a change: for a chat that gathers all tokens one of the swap's legs, for
every other chat the change itself. -/
def shown? (routes : TrendingRoutes) (chat : Int) (c : BalanceChange) (p : Polarity) : Option Trade :=
  if routes.isSpecial chat && !c.legs.isEmpty then
    match routes.pickLeg chat c.legs with
    | none => none
    | some (account, amount) =>
      some {
        token := .fungible account, valueToken := account, amount
        polarity := if 0 < amount then .buy else .sell, trader := c.trader, transaction := c.transaction }
  else
    some {
      token := c.token, valueToken := c.valueToken, amount := c.amount, polarity := p, trader := c.trader
      transaction := c.transaction }

/-- The number of decimals of the token in which a change is counted, as far as it is needed. It is asked
for at most once for each change; what is known of it comes with the result. -/
def decimalsFor (m : Matcher) (token : String) (least : MinAmount) (known : Option (Option Int)) :
    StateM Net (Except OracleFailure (Option (Option Int))) := do
  match known, least with
  | none, .usd _ => return (← m.oracle.decimals? m.prices token).map some
  | known, _ => return .ok known

def record? (m : Matcher) (chat : Int) : Except StoreFailure (Option Subscriber) :=
  let store : Store Subscriber := { codec := Subscriber.codec, bot := m.bot }
  store.record? chat (m.database.get store.codec.collection m.bot chat)

/-- What a candidate amounts to, and what is now known of the number of decimals. -/
def judge (m : Matcher) (c : BalanceChange) (p : Polarity) (price : Option Decimal) (chat : Int)
    (known : Option (Option Int)) :
    StateM Net (Except MatchFailure (Except Skip TradeAlert × Option (Option Int))) := do
  match record? m chat with
  | .error (.fault f) => return .error (.fault f)
  | .error (.store _) => return .ok (.error .unreadable, known)
  | .ok record =>
    match screen c p record with
    | .error skip => return .ok (.error skip, known)
    | .ok settings =>
      match ← decimalsFor m c.valueToken settings.minAmount known with
      | .error e => return .error (.oracle e)
      | .ok known =>
        match settings.minAmount.passes c.amount price known.join with
        | .error f => return .error (.fault f)
        | .ok false => return .ok (.error .tooSmall, known)
        | .ok true =>
          match shown? m.routes chat c p with
          | none => return .ok (.error .noLeg, known)
          | some trade => return .ok (.ok { chat, settings, trade }, known)

/-- Judges candidates in order. The result is the number of alerts. -/
def judgeAll (m : Matcher) (c : BalanceChange) (p : Polarity) (price : Option Decimal) :
    List Int → Option (Option Int) → Matching → Except MatchFailure Nat × Matching
  | [], _, state => (.ok 0, state)
  | chat :: rest, known, state =>
    let (outcome, net) := (judge m c p price chat known).run state.net
    let state := { state with net }
    match outcome with
    | .error e => (.error e, state)
    | .ok (.error skip, known) =>
      judgeAll m c p price rest known { state with counts := state.counts.skip skip }
    | .ok (.ok alert, known) =>
      let (n, state) := judgeAll m c p price rest known { state with alerts := state.alerts ++ [alert] }
      (n.map (· + 1), state)

/-- Matches one change. The result is the number of alerts. -/
def change (m : Matcher) (c : BalanceChange) (state : Matching) : Except MatchFailure Nat × Matching :=
  match c.polarity? with
  | none => (.ok 0, state)
  | some p =>
    let state := { state with counts := { state.counts with changes := state.counts.changes + 1 } }
    let chats := m.index.lookup c.token
    if chats.isEmpty then (.ok 0, state)
    else
      let state :=
        { state with counts := { state.counts with candidates := state.counts.candidates + chats.length } }
      match m.prices.price c.valueToken with
      | .error f => (.error (.fault f), state)
      | .ok price =>
        match judgeAll m c p price chats none state with
        | (.error e, state) => (.error e, state)
        | (.ok n, state) =>
          (.ok n, { state with counts := { state.counts with dispatched := state.counts.dispatched + n } })

/-- Matches the changes of an event in order, until one fails. The result is the number of alerts. -/
def changes (m : Matcher) : List BalanceChange → Matching → Except MatchFailure Nat × Matching
  | [], state => (.ok 0, state)
  | c :: rest, state =>
    match change m c state with
    | (.error e, state) => (.error e, state)
    | (.ok n, state) =>
      let (more, state) := changes m rest state
      (more.map (n + ·), state)

end Matching

end ChainAlerts
