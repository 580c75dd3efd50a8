import ChainAlerts.Dispatch
import ChainAlerts.TradeNote

/-! Notifications that are yet to be made. What a trade is worth and what its token is called are looked
up when the notification is delivered, not when the trade was matched. -/

namespace ChainAlerts

/-- A notification of a trade whose price and metadata are still to be looked up, or one that is
ready. -/
inductive Draft where
  | trade (chat : Int) (settings : Subscription) (trade : Trade)
  | ready (note : Notification)

namespace Draft

/-- Makes the notification of a trade with what is known by now. -/
def renderTrade (o : Oracle) (prices : PriceList) (chat : Int) (settings : Subscription) (t : Trade) :
    StateM Net Rendering := do
  match ← o.metadata? prices t.valueToken with
  | .error _ => return .failed
  | .ok metadata =>
    match prices.price t.valueToken with
    | .error _ => return .failed
    | .ok price =>
      let t := { t with metadata, price }
      match ← tradeNotification o prices chat settings t (displaySymbol t.token metadata) with
      | .ok note => return .ready note
      | .error _ => return .failed

/-- Makes a notification. -/
def render (o : Oracle) (draft : Draft) (s : Surroundings) : Rendering × Surroundings :=
  match draft with
  | .ready note => (.ready note, s)
  | .trade chat settings t =>
    let (rendering, net) := (renderTrade o s.prices chat settings t).run s.net
    (rendering, { s with net })

end Draft

end ChainAlerts
