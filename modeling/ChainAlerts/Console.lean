import ChainAlerts.Report.Hub

/-! The operators' console. A command is a JSON object that names what to do, for which bot and chat, and
with which arguments; its answer is a JSON value. A command that fails changes nothing but what the call
behind it changed. -/

namespace ChainAlerts

/-- Why a command has no answer. -/
inductive ConsoleError where
  | noService
  | unknownCommand (name : String)
  | unknownBot (bot : Int)
  | subscription (cause : SubscriptionError)
  | filter (cause : FilterError)
  | database (cause : DatabaseError)
  | fault (cause : Fault)

namespace Console

/-- What a command came to, and the hub after it. -/
abbrev Outcome : Type := Except ConsoleError Json × Hub

/-- A command for one bot. -/
structure Command where
  bot : Int
  body : Json

namespace Command

def name (c : Command) : String := c.body.optionText "do"
def chat (c : Command) : Int := c.body.optionNumber "dest"
def argument (c : Command) (key : String) : Json := c.body.option key
def token (c : Command) : Except Fault Token := Token.parse (c.body.optionText "token")

/-- Reads an argument that is a list. -/
def list {α : Type} (c : Command) (key : String) (read : Json → Except Fault α) : Except Fault (List α) :=
  (c.body.optionItems key).mapM read

end Command

/-- Runs a call on the bot's subscriptions once its arguments are read. -/
def onSubscriptions {α : Type} (c : Command) (h : Hub) (encode : α → Json)
    (call : Except Fault (Int → Subscriptions.Attempt α)) : Outcome :=
  if !Assoc.contains c.bot h.trades.bots then (.error .noService, h)
  else
    match call with
    | .error f => (.error (.fault f), h)
    | .ok call =>
      match h.callSubscriptions? call c.bot with
      | none => (.error .noService, h)
      | some (result, h) => ((result.map encode).mapError .subscription, h)

/-- Runs a call that changes the settings for one token. -/
def onSettings (c : Command) (h : Hub)
    (call : Except Fault (Int → Int → Token → Subscriptions.Attempt Subscription)) : Outcome :=
  onSubscriptions c h Subscription.toJson do
    let token ← c.token
    let call ← call
    return fun bot => call bot c.chat token

def subscriptions? (c : Command) (h : Hub) : Option Outcome :=
  match c.name with
  | "get" => some <| onSubscriptions c h (.ofOption Subscriber.report) (.ok (Subscriptions.get · c.chat))
  | "add_token" =>
    some <| onSubscriptions c h Subscriber.report do
      let settings ← (c.body.option? "config").mapM Subscription.ofJson
      let token ← c.token
      return (Subscriptions.follow · c.chat token settings)
  | "remove_token" =>
    some <| onSubscriptions c h Json.bool do
      let token ← c.token
      return (Subscriptions.unfollow · c.chat token)
  | "unsubscribe" => some <| onSubscriptions c h (.ofOption Subscriber.report) (.ok (Subscriptions.forget · c.chat))
  | "set_enabled" =>
    some <| onSubscriptions c h Subscriber.report
      (.ok (Subscriptions.setEnabled · c.chat (c.body.optionFlag "enabled")))
  | "migrate" =>
    some <| onSubscriptions c h
      (fun moved => .arr (moved.map fun (chat, enabled) => .arr [.int chat, .bool enabled])) do
      let source ← Token.parse (c.body.optionText "from")
      let target ← Token.parse (c.body.optionText "to")
      return (Subscriptions.migrate · source target)
  | _ => none

def settings? (c : Command) (h : Hub) : Option Outcome :=
  match c.name with
  | "set_polarity" =>
    some <| onSettings c h do
      let p ← Polarity.ofJson (c.argument "polarity")
      return (Subscriptions.setPolarity · · · p (c.body.optionFlag "enabled"))
  | "set_min_amount" =>
    some <| onSettings c h do
      let least ← MinAmount.ofJson (c.argument "amount")
      return (Subscriptions.setMinAmount · · · least)
  | "set_attachments" =>
    some <| onSettings c h do
      let attachments ← c.list "attachments" Attachment.ofJson
      let currency ← (c.body.option? "currency").mapM Currency.ofJson
      return (Subscriptions.setAttachments · · · attachments currency)
  | "set_components" =>
    some <| onSettings c h do
      let components ← c.list "components" Component.ofJson
      return (Subscriptions.setComponents · · · components)
  | "move_component" =>
    some <| onSettings c h
      (.ok (Subscriptions.moveComponent · · · (c.body.optionNumber "index") (c.body.optionNumber "offset")))
  | "set_links" =>
    some <| onSettings c h do
      let links ← c.list "links" Button.ofJson
      return (Subscriptions.setLinks · · · links)
  | "set_buttons" =>
    some <| onSettings c h do
      let buttons ← c.list "buttons" fun row => row.items.mapM Button.ofJson
      return (Subscriptions.setButtons · · · buttons)
  | _ => none

/-- Shows something of a bot's index. -/
def onIndex (c : Command) (h : Hub) (look : SubscriberIndex → Except Fault Json) : Outcome :=
  match Assoc.get? c.bot h.trades.bots with
  | none => (.error .noService, h)
  | some b => ((look b.index).mapError .fault, h)

def index? (c : Command) (h : Hub) : Option Outcome :=
  let generation (i : SubscriberIndex) : Except Fault Json := .ok (.int i.generation)
  match c.name with
  | "rebuild" =>
    match onSubscriptions c h (fun _ => Json.null) (.ok Subscriptions.rebuild) with
    | (.ok _, h) => some (onIndex c h generation)
    | failed => some failed
  | "lookup" =>
    some <| onIndex c h fun index => do return .arr ((index.lookup (← c.token)).map .int)
  | "index" =>
    some <| onIndex c h fun index =>
      .ok (.arr (index.entries.map fun (token, chats) => .arr [.str token.key, .arr (chats.map .int)]))
  | _ => none

/-- Runs a call on the bot's filters once its arguments are read. -/
def onFilters {log filter α : Type} (kind : LogKind log filter) (bots : List Int) (c : Command) (h : Hub)
    (encode : α → Json) (call : Except Fault (LogKind log filter → Int → FilterLists.Attempt α)) : Outcome :=
  if c.bot ∉ bots then (.error .noService, h)
  else
    match call with
    | .error f => (.error (.fault f), h)
    | .ok call =>
      let (result, h) := h.callFilters kind call c.bot
      ((result.map encode).mapError .filter, h)

/-- Commands on the filters for one kind of log. -/
def filtersOf? {log filter : Type} (kind : LogKind log filter) (bots : List Int) (c : Command) (h : Hub) :
    Option Outcome :=
  let position := c.body.optionNumber "position"
  let given := kind.read (c.argument "filter")
  match c.name with
  | "log_get" =>
    some <| onFilters kind bots c h (.ofOption kind.writeFilters) (.ok (FilterLists.get · · c.chat))
  | "log_add" =>
    some <| onFilters kind bots c h kind.writeFilters do
      let f ← given
      return (FilterLists.add · · c.chat f)
  | "log_replace" =>
    some <| onFilters kind bots c h kind.writeFilters do
      let f ← given
      return (FilterLists.replace · · c.chat position f)
  | "log_remove" => some <| onFilters kind bots c h kind.write (.ok (FilterLists.remove · · c.chat position))
  | _ => none

def filters? (c : Command) (h : Hub) : Option Outcome :=
  if c.body.optionText "kind" = "text" then filtersOf? LogKind.text h.textLogs.bots c h
  else filtersOf? (LogKind.structured h.versions) h.structuredLogs.bots c h

/-- Commands on the table itself, behind the back of the indexes. -/
def table? (c : Command) (h : Hub) : Option Outcome :=
  let collection := c.body.optionText "collection"
  let payload := c.argument "payload"
  let answer {α : Type} (result : Except DatabaseError α) (use : α → Json × Database) : Option Outcome :=
    match result with
    | .ok a => let (v, database) := use a; some (.ok v, { h with database })
    | .error e => some (.error (.database e), h)
  match c.name with
  | "put_raw" => answer (h.database.put collection c.bot c.chat payload) fun database => (payload, database)
  | "get_raw" => answer (h.database.get collection c.bot c.chat) fun found => (found.getD .null, h.database)
  | "delete_raw" =>
    answer (h.database.delete collection c.bot c.chat) fun (found, database) => (found.getD .null, database)
  | "list_raw" =>
    answer (h.database.list collection c.bot) fun rows =>
      (.arr (rows.map fun (chat, payload) => .arr [.int chat, payload]), h.database)
  | _ => none

/-- The event that a command announces, if it is one. -/
def event? (c : Command) : Except Fault (Option ChainEvent) := do
  let data := c.argument "data"
  let testnet := c.body.optionFlag "testnet"
  match c.body.optionText "kind" with
  | "trade_swap" => return some (.trade (.swap (← Swap.ofJson data)))
  | "liquidity" => return some (.trade (.liquidity (← LiquidityChange.ofJson data)))
  | "log_text" => return some (.text (← TextLog.ofJson testnet data))
  | "log_nep297" => return some (.structured (← StructuredLog.ofJson testnet data))
  | _ => return (← AuctionEvent.ofJson? data).map fun e => .trade (.auction e)

/-- What was delivered once everything under way has come to its end. -/
def deliveries (h : Hub) : Outcome :=
  let (delivered, h) := h.settle.takeDelivered
  (.ok (.obj [("sent", Delivered.reportAll delivered)]), h)

/-- Hands an event to all bots and waits for the deliveries. -/
def announce (c : Command) (h : Hub) : Outcome :=
  match event? c with
  | .error f => (.error (.fault f), h)
  | .ok none => (.ok (.str "ignored"), h)
  | .ok (some e) =>
    match h.observe e with
    | (some f, h) => (.error (.fault f), h)
    | (none, h) => deliveries h

def others (c : Command) (h : Hub) : Outcome :=
  match c.name with
  | "event" => announce c h
  | "add_bot" =>
    if Assoc.contains c.bot h.dispatchers then
      let (joined, h) := h.addBot c.bot
      (.ok (.arr [.bool joined, .bool true, .bool true]), h)
    else (.error (.unknownBot c.bot), h)
  | "prices" =>
    match PriceList.load h.surroundings.prices (c.argument "payload") with
    | .ok (count, prices) => (.ok (.int count), { h with surroundings := { h.surroundings with prices } })
    | .error f => (.error (.fault f), h)
  | "redis" => (.ok h.surroundings.net.redis.report, h)
  | "stats" => (.ok h.report, h)
  | name => (.error (.unknownCommand name), h)

/-- Carries out a command, for the default bot if it names none. -/
def run (defaultBot : Int) (body : Json) (h : Hub) : Outcome :=
  let c : Command := { bot := if body.gives "bot" then body.optionNumber "bot" else defaultBot, body }
  let found := (subscriptions? c h).or (settings? c h)
  (((found.or (index? c h)).or (filters? c h)).or (table? c h)).getD (others c h)

end Console

end ChainAlerts
