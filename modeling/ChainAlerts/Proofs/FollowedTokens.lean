import ChainAlerts.Proofs.BookCalls
import ChainAlerts.Proofs.BotIsolation
import ChainAlerts.Proofs.NetChanges
import ChainAlerts.Proofs.PayloadIntake

/-! What a chat hears of a token that it follows. If a bot has one chat and the chat wants every change of one token, it
is sent one notification for each change of the token that is not zero. Payloads are read under the normal names of
their tokens, while a chat may follow a token under any name; so every name is heard of but that of the wrapped native
token. -/

namespace ChainAlerts

namespace Matching

/-- Whether a change is one of a token and not zero. -/
def concerns (token : Token) (c : BalanceChange) : Bool := c.token = token && c.amount ≠ 0

/-- Settings that want every change, however small. -/
structure WantsAll (settings : Subscription) : Prop where
  wants : ∀ p, settings.wants p
  least : settings.minAmount = .token 0

/-- A matcher whose only candidate is a chat that wants every change of a token, when no prices are known. -/
structure OneFollower (m : Matcher) (chat : Int) (token : Token) : Prop where
  prices : m.prices = []
  ordinary : m.routes.isSpecial chat = false
  lookup : ∀ t, m.index.lookup t = if t = token then [chat] else []
  record : ∃ s settings, record? m chat = .ok (some s) ∧ s.enabled ∧ Assoc.get? token s.tokens = some settings ∧
    WantsAll settings

variable {m : Matcher} {chat : Int} {token : Token} {c : BalanceChange}

theorem polarity?_eq_none_iff (c : BalanceChange) : c.polarity? = none ↔ c.amount = 0 := by
  by_cases h : c.amount = 0
  · simp [BalanceChange.polarity?, ChangeKind.polarity?.eq_def, h]
  · cases hkind : c.kind <;> simp [BalanceChange.polarity?, ChangeKind.polarity?.eq_def, h, hkind]

namespace OneFollower

/-- A change of the token is sent to the chat, and nothing has to be asked for it. -/
theorem judgeAll (h : OneFollower m chat token) (hc : c.token = token) (p : Polarity) (price : Option Decimal)
    (state : Matching) :
    ∃ alert : TradeAlert, alert.chat = chat ∧ Matching.judgeAll m c p price [chat] none state =
      (.ok 1, { state with alerts := state.alerts ++ [alert] }) := by
  obtain ⟨s, settings, hrecord, henabled, hsettings, hall⟩ := h.record
  have hscreen : screen c p (some s) = .ok settings :=
    screen_eq_ok.mpr ⟨s, rfl, henabled, hc ▸ hsettings, hall.wants p⟩
  have hshown : ∃ trade, shown? m.routes chat c p = some trade := by
    rw [shown?, h.ordinary]
    exact ⟨_, rfl⟩
  obtain ⟨trade, hshown⟩ := hshown
  have hjudge : (judge m c p price chat none).run state.net =
      (.ok (.ok { chat, settings, trade }, none), state.net) := by
    simp [judge, hrecord, hscreen, decimalsFor, hall.least, MinAmount.passes, hshown]
    rfl
  refine ⟨{ chat, settings, trade }, rfl, ?_⟩
  simp only [Matching.judgeAll, hjudge]
  rfl

/-- What a change adds to the notifications. -/
theorem change (h : OneFollower m chat token) (c : BalanceChange) (state : Matching) :
    ∃ n alerts state', Matching.change m c state = (.ok n, state') ∧ state'.alerts = state.alerts ++ alerts ∧
      alerts.map (·.chat) = if concerns token c then [chat] else [] := by
  cases hpolarity : c.polarity? with
  | none =>
      have hzero := (polarity?_eq_none_iff c).mp hpolarity
      refine ⟨0, [], state, ?_, by simp, by simp [concerns, hzero]⟩
      rw [Matching.change, hpolarity]
  | some p =>
      have hamount : c.amount ≠ 0 := fun hzero => by
        rw [(polarity?_eq_none_iff c).mpr hzero] at hpolarity
        cases hpolarity
      have hprice : m.prices.price c.valueToken = .ok none := by
        rw [h.prices]
        rfl
      by_cases hc : c.token = token
      · have hlookup : m.index.lookup c.token = [chat] := by rw [h.lookup, if_pos hc]
        obtain ⟨alert, hchat, hjudgeAll⟩ := h.judgeAll hc p none { state with counts := { state.counts with
          changes := state.counts.changes + 1, candidates := state.counts.candidates + 1 } }
        have hchange : Matching.change m c state = (.ok 1, { state with
            counts := { state.counts with
              changes := state.counts.changes + 1, candidates := state.counts.candidates + 1
              dispatched := state.counts.dispatched + 1 }
            alerts := state.alerts ++ [alert] }) := by
          simp only [Matching.change, hpolarity, hlookup, hprice, List.length_singleton, hjudgeAll]
          rfl
        exact ⟨1, [alert], _, hchange, rfl, by simp [concerns, hc, hamount, hchat]⟩
      · have hlookup : m.index.lookup c.token = [] := by rw [h.lookup, if_neg hc]
        have hchange : Matching.change m c state = (.ok 0, { state with
            counts := { state.counts with changes := state.counts.changes + 1 } }) := by
          simp only [Matching.change, hpolarity, hlookup]
          rfl
        exact ⟨0, [], _, hchange, by simp, by simp [concerns, hc]⟩

/-- What the changes of an event add to the notifications. -/
theorem changes (h : OneFollower m chat token) (changes : List BalanceChange) (state : Matching) :
    ∃ n alerts state', Matching.changes m changes state = (.ok n, state') ∧ state'.alerts = state.alerts ++ alerts ∧
      alerts.map (·.chat) = (changes.filter (concerns token)).map fun _ => chat := by
  induction changes generalizing state with
  | nil => exact ⟨0, [], state, rfl, by simp, rfl⟩
  | cons c rest ih =>
      obtain ⟨n, alerts, state', hfirst, halerts, hchats⟩ := h.change c state
      obtain ⟨more, others, state'', hrest, hothers, hchats'⟩ := ih state'
      refine ⟨n + more, alerts ++ others, state'', ?_, ?_, ?_⟩
      · simp only [Matching.changes, hfirst, hrest]
        rfl
      · rw [hothers, halerts, List.append_assoc]
      · rw [List.map_append, hchats, hchats']
        by_cases hc : concerns token c <;> simp [hc]

end OneFollower

end Matching

namespace TradeAlerts

open Matching Subscriptions

variable {sources : Sources} {changes : List BalanceChange} {bot chat : Int} {token : Token}

/-- The chats that a bot's deliveries go to. -/
def heardBy (bot : Int) (spawns : List Spawn) : List Int := (spawns.filter (·.bot = bot)).map (·.chat)

theorem mem_heardBy {spawns : List Spawn} : chat ∈ heardBy bot spawns ↔ ∃ s ∈ spawns, s.bot = bot ∧ s.chat = chat := by
  simp [heardBy, and_assoc]

/-- A round of turns goes to the chat of a bot once for each change that concerns it, whatever the other bots do. -/
theorem heardBy_foldl_matchFor {bots : List (Int × TradeBot)} {b : TradeBot} {r : Round}
    (hbots : (Assoc.keys bots).Nodup) (hb : (bot, b) ∈ bots)
    (h : OneFollower (matcherFor sources bot b.index r.database) chat token) :
    heardBy bot (bots.foldl (fun r (bot, b) => matchFor sources changes bot b r) r).spawns =
      heardBy bot r.spawns ++ (changes.filter (concerns token)).map fun _ => chat := by
  obtain ⟨net, hown⟩ := own_foldl_matchFor sources changes hbots hb r
  obtain ⟨n, alerts, state, hchanges, halerts, hchats⟩ := h.changes changes { net, counts := b.counts }
  rw [hchanges] at hown
  rw [heardBy, hown, halerts, List.nil_append, List.map_append, List.map_map, ← hchats]
  rfl

end TradeAlerts

namespace Subscriptions

open Store

variable {bot chat : Int} {token : Token} {settings : Subscription} {shelf : Shelf} {db : Database}

/-- The record of a chat that follows one token. -/
def onlyFollowing (token : Token) (settings : Subscription) : Subscriber := ({} : Subscriber).withToken token settings

/-- Following a token is the only record of a bot that had none, and the index is made from it. -/
theorem follow_first (shelf : Shelf) (hserves : shelf.database.Serves bot) (hrows : rows bot shelf.database = [])
    (hchat : Database.fits chat) (htoken : Token.parse token.key = .ok token) (hproper : settings.Proper)
    (hwritable : settings.minAmount.isWritable) :
    ∃ shelf', (store bot).runAlone (follow bot chat token (some settings)) shelf =
        (.ok (onlyFollowing token settings), shelf') ∧
      Mirrors bot [(chat, onlyFollowing token settings)] shelf'.database ∧ Exact bot shelf' := by
  have hwell : (onlyFollowing token settings).WellFormed := Subscriber.wellFormed_new.withSettings
    ⟨Token.isProper_of_parse htoken, Token.isWritable_of_parse htoken⟩ ⟨hproper, hwritable⟩
  let change (s : Subscriber) : Subscriber :=
    if s.follows token && (some settings).isNone then s else s.withToken token ((some settings).getD {})
  have hchange : change (Book.recordOf chat []) = onlyFollowing token settings := by
    simp only [change, Option.isNone_some, Bool.and_false]
    rfl
  obtain ⟨database, hrun, hmirrors⟩ := (Mirrors.of_no_rows hserves hrows).editOrBegin_stored hchat change
    (hchange ▸ hwell) fun hperm => by
      rw [hchange] at hperm
      exact absurd hperm.length_eq (by simp [onlyFollowing, Subscriber.withToken, Assoc.put, Book.recordOf, Book.get?,
        Assoc.get?])
  rw [hchange] at hrun hmirrors
  let written : Shelf := { shelf with database }
  have hwritten : Mirrors bot (Book.put chat (onlyFollowing token settings) []) written.database := hmirrors
  have hagrees := hwritten.then_rebuild (onlyFollowing token settings)
  have hconsistent := hwritten.sound.consistent_of_rebuild (onlyFollowing token settings)
  rw [follow, runAlone_ifOk, hrun]
  exact ⟨_, Prod.ext hagrees.result rfl, hagrees.mirrors, hconsistent.exact⟩

/-- A chat that is the only one to follow a token is the only candidate for its changes. -/
theorem oneFollower {m : Matcher} (hmirrors : Mirrors m.bot [(chat, onlyFollowing token settings)] m.database)
    (hexact : Exact m.bot { database := m.database, index := m.index }) (hchat : Database.fits chat)
    (hall : Matching.WantsAll settings) (hprices : m.prices = []) (hordinary : m.routes.isSpecial chat = false) :
    Matching.OneFollower m chat token where
  prices := hprices
  ordinary := hordinary
  lookup := by
    intro t
    have hread : Subscriber.ofJson (onlyFollowing token settings).toJson = .ok (onlyFollowing token settings) :=
      Subscriber.ofJson_toJson (hmirrors.wellFormed _ List.mem_cons_self)
    have hfollows : (onlyFollowing token settings).follows t = decide (t = token) := by
      rw [Subscriber.follows, onlyFollowing, Subscriber.withToken, Assoc.contains_put]
      simp [Assoc.contains, Assoc.get?]
    have hrow : Records.chatsWith (payloadFollows t) [(chat, (onlyFollowing token settings).toJson)] =
        if (onlyFollowing token settings).follows t then [chat] else [] := by
      rw [← payloadFollows_eq hread]
      cases hfollowed : payloadFollows t (onlyFollowing token settings).toJson <;> simp [Records.chatsWith, hfollowed]
    rw [hexact t, followers, hmirrors.rows]
    refine hrow.trans ?_
    rw [hfollows]
    simp only [decide_eq_true_eq]
  record := by
    refine ⟨onlyFollowing token settings, settings, ?_, rfl, Assoc.get?_put_self _ _ _, hall⟩
    have hrecord := hmirrors.recordOf_eq hchat
    rw [Book.get?, Assoc.get?, if_pos rfl] at hrecord
    exact hrecord

end Subscriptions

/-! The payloads that name a token. -/

section Payloads

open Matching

variable {fields : List (String × Json)} {account : String}

/-- A swap that is read has the net amounts of what its payload files, nothing if it files no amounts. -/
theorem Swap.exists_legs_of_ofJson {payload : Json} {e : Swap} (h : ofJson payload = .ok e) :
    ∃ filed entries legs, payload.field? "balance_changes" = .ok filed ∧ (filed.getD (.obj [])).entries = .ok entries ∧
      readLegs entries = .ok legs ∧ e.changes = netChanges legs := by
  simp only [ofJson, except_bind_eq_ok] at h
  obtain ⟨filed, hfiled, entries, hentries, legs, hlegs, _, -, _, -, _, -, _, -, _, -, _, -, _, -, h⟩ := h
  obtain rfl := Except.ok.inj h
  exact ⟨filed, entries, legs, hfiled, hentries, hlegs, rfl⟩

/-- The changes of a swap are the net amounts of its payload. -/
theorem Swap.changes_of_ofJson {e : Swap} {entries : List (String × Json)} {legs : List (String × Int)}
    (h : ofJson (.obj fields) = .ok e) (hentries : Assoc.get? "balance_changes" fields = some (.obj entries))
    (hlegs : readLegs entries = .ok legs) : e.changes = netChanges legs := by
  obtain ⟨filed, found, read, hfiled, hfound, hread, hchanges⟩ := exists_legs_of_ofJson h
  rw [Json.field?_obj, hentries] at hfiled
  obtain rfl := Except.ok.inj hfiled
  obtain rfl : entries = found := Except.ok.inj hfound
  rw [hchanges, Except.ok.inj (hlegs.symm.trans hread)]

/-- The two tokens of a pool are those of its payload. -/
theorem LiquidityChange.legs_of_ofJson {e : LiquidityChange} {entries : List (String × Json)}
    {legs : List (String × Int)} (h : ofJson (.obj fields) = .ok e)
    (hentries : Assoc.get? "tokens" fields = some (.obj entries)) (hlegs : readLegs entries = .ok legs) :
    legs = [e.first, e.second] := by
  simp only [ofJson, Json.field?_obj, hentries, except_ok_bind, Option.getD_some, Json.entries, hlegs] at h
  split at h
  · simp only [except_bind_eq_ok] at h
    obtain ⟨_, -, _, -, _, -, _, -, _, -, _, -, _, -, h⟩ := h
    obtain rfl := Except.ok.inj h
    rfl
  · cases h

/-- Whether a payload names an account with an amount that is not zero, for a swap with a net amount that is not. -/
def Feed.Names (account : String) : Feed → List (String × Json) → Prop
  | .swaps, fields => ∃ entries legs, Assoc.get? "balance_changes" fields = some (.obj entries) ∧
      readLegs entries = .ok legs ∧ account ∈ Assoc.keys entries ∧ netAmount (normalizeToken account) legs ≠ 0
  | .liquidity, fields => ∃ entries legs amount n, Assoc.get? "tokens" fields = some (.obj entries) ∧
      readLegs entries = .ok legs ∧ (account, amount) ∈ entries ∧ amount.integerOfText = .ok n ∧ n ≠ 0
  | _, _ => False

/-- The changes of a swap or of a pool, as pairs of an account and an amount. -/
theorem concerned_of_mem {pairs : List (String × Int)} {change : String × Int → BalanceChange}
    (hchange : ∀ pair, (change pair).token = .fungible pair.1 ∧ (change pair).amount = pair.2) {token : String}
    {n : Int} (hmem : (token, n) ∈ pairs) (hn : n ≠ 0) : ∃ c ∈ pairs.map change, concerns (.fungible token) c := by
  obtain ⟨htoken, hamount⟩ := hchange (token, n)
  exact ⟨change (token, n), List.mem_map_of_mem hmem, by simp [concerns, htoken, hamount, hn]⟩

/-- The event of a payload concerns the accounts that it names by their normal names, and never the wrapped native
token. -/
theorem Feed.concerned_of_names {feed : Feed} {e : TradeEvent} (hnames : feed.Names account fields)
    (hread : feed.reading (.obj fields) = .ok (some (.trade e))) :
    (∃ c ∈ e.balanceChanges, concerns (.fungible (normalizeToken account)) c) ∧
      ∀ c ∈ e.balanceChanges, c.token ≠ .fungible wrappedNear := by
  cases feed with
  | swaps =>
      obtain ⟨entries, legs, hentries, hlegs, hmem, hamount⟩ := hnames
      obtain ⟨swap, hswap, hevent⟩ := except_bind_eq_ok.mp hread
      obtain rfl : .swap swap = e := by simpa using Except.ok.inj hevent
      have hchanges := swap.changes_of_ofJson hswap hentries hlegs
      have hkey : normalizeToken account ∈ Assoc.keys legs := keys_readLegs hlegs ▸ List.mem_map_of_mem hmem
      have hnet : (normalizeToken account, netAmount (normalizeToken account) legs) ∈ swap.changes :=
        hchanges ▸ mem_netChanges.mpr ⟨hkey, rfl⟩
      refine ⟨concerned_of_mem (fun _ => ⟨rfl, rfl⟩) hnet hamount, fun c hc => ?_⟩
      obtain ⟨⟨token, n⟩, hpair, rfl⟩ := List.mem_map.mp hc
      have htoken : token ∈ Assoc.keys legs := (mem_netChanges.mp (hchanges ▸ hpair)).1
      exact fun heq => ne_wrappedNear_of_mem_keys hlegs htoken (Token.fungible.inj heq)
  | liquidity =>
      obtain ⟨entries, legs, amount, n, hentries, hlegs, hmem, hinteger, hn⟩ := hnames
      obtain ⟨change, hchange, hevent⟩ := except_bind_eq_ok.mp hread
      obtain rfl : .liquidity change = e := by simpa using Except.ok.inj hevent
      have hpairs := change.legs_of_ofJson hchange hentries hlegs
      obtain ⟨n', hn', hleg⟩ := mem_readLegs hlegs hmem
      obtain rfl : n = n' := Except.ok.inj (hinteger.symm.trans hn')
      refine ⟨concerned_of_mem (fun _ => ⟨rfl, rfl⟩) (hpairs ▸ hleg) hn, fun c hc => ?_⟩
      obtain ⟨⟨token, amount⟩, hpair, rfl⟩ := List.mem_map.mp hc
      have htoken : token ∈ Assoc.keys legs := hpairs ▸ List.mem_map_of_mem (f := Prod.fst) hpair
      exact fun heq => ne_wrappedNear_of_mem_keys hlegs htoken (Token.fungible.inj heq)
  | structuredLogs testnet => cases hnames
  | textLogs testnet => cases hnames

/-- An account that a payload names is concerned by the event unless it is that of the wrapped native token. -/
theorem Feed.concerned_iff {feed : Feed} {e : TradeEvent} (hnames : feed.Names account fields)
    (hread : feed.reading (.obj fields) = .ok (some (.trade e))) :
    (∃ c ∈ e.balanceChanges, concerns (.fungible account) c) ↔ account ≠ wrappedNear := by
  obtain ⟨hnormal, hwrapped⟩ := feed.concerned_of_names hnames hread
  constructor
  · rintro ⟨c, hc, hconcerns⟩ rfl
    have htoken : c.token = .fungible wrappedNear := by
      simp only [concerns, Bool.and_eq_true, decide_eq_true_eq] at hconcerns
      exact hconcerns.1
    exact hwrapped c hc htoken
  · intro hne
    rwa [normalizeToken_of_ne hne] at hnormal

end Payloads

namespace TradeAlerts

open Matching

/-- A feed announces no launches. -/
theorem handle_of_reading {feed : Feed} {payload : Json} {e : TradeEvent}
    (hread : feed.reading payload = .ok (some (.trade e))) (sources : Sources) (r : Round) :
    handle sources e r = (.ok (), r.alerts.bots.foldl (fun r (bot, b) => matchFor sources e.balanceChanges bot b r)
      { r with alerts := { r.alerts with events := r.alerts.events + 1 } }) := by
  cases e with
  | swap swap => rfl
  | liquidity change => rfl
  | auction event =>
      have hkind := Feed.kind_of_reading hread
      cases feed <;> cases hkind

end TradeAlerts

namespace Hub

open Matching Subscriptions

variable {h : Hub} {bot chat : Int} {account : String} {settings : Subscription}

/-- A hub of which a bot takes part that has no records yet, while no prices are known. -/
structure StartsEmpty (bot : Int) (h : Hub) : Prop where
  joined : bot ∈ Assoc.keys h.trades.bots
  bots : (Assoc.keys h.trades.bots).Nodup
  serves : h.database.Serves bot
  empty : rows bot h.database = []
  prices : h.surroundings.prices = []

/-- After a chat has followed an account as the first of its bot, the bot's deliveries of an event are one to the chat
for each change that concerns the account. -/
theorem heardBy_after_follow (hstart : h.StartsEmpty bot) (hchat : Database.fits chat)
    (hordinary : h.routes.isSpecial chat = false) (haccount : Token.parse account = .ok (.fungible account))
    (hproper : settings.Proper) (hall : WantsAll settings) :
    ∃ s h', h.callSubscriptions? (follow · chat (.fungible account) (some settings)) bot = some (.ok s, h') ∧
      ∀ (feed : Feed) (payload : Json) (e : TradeEvent), feed.reading payload = .ok (some (.trade e)) →
        TradeAlerts.heardBy bot (h'.tradeRound e).2.spawns =
          (e.balanceChanges.filter (concerns (.fungible account))).map fun _ => chat := by
  obtain ⟨b, hb⟩ : ∃ b, Assoc.get? bot h.trades.bots = some b :=
    Option.ne_none_iff_exists'.mp fun hnone => Assoc.get?_eq_none_iff.mp hnone hstart.joined
  have hwritable : settings.minAmount.isWritable := by
    rw [hall.least]
    rfl
  have htoken : Token.parse (Token.fungible account).key = .ok (.fungible account) := haccount
  obtain ⟨shelf, hrun, hmirrors, hexact⟩ := follow_first { database := h.database, index := b.index } hstart.serves
    hstart.empty hchat htoken hproper hwritable
  let followed : Hub := { h with
    database := shelf.database
    trades := { h.trades with bots := Assoc.put bot { b with index := shelf.index } h.trades.bots } }
  refine ⟨onlyFollowing (.fungible account) settings, followed, ?_, fun feed payload e hread => ?_⟩
  · simp only [callSubscriptions?, TradeAlerts.call?, hb, TradeAlerts.perform, hrun]
    rfl
  · let sources : TradeAlerts.Sources := { oracle := h.oracle, prices := h.surroundings.prices, routes := h.routes }
    have hfollower : OneFollower (matcherFor sources bot shelf.index shelf.database) chat (.fungible account) :=
      oneFollower (m := matcherFor sources bot shelf.index shelf.database) hmirrors hexact hchat hall hstart.prices
        hordinary
    rw [tradeRound, TradeAlerts.handle_of_reading hread]
    exact TradeAlerts.heardBy_foldl_matchFor (b := { b with index := shelf.index })
      (r := { database := shelf.database, net := h.surroundings.net,
              alerts := { followed.trades with events := followed.trades.events + 1 } })
      (Assoc.nodup_keys_put hstart.bots) (Assoc.mem_of_get? (Assoc.get?_put_self _ _ _)) hfollower

/-- A chat that follows an account and wants all its changes hears of a swap or a change of liquidity that names the
account, unless it is that of the wrapped native token, of which nothing is ever heard. -/
theorem heard_of_followed (h : Hub) (bot chat : Int) (account : String) (settings : Subscription)
    (hstart : h.StartsEmpty bot) (hchat : Database.fits chat) (hordinary : h.routes.isSpecial chat = false)
    (haccount : Token.parse account = .ok (.fungible account)) (hproper : settings.Proper)
    (hall : WantsAll settings) :
    ∃ s h', h.callSubscriptions? (follow · chat (.fungible account) (some settings)) bot = some (.ok s, h') ∧
      ∀ (feed : Feed) (fields : List (String × Json)) (e : TradeEvent), feed.Names account fields →
        feed.reading (.obj fields) = .ok (some (.trade e)) →
        ((∃ spawn ∈ (h'.tradeRound e).2.spawns, spawn.bot = bot ∧ spawn.chat = chat) ↔ account ≠ wrappedNear) := by
  obtain ⟨s, h', hfollow, hheard⟩ := heardBy_after_follow hstart hchat hordinary haccount hproper hall
  refine ⟨s, h', hfollow, fun feed fields e hnames hread => ?_⟩
  rw [← Feed.concerned_iff hnames hread, ← TradeAlerts.mem_heardBy, hheard feed _ e hread]
  simp

/-- Settings that want every change. -/
def everyChange : Subscription where
  buys := true
  sells := true
  lpAdd := true
  lpRemove := true
  minAmount := .token 0

/-- The payload of a swap in which a trader receives a token. -/
def received (account : String) : List (String × Json) :=
  [("trader", .str "t.near"), ("balance_changes", .obj [(account, .int 5)]), ("block_height", .int 1),
    ("block_timestamp_nanosec", .int 1), ("transaction_id", .str "tx")]

/-- The swap that such a payload announces. -/
def receivedSwap (account : String) : TradeEvent := .swap {
  trader := "t.near", changes := [(normalizeToken account, 5)], blockHeight := 1, nanoseconds := 1
  transaction := "tx", referrer := .null }

theorem everyChange_proper : everyChange.Proper := ⟨rfl, by simp [everyChange], by decide, by decide⟩

theorem wantsAll_everyChange : WantsAll everyChange := ⟨fun p => by cases p <;> rfl, rfl⟩

/-- A hub with one bot, of which nothing is known yet. -/
def oneBot : Hub where
  trades := { bots := [(1, {})] }

theorem oneBot_startsEmpty : oneBot.StartsEmpty 1 := ⟨by decide, by decide, ⟨rfl, rfl, by decide⟩, rfl, rfl⟩

theorem reading_received (account : String) :
    Feed.swaps.reading (.obj (received account)) = .ok (some (.trade (receivedSwap account))) := by
  have hfive : (Json.int 5).integerOfText = .ok 5 := Json.integer_intText (n := 5) (by decide)
  have hone : (Json.int 1).integerOfText = .ok 1 := Json.integer_intText (n := 1) (by decide)
  simp [Feed.reading, Feed.readSwap, received, receivedSwap, Swap.ofJson, Assoc.get?, Json.entries, readLegs, hfive,
    hone, Json.text, Json.integer, Json.fieldOrNull_obj, netChanges, addChange]

theorem names_received (account : String) : Feed.swaps.Names account (received account) := by
  have hfive : (Json.int 5).integerOfText = .ok 5 := Json.integer_intText (n := 5) (by decide)
  refine ⟨[(account, .int 5)], [(normalizeToken account, 5)], rfl, ?_, by simp [Assoc.keys], by simp [netAmount]⟩
  simp [readLegs, hfive]

theorem heard_of_followed_account :
    ∃ s h', oneBot.callSubscriptions? (follow · 3 (.fungible "a.near") (some everyChange)) 1 = some (.ok s, h') ∧
      Feed.swaps.reading (.obj (received "a.near")) = .ok (some (.trade (receivedSwap "a.near"))) ∧
      ∃ spawn ∈ (h'.tradeRound (receivedSwap "a.near")).2.spawns, spawn.bot = 1 ∧ spawn.chat = 3 := by
  have haccount : Token.parse "a.near" = .ok (.fungible "a.near") :=
    Token.parse_key (t := .fungible "a.near") (by decide) rfl
  obtain ⟨s, h', hfollow, hheard⟩ := heard_of_followed oneBot 1 3 "a.near" everyChange oneBot_startsEmpty (by decide)
    rfl haccount everyChange_proper wantsAll_everyChange
  exact ⟨s, h', hfollow, reading_received _,
    (hheard .swaps _ _ (names_received _) (reading_received _)).mpr (by decide)⟩

/-- The wrapped native token can be followed, and a swap can name it, but nothing is heard of it. -/
theorem wrappedNear_unheard :
    Token.parse wrappedNear = .ok (.fungible wrappedNear) ∧ Feed.swaps.Names wrappedNear (received wrappedNear) ∧
      ∃ s h', oneBot.callSubscriptions? (follow · 3 (.fungible wrappedNear) (some everyChange)) 1 = some (.ok s, h') ∧
        Feed.swaps.reading (.obj (received wrappedNear)) = .ok (some (.trade (receivedSwap wrappedNear))) ∧
        TradeAlerts.heardBy 1 (h'.tradeRound (receivedSwap wrappedNear)).2.spawns = [] := by
  have haccount : Token.parse wrappedNear = .ok (.fungible wrappedNear) :=
    Token.parse_key (t := .fungible wrappedNear) (by decide) rfl
  have hchat : Database.fits 3 := by decide
  obtain ⟨s, h', hfollow, hheard⟩ := heardBy_after_follow oneBot_startsEmpty hchat rfl haccount
    everyChange_proper wantsAll_everyChange
  refine ⟨haccount, names_received _, s, h', hfollow, reading_received _, ?_⟩
  rw [hheard .swaps _ _ (reading_received _)]
  rfl

end Hub

end ChainAlerts
