import ChainAlerts.Proofs.FollowedTokens

/-! Where the deliveries about an event come from. Each one goes back to a candidate: a change of the event and a chat
that the index names for its token, whose record asks for it. The candidates are gone through in order and each at
most once, so the deliveries are no more than the candidates, however the matching ends and whatever the oracle says. -/

namespace ChainAlerts

/-- What a delivery presents, if it is one of a trade. -/
def Spawn.trade? (s : Spawn) : Option Trade :=
  match s.draft with
  | .trade _ _ trade => some trade
  | .ready _ => none

namespace Matching

open Subscriptions

/-- An alert that a change raises at the record of its chat, as far as this does not depend on what the change is
worth: the record is enabled and follows the token, its settings want the direction, and the alert shows what the chat
is to be shown. -/
structure Asked (m : Matcher) (c : BalanceChange) (p : Polarity) (a : TradeAlert) : Prop where
  direction : c.polarity? = some p
  record : ∃ s, record? m a.chat = .ok (some s) ∧ s.enabled ∧ Assoc.get? c.token s.tokens = some a.settings
  wanted : a.settings.wants p
  shown : shown? m.routes a.chat c p = some a.trade

/-- The candidates for changes: for each change, in order, the chats that the index names for its token. -/
def candidates (m : Matcher) (changes : List BalanceChange) : List (BalanceChange × Int) :=
  changes.flatMap fun c => (m.index.lookup c.token).map (c, ·)

/-- Alerts with the changes that raised them: some of the candidates, in their order. -/
structure Origins (m : Matcher) (changes : List BalanceChange) (origins : List (BalanceChange × TradeAlert)) :
    Prop where
  order : (origins.map fun o => (o.1, o.2.chat)).Sublist (candidates m changes)
  asked : ∀ o ∈ origins, ∃ p, Asked m o.1 p o.2

variable {m : Matcher} {c : BalanceChange} {p : Polarity} {price : Option Decimal} {chat : Int} {a : TradeAlert}
  {changes : List BalanceChange} {origins : List (BalanceChange × TradeAlert)}

theorem candidates_append (m : Matcher) (changes more : List BalanceChange) :
    candidates m (changes ++ more) = candidates m changes ++ candidates m more := List.flatMap_append

theorem candidates_singleton (m : Matcher) (c : BalanceChange) :
    candidates m [c] = (m.index.lookup c.token).map (c, ·) := List.flatMap_singleton ..

theorem Origins.append {more : List BalanceChange} {others : List (BalanceChange × TradeAlert)}
    (h : Origins m changes origins) (hmore : Origins m more others) :
    Origins m (changes ++ more) (origins ++ others) where
  order := by
    rw [candidates_append, List.map_append]
    exact h.order.append hmore.order
  asked o ho := (List.mem_append.mp ho).elim (h.asked o) (hmore.asked o)

theorem Origins.mem (h : Origins m changes origins) {o : BalanceChange × TradeAlert} (ho : o ∈ origins) :
    o.1 ∈ changes := by
  have hmem := h.order.subset (List.mem_map_of_mem ho)
  obtain ⟨c, hc, hpair⟩ := List.mem_flatMap.mp hmem
  obtain ⟨chat, -, heq⟩ := List.mem_map.mp hpair
  exact (Prod.mk.inj heq).1 ▸ hc

theorem Origins.none (m : Matcher) (changes : List BalanceChange) : Origins m changes [] :=
  ⟨List.nil_sublist _, by simp⟩

theorem asked_of_judge {known known' : Option (Option Int)} {net net' : Net} (hdirection : c.polarity? = some p)
    (h : (judge m c p price chat known).run net = (.ok (.ok a, known'), net')) : a.chat = chat ∧ Asked m c p a := by
  unfold judge at h
  cases hrecord : record? m chat with
  | error cause => cases cause <;> simp only [hrecord] at h <;> cases h
  | ok found =>
      cases hscreen : screen c p found with
      | error skip =>
          simp only [hrecord, hscreen] at h
          cases h
      | ok settings =>
          obtain ⟨s, rfl, henabled, hfollows, hwants⟩ := screen_eq_ok.mp hscreen
          obtain ⟨answer, asked, hrun⟩ : ∃ answer asked,
              (decimalsFor m c.valueToken settings.minAmount known).run net = (answer, asked) := ⟨_, _, rfl⟩
          simp only [hrecord, hscreen, run_bind_eq hrun] at h
          cases answer with
          | error e => cases h
          | ok decimals =>
              cases hpasses : settings.minAmount.passes c.amount price decimals.join with
              | error f =>
                  simp only [hpasses] at h
                  cases h
              | ok large =>
                  cases large with
                  | false =>
                      simp only [hpasses] at h
                      cases h
                  | true =>
                      cases hshown : shown? m.routes chat c p with
                      | none =>
                          simp only [hpasses, hshown] at h
                          cases h
                      | some trade =>
                          simp only [hpasses, hshown] at h
                          cases h
                          exact ⟨rfl, hdirection, ⟨s, hrecord, henabled, hfollows⟩, hwants, hshown⟩

/-- Judging chats adds alerts for some of them, in their order. -/
theorem alerts_judgeAll (hdirection : c.polarity? = some p) (price : Option Decimal) (chats : List Int)
    (known : Option (Option Int)) (state : Matching) :
    ∃ alerts, (judgeAll m c p price chats known state).2.alerts = state.alerts ++ alerts ∧
      (alerts.map (·.chat)).Sublist chats ∧ ∀ a ∈ alerts, Asked m c p a := by
  induction chats generalizing known state with
  | nil => exact ⟨[], (List.append_nil _).symm, List.Sublist.refl _, by simp⟩
  | cons chat rest ih =>
      rw [judgeAll]
      rcases hjudge : (judge m c p price chat known).run state.net with ⟨outcome, net⟩
      rcases outcome with e | ⟨skip | alert, known'⟩
      · exact ⟨[], (List.append_nil _).symm, List.nil_sublist _, by simp⟩
      · obtain ⟨alerts, halerts, hchats, hasked⟩ :=
          ih known' { state with net, counts := state.counts.skip skip }
        exact ⟨alerts, halerts, hchats.cons chat, hasked⟩
      · obtain ⟨hchat, halert⟩ := asked_of_judge hdirection hjudge
        obtain ⟨alerts, halerts, hchats, hasked⟩ := ih known' { state with net, alerts := state.alerts ++ [alert] }
        refine ⟨alert :: alerts, ?_, ?_, List.forall_mem_cons.mpr ⟨halert, hasked⟩⟩
        · exact halerts.trans (List.append_assoc ..)
        · rw [List.map_cons, hchat]
          exact hchats.cons_cons chat

/-- One change adds alerts that go back to the chats that the index names for its token. -/
theorem origins_change (m : Matcher) (c : BalanceChange) (state : Matching) :
    ∃ origins, Origins m [c] origins ∧ (change m c state).2.alerts = state.alerts ++ origins.map (·.2) := by
  have hnone : ∃ origins, Origins m [c] origins ∧ state.alerts = state.alerts ++ origins.map (·.2) :=
    ⟨[], .none m [c], (List.append_nil _).symm⟩
  rw [change]
  cases hdirection : c.polarity? with
  | none => exact hnone
  | some p =>
      simp only
      split
      · exact hnone
      · cases hprice : m.prices.price c.valueToken with
        | error f => exact hnone
        | ok price =>
            simp only
            generalize hbegun : ({ state with counts := _ } : Matching) = begun
            have hsame : begun.alerts = state.alerts := by rw [← hbegun]
            obtain ⟨alerts, halerts, hchats, hasked⟩ :=
              alerts_judgeAll (m := m) hdirection price (m.index.lookup c.token) none begun
            generalize judgeAll m c p price (m.index.lookup c.token) none begun = outcome at halerts
            obtain ⟨result, after⟩ := outcome
            refine ⟨alerts.map (c, ·), ⟨?_, ?_⟩, ?_⟩
            · rw [candidates_singleton, List.map_map]
              have horder := hchats.map (Prod.mk c)
              rwa [List.map_map] at horder
            · intro o ho
              obtain ⟨a, ha, rfl⟩ := List.mem_map.mp ho
              exact ⟨p, hasked a ha⟩
            · rw [List.map_map, ← hsame]
              cases result <;> exact halerts.trans (by simp [Function.comp_def])

/-- The changes of an event add alerts that go back to candidates, also when the matching fails half-way. -/
theorem origins_changes (m : Matcher) (changes : List BalanceChange) (state : Matching) :
    ∃ origins, Origins m changes origins ∧
      (Matching.changes m changes state).2.alerts = state.alerts ++ origins.map (·.2) := by
  induction changes generalizing state with
  | nil => exact ⟨[], .none m [], (List.append_nil _).symm⟩
  | cons c rest ih =>
      obtain ⟨own, hown, halerts⟩ := origins_change m c state
      rw [Matching.changes]
      generalize change m c state = outcome at halerts
      obtain ⟨result, after⟩ := outcome
      cases result with
      | error e => exact ⟨own, List.append_nil own ▸ hown.append (.none m rest), halerts⟩
      | ok n =>
          obtain ⟨others, hothers, hrest⟩ := ih after
          refine ⟨own ++ others, hown.append hothers, hrest.trans ?_⟩
          rw [show after.alerts = state.alerts ++ own.map (·.2) from halerts, List.map_append, List.append_assoc]

end Matching

namespace TradeAlerts

open Matching

variable {sources : Sources} {changes : List BalanceChange} {bots : List (Int × TradeBot)} {r : Round} {s : Spawn}

/-- Whatever is started in a round of turns goes back to a change and a record that asks for it. -/
theorem asked_of_foldl_matchFor
    (hs : s ∈ (bots.foldl (fun r (bot, b) => matchFor sources changes bot b r) r).spawns) :
    s ∈ r.spawns ∨ ∃ entry ∈ bots, ∃ c ∈ changes, ∃ p a,
      Asked (matcherFor sources entry.1 entry.2.index r.database) c p a ∧ s = spawnOf entry.1 a := by
  induction bots generalizing r with
  | nil => exact Or.inl hs
  | cons entry rest ih =>
      rcases ih hs with hbefore | ⟨later, hlater, hasked⟩
      · obtain ⟨origins, horigins, halerts⟩ := origins_changes
          (matcherFor sources entry.1 entry.2.index r.database) changes { net := r.net, counts := entry.2.counts }
        rw [matchFor_spawns, halerts] at hbefore
        rcases List.mem_append.mp hbefore with hold | hnew
        · exact Or.inl hold
        · obtain ⟨a, ha, rfl⟩ := List.mem_map.mp hnew
          obtain ⟨o, ho, rfl⟩ := List.mem_map.mp ha
          obtain ⟨p, hasked⟩ := horigins.asked o ho
          exact Or.inr ⟨entry, List.mem_cons_self, o.1, horigins.mem ho, p, o.2, hasked, rfl⟩
      · exact Or.inr ⟨later, List.mem_cons_of_mem entry hlater, hasked⟩

/-- What is started at a launch presents no trade. -/
theorem trade?_of_launchAll {auction : Int} {account : String}
    (hs : s ∈ (launchAll auction account bots r).2.spawns) : s ∈ r.spawns ∨ s.trade? = none := by
  induction bots generalizing r with
  | nil => exact Or.inl hs
  | cons entry rest ih =>
      obtain ⟨-, -, hspawns⟩ := launchTurn_eq auction account entry r
      have hturn : s ∈ (launchTurn auction account entry r).2.spawns → s ∈ r.spawns ∨ s.trade? = none := by
        rw [hspawns]
        intro hs
        refine (List.mem_append.mp hs).imp_right fun hs => ?_
        generalize (move auction account entry r.database).1 = result at hs
        cases result with
        | error e => cases hs
        | ok moved =>
            obtain ⟨chat, -, rfl⟩ := List.mem_map.mp hs
            rfl
      rw [launchAll] at hs
      rw [launchTurn] at hturn
      generalize launchFor auction account entry.1 entry.2 r = outcome at hs hturn
      obtain ⟨result, after⟩ := outcome
      cases result with
      | ok u => exact (ih hs).elim hturn Or.inr
      | error f => exact hturn hs

end TradeAlerts

namespace Hub

open Matching

variable {h : Hub} {e : TradeEvent} {s : Spawn}

/-- What the handling of an event looks up. -/
def sources (h : Hub) : TradeAlerts.Sources where
  oracle := h.oracle
  prices := h.surroundings.prices
  routes := h.routes

/-- What a bot of the hub matches events with. -/
def matcher (h : Hub) (bot : Int) (index : SubscriberIndex) : Matcher := matcherFor h.sources bot index h.database

/-- The state in which the turns of a round begin. -/
def begun (h : Hub) : TradeAlerts.Round where
  database := h.database
  net := h.surroundings.net
  alerts := { h.trades with events := h.trades.events + 1 }

/-- Every delivery that an event starts and that presents a trade goes back to a change that the event makes and a
record that asks for it. -/
theorem asked_of_tradeRound (hs : s ∈ (h.tradeRound e).2.spawns) :
    s.trade? = none ∨ ∃ entry ∈ h.trades.bots, ∃ c ∈ e.balanceChanges, ∃ p a,
      Asked (h.matcher entry.1 entry.2.index) c p a ∧ s = spawnOf entry.1 a := by
  have hmatched (e : TradeEvent) (hs : s ∈ (h.trades.bots.foldl
      (fun r (bot, b) => TradeAlerts.matchFor h.sources e.balanceChanges bot b r) h.begun).spawns) :
      s.trade? = none ∨ ∃ entry ∈ h.trades.bots, ∃ c ∈ e.balanceChanges, ∃ p a,
        Asked (h.matcher entry.1 entry.2.index) c p a ∧ s = spawnOf entry.1 a :=
    (TradeAlerts.asked_of_foldl_matchFor hs).elim (fun hnone => by cases hnone) Or.inr
  match e, hs with
  | .auction (.launch ..), hs =>
      exact Or.inl ((TradeAlerts.trade?_of_launchAll hs).resolve_left fun hnone => by cases hnone)
  | .swap swap, hs => exact hmatched (.swap swap) hs
  | .liquidity change, hs => exact hmatched (.liquidity change) hs
  | .auction (.deposit ..), hs => exact hmatched (.auction (.deposit ..)) hs
  | .auction (.withdraw ..), hs => exact hmatched (.auction (.withdraw ..)) hs

/-- What a feed's event starts for a bot goes back to candidates of the bot. -/
theorem own_tradeRound {feed : Feed} {payload : Json} (hread : feed.reading payload = .ok (some (.trade e)))
    (hbots : (Assoc.keys h.trades.bots).Nodup) {bot : Int} {b : TradeBot} (hb : (bot, b) ∈ h.trades.bots) :
    ∃ origins, Origins (h.matcher bot b.index) e.balanceChanges origins ∧
      (h.tradeRound e).2.spawns.filter (·.bot = bot) = origins.map fun o => spawnOf bot o.2 := by
  rw [tradeRound, TradeAlerts.handle_of_reading hread]
  obtain ⟨net, hown⟩ :=
    TradeAlerts.own_foldl_matchFor h.sources e.balanceChanges hbots hb h.begun
  obtain ⟨origins, horigins, halerts⟩ :=
    origins_changes (h.matcher bot b.index) e.balanceChanges { net, counts := b.counts }
  refine ⟨origins, horigins, hown.trans ?_⟩
  exact (congrArg (List.map (spawnOf bot)) halerts).trans (List.map_map ..)

/-- A hub with one bot, of which some calls were made. -/
def afterCallsOf (routes : TrendingRoutes) (calls : List Subscriptions.ChatCall) : Hub :=
  let shelf := Subscriptions.afterCalls 1 {} calls
  { routes, database := shelf.database, trades := { bots := [(1, { index := shelf.index })] } }

/-- The index of the bot is exact, and its rows are in order. -/
theorem consistent_afterCallsOf (routes : TrendingRoutes) {calls : List Subscriptions.ChatCall}
    (hcalls : ∀ call ∈ calls, call.Valid) :
    Subscriptions.Consistent 1
      { database := (afterCallsOf routes calls).database, index := (Subscriptions.afterCalls 1 {} calls).index } := by
  have hstart : Subscriptions.Begins 1 {} := .empty ⟨rfl, rfl, by decide⟩ rfl rfl
  exact hstart.consistent.afterCalls hcalls

/-- The payload of a swap. -/
def swapPayload (changes : List (String × Json)) : Json := .obj [
  ("trader", .str "t.near"), ("balance_changes", .obj changes), ("block_height", .int 1),
  ("block_timestamp_nanosec", .str "1"), ("transaction_id", .str "tx")]

/-- The swap that such a payload announces. -/
def swapOf (changes : List (String × Int)) : Swap where
  trader := "t.near"
  changes := changes
  blockHeight := 1
  nanoseconds := 1
  transaction := "tx"
  referrer := .null

/-- The payload of a change of liquidity. -/
def poolPayload (tokens : List (String × Json)) : Json := .obj [
  ("provider_account_id", .str "t.near"), ("pool_id", .str "REF-1"), ("tokens", .obj tokens), ("block_height", .int 1),
  ("block_timestamp_nanosec", .str "1"), ("transaction_id", .str "tx")]

/-- The change of liquidity that such a payload announces. -/
def poolOf (first second : String × Int) : LiquidityChange where
  provider := "t.near"
  pool := "REF-1"
  first := first
  second := second
  blockHeight := 1
  nanoseconds := 1
  transaction := "tx"

end Hub

end ChainAlerts
