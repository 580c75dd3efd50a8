import ChainAlerts.Proofs.AggregateChats

/-! How often a chat is told of one event. If the index of a bot is exact it names each follower of a token once, so a
chat has at most one delivery for each change of the event, and the changes of an event are of different tokens unless
both tokens of a pool have one name. A delivery presents the change that raised it, so that no token is presented to a
chat twice, except where a chat gathers all tokens: its deliveries about a swap all present the one leg that is picked
for it. -/

namespace ChainAlerts

namespace Matching

open Subscriptions

variable {m : Matcher} {changes : List BalanceChange} {origins : List (BalanceChange × TradeAlert)}

/-- The candidates of one chat belong to different changes, in their order, if the index names no chat twice. -/
theorem candidates_sublist (hlookup : ∀ token, (m.index.lookup token).Nodup) (changes : List BalanceChange)
    (chat : Int) : (((candidates m changes).filter (·.2 = chat)).map (·.1)).Sublist changes := by
  induction changes with
  | nil => exact List.Sublist.refl _
  | cons c rest ih =>
      have hown : (((m.index.lookup c.token).map (c, ·)).filter (·.2 = chat)).map (·.1) =
          List.replicate ((m.index.lookup c.token).count chat) c := by
        rw [List.filter_map, List.map_map]
        change ((m.index.lookup c.token).filter (· = chat)).map (fun _ => c) = _
        rw [List.filter_eq, List.map_replicate]
      have honce : (List.replicate ((m.index.lookup c.token).count chat) c).Sublist [c] :=
        (List.replicate_sublist_replicate c).mpr (List.nodup_iff_count_le_one.mp (hlookup c.token) chat)
      rw [← List.singleton_append, candidates_append, candidates_singleton, List.filter_append, List.map_append, hown]
      exact honce.append ih

/-- An exact index names no chat twice. -/
theorem nodup_lookup_of_exact {bot : Int} {db : Database} {index : SubscriberIndex} (hrows : (rows bot db).Ascending)
    (hexact : Exact bot { database := db, index }) (token : Token) : (index.lookup token).Nodup := by
  rw [hexact token]
  exact (hrows.chatsWith (payloadFollows token)).imp fun hlt => Int.ne_of_lt hlt

/-- The alerts of one chat are raised by different changes. -/
theorem Origins.changes_sublist (h : Origins m changes origins) (hlookup : ∀ token, (m.index.lookup token).Nodup)
    (chat : Int) : ((origins.filter (·.2.chat = chat)).map (·.1)).Sublist changes := by
  have horder := (h.order.filter (·.2 = chat)).map (·.1)
  rw [List.filter_map, List.map_map] at horder
  exact horder.trans (candidates_sublist hlookup changes chat)

end Matching

/-- The changes of a swap are of different tokens. -/
theorem Swap.nodup_tokens {payload : Json} {swap : Swap} (h : ofJson payload = .ok swap) :
    (swap.balanceChanges.map (·.token)).Nodup := by
  obtain ⟨_, _, legs, -, -, -, hchanges⟩ := exists_legs_of_ofJson h
  have htokens : swap.balanceChanges.map (·.token) = ((Assoc.keys legs).eraseDups).map Token.fungible := by
    rw [balanceChanges, hchanges, netChanges_eq, List.map_map, List.map_map]
    rfl
  rw [htokens]
  exact (nodup_eraseDups _).map fun _ _ => Token.fungible.inj

namespace Feed

open Matching

/-- The changes of an event are of different tokens, unless both tokens of a pool have one name. -/
theorem nodup_tokens_of_reading {feed : Feed} {payload : Json} {e : TradeEvent}
    (hread : feed.reading payload = .ok (some (.trade e)))
    (hpool : ∀ change, e = .liquidity change → change.first.1 ≠ change.second.1) :
    (e.balanceChanges.map (·.token)).Nodup := by
  cases feed with
  | swaps =>
      obtain ⟨swap, hswap, heq⟩ := except_map_eq_ok.mp hread
      cases heq
      exact Swap.nodup_tokens hswap
  | liquidity =>
      obtain ⟨change, -, heq⟩ := except_map_eq_ok.mp hread
      cases heq
      simpa [TradeEvent.balanceChanges, LiquidityChange.balanceChanges] using hpool change rfl
  | structuredLogs testnet =>
      obtain ⟨log, -, heq⟩ := except_map_eq_ok.mp hread
      cases heq
  | textLogs testnet =>
      obtain ⟨log, -, heq⟩ := except_map_eq_ok.mp hread
      cases heq

end Feed

namespace Hub

open Matching Subscriptions

/-- A bot's deliveries to a chat. -/
def deliveriesTo (bot chat : Int) (spawns : List Spawn) : List Spawn :=
  (spawns.filter (·.bot = bot)).filter (·.chat = chat)

/-- The token that a delivery presents. -/
def shownToken (s : Spawn) : Option Token := s.trade?.map (·.token)

/-- If the index of a bot is exact, a chat has at most one delivery for each change of an event, and only for changes of
tokens that it follows. So no token is presented to the chat twice, unless both tokens of a pool have one name, or the
chat gathers all tokens and the event is a swap; then every delivery presents the leg that is picked for the chat. -/
theorem one_delivery_for_each_change (h : Hub) (feed : Feed) (payload : Json) (e : TradeEvent)
    (hread : feed.reading payload = .ok (some (.trade e))) (hbots : (Assoc.keys h.trades.bots).Nodup) (bot : Int)
    (b : TradeBot) (hb : (bot, b) ∈ h.trades.bots) (hrows : (rows bot h.database).Ascending)
    (hexact : Exact bot { database := h.database, index := b.index }) (chat : Int) :
    ∃ origins : List (BalanceChange × TradeAlert),
      deliveriesTo bot chat (h.tradeRound e).2.spawns = origins.map (fun o => spawnOf bot o.2) ∧
      (origins.map (·.1)).Sublist e.balanceChanges ∧
      (∀ o ∈ origins, ∃ p, Asked (h.matcher bot b.index) o.1 p o.2) ∧
      ((∀ change, e = .liquidity change → change.first.1 ≠ change.second.1) →
        (origins.map (·.1.token)).Nodup ∧
        (h.routes.isSpecial chat = false ∨ (∀ swap, e ≠ .swap swap) →
          ((deliveriesTo bot chat (h.tradeRound e).2.spawns).map shownToken).Nodup)) ∧
      (h.routes.isSpecial chat → ∀ swap, e = .swap swap → ∀ s ∈ deliveriesTo bot chat (h.tradeRound e).2.spawns,
        ∃ leg, h.routes.pickLeg chat swap.changes = some leg ∧ shownToken s = some (.fungible leg.1)) := by
  obtain ⟨origins, horigins, hown⟩ := own_tradeRound hread hbots hb
  have hdeliveries : deliveriesTo bot chat (h.tradeRound e).2.spawns =
      (origins.filter (·.2.chat = chat)).map fun o => spawnOf bot o.2 := by
    rw [deliveriesTo, hown, List.filter_map]
    rfl
  have hchanges : ((origins.filter (·.2.chat = chat)).map (·.1)).Sublist e.balanceChanges :=
    horigins.changes_sublist (nodup_lookup_of_exact hrows hexact) chat
  refine ⟨_, hdeliveries, hchanges, fun o ho => horigins.asked o (List.mem_filter.mp ho).1, fun hpool => ?_, ?_⟩
  · have htokens : ((origins.filter (·.2.chat = chat)).map (·.1.token)).Nodup := by
      have hsublist := hchanges.map (·.token)
      rw [List.map_map] at hsublist
      exact (Feed.nodup_tokens_of_reading hread hpool).sublist hsublist
    refine ⟨htokens, fun hdirect => ?_⟩
    have hshown : (deliveriesTo bot chat (h.tradeRound e).2.spawns).map shownToken =
        ((origins.filter (·.2.chat = chat)).map (·.1.token)).map some := by
      rw [hdeliveries, List.map_map, List.map_map]
      refine List.map_congr_left fun o ho => ?_
      obtain ⟨hmem, hchat⟩ := List.mem_filter.mp ho
      obtain rfl : o.2.chat = chat := of_decide_eq_true hchat
      obtain ⟨p, hasked⟩ := horigins.asked o hmem
      have htrade : o.2.trade = tradeOf o.1 p :=
        hasked.trade_eq (hdirect.imp_right fun he => legs_of_not_swap he (horigins.mem hmem))
      show some o.2.trade.token = some o.1.token
      rw [htrade]
      rfl
    rw [hshown]
    exact htokens.map fun _ _ => Option.some.inj
  · rintro hspecial swap rfl s hs
    rw [hdeliveries] at hs
    obtain ⟨o, ho, rfl⟩ := List.mem_map.mp hs
    obtain ⟨hmem, hchat⟩ := List.mem_filter.mp ho
    obtain rfl : o.2.chat = chat := of_decide_eq_true hchat
    obtain ⟨p, hasked⟩ := horigins.asked o hmem
    obtain ⟨hlegs, hsome⟩ := legs_of_swap (horigins.mem hmem)
    obtain ⟨leg, hpick, htrade⟩ := hasked.picked hspecial hsome
    refine ⟨leg, hlegs ▸ hpick, ?_⟩
    show some o.2.trade.token = some (.fungible leg.1)
    rw [htrade]
    rfl

/-- A chat that gathers all tokens and an ordinary one, which follow both tokens of a swap. -/
def bothFollowed : List ChatCall := [
  .follow 3 (.fungible nativeNear) (some everyChange), .follow 3 (.fungible "a.near") (some everyChange),
  .follow 9 (.fungible nativeNear) (some everyChange), .follow 9 (.fungible "a.near") (some everyChange)]

theorem bothFollowed_valid : ∀ call ∈ bothFollowed, call.Valid := by
  have hnear : Token.parse (Token.fungible nativeNear).key = .ok (.fungible nativeNear) :=
    Token.parse_key (by decide) rfl
  have htoken : Token.parse (Token.fungible "a.near").key = .ok (.fungible "a.near") :=
    Token.parse_key (by decide) rfl
  have hproper : ∀ s ∈ some everyChange, s.Proper := by simpa using everyChange_proper
  intro call hcall
  simp only [bothFollowed, List.mem_cons, List.not_mem_nil, or_false] at hcall
  rcases hcall with rfl | rfl | rfl | rfl
  · exact ⟨hnear, hproper⟩
  · exact ⟨htoken, hproper⟩
  · exact ⟨hnear, hproper⟩
  · exact ⟨htoken, hproper⟩

theorem one_delivery_for_each_change_purchase :
    let h := afterCallsOf { trending := some 9 } bothFollowed
    let e : TradeEvent := .swap (swapOf [("a.near", 5), (nativeNear, -10)])
    (deliveriesTo 1 3 (h.tradeRound e).2.spawns).map shownToken =
        [some (.fungible "a.near"), some (.fungible nativeNear)] ∧
      ((deliveriesTo 1 3 (h.tradeRound e).2.spawns).map shownToken).Nodup := by
  intro h e
  have hconsistent := consistent_afterCallsOf { trending := some 9 } bothFollowed_valid
  obtain ⟨origins, -, -, -, hapart, -⟩ := one_delivery_for_each_change h .swaps
    (swapPayload [("a.near", .str "5"), (wrappedNear, .str "-10")]) e rfl (by decide) 1
    { index := (afterCalls 1 {} bothFollowed).index } List.mem_cons_self hconsistent.sound.ascending hconsistent.exact 3
  exact ⟨by decide +kernel, (hapart (by simp [e])).2 (Or.inl (by decide))⟩

/-- A token is presented twice though the index is exact: to a chat that gathers all tokens, if it follows both tokens of
a swap, and to any chat that follows a token, if both tokens of a pool have its name. -/
theorem presented_twice :
    let h := afterCallsOf { trending := some 9 } bothFollowed
    let b : TradeBot := { index := (afterCalls 1 {} bothFollowed).index }
    let purchase : TradeEvent := .swap (swapOf [("a.near", 5), (nativeNear, -10)])
    let deposit : TradeEvent := .liquidity (poolOf (nativeNear, 5) (nativeNear, 7))
    h.trades.bots = [(1, b)] ∧ Exact 1 { database := h.database, index := b.index } ∧
      Feed.swaps.reading (swapPayload [("a.near", .str "5"), ("near", .str "-10")]) = .ok (some (.trade purchase)) ∧
      (deliveriesTo 1 9 (h.tradeRound purchase).2.spawns).map shownToken =
        [some (.fungible "a.near"), some (.fungible "a.near")] ∧
      ¬((deliveriesTo 1 9 (h.tradeRound purchase).2.spawns).map shownToken).Nodup ∧
      Feed.liquidity.reading (poolPayload [("near", .str "5"), ("wrap.near", .str "7")]) =
        .ok (some (.trade deposit)) ∧
      (deliveriesTo 1 3 (h.tradeRound deposit).2.spawns).map shownToken =
        [some (.fungible nativeNear), some (.fungible nativeNear)] ∧
      ¬((deliveriesTo 1 3 (h.tradeRound deposit).2.spawns).map shownToken).Nodup :=
  ⟨rfl, (consistent_afterCallsOf _ bothFollowed_valid).exact, rfl, by decide +kernel, by decide +kernel, rfl,
    by decide +kernel, by decide +kernel⟩

end Hub

end ChainAlerts
