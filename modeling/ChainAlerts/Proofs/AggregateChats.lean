import ChainAlerts.Proofs.AlertOrigins

/-! What the chats that gather all tokens are shown. Of a swap they are shown a leg that goes in the direction of the
chat and is not excluded, whichever of the legs they follow. No other event has legs, and of a change of liquidity or
a step in an auction they are shown what every other chat is shown. Legs go by normal names, so an excluded name is
compared as it is written with names none of which is that of the wrapped native token. -/

namespace ChainAlerts

namespace TrendingRoutes

variable {r : TrendingRoutes} {chat : Int} {legs : List (String × Int)} {leg : String × Int}

theorem mem_of_largest? (h : largest? legs = some leg) : leg ∈ legs := by
  induction legs generalizing leg with
  | nil => cases h
  | cons first rest ih =>
      rw [largest?] at h
      cases hrest : largest? rest with
      | none =>
          rw [hrest] at h
          exact Option.some.inj h ▸ List.mem_cons_self
      | some other =>
          rw [hrest] at h
          obtain rfl := Option.some.inj h
          split
          · exact List.mem_cons_of_mem first (ih hrest)
          · exact List.mem_cons_self

theorem eligible_iff :
    r.eligible chat leg ↔ leg.1 ∉ r.excluded ∧ leg.2 ≠ 0 ∧ (0 < leg.2 ↔ r.trending = some chat) := by
  simp [eligible, and_assoc]

/-- The leg that is shown to a chat is one of the swap's, and one that may be shown. -/
theorem eligible_of_pickLeg (h : r.pickLeg chat legs = some leg) : leg ∈ legs ∧ r.eligible chat leg :=
  List.mem_filter.mp (mem_of_largest? h)

end TrendingRoutes

namespace Matching

variable {routes : TrendingRoutes} {chat : Int} {c : BalanceChange} {p : Polarity}

/-- What shows a change itself. -/
def tradeOf (c : BalanceChange) (p : Polarity) : Trade where
  token := c.token
  valueToken := c.valueToken
  amount := c.amount
  polarity := p
  trader := c.trader
  transaction := c.transaction

/-- What shows a leg of a swap in place of the change that raised it. -/
def tradeOfLeg (c : BalanceChange) (leg : String × Int) : Trade where
  token := .fungible leg.1
  valueToken := leg.1
  amount := leg.2
  polarity := if 0 < leg.2 then .buy else .sell
  trader := c.trader
  transaction := c.transaction

theorem shown?_of_legs (hspecial : routes.isSpecial chat) (hlegs : c.legs ≠ []) :
    shown? routes chat c p = (routes.pickLeg chat c.legs).map (tradeOfLeg c) := by
  have hempty : c.legs.isEmpty = false := List.isEmpty_eq_false_iff.mpr hlegs
  rw [shown?, hspecial, hempty]
  cases routes.pickLeg chat c.legs <;> rfl

theorem shown?_of_change (h : routes.isSpecial chat = false ∨ c.legs = []) :
    shown? routes chat c p = some (tradeOf c p) := by
  rw [shown?, if_neg]
  · rfl
  · rcases h with h | h <;> simp [h]

/-- Whoever is asked is shown the change itself, unless it has legs and the chat gathers all tokens. -/
theorem Asked.trade_eq {m : Matcher} {a : TradeAlert} (h : Asked m c p a)
    (hdirect : m.routes.isSpecial a.chat = false ∨ c.legs = []) : a.trade = tradeOf c p :=
  Option.some.inj (h.shown.symm.trans (shown?_of_change hdirect))

/-- A chat that gathers all tokens is shown the leg that is picked for it. -/
theorem Asked.picked {m : Matcher} {a : TradeAlert} (h : Asked m c p a) (hspecial : m.routes.isSpecial a.chat)
    (hlegs : c.legs ≠ []) : ∃ leg, m.routes.pickLeg a.chat c.legs = some leg ∧ a.trade = tradeOfLeg c leg := by
  have hshown := h.shown
  rw [shown?_of_legs hspecial hlegs] at hshown
  obtain ⟨leg, hpick, htrade⟩ := Option.map_eq_some_iff.mp hshown
  exact ⟨leg, hpick, htrade.symm⟩

/-- The changes of a swap have its legs. -/
theorem legs_of_swap {swap : Swap} (hc : c ∈ swap.balanceChanges) : c.legs = swap.changes ∧ c.legs ≠ [] := by
  obtain ⟨leg, hleg, rfl⟩ := List.mem_map.mp hc
  exact ⟨rfl, List.ne_nil_of_mem hleg⟩

/-- The changes of all other events have none. -/
theorem legs_of_not_swap {e : TradeEvent} (he : ∀ swap, e ≠ .swap swap) (hc : c ∈ e.balanceChanges) : c.legs = [] := by
  match e with
  | .swap swap => exact absurd rfl (he swap)
  | .liquidity change =>
      obtain ⟨leg, -, rfl⟩ := List.mem_map.mp hc
      rfl
  | .auction (.deposit ..) => exact List.mem_singleton.mp hc ▸ rfl
  | .auction (.withdraw ..) => exact List.mem_singleton.mp hc ▸ rfl
  | .auction (.launch ..) => cases hc

end Matching

/-- The accounts of a swap's legs are the normal names of accounts in its payload. -/
theorem Swap.named_of_ofJson {payload : Json} {swap : Swap} (h : ofJson payload = .ok swap) {account : String}
    (hmem : account ∈ Assoc.keys swap.changes) :
    ∃ entries, payload.field? "balance_changes" = .ok (some (.obj entries)) ∧
      ∃ name ∈ Assoc.keys entries, normalizeToken name = account := by
  obtain ⟨filed, entries, legs, hfiled, hentries, hlegs, hchanges⟩ := exists_legs_of_ofJson h
  have hname : account ∈ (Assoc.keys entries).map normalizeToken := by
    obtain ⟨leg, hleg, rfl⟩ := List.mem_map.mp hmem
    rw [hchanges] at hleg
    exact keys_readLegs hlegs ▸ (mem_netChanges.mp hleg).1
  cases filed with
  | none =>
      obtain rfl := Except.ok.inj hentries
      cases hname
  | some v =>
      cases v with
      | obj found =>
          obtain rfl := Except.ok.inj hentries
          exact ⟨found, hfiled, List.mem_map.mp hname⟩
      | _ => cases hentries

/-- A name is excluded only if the normal name is, provided that the native token is excluded along with the wrapped
one. -/
theorem not_excluded_of_normalizeToken {excluded : List String} (hnear : wrappedNear ∈ excluded → nativeNear ∈ excluded)
    {name : String} (h : normalizeToken name ∉ excluded) : name ∉ excluded := by
  by_cases hwrapped : name = wrappedNear
  · subst hwrapped
    exact fun hmem => h (hnear hmem)
  · rwa [normalizeToken_of_ne hwrapped] at h

/-- A leg of a swap that may be shown on a chat which gathers all tokens: it goes in the chat's direction, and neither
its normal name nor a name that stands for it in the payload is excluded. -/
structure ShownLeg (routes : TrendingRoutes) (chat : Int) (payload : Json) (account : String) (amount : Int) :
    Prop where
  bought : routes.trending = some chat → 0 < amount
  sold : routes.dumpers = some chat → amount < 0
  allowed : account ∉ routes.excluded
  named : ∃ entries, payload.field? "balance_changes" = .ok (some (.obj entries)) ∧
    (∃ name ∈ Assoc.keys entries, normalizeToken name = account) ∧
    ((wrappedNear ∈ routes.excluded → nativeNear ∈ routes.excluded) →
      ∀ name ∈ Assoc.keys entries, normalizeToken name = account → name ∉ routes.excluded)

namespace Feed

variable {feed : Feed} {read : Reading} {payload : Json} {e : TradeEvent}

theorem eq_reading_or_readAuction (h : read ∈ feed.readings) : read = feed.reading ∨ read = readAuction := by
  cases feed with
  | structuredLogs testnet =>
      cases testnet with
      | true => exact Or.inl (List.mem_singleton.mp h)
      | false => exact (List.mem_cons.mp h).imp_right List.mem_singleton.mp
  | _ => exact Or.inl (List.mem_singleton.mp h)

/-- A swap is read from the payload of a swap only. -/
theorem ofJson_of_reading {swap : Swap} (hread : read ∈ feed.readings)
    (hevent : read payload = .ok (some (.trade (.swap swap)))) : Swap.ofJson payload = .ok swap := by
  rcases eq_reading_or_readAuction hread with rfl | rfl
  · have hkind := kind_of_reading hevent
    cases feed with
    | swaps =>
        obtain ⟨found, hfound, heq⟩ := except_map_eq_ok.mp hevent
        cases heq
        exact hfound
    | _ => cases hkind
  · cases kind_of_readAuction hevent

end Feed

namespace Hub

open Matching

/-- What the chats that gather all tokens are shown, if they are two. A trade notification of a swap presents a leg that
may be shown there. One of any other event presents a change that the event makes as it is. -/
theorem shown_on_aggregate_chats (h : Hub)
    (hdiffer : ∀ chat, h.routes.trending = some chat → h.routes.dumpers ≠ some chat) (feed : Feed)
    (read : Feed.Reading) (payload : Json) (e : TradeEvent) (hread : read ∈ feed.readings)
    (hevent : read payload = .ok (some (.trade e))) (s : Spawn) (hs : s ∈ (h.tradeRound e).2.spawns)
    (hspecial : h.routes.isSpecial s.chat) (trade : Trade) (htrade : s.trade? = some trade) :
    (∀ swap, e = .swap swap → ∃ account, trade.token = .fungible account ∧ (account, trade.amount) ∈ swap.changes ∧
      ShownLeg h.routes s.chat payload account trade.amount) ∧
    ((∀ swap, e ≠ .swap swap) → ∃ c ∈ e.balanceChanges, ∃ p, c.polarity? = some p ∧ trade = tradeOf c p) := by
  obtain hnone | ⟨entry, -, c, hc, p, a, hasked, rfl⟩ := asked_of_tradeRound hs
  · rw [hnone] at htrade
    cases htrade
  · obtain rfl : a.trade = trade := Option.some.inj htrade
    constructor
    · rintro swap rfl
      obtain ⟨hlegs, hsome⟩ := legs_of_swap hc
      obtain ⟨leg, hpick, hleg⟩ := hasked.picked hspecial hsome
      rw [hlegs] at hpick
      obtain ⟨hmem, heligible⟩ := TrendingRoutes.eligible_of_pickLeg hpick
      obtain ⟨hallowed, hzero, hside⟩ := TrendingRoutes.eligible_iff.mp heligible
      have hswap : Swap.ofJson payload = .ok swap := Feed.ofJson_of_reading hread hevent
      obtain ⟨entries, hentries, hname⟩ := Swap.named_of_ofJson hswap (List.mem_map_of_mem hmem)
      rw [hleg]
      refine ⟨leg.1, rfl, hmem, hside.mpr, fun hdumpers => ?_, hallowed, entries, hentries, hname, ?_⟩
      · have hnot : ¬ 0 < leg.2 := fun hpos => hdiffer _ (hside.mp hpos) hdumpers
        show leg.2 < 0
        omega
      · intro hnear name _ hstands
        exact not_excluded_of_normalizeToken hnear (hstands ▸ hallowed)
    · intro he
      exact ⟨c, hc, p, hasked.direction, hasked.trade_eq (Or.inr (legs_of_not_swap he hc))⟩

/-- What the deliveries to each chat present. -/
def presented (spawns : List Spawn) : List (Int × Option (Token × Int)) :=
  spawns.map fun s => (s.chat, s.trade?.map fun trade => (trade.token, trade.amount))

/-- A hub in which the two chats that gather all tokens follow an account. -/
def gathering (account : String) (excluded : List String) : Hub :=
  afterCallsOf { trending := some 9, dumpers := some 8, excluded }
    [.follow 9 (.fungible account) (some everyChange), .follow 8 (.fungible account) (some everyChange)]

theorem shown_on_aggregate_chats_purchase :
    let h := gathering "a.near" ["b.near"]
    let e : TradeEvent := .swap (swapOf [("a.near", 5), (nativeNear, -10)])
    let payload := swapPayload [("a.near", .str "5"), (wrappedNear, .str "-10")]
    presented (h.tradeRound e).2.spawns =
        [(8, some (.fungible nativeNear, -10)), (9, some (.fungible "a.near", 5))] ∧
      ∃ s ∈ (h.tradeRound e).2.spawns, s.chat = 8 ∧ ∃ account amount, s.trade?.map (·.amount) = some amount ∧
        ShownLeg h.routes 8 payload account amount := by
  intro h e payload
  have hpresented : presented (h.tradeRound e).2.spawns =
      [(8, some (.fungible nativeNear, -10)), (9, some (.fungible "a.near", 5))] := by decide +kernel
  have hdiffer : ∀ chat, h.routes.trending = some chat → h.routes.dumpers ≠ some chat := by
    rintro chat heq
    obtain rfl : (9 : Int) = chat := Option.some.inj heq
    decide
  refine ⟨hpresented, ?_⟩
  have hmem : (8, some (Token.fungible nativeNear, -10)) ∈ presented (h.tradeRound e).2.spawns := by
    rw [hpresented]
    exact List.mem_cons_self
  obtain ⟨s, hs, heq⟩ := List.mem_map.mp hmem
  obtain ⟨hchat, htrade⟩ := Prod.mk.inj heq
  obtain ⟨trade, htrade, -⟩ := Option.map_eq_some_iff.mp htrade
  obtain ⟨account, -, -, hleg⟩ := (shown_on_aggregate_chats h hdiffer .swaps Feed.readSwap payload e
    List.mem_cons_self rfl s hs (by rw [hchat]; decide) trade htrade).1 _ rfl
  exact ⟨s, hs, hchat, account, trade.amount, by rw [htrade]; rfl, hchat ▸ hleg⟩

/-- The chat that gathers what is bought is shown a token that is taken out of a pool, though the token is excluded there
and its amount negative. It is shown a token of a swap by its normal name, though the name that the payload has for the
token is excluded. -/
theorem unwanted_on_trending_chat :
    let h := gathering "a.near" ["a.near"]
    let removal : TradeEvent := .liquidity (poolOf ("a.near", -5) (nativeNear, -10))
    let h' := gathering "a.near" ["wrap.near"]
    let sale : TradeEvent := .swap (swapOf [("a.near", -5), (nativeNear, 10)])
    (h.routes.trending = some 9 ∧ h.routes.dumpers = some 8 ∧ "a.near" ∈ h.routes.excluded ∧
      Feed.liquidity.reading (poolPayload [("a.near", .str "-5"), ("near", .str "-10")]) =
        .ok (some (.trade removal)) ∧
      (9, some (.fungible "a.near", -5)) ∈ presented (h.tradeRound removal).2.spawns) ∧
    h'.routes.trending = some 9 ∧ h'.routes.dumpers = some 8 ∧ "wrap.near" ∈ h'.routes.excluded ∧
      Feed.swaps.reading (swapPayload [("a.near", .str "-5"), ("wrap.near", .str "10")]) = .ok (some (.trade sale)) ∧
      (9, some (.fungible nativeNear, 10)) ∈ presented (h'.tradeRound sale).2.spawns :=
  ⟨⟨rfl, rfl, by decide, rfl, by decide +kernel⟩, rfl, rfl, by decide, rfl, by decide +kernel⟩

end Hub

end ChainAlerts
