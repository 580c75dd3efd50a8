import ChainAlerts.Proofs.AggregateChats
import ChainAlerts.Proofs.DistinctDeliveries

/-! The legs of a swap, from its payload to the chats. Amounts are netted by token, and the nets are all that the
matching sees of a swap: it takes up each token with a net amount once, in the order of the payload, and none that nets
to zero. It goes on to the end of the swap unless a token fails; then it ends with that token. -/

namespace ChainAlerts

namespace Matching

open Subscriptions

variable {m : Matcher} {c : BalanceChange} {p : Polarity} {price : Option Decimal} {state : Matching}

theorem polarity_eq_none_iff : c.polarity? = none ↔ c.amount = 0 := by
  rw [BalanceChange.polarity?, ChangeKind.polarity?.eq_def]
  split
  next hzero => exact iff_of_true rfl hzero
  next hne => cases c.kind <;> simp [hne]

theorem amount_ne_zero_of_polarity (h : c.polarity? = some p) : c.amount ≠ 0 := fun hzero => by
  rw [polarity_eq_none_iff.mpr hzero] at h
  cases h

/-- A change of nothing is not looked up, and nothing is counted. -/
theorem change_of_zero (m : Matcher) (state : Matching) (h : c.amount = 0) : change m c state = (.ok 0, state) := by
  rw [change, polarity_eq_none_iff.mpr h]

/-- What a chat is shown is never a change of nothing, whether it is the change itself or a leg of its swap. -/
theorem Asked.amount_ne_zero {a : TradeAlert} (h : Asked m c p a) : a.trade.amount ≠ 0 := by
  by_cases hdirect : m.routes.isSpecial a.chat = false ∨ c.legs = []
  · rw [h.trade_eq hdirect]
    exact amount_ne_zero_of_polarity h.direction
  · obtain ⟨hspecial, hlegs⟩ := not_or.mp hdirect
    obtain ⟨leg, hpick, htrade⟩ := h.picked (Bool.eq_true_of_not_eq_false hspecial) hlegs
    rw [htrade]
    exact (TrendingRoutes.eligible_iff.mp (TrendingRoutes.eligible_of_pickLeg hpick).2).2.1

/-! What one change adds to the counts. -/

/-- How many changes and candidates were seen. -/
def seen (state : Matching) : Nat × Nat := (state.counts.changes, state.counts.candidates)

/-- Judging candidates counts what becomes of them, and sees no further ones. An alert is counted for each that is
added. -/
theorem seen_judgeAll (m : Matcher) (c : BalanceChange) (p : Polarity) (price : Option Decimal) (chats : List Int)
    (known : Option (Option Int)) (state : Matching) :
    (judgeAll m c p price chats known state).2.seen = state.seen ∧
      ∀ n, (judgeAll m c p price chats known state).1 = .ok n →
        (judgeAll m c p price chats known state).2.alerts.length = state.alerts.length + n := by
  induction chats generalizing known state with
  | nil => exact ⟨rfl, fun n hn => by obtain rfl := Except.ok.inj hn; rfl⟩
  | cons chat rest ih =>
      rw [judgeAll]
      rcases (judge m c p price chat known).run state.net with ⟨e | ⟨skip | alert, known'⟩, net⟩
      · exact ⟨rfl, fun n hn => by cases hn⟩
      · obtain ⟨hseen, hcount⟩ := ih known' { state with net, counts := state.counts.skip skip }
        refine ⟨hseen.trans ?_, hcount⟩
        cases skip <;> rfl
      · obtain ⟨hseen, hcount⟩ := ih known' { state with net, alerts := state.alerts ++ [alert] }
        refine ⟨hseen, fun n hn => ?_⟩
        simp only at hn ⊢
        cases hrest : (judgeAll m c p price rest known' { state with net, alerts := state.alerts ++ [alert] }).1 with
        | error e =>
            rw [hrest] at hn
            cases hn
        | ok k =>
            rw [hrest] at hn
            obtain rfl := Except.ok.inj hn
            rw [hcount k hrest, List.length_append, List.length_singleton, Nat.add_assoc, Nat.add_comm 1]

/-- A change that is not of nothing is seen once, with all chats that the index names for its token. -/
theorem seen_change (m : Matcher) (state : Matching) (h : c.amount ≠ 0) :
    (change m c state).2.seen = (state.counts.changes + 1, state.counts.candidates + (m.index.lookup c.token).length) ∧
      ∀ n, (change m c state).1 = .ok n → (change m c state).2.alerts.length = state.alerts.length + n := by
  obtain ⟨p, hp⟩ := Option.ne_none_iff_exists'.mp fun hnone => h (polarity_eq_none_iff.mp hnone)
  rw [change, hp]
  simp only
  split
  next hempty =>
    rw [List.isEmpty_iff.mp hempty]
    exact ⟨rfl, fun n hn => by obtain rfl := Except.ok.inj hn; rfl⟩
  next =>
    cases m.prices.price c.valueToken with
    | error f => exact ⟨rfl, fun n hn => by cases hn⟩
    | ok price =>
        simp only
        generalize hbegun : ({ state with counts := _ } : Matching) = begun
        obtain ⟨hseen, hcount⟩ := seen_judgeAll m c p price (m.index.lookup c.token) none begun
        generalize judgeAll m c p price (m.index.lookup c.token) none begun = outcome at hseen hcount
        obtain ⟨result, after⟩ := outcome
        subst hbegun
        cases result with
        | error e => exact ⟨hseen, fun n hn => by cases hn⟩
        | ok k => exact ⟨hseen, hcount⟩

/-! What the changes of an event add. -/

/-- Changes are matched in turn, each once, until one fails. -/
inductive InTurn (m : Matcher) : Matching → List BalanceChange → Except MatchFailure Nat × Matching → Prop
  | done (state : Matching) : InTurn m state [] (.ok 0, state)
  | failed {state after : Matching} {c : BalanceChange} {e : MatchFailure} (h : change m c state = (.error e, after)) :
      InTurn m state [c] (.error e, after)
  | next {state after final : Matching} {c : BalanceChange} {rest : List BalanceChange} {n : Nat}
      {more : Except MatchFailure Nat} (h : change m c state = (.ok n, after))
      (hrest : InTurn m after rest (more, final)) : InTurn m state (c :: rest) (more.map (n + ·), final)

/-- The changes of an event are matched in turn, all of them unless one fails. -/
theorem exists_inTurn (m : Matcher) (changes : List BalanceChange) (state : Matching) :
    ∃ taken left, changes = taken ++ left ∧ InTurn m state taken (Matching.changes m changes state) ∧
      ((Matching.changes m changes state).1.isOk → left = []) := by
  induction changes generalizing state with
  | nil => exact ⟨[], [], rfl, .done state, fun _ => rfl⟩
  | cons c rest ih =>
      rw [Matching.changes]
      rcases hchange : change m c state with ⟨e | n, after⟩
      · exact ⟨[c], rest, rfl, .failed hchange, fun hok => by cases hok⟩
      · obtain ⟨taken, left, rfl, hturns, hall⟩ := ih after
        refine ⟨c :: taken, left, rfl, .next hchange hturns, fun hok => hall ?_⟩
        simp only at hok
        cases hrest : (Matching.changes m (taken ++ left) after).1 with
        | error e =>
            rw [hrest] at hok
            cases hok
        | ok k => rfl

/-- Each change that is taken up is seen once, and so is each chat that the index names for its token. -/
theorem InTurn.seen {taken : List BalanceChange} {outcome : Except MatchFailure Nat × Matching}
    (h : InTurn m state taken outcome) (hne : ∀ c ∈ taken, c.amount ≠ 0) :
    outcome.2.seen = (state.counts.changes + taken.length,
        state.counts.candidates + (taken.map fun c => (m.index.lookup c.token).length).sum) ∧
      ∀ n, outcome.1 = .ok n → outcome.2.alerts.length = state.alerts.length + n := by
  induction h with
  | done state => exact ⟨rfl, fun n hn => by obtain rfl := Except.ok.inj hn; rfl⟩
  | @failed state after c e hchange =>
      have hseen := (seen_change m state (hne c List.mem_cons_self)).1
      rw [hchange] at hseen
      exact ⟨hseen.trans (by simp), fun n hn => by cases hn⟩
  | @next state after final c rest n more hchange _ ih =>
      obtain ⟨hc, hrest⟩ := List.forall_mem_cons.mp hne
      obtain ⟨hseen, hcount⟩ := seen_change m state hc
      obtain ⟨hmore, htotal⟩ := ih hrest
      rw [hchange] at hseen hcount
      have hchanges : after.counts.changes = state.counts.changes + 1 := (Prod.mk.inj hseen).1
      have hcandidates : after.counts.candidates = state.counts.candidates + (m.index.lookup c.token).length :=
        (Prod.mk.inj hseen).2
      refine ⟨hmore.trans (Prod.ext ?_ ?_), fun k hk => ?_⟩
      · rw [hchanges, List.length_cons, Nat.add_assoc, Nat.add_comm 1]
      · rw [hcandidates, List.map_cons, List.sum_cons, Nat.add_assoc]
      · cases more with
        | error e => cases hk
        | ok j =>
            obtain rfl := Except.ok.inj hk
            rw [htotal j rfl, hcount n rfl, Nat.add_assoc]

theorem InTurn.origins {taken : List BalanceChange} {outcome : Except MatchFailure Nat × Matching}
    (h : InTurn m state taken outcome) :
    ∃ origins, Origins m taken origins ∧ outcome.2.alerts = state.alerts ++ origins.map (·.2) := by
  induction h with
  | done state => exact ⟨[], .none m [], (List.append_nil _).symm⟩
  | @failed state after c e hchange =>
      obtain ⟨origins, horigins, halerts⟩ := origins_change m c state
      rw [hchange] at halerts
      exact ⟨origins, horigins, halerts⟩
  | @next state after final c rest n more hchange _ ih =>
      obtain ⟨own, hown, halerts⟩ := origins_change m c state
      rw [hchange] at halerts
      obtain ⟨others, hothers, hrest⟩ := ih
      refine ⟨own ++ others, hown.append hothers, hrest.trans ?_⟩
      rw [show after.alerts = state.alerts ++ own.map (·.2) from halerts, List.map_append, List.append_assoc]

/-- Changes of nothing might as well not be there. -/
theorem changes_filter (m : Matcher) (changes : List BalanceChange) (state : Matching) :
    Matching.changes m changes state = Matching.changes m (changes.filter (·.amount ≠ 0)) state := by
  induction changes generalizing state with
  | nil => rfl
  | cons c rest ih =>
      by_cases hzero : c.amount = 0
      · rw [List.filter_cons_of_neg (by simp [hzero]), Matching.changes, change_of_zero m state hzero, ← ih]
        simp only [Nat.zero_add]
        rcases Matching.changes m rest state with ⟨e | n, after⟩ <;> rfl
      · rw [List.filter_cons_of_pos (by simp [hzero]), Matching.changes, Matching.changes]
        simp only [ih]

/-- With an exact index the changes of an event that are not of nothing are taken up in turn, each with all followers
of its token, and every alert is due to one of them. -/
theorem exists_taken (m : Matcher) (changes : List BalanceChange) (state : Matching)
    (hexact : Exact m.bot { database := m.database, index := m.index }) :
    let outcome := Matching.changes m changes state
    ∃ taken left origins, changes.filter (·.amount ≠ 0) = taken ++ left ∧ InTurn m state taken outcome ∧
      outcome.2.counts.changes = state.counts.changes + taken.length ∧
      outcome.2.counts.candidates =
        state.counts.candidates + (taken.map fun c => (followers m.bot m.database c.token).length).sum ∧
      Origins m taken origins ∧ outcome.2.alerts = state.alerts ++ origins.map (·.2) ∧
      (∀ o ∈ origins, o.1.amount ≠ 0 ∧ o.2.trade.amount ≠ 0) ∧
      (outcome.1.isOk → left = []) ∧ ∀ n, outcome.1 = .ok n → n = origins.length := by
  intro outcome
  obtain ⟨taken, left, hdue, hturns, hall⟩ := exists_inTurn m (changes.filter (·.amount ≠ 0)) state
  rw [← changes_filter m changes state] at hturns hall
  have hne : ∀ c ∈ taken, c.amount ≠ 0 := fun c hc =>
    of_decide_eq_true (List.mem_filter.mp (hdue ▸ List.mem_append_left left hc : c ∈ changes.filter _)).2
  obtain ⟨hseen, hcount⟩ := hturns.seen hne
  obtain ⟨hseenChanges, hseenCandidates⟩ := Prod.mk.inj hseen
  obtain ⟨origins, horigins, halerts⟩ := hturns.origins
  refine ⟨taken, left, origins, hdue, hturns, hseenChanges, ?_, horigins, halerts, fun o ho => ?_, hall, ?_⟩
  · rw [hseenCandidates]
    congr 2
    exact List.map_congr_left fun c _ => congrArg List.length (hexact c.token)
  · obtain ⟨p, hasked⟩ := horigins.asked o ho
    exact ⟨hne o.1 (horigins.mem ho), hasked.amount_ne_zero⟩
  · intro n hn
    have htotal := hcount n hn
    rw [halerts, List.length_append, List.length_map] at htotal
    exact (Nat.add_left_cancel htotal).symm

end Matching

namespace Swap

open Matching Subscriptions

variable {payload : Json} {swap : Swap}

/-- The changes of a swap that are not of nothing. -/
def due (swap : Swap) : List BalanceChange := swap.balanceChanges.filter (·.amount ≠ 0)

theorem mem_due {token : String} {amount : Int} :
    (∃ c ∈ swap.due, c.token = .fungible token ∧ c.amount = amount) ↔ (token, amount) ∈ swap.changes ∧ amount ≠ 0 := by
  constructor
  · rintro ⟨c, hc, htoken, rfl⟩
    obtain ⟨hmem, hne⟩ := List.mem_filter.mp hc
    obtain ⟨leg, hleg, rfl⟩ := List.mem_map.mp hmem
    obtain rfl : leg.1 = token := Token.fungible.inj htoken
    exact ⟨hleg, of_decide_eq_true hne⟩
  · rintro ⟨hleg, hne⟩
    exact ⟨_, List.mem_filter.mpr ⟨List.mem_map_of_mem hleg, decide_eq_true hne⟩, rfl, rfl⟩

theorem nodup_due (h : ofJson payload = .ok swap) : (swap.due.map (·.token)).Nodup :=
  (List.filter_sublist.map _).nodup (nodup_tokens h)

/-- A swap has for each token that its payload names the sum of the token's amounts, the wrapped native token going by
the name of the native one, in the order of the first amounts; so its total is that of the payload. A bot with an exact
index takes up each token whose net amount is not zero, once and with that amount, and looks up all chats that follow
it. It takes up no other, and shows no chat an amount of zero. Only a token that fails keeps those after it from being
taken up. -/
theorem legs_netted (payload : Json) (swap : Swap) (h : ofJson payload = .ok swap) :
    (∃ filed entries legs, payload.field? "balance_changes" = .ok filed ∧
      (filed.getD (.obj [])).entries = .ok entries ∧
      List.Forall₂ (fun entry leg => leg.1 = normalizeToken entry.1 ∧ entry.2.integerOfText = .ok leg.2) entries legs ∧
      Assoc.keys swap.changes = ((Assoc.keys entries).map normalizeToken).eraseDups ∧
      wrappedNear ∉ Assoc.keys swap.changes ∧
      (∀ token amount, (token, amount) ∈ swap.changes ↔
        token ∈ (Assoc.keys entries).map normalizeToken ∧ amount = netAmount token legs) ∧
      (swap.changes.map (·.2)).sum = (legs.map (·.2)).sum) ∧
    (swap.due.map (·.token)).Nodup ∧
    (∀ token amount, (∃ c ∈ swap.due, c.token = .fungible token ∧ c.amount = amount) ↔
      (token, amount) ∈ swap.changes ∧ amount ≠ 0) ∧
    ∀ (m : Matcher) (state : Matching), Exact m.bot { database := m.database, index := m.index } →
      let outcome := Matching.changes m swap.balanceChanges state
      ∃ taken left origins, swap.due = taken ++ left ∧ InTurn m state taken outcome ∧
        outcome.2.counts.changes = state.counts.changes + taken.length ∧
        outcome.2.counts.candidates =
          state.counts.candidates + (taken.map fun c => (followers m.bot m.database c.token).length).sum ∧
        Origins m taken origins ∧ outcome.2.alerts = state.alerts ++ origins.map (·.2) ∧
        (∀ o ∈ origins, o.1.amount ≠ 0 ∧ o.2.trade.amount ≠ 0) ∧
        (outcome.1.isOk → left = []) ∧ ∀ n, outcome.1 = .ok n → n = origins.length := by
  obtain ⟨filed, entries, legs, hfiled, hentries, hlegs, hchanges⟩ := exists_legs_of_ofJson h
  have hkeys := keys_readLegs hlegs
  have hnames : Assoc.keys swap.changes = ((Assoc.keys entries).map normalizeToken).eraseDups := by
    rw [hchanges, netChanges_eq, Assoc.keys, List.map_map, ← hkeys]
    exact List.map_id _
  refine ⟨⟨filed, entries, legs, hfiled, hentries, forall₂_readLegs hlegs, hnames, ?_, ?_, ?_⟩, nodup_due h,
    fun token amount => mem_due, fun m state => exists_taken m swap.balanceChanges state⟩
  · rw [hnames, List.mem_eraseDups, List.mem_map]
    rintro ⟨account, -, hwrapped⟩
    exact normalizeToken_ne_wrappedNear account hwrapped
  · intro token amount
    rw [hchanges, mem_netChanges, hkeys]
  · rw [hchanges, sum_netChanges]

/-- A purchase in which the native token goes out and comes back wrapped. -/
def roundTrip : Json := Hub.swapPayload [("a.near", .str "5"), ("near", .str "-3"), (wrappedNear, .str "3")]

theorem legs_netted_round_trip :
    let swap := Hub.swapOf [("a.near", 5), (nativeNear, 0)]
    let m := (Hub.afterCallsOf {} Hub.bothFollowed).matcher 1 (afterCalls 1 {} Hub.bothFollowed).index
    let outcome := Matching.changes m swap.balanceChanges { net := {}, counts := {} }
    ofJson roundTrip = .ok swap ∧ (swap.changes.map (·.2)).sum = 5 ∧ swap.due.map (·.token) = [.fungible "a.near"] ∧
      InTurn m { net := {}, counts := {} } swap.due outcome ∧ outcome.2.counts.changes = 1 ∧
      ∃ origins, Origins m swap.due origins ∧ outcome.2.alerts = origins.map (·.2) ∧ 2 = origins.length := by
  intro swap m outcome
  have hread : ofJson roundTrip = .ok swap := rfl
  have hexact : Exact m.bot { database := m.database, index := m.index } :=
    (Hub.consistent_afterCallsOf {} Hub.bothFollowed_valid).exact
  obtain ⟨-, -, -, hmatched⟩ := legs_netted roundTrip swap hread
  obtain ⟨taken, left, origins, hdue, hturns, hchanges, -, horigins, halerts, -, hall, hcount⟩ :=
    hmatched m { net := {}, counts := {} } hexact
  have hok : (outcome.1.toOption = some 2) := by decide +kernel
  have hresult : outcome.1 = .ok 2 := by
    cases hcase : outcome.1 with
    | error e => simp [hcase, Except.toOption] at hok
    | ok n => simpa [hcase, Except.toOption] using hok
  obtain rfl := hall (by rw [hresult]; rfl)
  rw [List.append_nil] at hdue
  subst hdue
  exact ⟨hread, by decide, by decide, hturns, hchanges, origins, horigins, halerts, hcount 2 hresult⟩

/-- A bot of which one chat follows the first token of a swap and another the second. -/
def followedApart : List ChatCall := [
  .follow 1 (.fungible "a.near") (some { buys := false, sells := true }), .follow 2 (.fungible "b.near") none]

/-- A token with a listed price that is no number fails, though no chat would hear of it, and keeps the token after it
from being taken up. -/
theorem leg_not_taken_up :
    let shelf := afterCalls 1 {} followedApart
    let swap := Hub.swapOf [("a.near", 5), ("b.near", 7)]
    let m : Matcher := {
      bot := 1, index := shelf.index, database := shelf.database, oracle := {}, routes := {}
      prices := [("a.near", ⟨"a.near", .nan false false 0, ⟨"A", "A", 0⟩, 0, 0⟩)] }
    let after (changes : List BalanceChange) : Matching := (Matching.changes m changes { net := {}, counts := {} }).2
    ofJson (Hub.swapPayload [("a.near", .str "5"), ("b.near", .str "7")]) = .ok swap ∧ Exact 1 shelf ∧
      swap.due.map (·.token) = [.fungible "a.near", .fungible "b.near"] ∧
      ((after swap.balanceChanges).alerts.map (·.chat) = [] ∧ (after swap.balanceChanges).counts.changes = 1) ∧
      (after (swap.balanceChanges.drop 1)).alerts.map (·.chat) = [2] := by
  refine ⟨rfl, ?_, by decide, by decide +kernel, by decide +kernel⟩
  have hstart : Begins 1 {} := .empty ⟨rfl, rfl, by decide⟩ rfl rfl
  refine (hstart.consistent.afterCalls fun call hcall => ?_).exact
  simp only [followedApart, List.mem_cons, List.not_mem_nil, or_false] at hcall
  rcases hcall with rfl | rfl
  · exact ⟨Token.parse_key (by decide) rfl, by simpa using ⟨rfl, by decide, by decide, by decide⟩⟩
  · exact ⟨Token.parse_key (by decide) rfl, by simp⟩

end Swap

end ChainAlerts
