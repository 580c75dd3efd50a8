import ChainAlerts.Proofs.FullScan
import ChainAlerts.Proofs.IndexRuns

/-! What the other chats of a bot have to do with what one chat hears of an event. Judging the candidates for an
event is a list of trials, each of which depends on the record of its own chat, and which ends with the first that
fails. So the others add nothing to what a chat is sent and change nothing about it; but one that fails cuts off
what comes after it. -/

namespace ChainAlerts.Matching

open Subscriptions

/-- What the oracle says about the decimals of the tokens that changes are valued in, whatever of them was asked
before. -/
def Steady (m : Matcher) (net : Net) (changes : List BalanceChange)
    (answers : String → Except OracleFailure (Option Int)) : Prop :=
  ∀ asked : List String, (∀ token ∈ asked, token ∈ changes.map (·.valueToken)) →
    ∀ c ∈ changes, (m.oracle.decimals? m.prices c.valueToken (afterAsking m net asked)).1 = answers c.valueToken

/-- The number of decimals that a threshold needs, if it needs one. -/
def decimalsOf (answers : String → Except OracleFailure (Option Int)) (c : BalanceChange) :
    MinAmount → Except OracleFailure (Option Int)
  | .token _ => .ok none
  | .usd _ => answers c.valueToken

/-- What a chat's record makes of a change by itself: an alert, none, or a failure. -/
def trial (m : Matcher) (answers : String → Except OracleFailure (Option Int)) (c : BalanceChange) (p : Polarity)
    (chat : Int) : Except MatchFailure (Option TradeAlert) :=
  match m.prices.price c.valueToken with
  | .error f => .error (.fault f)
  | .ok price =>
    match record? m chat with
    | .error (.fault f) => .error (.fault f)
    | .error (.store _) => .ok none
    | .ok found =>
      match screen c p found with
      | .error _ => .ok none
      | .ok settings =>
        match decimalsOf answers c settings.minAmount with
        | .error e => .error (.oracle e)
        | .ok decimals =>
          match settings.minAmount.passes c.amount price decimals with
          | .error f => .error (.fault f)
          | .ok false => .ok none
          | .ok true => .ok ((shown? m.routes chat c p).map fun trade => { chat, settings, trade })

/-- The trials of some chats, change by change, each with its chat. -/
def trialsAmong (m : Matcher) (answers : String → Except OracleFailure (Option Int)) (chats : Token → List Int)
    (changes : List BalanceChange) : List (Int × Except MatchFailure (Option TradeAlert)) :=
  changes.flatMap fun c =>
    match c.polarity? with
    | none => []
    | some p => (chats c.token).map fun chat => (chat, trial m answers c p chat)

/-- The alerts of trials, as far as the first that fails. -/
def untilFailure {ε β : Type} : List (Int × Except ε (Option β)) → List β
  | [] => []
  | (_, .error _) :: _ => []
  | (_, .ok none) :: rest => untilFailure rest
  | (_, .ok (some alert)) :: rest => alert :: untilFailure rest

/-- Whether no trial fails. -/
def noneFails {ε β : Type} (trials : List (Int × Except ε (Option β))) : Bool := trials.all fun t => t.2.isOk

section

variable {ε β : Type} {trials more : List (Int × Except ε (Option β))}

theorem untilFailure_append :
    untilFailure (trials ++ more) = untilFailure trials ++ if noneFails trials then untilFailure more else [] := by
  induction trials with
  | nil => rfl
  | cons first rest ih =>
      obtain ⟨chat, outcome⟩ := first
      match outcome with
      | .error e => rfl
      | .ok none => exact ih
      | .ok (some alert) => exact congrArg (alert :: ·) ih

/-- The alerts of one chat among those of all trials begin the alerts of its own trials, and are all of them if no
trial fails. -/
theorem untilFailure_filter (chat : Int) (chatOf : β → Int)
    (hchats : ∀ t ∈ trials, ∀ alert, t.2 = .ok (some alert) → chatOf alert = t.1) :
    (untilFailure trials).filter (chatOf · = chat) <+: untilFailure (trials.filter (·.1 = chat)) ∧
      (noneFails trials →
        (untilFailure trials).filter (chatOf · = chat) = untilFailure (trials.filter (·.1 = chat))) := by
  induction trials with
  | nil => exact ⟨List.prefix_rfl, fun _ => rfl⟩
  | cons first rest ih =>
      obtain ⟨hbegins, hequal⟩ := ih fun t ht => hchats t (List.mem_cons_of_mem first ht)
      obtain ⟨other, outcome⟩ := first
      match outcome with
      | .error e => exact ⟨List.nil_prefix, fun hall => by cases hall⟩
      | .ok none =>
          have hown : untilFailure (((other, .ok none) :: rest).filter (·.1 = chat)) =
              untilFailure (rest.filter (·.1 = chat)) := by
            by_cases hother : other = chat <;> simp [hother, untilFailure]
          rw [hown]
          exact ⟨hbegins, hequal⟩
      | .ok (some alert) =>
          have hchat : chatOf alert = other := hchats _ List.mem_cons_self alert rfl
          by_cases hother : other = chat
          · simp only [untilFailure, List.filter_cons, hchat, hother, decide_true, if_true]
            exact ⟨(List.prefix_cons_inj alert).mpr hbegins, fun hall => congrArg (alert :: ·) (hequal hall)⟩
          · simp only [untilFailure, List.filter_cons, hchat, hother, decide_false, Bool.false_eq_true, if_false]
            exact ⟨hbegins, hequal⟩

end

section

variable {m : Matcher} {answers : String → Except OracleFailure (Option Int)} {c : BalanceChange} {p : Polarity}
  {chat : Int} {net start : Net} {changes : List BalanceChange} {state : Matching}

/-- What is known of the number of decimals: nothing yet, or the answer. -/
def Learned (answers : String → Except OracleFailure (Option Int)) (c : BalanceChange)
    (known : Option (Option Int)) : Prop :=
  ∀ decimals ∈ known, answers c.valueToken = .ok decimals

theorem Reached.steady (h : Reached m start changes net) (hsteady : Steady m start changes answers)
    (hc : c ∈ changes) : (m.oracle.decimals? m.prices c.valueToken net).1 = answers c.valueToken := by
  obtain ⟨asked, hasked, rfl⟩ := h
  exact hsteady asked hasked c hc

/-- Asking for the decimals, or not asking, is enough for the gate, or fails as asking afresh would. -/
theorem run_decimalsFor_steady {known : Option (Option Int)} (hknown : Learned answers c known) (least : MinAmount)
    (hsteady : Steady m start changes answers) (hc : c ∈ changes) (hnet : Reached m start changes net) :
    ∃ outcome net', (decimalsFor m c.valueToken least known).run net = (outcome, net') ∧
      Reached m start changes net' ∧
      ((∃ e, outcome = .error e ∧ decimalsOf answers c least = .error e) ∨
        ∃ known' decimals, outcome = .ok known' ∧ Learned answers c known' ∧
          decimalsOf answers c least = .ok decimals ∧
          ∀ price, least.passes c.amount price known'.join = least.passes c.amount price decimals) := by
  cases known with
  | some decimals =>
      have hanswer : answers c.valueToken = .ok decimals := hknown decimals rfl
      refine ⟨.ok (some decimals), net, by cases least <;> rfl, hnet, Or.inr ⟨some decimals, ?_⟩⟩
      cases least with
      | token raw => exact ⟨none, rfl, hknown, rfl, fun price => rfl⟩
      | usd value => exact ⟨decimals, rfl, hknown, hanswer, fun price => rfl⟩
  | none =>
      cases least with
      | token raw => exact ⟨.ok none, net, rfl, hnet, Or.inr ⟨none, none, rfl, hknown, rfl, fun price => rfl⟩⟩
      | usd value =>
          have hanswer := hnet.steady hsteady hc
          refine ⟨(m.oracle.decimals? m.prices c.valueToken net).1.map some, _, rfl, hnet.asking hc, ?_⟩
          rw [hanswer]
          cases hread : answers c.valueToken with
          | error e => exact Or.inl ⟨e, rfl, hread⟩
          | ok decimals =>
              refine Or.inr ⟨some decimals, decimals, rfl, fun other hother => ?_, hread, fun price => rfl⟩
              rw [← Option.some.inj hother]
              exact hread

/-- A candidate is judged as its trial goes. -/
theorem run_judge_steady {price : Option Decimal} (hprice : m.prices.price c.valueToken = .ok price)
    {known : Option (Option Int)} (hknown : Learned answers c known) (hsteady : Steady m start changes answers)
    (hc : c ∈ changes) (hnet : Reached m start changes net) :
    ∃ outcome net', (judge m c p price chat known).run net = (outcome, net') ∧ Reached m start changes net' ∧
      ((∃ e, outcome = .error e ∧ trial m answers c p chat = .error e) ∨
        ∃ judged known', outcome = .ok (judged, known') ∧ Learned answers c known' ∧
          trial m answers c p chat = .ok judged.toOption) := by
  unfold judge trial
  simp only [hprice]
  cases hrecord : record? m chat with
  | error cause =>
      cases cause with
      | fault f => exact ⟨_, net, rfl, hnet, Or.inl ⟨.fault f, rfl, rfl⟩⟩
      | store e => exact ⟨_, net, rfl, hnet, Or.inr ⟨.error .unreadable, known, rfl, hknown, rfl⟩⟩
  | ok found =>
      cases hscreen : screen c p found with
      | error skip =>
          simp only [hscreen]
          exact ⟨_, net, rfl, hnet, Or.inr ⟨.error skip, known, rfl, hknown, rfl⟩⟩
      | ok settings =>
          obtain ⟨outcome, net', hrun, hnet', houtcome⟩ :=
            run_decimalsFor_steady hknown settings.minAmount hsteady hc hnet
          simp only [hscreen, run_bind_eq hrun]
          rcases houtcome with ⟨e, rfl, hdecimals⟩ | ⟨known', decimals, rfl, hknown', hdecimals, hgate⟩
          · rw [hdecimals]
            exact ⟨_, net', rfl, hnet', Or.inl ⟨.oracle e, rfl, rfl⟩⟩
          · simp only [hdecimals, hgate price]
            cases settings.minAmount.passes c.amount price decimals with
            | error f => exact ⟨_, net', rfl, hnet', Or.inl ⟨.fault f, rfl, rfl⟩⟩
            | ok large =>
                cases large with
                | false => exact ⟨_, net', rfl, hnet', Or.inr ⟨.error .tooSmall, known', rfl, hknown', rfl⟩⟩
                | true =>
                    cases hshown : shown? m.routes chat c p with
                    | none => exact ⟨_, net', rfl, hnet', Or.inr ⟨.error .noLeg, known', rfl, hknown', rfl⟩⟩
                    | some trade =>
                        exact ⟨_, net', rfl, hnet',
                          Or.inr ⟨.ok { chat, settings, trade }, known', rfl, hknown', rfl⟩⟩

/-- A part of the matching went as its trials go. -/
structure Goes (m : Matcher) (start : Net) (changes : List BalanceChange) (state : Matching)
    (trials : List (Int × Except MatchFailure (Option TradeAlert))) (outcome : Except MatchFailure Nat × Matching) :
    Prop where
  result : outcome.1.isOk = noneFails trials
  alerts : outcome.2.alerts = state.alerts ++ untilFailure trials
  net : outcome.1.isOk → Reached m start changes outcome.2.net

theorem goes_judgeAll {price : Option Decimal} (hprice : m.prices.price c.valueToken = .ok price)
    (hsteady : Steady m start changes answers) (hc : c ∈ changes) (chats : List Int) {known : Option (Option Int)}
    (hknown : Learned answers c known) (hstate : Reached m start changes state.net) :
    Goes m start changes state (chats.map fun chat => (chat, trial m answers c p chat))
      (judgeAll m c p price chats known state) := by
  -- what is known of the decimals is only ever the answer, so a candidate is judged as if it came first
  induction chats generalizing known state with
  | nil => exact ⟨rfl, (List.append_nil _).symm, fun _ => hstate⟩
  | cons chat rest ih =>
      obtain ⟨outcome, net', hrun, hnet, houtcome⟩ := run_judge_steady hprice hknown hsteady hc hstate
      rw [judgeAll, hrun, List.map_cons]
      rcases houtcome with ⟨e, rfl, htrial⟩ | ⟨judged, known', rfl, hknown', htrial⟩
      · rw [htrial]
        exact ⟨rfl, (List.append_nil _).symm, fun hok => by cases hok⟩
      · rw [htrial]
        cases judged with
        | error skip =>
            have htail : Goes m start changes { state with net := net', counts := state.counts.skip skip } _ _ :=
              ih hknown' hnet
            exact ⟨htail.result, htail.alerts, htail.net⟩
        | ok alert =>
            have htail : Goes m start changes { state with net := net', alerts := state.alerts ++ [alert] } _ _ :=
              ih hknown' hnet
            generalize hrest : judgeAll m c p price rest known' _ = after at htail
            obtain ⟨result, after⟩ := after
            simp only [hrest]
            refine ⟨?_, ?_, fun hok => htail.net ?_⟩
            · have hresult := htail.result
              cases result <;> exact hresult
            · rw [htail.alerts, List.append_assoc]
              rfl
            · cases result with
              | error e => cases hok
              | ok n => rfl

theorem goes_change (hsteady : Steady m start changes answers) (hc : c ∈ changes)
    (hstate : Reached m start changes state.net) :
    Goes m start changes state (trialsAmong m answers m.index.lookup [c]) (change m c state) := by
  rw [trialsAmong, List.flatMap_singleton, change]
  cases hdirection : c.polarity? with
  | none => exact ⟨rfl, (List.append_nil _).symm, fun _ => hstate⟩
  | some p =>
      simp only
      cases hlookup : m.index.lookup c.token with
      | nil => exact ⟨rfl, (List.append_nil _).symm, fun _ => hstate⟩
      | cons chat rest =>
          simp only [List.isEmpty_cons, Bool.false_eq_true, if_false]
          cases hprice : m.prices.price c.valueToken with
          | error f =>
              -- no chat is judged, and the trial of the first fails for the same reason
              have htrial : trial m answers c p chat = .error (.fault f) := by
                rw [trial, hprice]
              rw [List.map_cons, htrial]
              exact ⟨rfl, (List.append_nil _).symm, fun hok => by cases hok⟩
          | ok price =>
              simp only
              generalize hbegun : ({ state with counts := _ } : Matching) = begun
              have hrun : Goes m start changes begun
                  ((chat :: rest).map fun chat => (chat, trial m answers c p chat))
                  (judgeAll m c p price (chat :: rest) none begun) := by
                refine goes_judgeAll hprice hsteady hc (chat :: rest) (by intro d hd; cases hd) ?_
                rw [← hbegun]
                exact hstate
              have halerts : begun.alerts = state.alerts := by rw [← hbegun]
              generalize judgeAll m c p price (chat :: rest) none begun = outcome at hrun
              obtain ⟨result, after⟩ := outcome
              have hresult := hrun.result
              have hafter := hrun.alerts
              rw [halerts] at hafter
              cases result with
              | error e => exact ⟨hresult, hafter, fun hok => by cases hok⟩
              | ok n => exact ⟨hresult, hafter, fun _ => hrun.net rfl⟩

theorem trialsAmong_cons (m : Matcher) (answers : String → Except OracleFailure (Option Int))
    (chats : Token → List Int) (c : BalanceChange) (rest : List BalanceChange) :
    trialsAmong m answers chats (c :: rest) =
      trialsAmong m answers chats [c] ++ trialsAmong m answers chats rest := by
  simp [trialsAmong]

/-- The matching of an event goes as the trials of its candidates. -/
theorem goes_changes (hsteady : Steady m start changes answers) {part : List BalanceChange}
    (hpart : ∀ c ∈ part, c ∈ changes) (hstate : Reached m start changes state.net) :
    Goes m start changes state (trialsAmong m answers m.index.lookup part) (Matching.changes m part state) := by
  induction part generalizing state with
  | nil => exact ⟨rfl, (List.append_nil _).symm, fun _ => hstate⟩
  | cons c rest ih =>
      have hfirst := goes_change hsteady (hpart c List.mem_cons_self) hstate
      rw [Matching.changes, trialsAmong_cons]
      generalize change m c state = outcome at hfirst
      obtain ⟨result, after⟩ := outcome
      have hresult := hfirst.result
      have halerts := hfirst.alerts
      cases result with
      | error e =>
          have hfails : noneFails (trialsAmong m answers m.index.lookup [c]) = false := hresult.symm
          refine ⟨?_, ?_, fun hok => by cases hok⟩
          · rw [noneFails, List.all_append, ← noneFails, hfails]
            rfl
          · rw [untilFailure_append, hfails]
            simpa using halerts
      | ok n =>
          have hgood : noneFails (trialsAmong m answers m.index.lookup [c]) = true := hresult.symm
          have hrest := ih (fun other hother => hpart other (List.mem_cons_of_mem c hother)) (hfirst.net rfl)
          simp only
          generalize Matching.changes m rest after = final at hrest
          obtain ⟨more, final⟩ := final
          have hmore : (more.map (n + ·)).isOk = more.isOk := by cases more <;> rfl
          refine ⟨?_, ?_, fun hok => hrest.net ?_⟩
          · rw [hmore, noneFails, List.all_append, ← noneFails, hgood, Bool.true_and]
            exact hrest.result
          · rw [untilFailure_append, hgood, hrest.alerts, halerts, List.append_assoc]
            rfl
          · rw [← hmore]
            exact hok

end

section

variable {m : Matcher} {answers : String → Except OracleFailure (Option Int)} {chat : Int} {net : Net}
  {changes : List BalanceChange}

/-- A database in which a bot has no row but a chat's. -/
def onlyChat (bot chat : Int) (db : Database) : Database :=
  db.withRecords Subscriber.codec.collection bot ((rows bot db).filter (·.1 = chat))

/-- What a bot's matching works with if a chat is its only subscriber. -/
def aloneWith (m : Matcher) (chat : Int) (index : SubscriberIndex) : Matcher :=
  { m with index, database := onlyChat m.bot chat m.database }

theorem record?_aloneWith (m : Matcher) (chat : Int) (index : SubscriberIndex) :
    record? (aloneWith m chat index) chat = record? m chat := by
  have hrows : (onlyChat m.bot chat m.database).records Subscriber.codec.collection m.bot =
      (rows m.bot m.database).filter (·.1 = chat) := Database.records_withRecords _ _ _ _
  simp only [record?, aloneWith, Database.get, hrows, Records.get?, Assoc.get?_filter_self]
  rfl

theorem followers_onlyChat (bot chat : Int) (db : Database) (token : Token) :
    followers bot (onlyChat bot chat db) token = (followers bot db token).filter (· = chat) := by
  have hrows : rows bot (onlyChat bot chat db) = (rows bot db).filter (·.1 = chat) := rows_withRecords _ _ _
  rw [followers, followers, hrows, Records.chatsWith, Records.chatsWith, List.filter_map, List.filter_filter,
    List.filter_filter]
  refine congrArg (List.map _) (List.filter_congr fun row _ => ?_)
  exact Bool.and_comm _ _

/-- The trials of a chat are the same if the chat is the only subscriber. -/
theorem trialsAmong_aloneWith {index : SubscriberIndex}
    (hexact : Exact m.bot { database := m.database, index := m.index })
    (halone : Exact m.bot { database := onlyChat m.bot chat m.database, index }) :
    trialsAmong (aloneWith m chat index) answers index.lookup changes =
      (trialsAmong m answers m.index.lookup changes).filter (·.1 = chat) := by
  rw [trialsAmong, trialsAmong, List.filter_flatMap]
  refine List.flatMap_congr fun c _ => ?_
  cases c.polarity? with
  | none => rfl
  | some p =>
      simp only
      rw [halone c.token, hexact c.token, followers_onlyChat, List.filter_map]
      refine List.map_congr_left fun other hother => ?_
      obtain rfl : other = chat := of_decide_eq_true (List.mem_filter.mp hother).2
      rw [Prod.mk.injEq]
      refine ⟨rfl, ?_⟩
      simp only [trial, record?_aloneWith]
      rfl

theorem chat_of_trial {t : Int × Except MatchFailure (Option TradeAlert)}
    (ht : t ∈ trialsAmong m answers m.index.lookup changes) {alert : TradeAlert} (h : t.2 = .ok (some alert)) :
    alert.chat = t.1 := by
  obtain ⟨c, -, ht⟩ := List.mem_flatMap.mp ht
  cases hdirection : c.polarity? with
  | none =>
      rw [hdirection] at ht
      cases ht
  | some p =>
      rw [hdirection] at ht
      obtain ⟨other, -, rfl⟩ := List.mem_map.mp ht
      simp only [trial] at h
      split at h
      · cases h
      · split at h
        · cases h
        · cases h
        · split at h
          · cases h
          · split at h
            · cases h
            · split at h
              · cases h
              · cases h
              · obtain ⟨trade, -, rfl⟩ := Option.map_eq_some_iff.mp (Except.ok.inj h)
                rfl

/-- What a bot's matching works with. -/
def matcherFor (sources : TradeAlerts.Sources) (bot : Int) (index : SubscriberIndex) (database : Database) :
    Matcher where
  bot := bot
  index := index
  database := database
  oracle := sources.oracle
  prices := sources.prices
  routes := sources.routes

/-- An oracle that asks no contracts answers from the price list. -/
theorem steady_of_no_client {sources : TradeAlerts.Sources} (h : sources.oracle.client = none) (bot : Int)
    (index : SubscriberIndex) (db : Database) (net : Net) (changes : List BalanceChange) :
    Steady (matcherFor sources bot index db) net changes fun token => .ok (listedDecimals sources.prices token) :=
  answers_of_no_client (m := matcherFor sources bot index db) h net changes

/-- The delivery of an alert. -/
def spawnOf (bot : Int) (a : TradeAlert) : Spawn := ⟨bot, a.chat, .trade a.chat a.settings a.trade⟩

section

variable {sources : TradeAlerts.Sources} {bot : Int} {b : TradeBot} {r : TradeAlerts.Round} {index : SubscriberIndex}

/-- What a bot starts about an event, trial by trial. -/
theorem spawns_matchFor (hsteady : Steady (matcherFor sources bot b.index r.database) r.net changes answers) :
    let trials := trialsAmong (matcherFor sources bot b.index r.database) answers b.index.lookup changes
    let after := TradeAlerts.matchFor sources changes bot b r
    after.spawns = r.spawns ++ (untilFailure trials).map (spawnOf bot) ∧
      after.alerts.botErrors = r.alerts.botErrors + if noneFails trials then 0 else 1 := by
  intro trials after
  have hgoes : Goes (matcherFor sources bot b.index r.database) r.net changes { net := r.net, counts := b.counts }
      trials (Matching.changes (matcherFor sources bot b.index r.database) changes _) :=
    goes_changes hsteady (fun _ hc => hc) ⟨[], by simp, rfl⟩
  have hafter : after = TradeAlerts.matchFor sources changes bot b r := rfl
  simp only [TradeAlerts.matchFor] at hafter
  simp only [matcherFor] at hgoes
  generalize Matching.changes _ changes _ = outcome at hgoes hafter
  obtain ⟨result, state⟩ := outcome
  have hresult : result.isOk = noneFails trials := hgoes.result
  have halerts : state.alerts = untilFailure trials := hgoes.alerts
  rw [hafter, ← halerts, ← hresult]
  cases result with
  | ok n => exact ⟨rfl, rfl⟩
  | error e => exact ⟨rfl, rfl⟩

/-- What a bot starts about an event if a chat is its only subscriber: what the chat's own trials come to. -/
theorem spawns_matchFor_onlyChat
    (hsteady : Steady (matcherFor sources bot b.index r.database) r.net changes answers)
    (hexact : Exact bot { database := r.database, index := b.index })
    (halone : Exact bot { database := onlyChat bot chat r.database, index := index }) :
    let trials := trialsAmong (matcherFor sources bot b.index r.database) answers b.index.lookup changes
    let alone := TradeAlerts.matchFor sources changes bot { b with index := index }
      { r with database := onlyChat bot chat r.database }
    alone.spawns = r.spawns ++ (untilFailure (trials.filter (·.1 = chat))).map (spawnOf bot) := by
  intro trials alone
  let m := matcherFor sources bot b.index r.database
  have hown : trialsAmong (aloneWith m chat index) answers index.lookup changes = trials.filter (·.1 = chat) :=
    trialsAmong_aloneWith hexact halone
  have hsteady' : Steady (matcherFor sources bot index (onlyChat bot chat r.database)) r.net changes answers :=
    hsteady
  rw [← hown]
  exact (spawns_matchFor (b := { b with index }) (r := { r with database := onlyChat bot chat r.database })
    hsteady').1

/-- What a bot's other chats have to do with what one chat hears of an event: its deliveries begin those that are
started when the chat is the bot's only subscriber, and are all of them unless the matching fails. -/
theorem spawns_of_chat (hspawns : r.spawns = [])
    (hsteady : Steady (matcherFor sources bot b.index r.database) r.net changes answers)
    (hexact : Exact bot { database := r.database, index := b.index })
    (halone : Exact bot { database := onlyChat bot chat r.database, index := index }) :
    let shared := TradeAlerts.matchFor sources changes bot b r
    let alone := TradeAlerts.matchFor sources changes bot { b with index := index }
      { r with database := onlyChat bot chat r.database }
    shared.spawns.filter (·.chat = chat) <+: alone.spawns ∧
      (shared.alerts.botErrors = r.alerts.botErrors → shared.spawns.filter (·.chat = chat) = alone.spawns) := by
  intro shared alone
  let trials := trialsAmong (matcherFor sources bot b.index r.database) answers b.index.lookup changes
  obtain ⟨hshared, herrors⟩ := spawns_matchFor hsteady
  have hlone : alone.spawns = r.spawns ++ (untilFailure (trials.filter (·.1 = chat))).map (spawnOf bot) :=
    spawns_matchFor_onlyChat hsteady hexact halone
  have hfilter : shared.spawns.filter (·.chat = chat) =
      ((untilFailure trials).filter (·.chat = chat)).map (spawnOf bot) := by
    rw [hshared, hspawns, List.nil_append, List.filter_map]
    rfl
  obtain ⟨hbegins, hequal⟩ := untilFailure_filter chat TradeAlert.chat
    fun t (ht : t ∈ trials) alert halert => chat_of_trial ht halert
  rw [hfilter, hlone, hspawns, List.nil_append]
  refine ⟨hbegins.map (spawnOf bot), fun hcount => congrArg (List.map (spawnOf bot)) (hequal ?_)⟩
  cases hnone : noneFails trials with
  | true => rfl
  | false =>
      rw [hcount, hnone] at herrors
      exact absurd herrors (by simp)

end

/-- An index without the other chats. -/
def onlyChatIndex (chat : Int) (index : SubscriberIndex) : SubscriberIndex where
  entries := index.entries.map fun (token, chats) => (token, chats.filter (· = chat))

theorem lookup_onlyChatIndex (chat : Int) (index : SubscriberIndex) (token : Token) :
    (onlyChatIndex chat index).lookup token = (index.lookup token).filter (· = chat) := by
  obtain ⟨entries⟩ := index
  simp only [onlyChatIndex, SubscriberIndex.lookup]
  induction entries with
  | nil => rfl
  | cons entry rest ih =>
      obtain ⟨other, chats⟩ := entry
      by_cases h : other = token
      · simp [Assoc.get?, h]
      · simpa [Assoc.get?, h] using ih

/-- An exact index stays exact if the other chats are left out of it and of the database. -/
theorem exact_onlyChat {bot chat : Int} {shelf : Store.Shelf} (h : Exact bot shelf) :
    Exact bot { database := onlyChat bot chat shelf.database, index := onlyChatIndex chat shelf.index } := by
  intro token
  rw [lookup_onlyChatIndex, h token, followers_onlyChat]

end

/-- A bot with two chats that hear of a purchase, of which one has a dollar minimum. -/
def minimumCalls (least : MinAmount) : List ChatCall := [
  .follow 1 (.fungible "a.near") none, .setMinAmount 1 (.fungible "a.near") least,
  .follow 2 (.fungible "a.near") none]

/-- What is known of the token that is purchased: it is listed. -/
def listedSources : TradeAlerts.Sources where
  oracle := {}
  prices := [("a.near", ⟨"a.near", .ofNat 2, ⟨"A", "A", 2⟩, 0, 0⟩)]
  routes := {}

/-- What a bot does about the purchase. -/
def matchPurchase (shelf : Store.Shelf) : TradeAlerts.Round :=
  TradeAlerts.matchFor listedSources purchase.balanceChanges 1 { index := shelf.index }
    { database := shelf.database, net := {}, alerts := {} }

theorem spawns_of_chat_purchase :
    let shelf := afterCalls 1 {} (minimumCalls (.usd (.ofNat 0)))
    let alone : Store.Shelf :=
      { database := onlyChat 1 2 shelf.database, index := onlyChatIndex 2 shelf.index }
    (matchPurchase shelf).spawns.map (·.chat) = [1, 2] ∧
      (matchPurchase shelf).spawns.filter (·.chat = 2) = (matchPurchase alone).spawns := by
  intro shelf alone
  have hexact : Exact 1 shelf := by
    have hstart : Begins 1 {} := .empty ⟨rfl, rfl, by decide⟩ rfl rfl
    have htoken : Token.parse (Token.fungible "a.near").key = .ok (.fungible "a.near") :=
      Token.parse_key (by decide) rfl
    refine (hstart.consistent.afterCalls fun call hcall => ?_).exact
    simp only [minimumCalls, List.mem_cons, List.not_mem_nil, or_false] at hcall
    rcases hcall with rfl | rfl | rfl
    · exact ⟨htoken, by simp⟩
    · exact (rfl : (MinAmount.usd (.ofNat 0)).isProper = true)
    · exact ⟨htoken, by simp⟩
  refine ⟨by decide +kernel, ?_⟩
  exact (spawns_of_chat (b := { index := shelf.index })
    (r := { database := shelf.database, net := {}, alerts := {} }) rfl
    (steady_of_no_client rfl 1 shelf.index shelf.database {} _) hexact (exact_onlyChat hexact)).2 (by decide +kernel)

/-- A chat whose dollar minimum is no number ends the matching before the chats after it. -/
theorem purchase_not_heard_after_nan_minimum :
    let shared := afterCalls 1 {} (minimumCalls (.usd (.nan false false 0)))
    let alone := afterCalls 1 {} [.follow 2 (.fungible "a.near") none]
    shared.index.lookup (.fungible "a.near") = [1, 2] ∧
      followers 1 shared.database (.fungible "a.near") = [1, 2] ∧
      (matchPurchase shared).spawns.map (·.chat) = [] ∧ (matchPurchase alone).spawns.map (·.chat) = [2] := by
  refine ⟨?_, ?_, ?_, ?_⟩ <;> decide +kernel

end ChainAlerts.Matching
