import ChainAlerts.Hub
import ChainAlerts.Proofs.BotTurns
import ChainAlerts.Proofs.SubscriberIsolation

/-! What the bots of a hub have to do with each other. Each notification hands an event from bot to bot, and a bot's
turn reads and changes nothing but the bot's own rows, its index and its deliveries. So a bot gets what it gets if it
is the only one, as long as nothing passes that ends the round before its turn. -/

namespace ChainAlerts

namespace Matching

/-- The trials of a bot's chats depend on the bot's own rows. -/
theorem trialsAmong_own {sources : TradeAlerts.Sources} {bot : Int} {index : SubscriberIndex} {db db' : Database}
    (h : db.own bot = db'.own bot) (answers : String → Except OracleFailure (Option Int)) (chats : Token → List Int)
    (changes : List BalanceChange) :
    trialsAmong (matcherFor sources bot index db) answers chats changes =
      trialsAmong (matcherFor sources bot index db') answers chats changes := by
  have hrecord : ∀ chat,
      record? (matcherFor sources bot index db) chat = record? (matcherFor sources bot index db') chat := by
    intro chat
    simp only [record?, matcherFor, Database.get_congr h]
  unfold trialsAmong trial
  simp only [hrecord]
  rfl

end Matching

theorem filter_append_of_others {bot : Int} {old more : List Spawn} (h : ∀ s ∈ more, s.bot ≠ bot) :
    (old ++ more).filter (·.bot = bot) = old.filter (·.bot = bot) := by
  have hmore : more.filter (·.bot = bot) = [] := List.filter_eq_nil_iff.mpr fun s hs => by simpa using h s hs
  rw [List.filter_append, hmore, List.append_nil]

namespace TradeAlerts

variable {sources : Sources} {changes : List BalanceChange} {auction : Int} {account : String}

/-- What of a round concerns a bot: its rows and the deliveries started for it. -/
def Round.own (bot : Int) (r : Round) : OwnRows × List Spawn := (r.database.own bot, r.spawns.filter (·.bot = bot))

def matchTurn (sources : Sources) (changes : List BalanceChange) (entry : Int × TradeBot) (r : Round) :
    Option Fault × Round :=
  (none, matchFor sources changes entry.1 entry.2 r)

def launchTurn (auction : Int) (account : String) (entry : Int × TradeBot) (r : Round) : Option Fault × Round :=
  match launchFor auction account entry.1 entry.2 r with
  | (.ok _, r) => (none, r)
  | (.error f, r) => (some f, r)

theorem foldl_matchFor (bots : List (Int × TradeBot)) (r : Round) :
    (none, bots.foldl (fun r (bot, b) => matchFor sources changes bot b r) r) =
      takeTurns (matchTurn sources changes) bots r := by
  induction bots generalizing r with
  | nil => rfl
  | cons entry rest ih => exact ih _

theorem database_foldl_matchFor (sources : Sources) (changes : List BalanceChange) (bots : List (Int × TradeBot))
    (r : Round) : (bots.foldl (fun r (bot, b) => matchFor sources changes bot b r) r).database = r.database := by
  induction bots generalizing r with
  | nil => rfl
  | cons entry rest ih => exact ih _

theorem matchFor_spawns (sources : Sources) (changes : List BalanceChange) (bot : Int) (b : TradeBot) (r : Round) :
    (matchFor sources changes bot b r).spawns = r.spawns ++
      (Matching.changes (Matching.matcherFor sources bot b.index r.database) changes
        { net := r.net, counts := b.counts }).2.alerts.map (Matching.spawnOf bot) := rfl

theorem bot_of_spawnOf {bot : Int} {alerts : List TradeAlert} {s : Spawn}
    (h : s ∈ alerts.map (Matching.spawnOf bot)) : s.bot = bot := by
  obtain ⟨a, -, rfl⟩ := List.mem_map.mp h
  rfl

/-- The turns of other bots start nothing for a bot. -/
theorem own_foldl_matchFor_of_others {bot : Int} {bots : List (Int × TradeBot)} (h : bot ∉ Assoc.keys bots)
    (r : Round) :
    (bots.foldl (fun r (bot, b) => matchFor sources changes bot b r) r).spawns.filter (·.bot = bot) =
      r.spawns.filter (·.bot = bot) := by
  induction bots generalizing r with
  | nil => rfl
  | cons entry rest ih =>
      obtain ⟨hne, hrest⟩ := not_or.mp fun hmem => h (List.mem_cons.mpr hmem)
      rw [List.foldl_cons, ih hrest, matchFor_spawns]
      exact filter_append_of_others fun s hs heq => hne ((bot_of_spawnOf hs).symm.trans heq).symm

/-- A bot's turn comes once in a round, on the database as it is; only what is outside may have been changed by the
turns before it. -/
theorem own_foldl_matchFor (sources : Sources) (changes : List BalanceChange) {bot : Int}
    {bots : List (Int × TradeBot)} {b : TradeBot} (hbots : (Assoc.keys bots).Nodup) (hb : (bot, b) ∈ bots) (r : Round) :
    ∃ net, (bots.foldl (fun r (bot, b) => matchFor sources changes bot b r) r).spawns.filter (·.bot = bot) =
      r.spawns.filter (·.bot = bot) ++
        (Matching.changes (Matching.matcherFor sources bot b.index r.database) changes
          { net, counts := b.counts }).2.alerts.map (Matching.spawnOf bot) := by
  obtain ⟨before, after, rfl⟩ := List.append_of_mem hb
  have hkeys : (Assoc.keys before ++ bot :: Assoc.keys after).Nodup := by simpa [Assoc.keys] using hbots
  obtain ⟨-, hnodup, hdisjoint⟩ := List.nodup_append.mp hkeys
  have hbefore : bot ∉ Assoc.keys before := fun hmem => hdisjoint bot hmem bot List.mem_cons_self rfl
  have hafter : bot ∉ Assoc.keys after := (List.nodup_cons.mp hnodup).1
  have hown : ∀ alerts : List TradeAlert,
      (alerts.map (Matching.spawnOf bot)).filter (·.bot = bot) = alerts.map (Matching.spawnOf bot) :=
    fun alerts => List.filter_eq_self.mpr fun s hs => by simpa using bot_of_spawnOf hs
  refine ⟨(before.foldl (fun r (bot, b) => matchFor sources changes bot b r) r).net, ?_⟩
  rw [List.foldl_append, List.foldl_cons, own_foldl_matchFor_of_others hafter, matchFor_spawns, List.filter_append,
    own_foldl_matchFor_of_others hbefore, database_foldl_matchFor, hown]

theorem takeTurns_launchTurn (bots : List (Int × TradeBot)) (r : Round) :
    ((launchAll auction account bots r).1 = .ok () ↔ (takeTurns (launchTurn auction account) bots r).1 = none) ∧
      (launchAll auction account bots r).2 = (takeTurns (launchTurn auction account) bots r).2 := by
  induction bots generalizing r with
  | nil => exact ⟨by simp [launchAll, takeTurns], rfl⟩
  | cons entry rest ih =>
      rw [launchAll, takeTurns, launchTurn]
      generalize launchFor auction account entry.1 entry.2 r = outcome
      obtain ⟨result, after⟩ := outcome
      cases result with
      | ok u => exact ih after
      | error f => exact ⟨by simp, rfl⟩

/-- The deliveries that a bot's matching starts. -/
def matched (sources : Sources) (changes : List BalanceChange) (entry : Int × TradeBot) (db : Database) : List Spawn :=
  let m := Matching.matcherFor sources entry.1 entry.2.index db
  let answers (token : String) := .ok (Matching.listedDecimals sources.prices token)
  (Matching.untilFailure (Matching.trialsAmong m answers entry.2.index.lookup changes)).map (Matching.spawnOf entry.1)

theorem spawns_matchTurn (hclient : sources.oracle.client = none) (entry : Int × TradeBot) (r : Round) :
    (matchTurn sources changes entry r).2.spawns = r.spawns ++ matched sources changes entry r.database := by
  have hsteady := Matching.steady_of_no_client hclient entry.1 entry.2.index r.database r.net changes
  exact (Matching.spawns_matchFor hsteady).1

theorem bot_of_matched {entry : Int × TradeBot} {db : Database} {s : Spawn}
    (h : s ∈ matched sources changes entry db) : s.bot = entry.1 := by
  obtain ⟨alert, -, rfl⟩ := List.mem_map.mp h
  rfl

theorem matched_own {entry : Int × TradeBot} {db db' : Database} (h : db.own entry.1 = db'.own entry.1) :
    matched sources changes entry db = matched sources changes entry db' := by
  simp only [matched]
  rw [Matching.trialsAmong_own h]

/-- The matching of one bot is about the bot's own rows, if contracts are not asked. -/
theorem keepApart_matchTurn (hclient : sources.oracle.client = none) :
    KeepApart (·.1) (matchTurn sources changes) Round.own := by
  refine ⟨fun entry r bot hne => ?_, fun entry r r' hsame => ⟨rfl, ?_⟩⟩
  · apply Prod.ext
    · rfl
    · show (matchTurn sources changes entry r).2.spawns.filter (·.bot = bot) = r.spawns.filter (·.bot = bot)
      rw [spawns_matchTurn hclient]
      apply filter_append_of_others
      intro s hs
      rw [bot_of_matched hs]
      exact hne
  · obtain ⟨hrows, hold⟩ := Prod.mk.inj hsame
    apply Prod.ext
    · exact hrows
    · show (matchTurn sources changes entry r).2.spawns.filter (·.bot = entry.1) =
        (matchTurn sources changes entry r').2.spawns.filter (·.bot = entry.1)
      rw [spawns_matchTurn hclient, spawns_matchTurn hclient, List.filter_append, List.filter_append, hold,
        matched_own hrows]

/-- The fault of a move that passes. -/
def passing? {α : Type} : Except SubscriptionError α → Option Fault
  | .error (.store (.fault f)) | .error (.settings f) => some f
  | _ => none

/-- What is announced about a move. -/
def announced (bot auction : Int) (account : String) : Except SubscriptionError (List (Int × Bool)) → List Spawn
  | .ok moved => launchSpawns bot auction account moved
  | .error _ => []

/-- The move of one bot's subscriptions by itself. -/
def move (auction : Int) (account : String) (entry : Int × TradeBot) (db : Database) :
    Except SubscriptionError (List (Int × Bool)) × Store.Shelf :=
  perform (Subscriptions.migrate · (.prelaunch auction) (.fungible account)) entry.1
    { database := db, index := entry.2.index }

theorem launchTurn_eq (auction : Int) (account : String) (entry : Int × TradeBot) (r : Round) :
    (launchTurn auction account entry r).1 = passing? (move auction account entry r.database).1 ∧
      (launchTurn auction account entry r).2.database = (move auction account entry r.database).2.database ∧
      (launchTurn auction account entry r).2.spawns =
        r.spawns ++ announced entry.1 auction account (move auction account entry r.database).1 := by
  unfold launchTurn launchFor
  rw [← move]
  generalize move auction account entry r.database = moving
  obtain ⟨result, shelf⟩ := moving
  cases result with
  | ok moved => exact ⟨rfl, rfl, rfl⟩
  | error e =>
      cases e with
      | store cause => cases cause <;> exact ⟨rfl, rfl, (List.append_nil _).symm⟩
      | _ => exact ⟨rfl, rfl, (List.append_nil _).symm⟩

theorem bot_of_announced {bot : Int} {result : Except SubscriptionError (List (Int × Bool))} {s : Spawn}
    (h : s ∈ announced bot auction account result) : s.bot = bot := by
  cases result with
  | error e => cases h
  | ok moved =>
      obtain ⟨entry, -, rfl⟩ := List.mem_map.mp h
      rfl

/-- The move of one bot's subscriptions is about the bot's own rows. -/
theorem keepApart_launchTurn : KeepApart (·.1) (launchTurn auction account) Round.own := by
  refine ⟨fun entry r bot hne => ?_, fun entry r r' hsame => ?_⟩
  · obtain ⟨-, hdatabase, hspawns⟩ := launchTurn_eq auction account entry r
    apply Prod.ext
    · show (launchTurn auction account entry r).2.database.own bot = r.database.own bot
      rw [hdatabase]
      exact Store.own_run_of_ne hne _ _
    · show (launchTurn auction account entry r).2.spawns.filter (·.bot = bot) = r.spawns.filter (·.bot = bot)
      rw [hspawns]
      apply filter_append_of_others
      intro s hs
      rw [bot_of_announced hs]
      exact hne
  · obtain ⟨hrows, hold⟩ := Prod.mk.inj hsame
    obtain ⟨hfault, hdatabase, hspawns⟩ := launchTurn_eq auction account entry r
    obtain ⟨hfault', hdatabase', hspawns'⟩ := launchTurn_eq auction account entry r'
    have hmove : (move auction account entry r.database).1 = (move auction account entry r'.database).1 ∧
        (move auction account entry r.database).2.own entry.1 =
          (move auction account entry r'.database).2.own entry.1 := by
      apply Store.run_congr
      exact Prod.ext hrows rfl
    obtain ⟨hresult, hafter⟩ := hmove
    refine ⟨?_, ?_⟩
    · rw [hfault, hfault', hresult]
    · apply Prod.ext
      · show (launchTurn auction account entry r).2.database.own entry.1 =
          (launchTurn auction account entry r').2.database.own entry.1
        rw [hdatabase, hdatabase']
        exact congrArg Prod.fst hafter
      · show (launchTurn auction account entry r).2.spawns.filter (·.bot = entry.1) =
          (launchTurn auction account entry r').2.spawns.filter (·.bot = entry.1)
        rw [hspawns, hspawns', hresult, List.filter_append, List.filter_append, hold]

/-- A bot's turn in the handling of an event. -/
def turn (sources : Sources) : TradeEvent → Int × TradeBot → Round → Option Fault × Round
  | .auction (.launch auction account _ _) => launchTurn auction account
  | event => matchTurn sources event.balanceChanges

/-- Where the turns begin: the event is counted. -/
def begun (event : TradeEvent) (r : Round) : Round :=
  let counted := { r.alerts with events := r.alerts.events + 1 }
  match event with
  | .auction (.launch ..) => { r with alerts := { counted with launches := counted.launches + 1 } }
  | _ => { r with alerts := counted }

theorem own_begun (event : TradeEvent) (bot : Int) (r : Round) : (begun event r).own bot = r.own bot := by
  match event with
  | .auction (.launch ..) | .auction (.deposit ..) | .auction (.withdraw ..) | .swap .. | .liquidity .. => rfl

/-- An event is handled in turns of the bots. -/
theorem handle_turns (sources : Sources) (event : TradeEvent) (r : Round) :
    ((handle sources event r).1 = .ok () ↔ (takeTurns (turn sources event) r.alerts.bots (begun event r)).1 = none) ∧
      (handle sources event r).2 = (takeTurns (turn sources event) r.alerts.bots (begun event r)).2 := by
  let counted : Round := { r with alerts := { r.alerts with events := r.alerts.events + 1 } }
  have hmatch : ∀ changes, ((Except.ok () : Except Fault Unit) = .ok () ↔
      (takeTurns (matchTurn sources changes) counted.alerts.bots counted).1 = none) ∧
        counted.alerts.bots.foldl (fun r (bot, b) => matchFor sources changes bot b r) counted =
          (takeTurns (matchTurn sources changes) counted.alerts.bots counted).2 := by
    intro changes
    rw [← foldl_matchFor]
    exact ⟨by simp, rfl⟩
  match event with
  | .auction (.launch ..) => exact takeTurns_launchTurn _ _
  | .auction (.deposit ..) | .auction (.withdraw ..) | .swap .. | .liquidity .. => exact hmatch _

theorem keepApart_turn (hclient : sources.oracle.client = none) (event : TradeEvent) :
    KeepApart (·.1) (turn sources event) Round.own := by
  match event with
  | .auction (.launch ..) => exact keepApart_launchTurn
  | .auction (.deposit ..) | .auction (.withdraw ..) | .swap .. | .liquidity .. =>
      exact keepApart_matchTurn hclient

end TradeAlerts

namespace LogAlerts

variable {log filter : Type} {kind : LogKind log filter} {db : Database} {entry : log}

/-- A bot's turn in the handling of a log, on the deliveries started so far. -/
def logTurn (kind : LogKind log filter) (db : Database) (entry : log) (bot : Int) (spawns : List Spawn) :
    Option Fault × List Spawn :=
  match lists kind bot db with
  | .error (.store _) => (none, spawns)
  | .error (.fault f) => (some f, spawns)
  | .ok lists => ((spawnsForAll kind bot entry lists).2, spawns ++ (spawnsForAll kind bot entry lists).1)

theorem takeTurns_logTurn (bots : List Int) (l : LogAlerts) (spawns : List Spawn) :
    takeTurns (logTurn kind db entry) bots spawns =
      ((handleFor kind db entry bots l).1.1, spawns ++ (handleFor kind db entry bots l).1.2) := by
  induction bots generalizing l spawns with
  | nil => rw [handleFor, List.append_nil, takeTurns]
  | cons bot rest ih =>
      rw [takeTurns, handleFor, logTurn]
      cases lists kind bot db with
      | error cause =>
          cases cause with
          | store e => exact ih _ spawns
          | fault f => simp only [List.append_nil]
      | ok lists =>
          simp only
          generalize spawnsForAll kind bot entry lists = own
          obtain ⟨own, fault⟩ := own
          cases fault with
          | some f => rfl
          | none =>
              simp only
              rw [ih { l with dispatched := l.dispatched + own.length }, List.append_assoc]

theorem bot_of_spawnsForAll {bot : Int} {lists : List (Int × List filter)} {s : Spawn}
    (h : s ∈ (spawnsForAll kind bot entry lists).1) : s.bot = bot := by
  induction lists with
  | nil => cases h
  | cons first rest ih =>
      rw [spawnsForAll] at h
      cases hfirst : spawnsFor kind bot first.1 first.2 entry with
      | error f =>
          rw [hfirst] at h
          cases h
      | ok spawns =>
          rw [hfirst] at h
          rcases List.mem_append.mp h with h | h
          · rw [spawnsFor] at hfirst
            cases hmatching : kind.matching first.2 entry with
            | error f =>
                rw [hmatching] at hfirst
                cases hfirst
            | ok found =>
                rw [hmatching] at hfirst
                rw [← Except.ok.inj hfirst] at h
                obtain ⟨f, -, rfl⟩ := List.mem_map.mp h
                rfl
          · exact ih h

theorem keepApart_logTurn :
    KeepApart (fun bot => bot) (logTurn kind db entry) fun bot spawns => spawns.filter (·.bot = bot) := by
  refine ⟨fun other spawns bot hne => ?_, fun bot spawns spawns' hsame => ?_⟩
  · unfold logTurn
    cases lists kind other db with
    | error cause => cases cause <;> rfl
    | ok lists =>
        apply filter_append_of_others
        intro s hs
        rw [bot_of_spawnsForAll hs]
        exact hne
  · unfold logTurn
    cases lists kind bot db with
    | error cause => cases cause <;> exact ⟨rfl, hsame⟩
    | ok lists =>
        refine ⟨rfl, ?_⟩
        simp only [List.filter_append]
        rw [hsame]

theorem handle_logTurns (kind : LogKind log filter) (db : Database) (entry : log) (l : LogAlerts) :
    takeTurns (logTurn kind db entry) l.bots [] = (handle kind db entry l).1 := takeTurns_logTurn l.bots _ []

end LogAlerts

namespace Hub

variable {h : Hub} {bot : Int}

/-- The hub with no other bot than one. The rows of the others stay where they are. -/
def only (bot : Int) (h : Hub) : Hub :=
  { h with
    dispatchers := h.dispatchers.filter (·.1 = bot)
    trades := { h.trades with bots := h.trades.bots.filter (·.1 = bot) }
    structuredLogs := { h.structuredLogs with bots := h.structuredLogs.bots.filter (· = bot) }
    textLogs := { h.textLogs with bots := h.textLogs.bots.filter (· = bot) } }

theorem get?_spawn (bot : Int) (h : Hub) (s : Spawn) :
    Assoc.get? bot (h.spawn s).dispatchers =
      if s.bot = bot then (Assoc.get? bot h.dispatchers).map fun d => d.spawn s.chat s.draft
      else Assoc.get? bot h.dispatchers := by
  unfold spawn
  by_cases hbot : s.bot = bot
  · subst hbot
    rw [if_pos rfl]
    cases hd : Assoc.get? s.bot h.dispatchers with
    | none => simpa using hd
    | some d => exact Assoc.get?_put_self _ _ _
  · rw [if_neg hbot]
    cases Assoc.get? s.bot h.dispatchers with
    | none => rfl
    | some d => exact Assoc.get?_put_of_ne (Ne.symm hbot) _ _

/-- A bot's deliveries are those it had and those that are started for it. -/
theorem get?_spawnAll (bot : Int) (h : Hub) (spawns : List Spawn) :
    Assoc.get? bot (h.spawnAll spawns).dispatchers = (Assoc.get? bot h.dispatchers).map fun d =>
      (spawns.filter (·.bot = bot)).foldl (fun d s => d.spawn s.chat s.draft) d := by
  induction spawns generalizing h with
  | nil => exact Option.map_id'.symm
  | cons s rest ih =>
      have hrest := ih (h.spawn s)
      rw [get?_spawn] at hrest
      by_cases hbot : s.bot = bot
      · rw [if_pos hbot, Option.map_map] at hrest
        rw [List.filter_cons_of_pos (by simpa using hbot)]
        exact hrest
      · rw [if_neg hbot] at hrest
        rw [List.filter_cons_of_neg (by simpa using hbot)]
        exact hrest

/-- Starting deliveries changes nothing but the deliveries. -/
theorem spawnAll_eq (h : Hub) (spawns : List Spawn) :
    h.spawnAll spawns = { h with dispatchers := (h.spawnAll spawns).dispatchers } := by
  induction spawns generalizing h with
  | nil => rfl
  | cons s rest ih =>
      have hfirst : h.spawn s = { h with dispatchers := (h.spawn s).dispatchers } := by
        unfold spawn
        split <;> rfl
      have hrest : h.spawnAll (s :: rest) = (h.spawn s).spawnAll rest := rfl
      rw [hrest, ih (h.spawn s), hfirst]

theorem database_spawnAll (h : Hub) (spawns : List Spawn) : (h.spawnAll spawns).database = h.database := by
  rw [spawnAll_eq]

/-- A bot has the same deliveries if it had the same and the same were started for it. -/
theorem get?_spawnAll_congr {h h' : Hub} {spawns spawns' : List Spawn}
    (hold : Assoc.get? bot h.dispatchers = Assoc.get? bot h'.dispatchers)
    (hspawns : spawns.filter (·.bot = bot) = spawns'.filter (·.bot = bot)) :
    Assoc.get? bot (h.spawnAll spawns).dispatchers = Assoc.get? bot (h'.spawnAll spawns').dispatchers := by
  rw [get?_spawnAll, get?_spawnAll, hold, hspawns]

/-- What the handling of an event about trades comes to. -/
def tradeRound (e : TradeEvent) (h : Hub) : Except Fault Unit × TradeAlerts.Round :=
  TradeAlerts.handle { oracle := h.oracle, prices := h.surroundings.prices, routes := h.routes } e
    { database := h.database, net := h.surroundings.net, alerts := h.trades }

theorem observe_trade (e : TradeEvent) (h : Hub) :
    ((h.observe (.trade e)).1 = none ↔ (h.tradeRound e).1 = .ok ()) ∧
      (h.observe (.trade e)).2.database = (h.tradeRound e).2.database ∧
      ∀ bot, Assoc.get? bot (h.observe (.trade e)).2.dispatchers =
        Assoc.get? bot (h.spawnAll (h.tradeRound e).2.spawns).dispatchers := by
  rcases hround : h.tradeRound e with ⟨result, r⟩
  have hhandle : TradeAlerts.handle
      { oracle := h.oracle, prices := h.surroundings.prices, routes := h.routes } e
      { database := h.database, net := h.surroundings.net, alerts := h.trades } = (result, r) := hround
  simp only [observe, hhandle]
  refine ⟨?_, database_spawnAll _ _, fun bot => get?_spawnAll_congr rfl rfl⟩
  cases result with
  | ok u => simp
  | error f => simp

theorem get?_only (bot : Int) (h : Hub) :
    Assoc.get? bot (h.only bot).dispatchers = Assoc.get? bot h.dispatchers :=
  Assoc.get?_filter_self bot h.dispatchers

end Hub

end ChainAlerts
