import ChainAlerts.Proofs.LaunchedAccounts
import ChainAlerts.Proofs.LogFanOut
import ChainAlerts.Proofs.StrayPayloads

/-! Which bots an event reaches. Each bot that takes part has a turn, in the order in which they joined, and a turn in
which a fault passes ends the round. Whether a turn does is a matter of the bot's own rows: in a launch, and in the
handling of a log, it does if the bot's number fits into no key or if the first row that is not read is stray, and in
the handling of a log also if all rows are read and a filter in one of them cannot be tried on the log. A turn in which
an event is matched never does. To a bot that is reached a round does what it does if there is no other bot, and to a
bot that is not it does nothing. -/

namespace ChainAlerts

/-- Rows as a table keeps them: the chats ascend and fit into keys, and the payloads are documents. -/
@[mk_iff]
structure Records.InTable (rows : Records) : Prop where
  ascending : rows.Ascending
  fits : ∀ row ∈ rows, Database.fits row.1
  documents : ∀ row ∈ rows, row.2.isDocument

instance (rows : Records) : Decidable rows.InTable :=
  have : Decidable rows.Ascending := inferInstanceAs (Decidable (rows.Pairwise (·.1 < ·.1)))
  decidable_of_iff _ (rows.inTable_iff).symm

namespace Database

/-- A database whose rows are all as a table keeps them. -/
def IsTable (db : Database) : Prop := ∀ collection bot, (db.records collection bot).InTable

theorem isTable_of_tables {db : Database} (h : ∀ entry ∈ db.tables, entry.2.InTable) : db.IsTable := by
  intro collection bot
  rw [Database.records]
  cases hfound : Assoc.get? (collection, bot) db.tables with
  | none => exact ⟨List.Pairwise.nil, by simp, by simp⟩
  | some rows => exact h _ (Assoc.mem_of_get? hfound)

/-- Listing a bot's rows fails with the database or because the bot's number fits into no key, or it gives the rows. -/
theorem list_cases (db : Database) (collection : String) (bot : Int) :
    ((∃ text, db.list collection bot = .error (.failed text)) ∧ ¬(db.failure = none ∧ db.hasSchema)) ∨
      (db.failure = none ∧ db.hasSchema ∧ fits bot = false ∧
        db.list collection bot = .error (.fault .rowKeyTooLarge)) ∨
      (db.Serves bot ∧ db.list collection bot = .ok (db.records collection bot)) := by
  rw [Database.list, Database.begin]
  cases hfailure : db.failure with
  | some text => exact Or.inl ⟨⟨text, rfl⟩, by simp⟩
  | none =>
      cases hschema : db.hasSchema with
      | false => exact Or.inl ⟨⟨_, rfl⟩, by simp⟩
      | true =>
          cases hfits : fits bot with
          | false => exact Or.inr (Or.inl ⟨rfl, rfl, rfl, by simp [hfits, bind, Except.bind]⟩)
          | true =>
              have hserves : db.Serves bot := ⟨hfailure, hschema, hfits⟩
              exact Or.inr (Or.inr ⟨hserves, by simp [hfits, bind, Except.bind, pure, Except.pure]⟩)

end Database

namespace Store

variable {ρ : Type} {s : Store ρ} {stray : Json → Prop} {db : Database} {rows : Records}

/-- The records of a bot cannot be listed for a reason that is no error of the store: the database works, but the bot's
number fits into no key, or the first row that is not read is stray. -/
structure BreaksOff (s : Store ρ) (stray : Json → Prop) (db : Database) : Prop where
  works : db.failure = none
  hasTable : db.hasSchema
  unread : Database.fits s.bot = false ∨
    FirstUnread (fun row : Int × Json => s.codec.decode row.2) (fun row => stray row.2)
      (db.records s.codec.collection s.bot)

theorem exists_decode_eq_ok_iff (row : Int × Json) :
    (∃ r, s.decode row.1 row.2 = .ok r) ↔ ∃ r, s.codec.decode row.2 = .ok r := by
  simp only [s.decode_eq_ok_iff]

theorem exists_decode_eq_fault_iff (row : Int × Json) :
    (∃ f, s.decode row.1 row.2 = .error (.fault f)) ↔ Passes (s.codec.decode row.2) := by
  rw [decode]
  cases hdecode : s.codec.decode row.2 with
  | ok r => exact iff_of_false (by simp) (not_passes_ok r)
  | error f => cases hmalformed : f.isMalformed <;> simp [Passes, hmalformed]

/-- Reading rows ends with a fault that passes exactly if the first that is not read is stray. -/
theorem exists_records_eq_fault_iff (hstray : ∀ v, Passes (s.codec.decode v) ↔ stray v) :
    (∃ f, s.records (.ok rows) = .error (.fault f)) ↔
      FirstUnread (fun row : Int × Json => s.codec.decode row.2) (fun row => stray row.2) rows := by
  simp only [s.records_eq_error_iff, exists_decode_eq_ok_iff]
  constructor
  · rintro ⟨f, before, row, after, hsplit, hbefore, hrow⟩
    exact ⟨before, row, after, hsplit, hbefore, (hstray _).mp ((exists_decode_eq_fault_iff row).mp ⟨f, hrow⟩)⟩
  · rintro ⟨before, row, after, hsplit, hbefore, hrow⟩
    obtain ⟨f, hf⟩ := (exists_decode_eq_fault_iff row).mpr ((hstray _).mpr hrow)
    exact ⟨f, before, row, after, hsplit, hbefore, hf⟩

/-- Listing the records of a bot ends with a fault that passes exactly in the cases named. -/
theorem exists_listed_eq_fault_iff (hstray : ∀ v, Passes (s.codec.decode v) ↔ stray v) (db : Database) :
    (∃ f, s.records (db.list s.codec.collection s.bot) = .error (.fault f)) ↔ s.BreaksOff stray db := by
  rcases db.list_cases s.codec.collection s.bot with
    ⟨⟨text, hlist⟩, hfails⟩ | ⟨hworks, htable, hfits, hlist⟩ | ⟨hserves, hlist⟩
  · rw [hlist]
    exact iff_of_false nofun fun h => hfails ⟨h.works, h.hasTable⟩
  · rw [hlist]
    exact iff_of_true ⟨_, rfl⟩ ⟨hworks, htable, Or.inl hfits⟩
  · rw [hlist, exists_records_eq_fault_iff hstray]
    exact ⟨fun h => ⟨hserves.works, hserves.hasTable, Or.inr h⟩,
      fun h => h.unread.resolve_left (by simp [hserves.bot_fits])⟩

/-- Records are listed exactly if the database serves the bot and every row is read. -/
theorem listed_eq_ok_iff {records : List (Int × ρ)} :
    s.records (db.list s.codec.collection s.bot) = .ok records ↔
      db.Serves s.bot ∧ s.records (.ok (db.records s.codec.collection s.bot)) = .ok records := by
  rcases db.list_cases s.codec.collection s.bot with
    ⟨⟨text, hlist⟩, hfails⟩ | ⟨-, -, hfits, hlist⟩ | ⟨hserves, hlist⟩
  · rw [hlist]
    exact iff_of_false nofun fun h => hfails ⟨h.1.works, h.1.hasTable⟩
  · rw [hlist]
    exact iff_of_false nofun fun h => by simp [h.1.bot_fits] at hfits
  · rw [hlist]
    exact (and_iff_right hserves).symm

end Store

namespace TradeAlerts

open Subscriptions

variable {auction : Int} {account : String} {entry : Int × TradeBot} {r : Round}

/-- If the records of a bot cannot be listed, a move fails for that reason. -/
theorem move_of_unlisted {db : Database} {cause : StoreFailure}
    (h : (store entry.1).records (db.list (store entry.1).codec.collection (store entry.1).bot) = .error cause) :
    (move auction account entry db).1 = .error (.store cause) := by
  change ((store entry.1).runAlone (migrate entry.1 (.prelaunch auction) (.fungible account))
    { database := db, index := entry.2.index }).1 = .error (.store cause)
  rw [Store.runAlone, migrate, Task.run_ifOk, Task.run_map]
  simp only [Store.all, Task.run, Store.answer, h]
  rfl

/-- A launch ends with a bot exactly if its records cannot be listed for a reason that passes. -/
theorem launchTurn_eq_none_iff (auction : Int) (account : String) (htable : r.database.IsTable) :
    (launchTurn auction account entry r).1 = none ↔ ¬(store entry.1).BreaksOff Subscriber.Stray r.database := by
  have hfault := Store.exists_listed_eq_fault_iff (s := store entry.1) Subscriber.passes_iff r.database
  rw [← hfault]
  cases hlisted : (store entry.1).records (r.database.list (store entry.1).codec.collection (store entry.1).bot) with
  | error cause =>
      rw [(launchTurn_eq auction account entry r).1, move_of_unlisted hlisted]
      cases cause with
      | store e => exact iff_of_true rfl (by simp)
      | fault f => exact iff_of_false (Option.some_ne_none f) (by simp)
  | ok records =>
      -- Once all records are read no fault passes any more: one that is rewritten is at worst malformed.
      obtain ⟨hserves, hrecords⟩ := Store.listed_eq_ok_iff.mp hlisted
      have hread : ∀ row ∈ rows entry.1 r.database, ∃ s, Subscriber.ofJson row.2 = .ok s := fun row hrow =>
        (Store.exists_decode_eq_ok_iff row).mp ((store entry.1).exists_records_iff.mp ⟨records, hrecords⟩ row hrow)
      have hreadable : Readable entry.1 r.database :=
        ⟨hserves, (htable _ _).ascending, (htable _ _).fits, fun row hrow =>
          ⟨(htable _ _).documents row hrow, hread row hrow⟩⟩
      exact iff_of_true (launchTurn_rewrites auction account hreadable.sound).1 (by simp)

/-- A bot with which the handling of an event ends: only a launch ends so. -/
def Ends (db : Database) (bot : Int) : TradeEvent → Prop
  | .auction (.launch ..) => (store bot).BreaksOff Subscriber.Stray db
  | _ => False

theorem turn_eq_none_iff (sources : Sources) (event : TradeEvent) (htable : r.database.IsTable) :
    (turn sources event entry r).1 = none ↔ ¬Ends r.database entry.1 event := by
  match event with
  | .auction (.launch auction account _ _) => exact launchTurn_eq_none_iff auction account htable
  | .auction (.deposit ..) | .auction (.withdraw ..) | .swap .. | .liquidity .. =>
      exact iff_of_true rfl not_false

/-- The handling of an event goes through exactly if it ends with no bot. What a bot that is reached has of it is what
it has alone, and a bot that is not reached has nothing of it. -/
theorem handle_bot_by_bot {sources : Sources} (hclient : sources.oracle.client = none) (event : TradeEvent)
    (htable : r.database.IsTable) (hbots : (Assoc.keys r.alerts.bots).Nodup) :
    ((handle sources event r).1 = .ok () ↔ ∀ bot ∈ Assoc.keys r.alerts.bots, ¬Ends r.database bot event) ∧
      (∀ bot, Reached (Ends r.database · event) (Assoc.keys r.alerts.bots) bot → ∀ r' : Round,
        r'.own bot = r.own bot → r'.alerts.bots = r.alerts.bots.filter (·.1 = bot) →
          (handle sources event r).2.own bot = (handle sources event r').2.own bot) ∧
      ∀ bot, ¬Reached (Ends r.database · event) (Assoc.keys r.alerts.bots) bot →
        (handle sources event r).2.own bot = r.own bot := by
  have happart := keepApart_turn hclient event
  have hdatabase : (begun event r).database = r.database := by
    match event with
    | .auction (.launch ..) | .auction (.deposit ..) | .auction (.withdraw ..) | .swap .. | .liquidity .. => rfl
  have hends : ∀ entry ∈ r.alerts.bots,
      (turn sources event entry (begun event r)).1 = none ↔ ¬Ends r.database entry.1 event := by
    intro entry _
    rw [turn_eq_none_iff sources event (hdatabase ▸ htable), hdatabase]
  obtain ⟨hfault, hafter⟩ := handle_turns sources event r
  refine ⟨?_, fun bot hreached r' hsame hthose => ?_, fun bot hnot => ?_⟩
  · rw [hfault, happart.none_iff hbots, Assoc.keys, List.forall_mem_map]
    exact forall₂_congr hends
  · rw [hafter, (handle_turns sources event r').2, hthose]
    apply happart.own_alone hbots hends hreached
    rw [own_begun, own_begun, hsame]
  · rw [hafter, happart.own_of_not_reached hbots hends hnot, own_begun]

end TradeAlerts

namespace LogAlerts

variable {log filter : Type} {kind : LogKind log filter} {m : kind.Meaning} {stray : Json → Prop} {db : Database}
  {bot : Int} {entry : log} {spawns : List Spawn}

/-- A bot with which the handling of a log ends. -/
inductive Ends (m : kind.Meaning) (stray : Json → Prop) (db : Database) (bot : Int) (entry : log) : Prop where
  | unlisted (h : (FilterLists.store kind bot).BreaksOff (kind.StrayList stray) db)
  | untried (serves : db.Serves bot)
    (read : ∀ row ∈ db.records kind.collection bot, ∃ filters, kind.readFilters row.2 = .ok filters)
    (stumbles : ∃ row ∈ db.records kind.collection bot, ∃ filters, kind.readFilters row.2 = .ok filters ∧
      ∃ f ∈ filters, m.Stumbles f entry)

/-- Lists are served to the end exactly if each of their filters can be tried on the log. -/
theorem spawnsForAll_eq_none_iff (m : kind.Meaning) (bot : Int) (entry : log) (lists : List (Int × List filter)) :
    (spawnsForAll kind bot entry lists).2 = none ↔ ∀ l ∈ lists, ∀ f ∈ l.2, ¬m.Stumbles f entry := by
  induction lists with
  | nil => simp [spawnsForAll]
  | cons first rest ih =>
      have hfails := kind.matching_fails_iff m entry first.2
      rw [spawnsForAll, spawnsFor, List.forall_mem_cons, ← ih]
      cases hmatching : kind.matching first.2 entry with
      | error fault =>
          obtain ⟨f, hf, hstumbles⟩ := hfails.mp ⟨fault, hmatching⟩
          exact iff_of_false (Option.some_ne_none fault) fun h => h.1 f hf hstumbles
      | ok found =>
          have hnone : ∀ f ∈ first.2, ¬m.Stumbles f entry := by
            intro f hf hstumbles
            obtain ⟨fault, herror⟩ := hfails.mpr ⟨f, hf, hstumbles⟩
            rw [hmatching] at herror
            cases herror
          exact (and_iff_right hnone).symm

theorem exists_lists_eq_fault_iff (hstray : ∀ v, Passes (kind.read v) ↔ stray v) :
    (∃ f, lists kind bot db = .error (.fault f)) ↔
      (FilterLists.store kind bot).BreaksOff (kind.StrayList stray) db :=
  Store.exists_listed_eq_fault_iff (LogKind.passes_readFilters_iff hstray) db

theorem lists_eq_ok_iff {records : List (Int × List filter)} :
    lists kind bot db = .ok records ↔
      db.Serves bot ∧ (FilterLists.store kind bot).records (.ok (db.records kind.collection bot)) = .ok records :=
  Store.listed_eq_ok_iff

theorem ends_iff_of_listed (m : kind.Meaning) (hstray : ∀ v, Passes (kind.read v) ↔ stray v)
    {records : List (Int × List filter)} (h : lists kind bot db = .ok records) :
    Ends m stray db bot entry ↔ ∃ l ∈ records, ∃ f ∈ l.2, m.Stumbles f entry := by
  let s := FilterLists.store kind bot
  obtain ⟨hserves, hrecords⟩ := lists_eq_ok_iff.mp h
  have hread : ∀ {row : Int × Json} {filters},
      s.decode row.1 row.2 = .ok filters ↔ kind.readFilters row.2 = .ok filters := s.decode_eq_ok_iff
  constructor
  · rintro (hunlisted | ⟨-, -, row, hrow, filters, hfilters, hstumbles⟩)
    · obtain ⟨f, hf⟩ := (exists_lists_eq_fault_iff hstray).mpr hunlisted
      rw [h] at hf
      cases hf
    · exact ⟨(row.1, filters), (s.mem_records hrecords).mpr ⟨row.2, hrow, hread.mpr hfilters⟩, hstumbles⟩
  · rintro ⟨l, hl, hstumbles⟩
    obtain ⟨payload, hrow, hdecoded⟩ := (s.mem_records hrecords).mp hl
    refine .untried hserves (fun row hrow => ?_) ⟨(l.1, payload), hrow, l.2, hread.mp hdecoded, hstumbles⟩
    obtain ⟨filters, hfilters⟩ := s.exists_records_iff.mp ⟨records, hrecords⟩ row hrow
    exact ⟨filters, hread.mp hfilters⟩

/-- The handling of a log ends with a bot exactly in the cases named. -/
theorem logTurn_eq_none_iff (m : kind.Meaning) (hstray : ∀ v, Passes (kind.read v) ↔ stray v) :
    (logTurn kind db entry bot spawns).1 = none ↔ ¬Ends m stray db bot entry := by
  let s := FilterLists.store kind bot
  rw [logTurn]
  cases hlisted : lists kind bot db with
  | ok records =>
      rw [ends_iff_of_listed m hstray hlisted]
      simpa using spawnsForAll_eq_none_iff m bot entry records
  | error cause =>
      have hunlisted : Ends m stray db bot entry ↔ s.BreaksOff (kind.StrayList stray) db := by
        refine ⟨?_, .unlisted⟩
        rintro (hbreaks | ⟨hserves, hread, -⟩)
        · exact hbreaks
        · obtain ⟨records, hrecords⟩ := s.exists_records_iff.mpr fun row hrow =>
            (Store.exists_decode_eq_ok_iff row).mpr (hread row hrow)
          rw [lists_eq_ok_iff.mpr ⟨hserves, hrecords⟩] at hlisted
          cases hlisted
      rw [hunlisted, ← exists_lists_eq_fault_iff hstray, hlisted]
      cases cause with
      | store e => exact iff_of_true rfl (by simp)
      | fault f => exact iff_of_false (Option.some_ne_none f) (by simp)

/-- The handling of a log goes through exactly if it ends with no bot. What a bot that is reached has of it is what it
has alone, and a bot that is not reached has nothing of it. -/
theorem handle_bot_by_bot (m : kind.Meaning) (hstray : ∀ v, Passes (kind.read v) ↔ stray v) (db : Database)
    (entry : log) {l : LogAlerts} (hbots : l.bots.Nodup) :
    ((handle kind db entry l).1.1 = none ↔ ∀ bot ∈ l.bots, ¬Ends m stray db bot entry) ∧
      (∀ bot, Reached (Ends m stray db · entry) l.bots bot → ∀ l' : LogAlerts, l'.bots = l.bots.filter (· = bot) →
        (handle kind db entry l).1.2.filter (·.bot = bot) = (handle kind db entry l').1.2.filter (·.bot = bot)) ∧
      ∀ bot, ¬Reached (Ends m stray db · entry) l.bots bot →
        (handle kind db entry l).1.2.filter (·.bot = bot) = [] := by
  have happart : KeepApart (fun bot => bot) (logTurn kind db entry) fun bot spawns => spawns.filter (·.bot = bot) :=
    keepApart_logTurn
  have hself : l.bots.map (fun bot => bot) = l.bots := List.map_id' _
  have hends : ∀ bot ∈ l.bots, (logTurn kind db entry bot []).1 = none ↔ ¬Ends m stray db bot entry :=
    fun bot _ => logTurn_eq_none_iff m hstray
  rw [← hself] at hbots
  rw [← handle_logTurns]
  refine ⟨?_, fun bot hreached l' hthose => ?_, fun bot hnot => ?_⟩
  · rw [happart.none_iff hbots]
    exact forall₂_congr hends
  · rw [← hself] at hreached
    rw [← handle_logTurns, hthose]
    exact happart.own_alone hbots hends hreached rfl
  · rw [← hself] at hnot
    exact happart.own_of_not_reached hbots hends hnot

end LogAlerts

namespace Hub

/-- The bots that take part in the notifications that an event is meant for. -/
def takesPart (event : ChainEvent) (h : Hub) : List Int :=
  match event with
  | .trade _ => Assoc.keys h.trades.bots
  | .structured _ => h.structuredLogs.bots
  | .text _ => h.textLogs.bots

/-- A bot with which the handling of an event ends. -/
def EndsRound (event : ChainEvent) (h : Hub) (bot : Int) : Prop :=
  match event with
  | .trade e => TradeAlerts.Ends h.database bot e
  | .structured e => LogAlerts.Ends (LogKind.eventMeaning h.versions) StructuredFilter.Stray h.database bot e
  | .text e => LogAlerts.Ends LogKind.lineMeaning Json.IsBare h.database bot e

/-- A bot's deliveries and rows are the same in two hubs. -/
structure SameFor (bot : Int) (h h' : Hub) : Prop where
  deliveries : Assoc.get? bot h.dispatchers = Assoc.get? bot h'.dispatchers
  rows : ∀ collection, h.database.records collection bot = h'.database.records collection bot

theorem sameFor_spawnAll {bot : Int} {h h' : Hub} {spawns spawns' : List Spawn} (hsame : SameFor bot h h')
    (hspawns : spawns.filter (·.bot = bot) = spawns'.filter (·.bot = bot)) :
    SameFor bot (h.spawnAll spawns) (h'.spawnAll spawns') where
  deliveries := get?_spawnAll_congr hsame.deliveries hspawns
  rows := by
    rw [database_spawnAll, database_spawnAll]
    exact hsame.rows

/-- A bot for which nothing is started is as it was. -/
theorem sameFor_spawnAll_of_none {bot : Int} {h h' : Hub} {spawns : List Spawn} (hsame : SameFor bot h h')
    (hnone : spawns.filter (·.bot = bot) = []) : SameFor bot (h.spawnAll spawns) h' :=
  sameFor_spawnAll hsame (show spawns.filter (·.bot = bot) = ([] : List Spawn).filter (·.bot = bot) from hnone)

/-- Where an event about trades begins to go round. -/
def round (h : Hub) : TradeAlerts.Round :=
  { database := h.database, net := h.surroundings.net, alerts := h.trades }

theorem sameFor_trade {bot : Int} {h h' : Hub} {e : TradeEvent}
    (hold : Assoc.get? bot h.dispatchers = Assoc.get? bot h'.dispatchers)
    (hsame : (h.tradeRound e).2.own bot = (h'.tradeRound e).2.own bot) :
    SameFor bot (h.observe (.trade e)).2 (h'.observe (.trade e)).2 := by
  obtain ⟨-, hdatabase, hdispatchers⟩ := observe_trade e h
  obtain ⟨-, hdatabase', hdispatchers'⟩ := observe_trade e h'
  obtain ⟨hrows, hspawns⟩ := Prod.mk.inj hsame
  refine ⟨?_, fun collection => ?_⟩
  · rw [hdispatchers, hdispatchers']
    exact get?_spawnAll_congr hold hspawns
  · rw [hdatabase, hdatabase']
    exact Database.records_congr hrows collection

theorem sameFor_trade_self {bot : Int} {h : Hub} {e : TradeEvent}
    (hsame : (h.tradeRound e).2.own bot = h.round.own bot) : SameFor bot (h.observe (.trade e)).2 h := by
  obtain ⟨-, hdatabase, hdispatchers⟩ := observe_trade e h
  obtain ⟨hrows, hnone⟩ := Prod.mk.inj hsame
  refine ⟨?_, fun collection => ?_⟩
  · rw [hdispatchers]
    exact (sameFor_spawnAll_of_none ⟨rfl, fun _ => rfl⟩ hnone).deliveries
  · rw [hdatabase]
    exact Database.records_congr hrows collection

theorem not_endsRound_matched (h : Hub) {e : TradeEvent}
    (hmatched : ∀ auction account transaction nanoseconds,
      e ≠ .auction (.launch auction account transaction nanoseconds)) (bot : Int) : ¬h.EndsRound (.trade e) bot := by
  match e with
  | .auction (.launch ..) => exact absurd rfl (hmatched _ _ _ _)
  | .auction (.deposit ..) | .auction (.withdraw ..) | .swap .. | .liquidity .. => exact id

/-- An event goes round exactly if it ends with no bot that takes part, and any about trades but a launch does. Whether
it goes round or not, a bot that is reached has the deliveries and the rows that it has if it is the only one, and a bot
that is not reached has those that it had. -/
theorem observe_bot_by_bot (h : Hub) (hclient : h.oracle.client = none) (htable : h.database.IsTable)
    (event : ChainEvent) (hbots : (h.takesPart event).Nodup) :
    ((h.observe event).1 = none ↔ ∀ bot ∈ h.takesPart event, ¬h.EndsRound event bot) ∧
      (∀ e, event = .trade e → (∀ auction account transaction nanoseconds,
        e ≠ .auction (.launch auction account transaction nanoseconds)) → (h.observe event).1 = none) ∧
      (∀ bot, Reached (h.EndsRound event) (h.takesPart event) bot →
        SameFor bot (h.observe event).2 ((h.only bot).observe event).2) ∧
      ∀ bot, ¬Reached (h.EndsRound event) (h.takesPart event) bot → SameFor bot (h.observe event).2 h := by
  cases event with
  | trade e =>
      let sources : TradeAlerts.Sources := { oracle := h.oracle, prices := h.surroundings.prices, routes := h.routes }
      have hclient' : sources.oracle.client = none := hclient
      obtain ⟨hfault, hreached, hnot⟩ := TradeAlerts.handle_bot_by_bot (r := h.round) hclient' e htable hbots
      have hround := (observe_trade e h).1.trans hfault
      refine ⟨hround, ?_, fun bot hbot => ?_, fun bot hbot => ?_⟩
      · rintro _ ⟨⟩ hmatched
        exact hround.mpr fun bot _ => h.not_endsRound_matched hmatched bot
      · exact sameFor_trade (get?_only bot h).symm (hreached bot hbot (h.only bot).round rfl rfl)
      · exact sameFor_trade_self (hnot bot hbot)
  | structured e =>
      obtain ⟨hfault, hreached, hnot⟩ := LogAlerts.handle_bot_by_bot (LogKind.eventMeaning h.versions)
        (fun v => StructuredFilter.passes_iff v) h.database e hbots
      refine ⟨hfault, nofun, fun bot hbot => ?_, fun bot hbot => ?_⟩
      · have hsame := hreached bot hbot (h.only bot).structuredLogs rfl
        exact sameFor_spawnAll ⟨(get?_only bot h).symm, fun _ => rfl⟩ hsame
      · exact sameFor_spawnAll_of_none ⟨rfl, fun _ => rfl⟩ (hnot bot hbot)
  | text e =>
      obtain ⟨hfault, hreached, hnot⟩ := LogAlerts.handle_bot_by_bot LogKind.lineMeaning
        (fun v => TextFilter.passes_iff v) h.database e hbots
      refine ⟨hfault, nofun, fun bot hbot => ?_, fun bot hbot => ?_⟩
      · have hsame := hreached bot hbot (h.only bot).textLogs rfl
        exact sameFor_spawnAll ⟨(get?_only bot h).symm, fun _ => rfl⟩ hsame
      · exact sameFor_spawnAll_of_none ⟨rfl, fun _ => rfl⟩ (hnot bot hbot)

/-- Two bots, of which one has a row with some payload and the other a chat that asks for an account's lines. -/
def listeningBots (payload : Json) : Hub :=
  let database : Database := { tables := [
    (("text_logs", 1), [(7, payload)]),
    (("text_logs", 2), [(8, .obj [("filters", .arr [.obj [("account_id", .str "app.near")]])])])] }
  let registered := register { bot := 2 } (register { bot := 1 } { database })
  (addBot 2 (addBot 1 registered).2).2

def loggedLine : TextLog where
  account := "app.near"
  predecessor := "bob.near"
  line := "hello"
  transaction := "tx"
  blockHeight := 1
  nanoseconds := 1
  testnet := false

/-- The number of deliveries of a bot under way. -/
def underWay (bot : Int) (h : Hub) : Option Nat := (Assoc.get? bot h.dispatchers).map (·.jobs.length)

theorem observe_bot_by_bot_malformed :
    let h := listeningBots (.obj [("filters", .int 5)])
    (h.observe (.text loggedLine)).1 = none ∧
      underWay 2 (h.observe (.text loggedLine)).2 = some 1 ∧
      underWay 2 ((h.only 2).observe (.text loggedLine)).2 = some 1 := by
  intro h
  have htable : h.database.IsTable := Database.isTable_of_tables (by decide +kernel)
  have hbots : (h.takesPart (.text loggedLine)).Nodup := by decide +kernel
  obtain ⟨hfault, -, hreached, -⟩ := observe_bot_by_bot h rfl htable (.text loggedLine) hbots
  have hround : (h.observe (.text loggedLine)).1 = none := by decide +kernel
  have hshared : underWay 2 (h.observe (.text loggedLine)).2 = some 1 := by decide +kernel
  have hfirst : Reached (h.EndsRound (.text loggedLine)) (h.takesPart (.text loggedLine)) 2 := by
    intro before after hsplit other hother
    exact hfault.mp hround other (hsplit ▸ List.mem_append_left _ hother)
  refine ⟨hround, hshared, ?_⟩
  rw [← hshared, underWay, underWay, (hreached 2 hfirst).deliveries]

/-- A row whose filters are texts is neither read nor counted as corrupt: it ends the handling before the other bot's
turn. -/
theorem observe_ended_by_texts :
    let h := listeningBots (.obj [("filters", .arr [.str "x"])])
    (h.observe (.text loggedLine)).1.isSome ∧
      underWay 2 (h.observe (.text loggedLine)).2 = some 0 ∧
      underWay 2 ((h.only 2).observe (.text loggedLine)).2 = some 1 := by
  decide +kernel

end Hub

end ChainAlerts
