import ChainAlerts.Proofs.BotIsolation
import ChainAlerts.Proofs.LogFanOut

/-! Chats manage their lists of filters while events are observed. A call on one kind of list leaves the rows of the
other alone, and an event those of both. So after any calls and events the hub has the lists that the calls make of
tables in memory, it answers the next call as they say, and the next log is handed to them. All this is so for any
scheme of version numbers; the statements about single runs are about the scheme that programs run with. -/

namespace ChainAlerts

/-- What of a database concerns a collection. -/
structure CollectionRows where
  failure : Option String
  hasSchema : Bool
  rows : Int → Records

def Database.part (collection : String) (db : Database) : CollectionRows where
  failure := db.failure
  hasSchema := db.hasSchema
  rows := db.records collection

theorem Database.part_withRecords_of_ne {collection other : String} (h : other ≠ collection) (bot : Int) (db : Database)
    (rows : Records) : (db.withRecords other bot rows).part collection = db.part collection := by
  have hrows : (db.withRecords other bot rows).records collection = db.records collection := by
    funext otherBot
    exact records_withRecords_of_ne (fun heq => h heq.1.symm) db rows
  rw [part, hrows]
  rfl

namespace TradeAlerts

variable {collection : String}

theorem part_launchAll (h : Subscriber.codec.collection ≠ collection) (auction : Int) (account : String)
    (bots : List (Int × TradeBot)) (r : Round) :
    (launchAll auction account bots r).2.database.part collection = r.database.part collection := by
  have hturn : ∀ entry r, (launchTurn auction account entry r).2.database.part collection =
      r.database.part collection := by
    intro entry r
    obtain ⟨-, hdatabase, -⟩ := launchTurn_eq auction account entry r
    rw [hdatabase]
    exact Store.run_keeps (Database.part_withRecords_of_ne h entry.1) _ _
  rw [(takeTurns_launchTurn bots r).2]
  exact takeTurns_induction (P := fun s : Round => s.database.part collection = r.database.part collection)
    (fun entry _ s hs => (hturn entry s).trans hs) rfl

/-- Handling an event about tokens leaves the rows of other collections alone. -/
theorem part_handle (h : Subscriber.codec.collection ≠ collection) (sources : Sources) (event : TradeEvent)
    (r : Round) : (handle sources event r).2.database.part collection = r.database.part collection := by
  have hmatched := fun changes r => congrArg (Database.part collection)
    (database_foldl_matchFor sources changes r.alerts.bots r)
  match event with
  | .auction (.launch auction account transaction nanoseconds) => exact part_launchAll h auction account _ _
  | .swap swap => exact hmatched _ _
  | .liquidity change => exact hmatched _ _
  | .auction (.deposit ..) => exact hmatched _ _
  | .auction (.withdraw ..) => exact hmatched _ _

end TradeAlerts

namespace FilterLists.Stored

variable {log filter : Type} {kind : LogKind log filter} {m : kind.Meaning} {t : FilterTable filter}
  {db db' : Database}

/-- Lists stay stored if their own rows do. -/
theorem congr (h : Stored m t db) (hpart : db'.part kind.collection = db.part kind.collection) : Stored m t db' := by
  have hrows : ∀ bot, db'.records kind.collection bot = db.records kind.collection bot :=
    congrFun (congrArg CollectionRows.rows hpart)
  refine ⟨(congrArg CollectionRows.failure hpart).trans h.works, ?_, fun bot => ?_, fun bot chat => ?_, h.storable⟩
  · exact (congrArg CollectionRows.hasSchema hpart).trans h.hasTable
  · rw [hrows]
    exact h.ascending bot
  · rw [hrows]
    exact h.rows bot chat

end FilterLists.Stored

/-- The lists of both kinds that chats have, and the bots that take part. -/
structure FilterBook where
  bots : List Int := []
  lines : FilterTable TextFilter := fun _ _ => none
  events : FilterTable StructuredFilter := fun _ _ => none

/-- What can happen while filters are managed. -/
inductive FilterAct where
  | join (bot : Int)
  | onLines (bot chat : Int) (call : FilterCall TextFilter)
  | onEvents (bot chat : Int) (call : FilterCall StructuredFilter)
  | observe (event : ChainEvent)

namespace FilterAct

def perform (h : Hub) : FilterAct → Hub
  | join bot => (h.addBot bot).2
  | onLines bot chat call => (h.callFilters LogKind.text (fun kind bot => call.attempt kind bot chat) bot).2
  | onEvents bot chat call =>
    (h.callFilters (LogKind.structured h.versions) (fun kind bot => call.attempt kind bot chat) bot).2
  | observe event => (h.observe event).2

/-- What is made of the lists in memory. -/
def apply (versions : VersionScheme) (b : FilterBook) : FilterAct → FilterBook
  | join bot => { b with bots := if bot ∈ b.bots then b.bots else b.bots ++ [bot] }
  | onLines bot chat call => { b with lines := call.after LogKind.text bot chat b.lines }
  | onEvents bot chat call => { b with events := call.after (LogKind.structured versions) bot chat b.events }
  | observe _ => b

/-- Bots are keys, and filters are as their types have them. -/
def Proper (versions : VersionScheme) : FilterAct → Prop
  | join bot => Database.fits bot
  | onLines _ _ call => call.Typed LogKind.lineMeaning
  | onEvents _ _ call => call.Typed (LogKind.eventMeaning versions)
  | observe _ => True

end FilterAct

namespace Hub

open FilterLists

/-- A hub whose rows are the lists of a book, for the bots of the book. -/
structure Keeps (b : FilterBook) (h : Hub) : Prop where
  lines : Stored LogKind.lineMeaning b.lines h.database
  events : Stored (LogKind.eventMeaning h.versions) b.events h.database
  lineBots : h.textLogs.bots = b.bots
  eventBots : h.structuredLogs.bots = b.bots
  fits : ∀ bot ∈ b.bots, Database.fits bot

theorem lines_ne_events {versions : VersionScheme} :
    LogKind.text.collection ≠ (LogKind.structured versions).collection := by
  change "text_logs" ≠ "nep297_logs"
  decide

/-- No event changes the scheme of version numbers. -/
theorem versions_observe (event : ChainEvent) (h : Hub) : (h.observe event).2.versions = h.versions := by
  have hspawned : ∀ (h : Hub) spawns, (h.spawnAll spawns).versions = h.versions := by
    intro h spawns
    rw [spawnAll_eq]
  cases event <;> exact hspawned _ _

theorem versions_perform (act : FilterAct) (h : Hub) : (act.perform h).versions = h.versions := by
  cases act with
  | observe event => exact versions_observe event h
  | _ => rfl

variable {b : FilterBook} {h : Hub}

section Calls

variable {log filter : Type} {kind : LogKind log filter} {m : kind.Meaning} {t : FilterTable filter}

/-- A call on filters is refused and leaves the hub as it is, or it answers what the table says. -/
theorem callFilters_cases (hstored : Stored m t h.database) (bot chat : Int) {call : FilterCall filter}
    (htyped : call.Typed m) :
    (∃ cause, call.taken? kind bot chat t = none ∧
        h.callFilters kind (fun kind bot => call.attempt kind bot chat) bot = (.error cause, h)) ∨
      ∃ answer filters database, call.taken? kind bot chat t = some (answer, filters) ∧
        Stored m (t.set bot chat filters) database ∧
        h.callFilters kind (fun kind bot => call.attempt kind bot chat) bot = (.ok answer, { h with database }) := by
  have hshelf : Stored m t ({ database := h.database } : Store.Shelf).database := hstored
  have houtcome := hshelf.call_outcome bot chat htyped
  rw [callFilters]
  generalize (store kind bot).runAlone (call.attempt kind bot chat) { database := h.database } = out at houtcome
  cases houtcome with
  | refused cause htaken => exact Or.inl ⟨cause, htaken, rfl⟩
  | answered htaken hstored' => exact Or.inr ⟨_, _, _, htaken, hstored', rfl⟩

/-- After a call the rows are the lists that the call makes of the table. The lists of another kind, like all else, are
as they were. -/
theorem stored_callFilters {log' filter' : Type} {kind' : LogKind log' filter'} {m' : kind'.Meaning}
    {t' : FilterTable filter'} (hstored : Stored m t h.database) (hothers : Stored m' t' h.database)
    (hne : kind.collection ≠ kind'.collection) (bot chat : Int) {call : FilterCall filter} (htyped : call.Typed m) :
    ∃ database, (h.callFilters kind (fun kind bot => call.attempt kind bot chat) bot).2 = { h with database } ∧
      Stored m (call.after kind bot chat t) database ∧ Stored m' t' database := by
  have hpart : (h.callFilters kind (fun kind bot => call.attempt kind bot chat) bot).2.database.part kind'.collection =
      h.database.part kind'.collection :=
    Store.run_keeps (Database.part_withRecords_of_ne hne bot) (call.attempt kind bot chat) { database := h.database }
  have hothers' := hothers.congr hpart
  rw [FilterCall.after]
  obtain ⟨cause, htaken, hcall⟩ | ⟨answer, filters, database, htaken, hstored', hcall⟩ :=
    callFilters_cases hstored bot chat htyped
  · rw [htaken, hcall]
    exact ⟨h.database, rfl, hstored, hothers⟩
  · rw [hcall] at hothers'
    rw [htaken, hcall]
    exact ⟨database, rfl, hstored', hothers'⟩

end Calls

namespace Keeps

theorem spawnAll (hkeeps : h.Keeps b) (spawns : List Spawn) : (h.spawnAll spawns).Keeps b := by
  rw [spawnAll_eq]
  exact ⟨hkeeps.lines, hkeeps.events, hkeeps.lineBots, hkeeps.eventBots, hkeeps.fits⟩

/-- A logged line is handed to the lists on lines. -/
theorem observe_text (hkeeps : h.Keeps b) (entry : TextLog) :
    ∃ ls fault spawns, b.lines.InOrder b.bots ls ∧ Served LogKind.lineMeaning entry ls fault spawns ∧
      h.observe (.text entry) = (fault, { h with textLogs := h.textLogs.counted spawns }.spawnAll spawns) := by
  have hbots : ∀ bot ∈ h.textLogs.bots, Database.fits bot := hkeeps.lineBots ▸ hkeeps.fits
  obtain ⟨ls, fault, spawns, hinOrder, hserved, hrun⟩ := LogAlerts.served_handle hkeeps.lines hbots
  refine ⟨ls, fault, spawns, hkeeps.lineBots ▸ hinOrder, hserved, ?_⟩
  simp only [Hub.observe, hrun]

/-- A structured event is handed to the lists on events. -/
theorem observe_structured (hkeeps : h.Keeps b) (entry : StructuredLog) :
    ∃ ls fault spawns, b.events.InOrder b.bots ls ∧ Served (LogKind.eventMeaning h.versions) entry ls fault spawns ∧
      h.observe (.structured entry) =
        (fault, { h with structuredLogs := h.structuredLogs.counted spawns }.spawnAll spawns) := by
  have hbots : ∀ bot ∈ h.structuredLogs.bots, Database.fits bot := hkeeps.eventBots ▸ hkeeps.fits
  obtain ⟨ls, fault, spawns, hinOrder, hserved, hrun⟩ := LogAlerts.served_handle hkeeps.events hbots
  refine ⟨ls, fault, spawns, hkeeps.eventBots ▸ hinOrder, hserved, ?_⟩
  simp only [Hub.observe, hrun]

theorem observe_trade (hkeeps : h.Keeps b) (e : TradeEvent) : (h.observe (.trade e)).2.Keeps b := by
  have hpart : ∀ collection, Subscriber.codec.collection ≠ collection →
      (h.observe (.trade e)).2.database.part collection = h.database.part collection := by
    intro collection hne
    rw [(Hub.observe_trade e h).2.1]
    exact TradeAlerts.part_handle hne _ e _
  refine ⟨hkeeps.lines.congr (hpart _ (by decide)), ?_, ?_, ?_, hkeeps.fits⟩
  · rw [versions_observe]
    exact hkeeps.events.congr (hpart "nep297_logs" (by decide))
  · simp only [Hub.observe]
    rw [spawnAll_eq]
    exact hkeeps.lineBots
  · simp only [Hub.observe]
    rw [spawnAll_eq]
    exact hkeeps.eventBots

theorem observe (hkeeps : h.Keeps b) (event : ChainEvent) : (h.observe event).2.Keeps b := by
  cases event with
  | trade e => exact hkeeps.observe_trade e
  | structured e =>
      obtain ⟨ls, fault, spawns, -, -, hobserve⟩ := hkeeps.observe_structured e
      rw [hobserve]
      apply spawnAll
      exact ⟨hkeeps.lines, hkeeps.events, hkeeps.lineBots, hkeeps.eventBots, hkeeps.fits⟩
  | text e =>
      obtain ⟨ls, fault, spawns, -, -, hobserve⟩ := hkeeps.observe_text e
      rw [hobserve]
      apply spawnAll
      exact ⟨hkeeps.lines, hkeeps.events, hkeeps.lineBots, hkeeps.eventBots, hkeeps.fits⟩

/-- Each act keeps the book. -/
theorem perform (hkeeps : h.Keeps b) {act : FilterAct} (hact : act.Proper h.versions) :
    (act.perform h).Keeps (act.apply h.versions b) := by
  cases act with
  | join bot =>
      have hjoined : ∀ l : LogAlerts, l.bots = b.bots → (l.addBot bot).bots =
          (FilterAct.apply h.versions b (.join bot)).bots := by
        intro l hl
        rw [LogAlerts.addBot, hl]
        rfl
      refine ⟨hkeeps.lines, hkeeps.events, hjoined _ hkeeps.lineBots, hjoined _ hkeeps.eventBots, ?_⟩
      intro other hother
      rw [FilterAct.apply] at hother
      split at hother
      · exact hkeeps.fits other hother
      · rcases List.mem_append.mp hother with hold | hnew
        · exact hkeeps.fits other hold
        · exact List.mem_singleton.mp hnew ▸ hact
  | onLines bot chat call =>
      obtain ⟨database, hafter, hlines, hevents⟩ :=
        stored_callFilters hkeeps.lines hkeeps.events lines_ne_events bot chat hact
      rw [FilterAct.perform, hafter]
      exact ⟨hlines, hevents, hkeeps.lineBots, hkeeps.eventBots, hkeeps.fits⟩
  | onEvents bot chat call =>
      obtain ⟨database, hafter, hevents, hlines⟩ :=
        stored_callFilters hkeeps.events hkeeps.lines lines_ne_events.symm bot chat hact
      rw [FilterAct.perform, hafter]
      exact ⟨hlines, hevents, hkeeps.lineBots, hkeeps.eventBots, hkeeps.fits⟩
  | observe event => exact hkeeps.observe event

theorem run (hkeeps : h.Keeps b) {acts : List FilterAct} (hacts : ∀ act ∈ acts, act.Proper h.versions) :
    (acts.foldl FilterAct.perform h).Keeps (acts.foldl (FilterAct.apply h.versions) b) := by
  induction acts generalizing h b with
  | nil => exact hkeeps
  | cons act rest ih =>
      obtain ⟨hfirst, hrest⟩ := List.forall_mem_cons.mp hacts
      have hsame := versions_perform act h
      rw [← hsame] at hrest
      have hafter := ih (hkeeps.perform hfirst) hrest
      rw [hsame] at hafter
      exact hafter

end Keeps

/-- What chats of one kind of list see of a hub: their lists are those of a table, and calls answer what the table says
or are refused and change nothing. -/
structure Answers {log filter : Type} {kind : LogKind log filter} (m : kind.Meaning) (t : FilterTable filter)
    (h : Hub) : Prop where
  lists : ∀ bot chat, Database.fits bot → Database.fits chat →
    h.callFilters kind (fun kind bot => FilterLists.get kind bot chat) bot = (.ok (t bot chat), h)
  calls : ∀ bot chat (call : FilterCall filter), call.Typed m →
    match call.taken? kind bot chat t with
    | some (answer, _) => (h.callFilters kind (fun kind bot => call.attempt kind bot chat) bot).1 = .ok answer
    | none => ∃ cause, h.callFilters kind (fun kind bot => call.attempt kind bot chat) bot = (.error cause, h)

/-- What comes of a hub with the lists of a book. -/
structure Follows (b : FilterBook) (h : Hub) : Prop where
  lines : Answers LogKind.lineMeaning b.lines h
  events : Answers (LogKind.eventMeaning h.versions) b.events h
  nonempty : ∀ bot chat filters, b.events bot chat = some filters → ∀ f ∈ filters, f.isEmpty = false
  lineNotices : ∀ entry : TextLog, ∃ ls spawns, b.lines.InOrder b.bots ls ∧
    spawns = ls.flatMap (·.notices LogKind.lineMeaning entry) ∧
    h.observe (.text entry) = (none, { h with textLogs := h.textLogs.counted spawns }.spawnAll spawns)
  eventNotices : ∀ entry : StructuredLog, ∃ ls fault spawns, b.events.InOrder b.bots ls ∧
    Served (LogKind.eventMeaning h.versions) entry ls fault spawns ∧
    h.observe (.structured entry) =
      (fault, { h with structuredLogs := h.structuredLogs.counted spawns }.spawnAll spawns)

theorem answers_of_stored {log filter : Type} {kind : LogKind log filter} {m : kind.Meaning} {t : FilterTable filter}
    (hstored : Stored m t h.database) : Answers m t h where
  lists := by
    intro bot chat hbot hchat
    have hshelf : Stored m t ({ database := h.database } : Store.Shelf).database := hstored
    rw [callFilters, hshelf.get hbot hchat]
  calls := by
    intro bot chat call htyped
    obtain ⟨cause, htaken, hcall⟩ | ⟨answer, filters, database, htaken, -, hcall⟩ :=
      callFilters_cases hstored bot chat htyped
    · rw [htaken]
      exact ⟨cause, hcall⟩
    · rw [htaken, hcall]

theorem Keeps.follows (hkeeps : h.Keeps b) : h.Follows b where
  lines := answers_of_stored hkeeps.lines
  events := answers_of_stored hkeeps.events
  nonempty := fun bot chat filters hlist f hf =>
    StructuredFilter.check_eq_ok_iff.mp (hkeeps.events.storable bot chat filters hlist f hf).2
  lineNotices := by
    intro entry
    obtain ⟨ls, fault, spawns, hinOrder, hserved, hobserve⟩ := hkeeps.observe_text entry
    have htried : ∀ l ∈ ls, ¬l.Stumbles LogKind.lineMeaning entry := by
      rintro l hl ⟨f, hf, hstumbles⟩
      obtain ⟨htyped, -⟩ := hkeeps.lines.storable l.bot l.chat l.filters (hinOrder.listed hl) f hf
      exact htyped.not_stumbles entry hstumbles
    obtain ⟨rfl, rfl⟩ := hserved.eq_all htried
    exact ⟨ls, _, hinOrder, rfl, hobserve⟩
  eventNotices := hkeeps.observe_structured

/-- After any calls and events, the lists of a hub are those that the calls make of tables in memory. -/
theorem follows_of_acts (hkeeps : h.Keeps b) {acts : List FilterAct} (hacts : ∀ act ∈ acts, act.Proper h.versions) :
    (acts.foldl FilterAct.perform h).Follows (acts.foldl (FilterAct.apply h.versions) b) :=
  (hkeeps.run hacts).follows

/-- A hub without rows and bots keeps the empty book. -/
theorem keeps_empty (hworks : h.database.failure = none) (hschema : h.database.hasSchema)
    (htables : h.database.tables = []) (hlines : h.textLogs.bots = []) (hevents : h.structuredLogs.bots = []) :
    h.Keeps {} := by
  have hrecords : ∀ collection bot, h.database.records collection bot = [] := by
    intro collection bot
    rw [Database.records, htables]
    rfl
  have hstored : ∀ {log filter : Type} {kind : LogKind log filter} (m : kind.Meaning),
      Stored m (fun _ _ => none) h.database := by
    intro log filter kind m
    refine ⟨hworks, hschema, fun bot => ?_, fun bot chat => ?_, by simp⟩
    · rw [hrecords]
      exact .nil
    · rw [hrecords]
      rfl
  exact ⟨hstored _, hstored _, hlines, hevents, by simp⟩

/-- A filter on versions and a filter on an account. -/
def fromFirst : StructuredFilter where
  version := some { text := ">=1", specifiers := ">=1" }

def ofApp : StructuredFilter where
  account := .str "app.near"

def ofGreetings : TextFilter where
  account := "app.near"
  startsWith := .str "hello"

/-- The event of an app, with a version. -/
def appEvent (version : String) : StructuredLog where
  account := "app.near"
  predecessor := "bob.near"
  standard := "nep171"
  version := version
  event := "nft_mint"
  data := .null
  transaction := "tx"
  blockHeight := 1
  nanoseconds := 1
  testnet := false

/-- Two chats of a bot ask for events and one for lines. -/
def asked : List FilterAct :=
  [.join 1, .onEvents 1 1 (.add fromFirst), .onEvents 1 2 (.add ofApp), .onLines 1 1 (.add ofGreetings)]

def manned : Hub := register { bot := 1 } {}

theorem manned_keeps : manned.Keeps {} := keeps_empty rfl rfl rfl rfl rfl

theorem typed_fromFirst : fromFirst.Typed .standard := by
  refine ⟨Or.inl rfl, Or.inl rfl, Or.inl rfl, Or.inl rfl, ?_⟩
  rintro r ⟨⟩
  rfl

theorem typed_ofApp : ofApp.Typed .standard := by
  refine ⟨Or.inr ⟨_, rfl⟩, Or.inl rfl, Or.inl rfl, Or.inl rfl, ?_⟩
  rintro r ⟨⟩

theorem typed_ofGreetings : ofGreetings.Typed :=
  ⟨Or.inl rfl, Or.inl rfl, Or.inr ⟨_, rfl⟩, Or.inl rfl, Or.inl rfl⟩

theorem asked_proper : ∀ act ∈ asked, act.Proper .standard := by
  simp only [asked, List.forall_mem_cons, List.not_mem_nil, false_implies, implies_true, and_true]
  exact ⟨rfl, typed_fromFirst, typed_ofApp, typed_ofGreetings⟩

/-- A list goes on to be used after an event, and one call is refused. -/
def askedAgain : List FilterAct :=
  asked ++ [.observe (.structured (appEvent "1.0.0")), .onEvents 1 1 (.replace 0 ofApp), .onEvents 1 2 (.remove 1)]

theorem follows_askedAgain :
    (∀ act ∈ askedAgain, act.Proper .standard) ∧
      (askedAgain.foldl FilterAct.perform manned).Follows (askedAgain.foldl (FilterAct.apply .standard) {}) := by
  have hacts : ∀ act ∈ askedAgain, act.Proper .standard := by
    rw [askedAgain, List.forall_mem_append]
    refine ⟨asked_proper, ?_⟩
    simp only [List.forall_mem_cons, List.not_mem_nil, false_implies, implies_true, and_true]
    exact ⟨trivial, typed_ofApp, trivial⟩
  exact ⟨hacts, follows_of_acts manned_keeps hacts⟩

theorem events_asked : (asked.foldl (FilterAct.apply .standard) {}).events =
    FilterTable.set 1 2 [ofApp] (FilterTable.set 1 1 [fromFirst] fun _ _ => none) := rfl

theorem listed_asked : (asked.foldl (FilterAct.apply .standard) {}).events.InOrder [1]
    [⟨1, 1, [fromFirst]⟩, ⟨1, 2, [ofApp]⟩] := by
  have hentries : ([(1, [fromFirst]), (2, [ofApp])] : List (Int × List StructuredFilter)).Pairwise (·.1 < ·.1) := by
    simp
  refine .cons hentries (fun chat filters => ?_) .nil
  by_cases hsecond : chat = 2
  · rw [hsecond, events_asked, FilterTable.set_self]
    simp [eq_comm]
  · rw [events_asked, FilterTable.set_of_ne fun hsame => hsecond hsame.2]
    by_cases hfirst : chat = 1
    · rw [hfirst, FilterTable.set_self]
      simp [eq_comm]
    · rw [FilterTable.set_of_ne fun hsame => hfirst hsame.2]
      simp [hsecond, hfirst]

theorem silent_behind_long_version :
    let h := asked.foldl FilterAct.perform manned
    let entry := appEvent (String.ofList (List.replicate 4301 '1'))
    (asked.foldl (FilterAct.apply .standard) {}).events 1 2 = some [ofApp] ∧ ofApp.Meets .standard entry ∧
      ∃ cause, h.observe (.structured entry) =
        (some cause, { h with structuredLogs := h.structuredLogs.counted [] }) := by
  intro h entry
  have hunreadable : Version.parse entry.version = .error (.tooLong 4301) := by
    have hdigits : ∀ c ∈ List.replicate 4301 '1', Version.isDigit c := by
      intro c hc
      rw [List.eq_of_mem_replicate hc]
      rfl
    have hparse := Version.parse_digits_of_long hdigits (by rw [List.length_replicate]; decide)
    rw [List.length_replicate] at hparse
    exact hparse
  have hfails : VersionScheme.standard.Fails ">=1" entry.version := by
    refine ⟨.badInteger (.tooLong 4301), Or.inl ?_⟩
    simp only [VersionScheme.standard, Version.read, hunreadable]
    rfl
  have hstumbles : (⟨1, 1, [fromFirst]⟩ : Listed StructuredFilter).Stumbles (LogKind.eventMeaning .standard) entry :=
    ⟨fromFirst, List.mem_singleton.mpr rfl, by simp [fromFirst], LogFilter.holds_null, LogFilter.holds_null,
      LogFilter.holds_null, _, rfl, hfails⟩
  obtain ⟨ls, fault, spawns, hinOrder, hserved, hobserve⟩ := (manned_keeps.run asked_proper).observe_structured entry
  rw [hinOrder.unique listed_asked] at hserved
  obtain ⟨⟨cause, rfl⟩, rfl⟩ := hserved.eq_nil hstumbles
  have hlist : (asked.foldl (FilterAct.apply .standard) {}).events 1 2 = some [ofApp] := by
    rw [events_asked]
    exact FilterTable.set_self _ _ _ _
  have hmeets : ofApp.Meets .standard entry :=
    ⟨by simp [ofApp], LogFilter.holds_str.mpr rfl, LogFilter.holds_null, LogFilter.holds_null, by simp [ofApp],
      LogFilter.holds_null⟩
  exact ⟨hlist, hmeets, cause, hobserve⟩

end Hub

end ChainAlerts
