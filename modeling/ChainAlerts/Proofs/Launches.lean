import ChainAlerts.Proofs.BotIsolation
import ChainAlerts.Proofs.FailingWrites

/-! The launch of a token. Every chat that followed the auction follows the token with the settings it had, and is
told so if it is enabled; nothing else changes, and the same launch a second time changes nothing at all. This holds
for each bot whose records can be read, whatever the other bots are. -/

namespace ChainAlerts

namespace Assoc

variable {κ ν : Type} [DecidableEq κ] {key : κ} {value : ν} {table : List (κ × ν)}

theorem keys_put_of_mem (value : ν) (h : key ∈ keys table) : keys (put key value table) = keys table := by
  induction table with
  | nil => cases h
  | cons entry rest ih =>
      rw [put]
      split
      next heq => exact congrArg (· :: keys rest) heq.symm
      next hne =>
        have hrest : key ∈ keys rest := (List.mem_cons.mp h).resolve_left fun heq => hne heq.symm
        exact congrArg (entry.1 :: ·) (ih hrest)

end Assoc

namespace Subscriptions

open Store

variable {bot chat : Int} {source target : Token} {db db' : Database} {shelf : Shelf} {s : Subscriber}

theorem recordOf_own (h : db'.own bot = db.own bot) (chat : Int) : recordOf bot chat db' = recordOf bot chat db :=
  congrArg ((store bot).record? chat) (Database.get_congr h _ chat)

theorem rows_own (h : db'.own bot = db.own bot) : rows bot db' = rows bot db := Database.records_congr h _

theorem followers_own (h : db'.own bot = db.own bot) (token : Token) :
    followers bot db' token = followers bot db token := by
  rw [followers, followers, rows_own h]

theorem Sound.own (h : Sound bot db) (hown : db'.own bot = db.own bot) : Sound bot db' where
  serves := ⟨(congrArg OwnRows.failure hown).trans h.serves.works,
    (congrArg OwnRows.hasSchema hown).trans h.serves.hasTable, h.serves.bot_fits⟩
  ascending := rows_own hown ▸ h.ascending
  fits := rows_own hown ▸ h.fits
  wellFormed := rows_own hown ▸ h.wellFormed

/-- A move in a store that does not fail. -/
theorem Sound.migrate_alone (h : Sound bot shelf.database) (htarget : Token.parse target.key = .ok target)
    (hne : source ≠ target) :
    ∃ after, Moves bot source target (followers bot shelf.database source) shelf.database after.database ∧
      Exact bot after ∧
      (store bot).runAlone (migrate bot source target) shelf =
        (.ok (followersEnabled source bot shelf.database), after) := by
  obtain ⟨after, hmoves, hexact, hwhole⟩ := h.migrate_whole htarget hne ""
  have hrun := hwhole none (by simp)
  refine ⟨after, hmoves, hexact, ?_⟩
  rw [runBut, run_answerBut_none] at hrun
  obtain ⟨hresult, hafter⟩ := Prod.mk.inj hrun
  exact Prod.ext hresult (Prod.mk.inj hafter).2

/-- A move that finds nobody only makes the index afresh. -/
theorem Sound.migrate_nobody (h : Sound bot shelf.database) (target : Token)
    (hnobody : followers bot shelf.database source = []) :
    ∃ index, (store bot).runAlone (migrate bot source target) shelf = (.ok [], { shelf with index }) := by
  obtain ⟨entries, hrebuild, -⟩ := h.run_rebuild
  have hmigrate := h.runBut_migrate "" source target none
  rw [runBut, runBut, run_answerBut_none, run_answerBut_none, hnobody] at hmigrate
  rw [runAlone] at hrebuild
  refine ⟨shelf.index.renew entries, ?_⟩
  have hrest : ((migrateEach bot source target [] []).ifOk fun moved =>
      (rebuild bot).ifOk fun _ => .done (.ok moved)).run (answer (store bot).codec.collection (store bot).bot) shelf =
        (.ok [], { shelf with index := shelf.index.renew entries }) := by
    rw [migrateEach, Task.run_ifOk, Task.run_done]
    simp only
    rw [Task.run_ifOk, hrebuild]
    rfl
  rw [hrest] at hmigrate
  obtain ⟨hresult, hafter⟩ := Prod.mk.inj hmigrate
  exact Prod.ext hresult (Prod.mk.inj hafter).2

/-- What became of a bot's records when everyone who followed one token was moved to another. -/
structure Relabeled (bot : Int) (source target : Token) (db db' : Database) : Prop where
  gone : ∀ chat s, recordOf bot chat db' = .ok (some s) → s.follows source = false
  moved : ∀ chat s, recordOf bot chat db = .ok (some s) → s.follows source →
    ∃ s', recordOf bot chat db' = .ok (some s') ∧ Relabels source target s s'
  kept : ∀ chat, (∀ s, recordOf bot chat db = .ok (some s) → s.follows source = false) →
    Records.get? chat (rows bot db') = Records.get? chat (rows bot db)
  elsewhere : ∀ collection, collection ≠ Subscriber.codec.collection →
    db'.records collection bot = db.records collection bot

theorem Relabeled.own {db'' : Database} (h : Relabeled bot source target db db') (hown : db''.own bot = db'.own bot) :
    Relabeled bot source target db db'' where
  gone := by simpa only [recordOf_own hown] using h.gone
  moved := by simpa only [recordOf_own hown] using h.moved
  kept := by simpa only [rows_own hown] using h.kept
  elsewhere := fun collection hne => (Database.records_congr hown collection).trans (h.elsewhere collection hne)

section

variable (h : Sound bot db)
  (hmoves : Moves bot source target (followers bot db source) db db')

include h

include hmoves

/-- A record after the move is a moved one, or one that did not follow the first token and was kept. -/
theorem Moves.record_cases (hrecord : recordOf bot chat db' = .ok (some s)) :
    (∃ old, recordOf bot chat db = .ok (some old) ∧ old.WellFormed ∧ old.follows source ∧
      s = (moveSettings source target old).1) ∨
    recordOf bot chat db = .ok (some s) ∧ s.follows source = false := by
  by_cases hchat : chat ∈ followers bot db source
  · obtain ⟨old, hold, hfollows⟩ := (h.mem_followers source chat).mp hchat
    obtain ⟨-, -, -, -, hwell⟩ := h.row_of_record hold
    have hmoved := hmoves.moved chat hchat old hold
    rw [hrecord] at hmoved
    exact Or.inl ⟨old, hold, hwell, hfollows, Option.some.inj (Except.ok.inj hmoved)⟩
  · rw [hmoves.record_kept h hchat] at hrecord
    refine Or.inr ⟨hrecord, Bool.eq_false_iff.mpr fun hfollows => hchat ?_⟩
    exact (h.mem_followers source chat).mpr ⟨s, hrecord, hfollows⟩

theorem Moves.relabeled (hne : source ≠ target) : Relabeled bot source target db db' where
  gone := by
    intro chat s hrecord
    obtain ⟨old, -, hwell, hfollows, rfl⟩ | ⟨-, hnot⟩ := hmoves.record_cases h hrecord
    · exact (relabels_moveSettings hne hwell hfollows).gone
    · exact hnot
  moved := by
    intro chat s hrecord hfollows
    obtain ⟨-, -, -, -, hwell⟩ := h.row_of_record hrecord
    have hchat := (h.mem_followers source chat).mpr ⟨s, hrecord, hfollows⟩
    exact ⟨_, hmoves.moved chat hchat s hrecord, relabels_moveSettings hne hwell hfollows⟩
  kept := by
    intro chat hnot
    apply hmoves.kept
    intro hchat
    obtain ⟨s, hrecord, hfollows⟩ := (h.mem_followers source chat).mp hchat
    rw [hnot s hrecord] at hfollows
    cases hfollows
  elsewhere := by
    intro collection hcollection
    exact hmoves.elsewhere collection bot fun heq => hcollection (congrArg Prod.fst heq)

/-- Nobody follows the first token after the move. -/
theorem Moves.followers_eq_nil (hne : source ≠ target) : followers bot db' source = [] := by
  apply List.eq_nil_iff_forall_not_mem.mpr
  intro chat hchat
  obtain ⟨s, hrecord, hfollows⟩ := (hmoves.sound.mem_followers source chat).mp hchat
  rw [(hmoves.relabeled h hne).gone chat s hrecord] at hfollows
  cases hfollows

/-- Those who follow the second token after the move are those who followed either. -/
theorem Moves.mem_followers :
    chat ∈ followers bot db' target ↔
      ∃ s, recordOf bot chat db = .ok (some s) ∧ (s.follows source ∨ s.follows target) := by
  rw [hmoves.sound.mem_followers]
  constructor
  · rintro ⟨s, hrecord, hfollows⟩
    obtain ⟨old, hold, -, hsource, -⟩ | ⟨hold, -⟩ := hmoves.record_cases h hrecord
    · exact ⟨old, hold, Or.inl hsource⟩
    · exact ⟨s, hold, Or.inr hfollows⟩
  · rintro ⟨s, hrecord, heither⟩
    by_cases hsource : s.follows source
    · have hchat := (h.mem_followers source chat).mpr ⟨s, hrecord, hsource⟩
      refine ⟨_, hmoves.moved chat hchat s hrecord, ?_⟩
      rw [follows_moveSettings hsource]
      simp
    · refine ⟨s, ?_, heither.resolve_left hsource⟩
      rw [hmoves.record_kept h, hrecord]
      intro hchat
      obtain ⟨other, hother, hfollows⟩ := (h.mem_followers source chat).mp hchat
      rw [hrecord] at hother
      obtain rfl := Option.some.inj (Except.ok.inj hother)
      exact hsource hfollows

end

end Subscriptions

namespace TradeAlerts

open Subscriptions

variable {auction : Int} {account : String} {entry : Int × TradeBot} {r r' : Round}

/-- What of a round concerns a bot: its rows, the deliveries started for it, and its index. -/
def Round.seat (bot : Int) (r : Round) : (OwnRows × List Spawn) × Option TradeBot :=
  (r.own bot, Assoc.get? bot r.alerts.bots)

theorem bots_launchTurn (auction : Int) (account : String) (entry : Int × TradeBot) (r : Round) :
    (launchTurn auction account entry r).2.alerts.bots =
      Assoc.put entry.1 { entry.2 with index := (move auction account entry r.database).2.index } r.alerts.bots := by
  unfold launchTurn launchFor
  rw [← move]
  generalize move auction account entry r.database = moving
  obtain ⟨result, shelf⟩ := moving
  cases result with
  | ok moved => rfl
  | error e =>
      cases e with
      | store cause => cases cause <;> rfl
      | _ => rfl

/-- The move of one bot's subscriptions is about the bot's own rows and index. -/
theorem keepApart_launchTurn_seat : KeepApart (·.1) (launchTurn auction account) Round.seat := by
  refine ⟨fun entry r bot hne => ?_, fun entry r r' hsame => ?_⟩
  · apply Prod.ext
    · exact keepApart_launchTurn.others entry r bot hne
    · show Assoc.get? bot (launchTurn auction account entry r).2.alerts.bots = Assoc.get? bot r.alerts.bots
      rw [bots_launchTurn, Assoc.get?_put_of_ne hne.symm]
  · obtain ⟨hown, -⟩ := Prod.mk.inj hsame
    obtain ⟨hfault, hafter⟩ := keepApart_launchTurn.same entry r r' hown
    refine ⟨hfault, Prod.ext hafter ?_⟩
    show Assoc.get? entry.1 (launchTurn auction account entry r).2.alerts.bots =
      Assoc.get? entry.1 (launchTurn auction account entry r').2.alerts.bots
    have hmove : (move auction account entry r.database).2.own entry.1 =
        (move auction account entry r'.database).2.own entry.1 := by
      refine (Store.run_congr ?_ _).2
      obtain ⟨hrows, -⟩ := Prod.mk.inj hown
      exact Prod.ext hrows rfl
    have hindex : (move auction account entry r.database).2.index = (move auction account entry r'.database).2.index :=
      congrArg Prod.snd hmove
    rw [bots_launchTurn, bots_launchTurn, Assoc.get?_put_self, Assoc.get?_put_self, hindex]

section

variable (sources : Sources) (auction : Int) (account transaction : String) (nanoseconds : Int)

/-- A launch is handled in turns of the bots; what a bot's turn does to the bot is all that is done to it. -/
theorem handle_launch (hbots : (Assoc.keys r.alerts.bots).Nodup) :
    let after := handle sources (.auction (.launch auction account transaction nanoseconds)) r
    (after.1 = .ok () ↔ ∀ entry ∈ r.alerts.bots, (launchTurn auction account entry r).1 = none) ∧
      Assoc.keys after.2.alerts.bots = Assoc.keys r.alerts.bots ∧
      (after.1 = .ok () → ∀ entry ∈ r.alerts.bots,
        after.2.seat entry.1 = (launchTurn auction account entry r).2.seat entry.1) := by
  intro after
  let begun : Round :=
    { r with alerts := { r.alerts with events := r.alerts.events + 1, launches := r.alerts.launches + 1 } }
  have hturns : (after.1 = .ok () ↔ (takeTurns (launchTurn auction account) r.alerts.bots begun).1 = none) ∧
      after.2 = (takeTurns (launchTurn auction account) r.alerts.bots begun).2 := takeTurns_launchTurn _ _
  have hbegun : ∀ entry : Int × TradeBot, (launchTurn auction account entry begun).1 =
      (launchTurn auction account entry r).1 ∧ (launchTurn auction account entry begun).2.seat entry.1 =
        (launchTurn auction account entry r).2.seat entry.1 := fun entry =>
    keepApart_launchTurn_seat.same entry begun r rfl
  have hok : after.1 = .ok () ↔ ∀ entry ∈ r.alerts.bots, (launchTurn auction account entry r).1 = none := by
    rw [hturns.1, keepApart_launchTurn_seat.none_iff hbots]
    exact forall₂_congr fun entry _ => by rw [(hbegun entry).1]
  refine ⟨hok, ?_, fun hafter entry hentry => ?_⟩
  · rw [hturns.2]
    refine takeTurns_induction (P := fun s : Round => Assoc.keys s.alerts.bots = Assoc.keys r.alerts.bots) ?_ rfl
    intro entry hentry s hkeys
    have hkey : entry.1 ∈ Assoc.keys s.alerts.bots := hkeys ▸ List.mem_map_of_mem hentry
    rw [bots_launchTurn, Assoc.keys_put_of_mem _ hkey, hkeys]
  · obtain ⟨before, later, hsplit⟩ := List.append_of_mem hentry
    have hbefore : ∀ other ∈ before, (launchTurn auction account other begun).1 = none := by
      intro other hother
      rw [(hbegun other).1]
      exact hok.mp hafter other (hsplit ▸ List.mem_append_left _ hother)
    rw [hturns.2, hsplit, ← (hbegun entry).2]
    exact keepApart_launchTurn_seat.own_of_reached (hsplit ▸ hbots) hbefore

end

/-- What the handling of a launch did for a bot. Everyone who followed the auction was moved to the token, in
ascending order of the chats, and the enabled ones were told; nothing else of the bot changed but its index. -/
structure Launched (auction : Int) (account : String) (entry : Int × TradeBot) (r r' : Round) : Prop where
  relabeled : Relabeled entry.1 (.prelaunch auction) (.fungible account) r.database r'.database
  announced : ∃ moved : List (Int × Bool),
    (perform (Subscriptions.migrate · (.prelaunch auction) (.fungible account)) entry.1
      { database := r.database, index := entry.2.index }).1 = .ok moved ∧
    (moved.map (·.1)).Pairwise (· < ·) ∧
    (∀ chat enabled, (chat, enabled) ∈ moved ↔ ∃ s, recordOf entry.1 chat r.database = .ok (some s) ∧
      s.follows (.prelaunch auction) ∧ s.enabled = enabled) ∧
    r'.spawns.filter (·.bot = entry.1) = r.spawns.filter (·.bot = entry.1) ++
      (moved.filter (·.2)).map fun chat => ⟨entry.1, chat.1, .ready (launchNotification chat.1 auction account)⟩
  index : ∃ b, Assoc.get? entry.1 r'.alerts.bots = some b ∧ b.index.lookup (.prelaunch auction) = [] ∧
    (b.index.lookup (.fungible account)).Pairwise (· < ·) ∧
    ∀ chat, chat ∈ b.index.lookup (.fungible account) ↔ ∃ s, recordOf entry.1 chat r.database = .ok (some s) ∧
      (s.follows (.prelaunch auction) ∨ s.follows (.fungible account))

theorem Launched.seat {r'' : Round} (h : Launched auction account entry r r')
    (hseat : r''.seat entry.1 = r'.seat entry.1) : Launched auction account entry r r'' := by
  obtain ⟨hown, hbot⟩ := Prod.mk.inj hseat
  obtain ⟨hrows, hspawns⟩ := Prod.mk.inj hown
  refine ⟨h.relabeled.own hrows, ?_, ?_⟩
  · rw [hspawns]
    exact h.announced
  · rw [hbot]
    exact h.index

/-- A bot's turn in a launch, if its records can be read. -/
theorem launchTurn_whole (auction : Int) (h : Sound entry.1 r.database)
    (haccount : Token.parse (Token.fungible account).key = .ok (.fungible account)) :
    (launchTurn auction account entry r).1 = none ∧
      Sound entry.1 (launchTurn auction account entry r).2.database ∧
      followers entry.1 (launchTurn auction account entry r).2.database (.prelaunch auction) = [] ∧
      Launched auction account entry r (launchTurn auction account entry r).2 := by
  have hne : Token.prelaunch auction ≠ Token.fungible account := nofun
  let shelf : Store.Shelf := { database := r.database, index := entry.2.index }
  have hshelf : Sound entry.1 shelf.database := h
  obtain ⟨after, hmoves, hexact, hrun⟩ := hshelf.migrate_alone haccount hne
  have hmove : move auction account entry r.database = (.ok _, after) := hrun
  obtain ⟨hfault, hdatabase, hspawns⟩ := launchTurn_eq auction account entry r
  rw [hmove] at hfault hdatabase hspawns
  refine ⟨hfault, ?_, ?_, ?_, ⟨_, congrArg Prod.fst hmove, h.ascending_followersEnabled _,
    fun chat enabled => h.mem_followersEnabled, ?_⟩, ?_⟩
  · rw [hdatabase]
    exact hmoves.sound
  · rw [hdatabase]
    exact hmoves.followers_eq_nil h hne
  · rw [hdatabase]
    exact hmoves.relabeled h hne
  · rw [hspawns, List.filter_append]
    congr 1
    apply List.filter_eq_self.mpr
    intro spawn hspawn
    exact decide_eq_true (bot_of_announced hspawn)
  · refine ⟨{ entry.2 with index := after.index }, ?_, ?_, ?_, fun chat => ?_⟩
    · rw [bots_launchTurn, hmove, Assoc.get?_put_self]
    · exact (hexact _).trans (hmoves.followers_eq_nil h hne)
    · rw [hexact]
      exact hmoves.sound.ascending.chatsWith _
    · rw [hexact]
      exact hmoves.mem_followers h

/-- A bot's turn in a launch by which nobody is to be moved. -/
theorem launchTurn_again (account : String) (entry : Int × TradeBot) (h : Sound entry.1 r.database)
    (hnobody : followers entry.1 r.database (.prelaunch auction) = []) :
    (launchTurn auction account entry r).1 = none ∧
      (launchTurn auction account entry r).2.own entry.1 = r.own entry.1 := by
  let shelf : Store.Shelf := { database := r.database, index := entry.2.index }
  have hshelf : Sound entry.1 shelf.database := h
  obtain ⟨index, hrun⟩ := hshelf.migrate_nobody (.fungible account) hnobody
  have hmove : move auction account entry r.database = (.ok [], { shelf with index }) := hrun
  obtain ⟨hfault, hdatabase, hspawns⟩ := launchTurn_eq auction account entry r
  rw [hmove] at hfault hdatabase hspawns
  refine ⟨hfault, ?_⟩
  rw [Round.own, Round.own, hdatabase, hspawns]
  simp [announced, launchSpawns, shelf]

/-- A launch moves everyone who follows its auction to the token, whatever the bots are, and a second one of the same
token finds nobody. Neither fails if the records of all bots can be read; and for a bot whose records can be read, what
a launch that does not fail does is said in full. -/
theorem launch_moves_followers (sources sources' : Sources) (auction : Int) (account transaction : String)
    (nanoseconds : Int) (r : Round) (hbots : (Assoc.keys r.alerts.bots).Nodup)
    (haccount : Token.parse (Token.fungible account).key = .ok (.fungible account)) :
    let launch : TradeEvent := .auction (.launch auction account transaction nanoseconds)
    let first := handle sources launch r
    let again := handle sources' launch first.2
    ((∀ entry ∈ r.alerts.bots, Readable entry.1 r.database) → first.1 = .ok () ∧ again.1 = .ok ()) ∧
      ∀ entry ∈ r.alerts.bots, Readable entry.1 r.database →
        (first.1 = .ok () → Launched auction account entry r first.2) ∧
        (first.1 = .ok () → again.1 = .ok () → again.2.own entry.1 = first.2.own entry.1) := by
  intro launch first again
  obtain ⟨hfirst, hkeys, hfirstSeat⟩ := handle_launch sources auction account transaction nanoseconds hbots
  obtain ⟨hagain, -, hagainSeat⟩ :=
    handle_launch sources' auction account transaction nanoseconds (r := first.2) (hkeys ▸ hbots)
  have hlaunched : ∀ entry ∈ r.alerts.bots, Readable entry.1 r.database → first.1 = .ok () →
      Launched auction account entry r first.2 := by
    intro entry hentry hreadable hok
    obtain ⟨-, -, -, hlaunched⟩ := launchTurn_whole auction hreadable.sound haccount
    exact hlaunched.seat (hfirstSeat hok entry hentry)
  have hidle : ∀ entry ∈ r.alerts.bots, Readable entry.1 r.database → first.1 = .ok () → ∀ b,
      (launchTurn auction account (entry.1, b) first.2).1 = none ∧
        (launchTurn auction account (entry.1, b) first.2).2.own entry.1 = first.2.own entry.1 := by
    intro entry hentry hreadable hok b
    obtain ⟨-, hsound, hnobody, -⟩ := launchTurn_whole auction hreadable.sound haccount
    have hrows := congrArg (·.1.1) (hfirstSeat hok entry hentry)
    have hnobody' := (followers_own hrows (.prelaunch auction)).trans hnobody
    exact launchTurn_again account (entry.1, b) (hsound.own hrows) hnobody'
  refine ⟨fun hall => ?_, fun entry hentry hreadable => ⟨hlaunched entry hentry hreadable, fun hok hokAgain => ?_⟩⟩
  · have hok : first.1 = .ok () :=
      hfirst.mpr fun entry hentry => (launchTurn_whole auction (hall entry hentry).sound haccount).1
    refine ⟨hok, hagain.mpr fun after hafter => ?_⟩
    have hkey : after.1 ∈ Assoc.keys r.alerts.bots := hkeys ▸ List.mem_map_of_mem hafter
    obtain ⟨entry, hentry, hsame⟩ := List.mem_map.mp hkey
    have hnone := (hidle entry hentry (hall entry hentry) hok after.2).1
    rw [hsame] at hnone
    exact hnone
  · obtain ⟨b, hb, -⟩ := (hlaunched entry hentry hreadable hok).index
    have hseat := hagainSeat hokAgain (entry.1, b) (Assoc.mem_of_get? hb)
    exact (congrArg Prod.fst hseat).trans (hidle entry hentry hreadable hok b).2

/-- The records of chats that follow an auction beside another token, while disabled, and after the token that is
launched, and of one that follows only the token. -/
def auctionFollowers : List (Int × Subscriber) := [
  (-4, { tokens := [(.fungible "a.near", {}), (.prelaunch 7, { minAmount := .token 10 })] }),
  (3, { enabled := false, tokens := [(.prelaunch 7, { sells := true }), (.prelaunch 8, {})] }),
  (5, { tokens := [(.fungible "launched.near", { minAmount := .token 2 }), (.prelaunch 7, { lpAdd := true })] }),
  (9, { tokens := [(.fungible "launched.near", {})] })]

/-- Two bots that both have these chats. -/
def beforeLaunch : Round :=
  let rows : Records := auctionFollowers.map fun record => (record.1, record.2.toJson)
  let b : TradeBot := { index := { entries := SubscriberIndex.ofRecords auctionFollowers } }
  { database := { tables := [(("buybot", 1), rows), (("buybot", 2), rows)] }, net := {}
    alerts := { bots := [(1, b), (2, b)] } }

/-- That the records of a bot can be read can be seen by reading them. -/
theorem readable_of_reads {bot : Int} {db : Database} (hserves : db.Serves bot)
    (hascending : (rows bot db).Pairwise (·.1 < ·.1))
    (hrows : ∀ row ∈ rows bot db,
      Database.fits row.1 ∧ row.2.isDocument ∧ (Subscriber.ofJson row.2).toOption.isSome) : Readable bot db := by
  refine ⟨hserves, hascending, fun row hrow => (hrows row hrow).1, fun row hrow => ?_⟩
  obtain ⟨-, hdocument, hread⟩ := hrows row hrow
  cases hs : Subscriber.ofJson row.2 with
  | ok s => exact ⟨hdocument, s, rfl⟩
  | error f =>
      rw [hs] at hread
      cases hread

theorem readable_beforeLaunch : ∀ entry ∈ beforeLaunch.alerts.bots, Readable entry.1 beforeLaunch.database := by
  have hbots : ∀ entry ∈ beforeLaunch.alerts.bots,
      Database.fits entry.1 ∧ (rows entry.1 beforeLaunch.database).Pairwise (·.1 < ·.1) ∧
        ∀ row ∈ rows entry.1 beforeLaunch.database,
          Database.fits row.1 ∧ row.2.isDocument ∧ (Subscriber.ofJson row.2).toOption.isSome := by
    decide +kernel
  intro entry hentry
  obtain ⟨hfits, hascending, hrows⟩ := hbots entry hentry
  exact readable_of_reads ⟨rfl, rfl, hfits⟩ hascending hrows

theorem launch_moves_followers_mixed :
    let sources : Sources := { oracle := {}, prices := [], routes := {} }
    let launch : TradeEvent := .auction (.launch 7 "launched.near" "tx" 1)
    let first := handle sources launch beforeLaunch
    let again := handle sources launch first.2
    first.1 = .ok () ∧ again.1 = .ok () ∧
      first.2.spawns.map (fun spawn => (spawn.bot, spawn.chat)) = [(1, -4), (1, 5), (2, -4), (2, 5)] ∧
      ∀ entry ∈ beforeLaunch.alerts.bots, Launched 7 "launched.near" entry beforeLaunch first.2 ∧
        again.2.own entry.1 = first.2.own entry.1 := by
  intro sources launch first again
  have hbots : (Assoc.keys beforeLaunch.alerts.bots).Nodup := by decide
  have haccount : Token.parse (Token.fungible "launched.near").key = .ok (.fungible "launched.near") :=
    Token.parse_key (by decide) rfl
  obtain ⟨hok, hbot⟩ := launch_moves_followers sources sources 7 "launched.near" "tx" 1 beforeLaunch hbots haccount
  obtain ⟨hfirst, hagain⟩ := hok readable_beforeLaunch
  have hspawns : first.2.spawns.map (fun spawn => (spawn.bot, spawn.chat)) = [(1, -4), (1, 5), (2, -4), (2, 5)] := by
    decide +kernel
  refine ⟨hfirst, hagain, hspawns, fun entry hentry => ?_⟩
  obtain ⟨hlaunched, hidle⟩ := hbot entry hentry (readable_beforeLaunch entry hentry)
  exact ⟨hlaunched hfirst, hidle hfirst hagain⟩

end TradeAlerts

end ChainAlerts
