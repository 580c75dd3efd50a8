import ChainAlerts.Proofs.Launches

/-! A launch during which one write of the store fails. The bot whose write it is stops there: the chats before it are
moved, but its index is not made afresh and nobody of it is told. To every other bot the launch does what it does when
nothing fails. So the launch loses nobody exactly if no write fails, or if all whom the bot had moved were found under
the token before and are disabled. -/

namespace ChainAlerts

namespace Subscriptions

variable {bot other : Int} {source target : Token} {chats : List Int} {db db' : Database}

/-- A move of a bot's chats does not concern another bot. -/
theorem Moves.own_of_ne (h : Sound bot db) (hmoves : Moves bot source target chats db db') (hne : bot ≠ other) :
    db'.own other = db.own other := by
  have hrows : ∀ collection, db'.records collection other = db.records collection other :=
    fun collection => hmoves.elsewhere collection other fun heq => hne (congrArg Prod.snd heq).symm
  simp only [Database.own, hrows, h.serves.works, hmoves.sound.serves.works, h.serves.hasTable,
    hmoves.sound.serves.hasTable]

end Subscriptions

namespace TradeAlerts

open Subscriptions

variable {auction : Int} {account : String} (text : String) {entry : Int × TradeBot} {due : Option Nat} {r r' : Round}
  {chats : List Int}

/-- What a bot's turn in a launch comes to after its move. -/
def concludeTurn (auction : Int) (account : String) (entry : Int × TradeBot)
    (moving : Except SubscriptionError (List (Int × Bool)) × Store.Shelf) (r : Round) : Option Fault × Round :=
  let (result, shelf) := moving
  let r := { r with
    database := shelf.database
    alerts := { r.alerts with bots := Assoc.put entry.1 { entry.2 with index := shelf.index } r.alerts.bots } }
  match result with
  | .ok moved => (none, { r with spawns := r.spawns ++ launchSpawns entry.1 auction account moved })
  | .error (.store (.fault f)) | .error (.settings f) => (some f, r)
  | .error _ => (none, { r with alerts := { r.alerts with botErrors := r.alerts.botErrors + 1 } })

theorem launchTurn_eq_conclude (auction : Int) (account : String) (entry : Int × TradeBot) (r : Round) :
    launchTurn auction account entry r =
      concludeTurn auction account entry (move auction account entry r.database) r := by
  unfold launchTurn launchFor
  rw [← move]
  generalize move auction account entry r.database = moving
  obtain ⟨result, shelf⟩ := moving
  cases result with
  | ok moved => rfl
  | error e =>
      cases e with
      | store cause => cases cause <;> rfl
      | _ => rfl

/-- A bot's turn in a launch, in a store of which one write may fail. -/
def launchTurnBut (text : String) (auction : Int) (account : String) (entry : Int × TradeBot)
    (s : Option Nat × Round) : Option Fault × Option Nat × Round :=
  let (due, r) := s
  let (result, due, shelf) := runBut text entry.1 (migrate entry.1 (.prelaunch auction) (.fungible account)) due
    { database := r.database, index := entry.2.index }
  let (fault, r) := concludeTurn auction account entry (result, shelf) r
  (fault, due, r)

/-- Handles the launch of a token for all bots, in a store of which one write may fail. -/
def launchBut (text : String) (due : Option Nat) (auction : Int) (account : String) (r : Round) :
    Option Fault × Option Nat × Round :=
  takeTurns (launchTurnBut text auction account) r.alerts.bots
    (due, { r with alerts := { r.alerts with events := r.alerts.events + 1, launches := r.alerts.launches + 1 } })

theorem launchTurnBut_none (auction : Int) (account : String) (entry : Int × TradeBot) (r : Round) :
    launchTurnBut text auction account entry (none, r) =
      Prod.map id (Prod.mk none) (launchTurn auction account entry r) := by
  rw [launchTurnBut, runBut, Store.run_answerBut_none, launchTurn_eq_conclude]
  rfl

theorem takeTurns_launchTurnBut_none (bots : List (Int × TradeBot)) (r : Round) :
    takeTurns (launchTurnBut text auction account) bots (none, r) =
      Prod.map id (Prod.mk none) (takeTurns (launchTurn auction account) bots r) := by
  induction bots generalizing r with
  | nil => rfl
  | cons entry rest ih =>
      rw [takeTurns, takeTurns, launchTurnBut_none]
      generalize launchTurn auction account entry r = outcome
      obtain ⟨fault, after⟩ := outcome
      cases fault with
      | none => exact ih after
      | some f => rfl

/-- If no write is to fail, this is the handling of the launch. -/
theorem launchBut_none (sources : Sources) (transaction : String) (nanoseconds : Int) (r : Round) :
    let after := handle sources (.auction (.launch auction account transaction nanoseconds)) r
    (after.1 = .ok () ↔ (launchBut text none auction account r).1 = none) ∧
      after.2 = (launchBut text none auction account r).2.2 := by
  rw [launchBut, takeTurns_launchTurnBut_none]
  exact takeTurns_launchTurn _ _

/-- How many writes are left before the one that fails, after some others. -/
def left (due : Option Nat) (writes : Nat) : Option Nat :=
  due.bind fun k => if writes ≤ k then some (k - writes) else none

theorem left_zero (due : Option Nat) : left due 0 = due := by
  cases due <;> rfl

theorem left_left (due : Option Nat) (writes more : Nat) : left (left due writes) more = left due (writes + more) := by
  cases due with
  | none => rfl
  | some k =>
      simp only [left, Option.bind_some]
      by_cases h : writes ≤ k
      · simp only [h, if_true, Option.bind_some]
        by_cases hmore : more ≤ k - writes
        · rw [if_pos hmore, if_pos (by omega), Nat.sub_sub]
        · rw [if_neg hmore, if_neg (by omega)]
      · rw [if_neg h, if_neg (by omega)]
        rfl

/-- The number of chats that a launch moves for some bots. -/
def movesOf (auction : Int) (db : Database) : List (Int × TradeBot) → Nat
  | [] => 0
  | entry :: rest => (followers entry.1 db (.prelaunch auction)).length + movesOf auction db rest

theorem movesOf_own {bots : List (Int × TradeBot)} {db db' : Database}
    (h : ∀ entry ∈ bots, db'.own entry.1 = db.own entry.1) : movesOf auction db' bots = movesOf auction db bots := by
  induction bots with
  | nil => rfl
  | cons entry rest ih =>
      rw [movesOf, movesOf, followers_own (h entry List.mem_cons_self),
        ih fun other hother => h other (List.mem_cons_of_mem entry hother)]

/-- A round in which a bot's move stopped on the way: what it wrote is stored, and the failure is counted. -/
def stopped (entry : Int × TradeBot) (database : Database) (r : Round) : Round :=
  { r with
    database
    alerts := { r.alerts with
      bots := Assoc.put entry.1 entry.2 r.alerts.bots
      botErrors := r.alerts.botErrors + 1 } }

section

variable (haccount : Token.parse (Token.fungible account).key = .ok (.fungible account))
  (h : Sound entry.1 r.database)

include haccount h

/-- A turn that ends before the write that fails is as if none failed. -/
theorem launchTurnBut_whole
    (hdue : ∀ k ∈ due, (followers entry.1 r.database (.prelaunch auction)).length ≤ k) :
    launchTurnBut text auction account entry (due, r) =
      Prod.map id (Prod.mk (left due (followers entry.1 r.database (.prelaunch auction)).length))
        (launchTurn auction account entry r) := by
  have hne : Token.prelaunch auction ≠ Token.fungible account := nofun
  let shelf : Store.Shelf := { database := r.database, index := entry.2.index }
  have hshelf : Sound entry.1 shelf.database := h
  obtain ⟨after, -, -, hrun⟩ := hshelf.migrate_whole haccount hne text
  have halone := launchTurnBut_none text auction account entry r
  have hleft : due.map (· - (followers entry.1 r.database (.prelaunch auction)).length) =
      left due (followers entry.1 r.database (.prelaunch auction)).length := by
    cases due with
    | none => rfl
    | some k => simp [left, hdue k rfl]
  rw [launchTurnBut, hrun none (by simp)] at halone
  rw [launchTurnBut, hrun due hdue, ← hleft]
  obtain ⟨hfault, hafter⟩ := Prod.mk.inj halone
  exact Prod.ext hfault (congrArg (Prod.mk _) (Prod.mk.inj hafter).2)

/-- A turn in which a write fails moves the chats before it, and is counted as an error. -/
theorem launchTurnBut_cut {k : Nat} (hk : k < (followers entry.1 r.database (.prelaunch auction)).length) :
    ∃ database, Moves entry.1 (.prelaunch auction) (.fungible account)
        ((followers entry.1 r.database (.prelaunch auction)).take k) r.database database ∧
      launchTurnBut text auction account entry (some k, r) = (none, none, stopped entry database r) := by
  have hne : Token.prelaunch auction ≠ Token.fungible account := nofun
  let shelf : Store.Shelf := { database := r.database, index := entry.2.index }
  have hshelf : Sound entry.1 shelf.database := h
  obtain ⟨database, hmoves, hrun⟩ := hshelf.migrate_cut haccount hne text hk
  refine ⟨database, hmoves, ?_⟩
  rw [launchTurnBut, hrun]
  rfl

/-- A bot's turn does not fail, uses up as many writes as the bot has chats to move, and leaves the other bots alone. -/
theorem launchTurnBut_outcome (due : Option Nat) :
    ∃ after, launchTurnBut text auction account entry (due, r) =
        (none, left due (followers entry.1 r.database (.prelaunch auction)).length, after) ∧
      ∀ bot, entry.1 ≠ bot → after.seat bot = r.seat bot := by
  by_cases hdue : ∀ k ∈ due, (followers entry.1 r.database (.prelaunch auction)).length ≤ k
  · refine ⟨(launchTurn auction account entry r).2, ?_, fun bot hne => keepApart_launchTurn_seat.others entry r bot hne⟩
    rw [launchTurnBut_whole text haccount h hdue]
    exact Prod.ext (launchTurn_whole auction h haccount).1 rfl
  · obtain ⟨k, hk, hshort⟩ : ∃ k ∈ due, ¬ (followers entry.1 r.database (.prelaunch auction)).length ≤ k := by
      simpa using hdue
    obtain rfl : due = some k := hk
    obtain ⟨database, hmoves, hturn⟩ := launchTurnBut_cut text haccount h (Nat.lt_of_not_le hshort)
    have hleft : left (some k) (followers entry.1 r.database (.prelaunch auction)).length = none := if_neg hshort
    refine ⟨stopped entry database r, ?_, fun bot hne => ?_⟩
    · rw [hturn, hleft]
    · refine Prod.ext (Prod.ext (hmoves.own_of_ne h hne) rfl) ?_
      exact Assoc.get?_put_of_ne hne.symm _ _

end

/-- The turns of a launch one after the other. Each bot's is as if it were the first, but for the writes that the bots
before it used up. -/
theorem takeTurns_launchTurnBut (haccount : Token.parse (Token.fungible account).key = .ok (.fungible account))
    {bots : List (Int × TradeBot)} (hbots : (Assoc.keys bots).Nodup) {r : Round}
    (hsound : ∀ entry ∈ bots, Sound entry.1 r.database) (due : Option Nat) :
    ∃ due' after, takeTurns (launchTurnBut text auction account) bots (due, r) = (none, due', after) ∧
      (∀ bot ∉ Assoc.keys bots, after.seat bot = r.seat bot) ∧
      ∀ before entry rest, bots = before ++ entry :: rest → ∃ s : Round, s.seat entry.1 = r.seat entry.1 ∧
        after.seat entry.1 =
          (launchTurnBut text auction account entry
            (left due (movesOf auction r.database before), s)).2.2.seat entry.1 := by
  induction bots generalizing r due with
  | nil =>
      refine ⟨due, r, rfl, fun _ _ => rfl, fun before entry rest hsplit => ?_⟩
      simp at hsplit
  | cons first others ih =>
      obtain ⟨hfresh, hothers⟩ := List.nodup_cons.mp hbots
      obtain ⟨r₁, hturn, hapart⟩ :=
        launchTurnBut_outcome text haccount (hsound first List.mem_cons_self) due
      have hne : ∀ entry ∈ others, first.1 ≠ entry.1 := fun entry hentry heq =>
        hfresh (List.mem_map.mpr ⟨entry, hentry, heq.symm⟩)
      have hrows : ∀ entry ∈ others, r₁.database.own entry.1 = r.database.own entry.1 := fun entry hentry =>
        congrArg (·.1.1) (hapart entry.1 (hne entry hentry))
      obtain ⟨due', after, hround, houtside, hinside⟩ := ih hothers
        (fun entry hentry => (hsound entry (List.mem_cons_of_mem first hentry)).own (hrows entry hentry))
        (left due (followers first.1 r.database (.prelaunch auction)).length)
      refine ⟨due', after, ?_, fun bot hbot => ?_, fun before entry rest hsplit => ?_⟩
      · rw [takeTurns, hturn]
        exact hround
      · obtain ⟨hnotFirst, hnotOthers⟩ := not_or.mp fun hmem => hbot (List.mem_cons.mpr hmem)
        exact (houtside bot hnotOthers).trans (hapart bot fun heq => hnotFirst heq.symm)
      · cases before with
        | nil =>
            obtain ⟨rfl, rfl⟩ := List.cons.inj hsplit
            refine ⟨r, rfl, ?_⟩
            rw [houtside _ hfresh, movesOf, left_zero, hturn]
        | cons other before =>
            obtain ⟨rfl, rfl⟩ := List.cons.inj hsplit
            obtain ⟨s, hs, hseat⟩ := hinside before entry rest rfl
            have hentry : entry ∈ before ++ entry :: rest := by simp
            refine ⟨s, hs.trans (hapart entry.1 (hne entry hentry)), ?_⟩
            have hmoves : movesOf auction r₁.database before = movesOf auction r.database before :=
              movesOf_own fun earlier hearlier => hrows earlier (List.mem_append_left _ hearlier)
            rw [hseat, left_left, hmoves]
            rfl

/-- Nobody of a bot is lost in a launch: whoever was moved to the token is found under it, and was told if enabled. -/
def NobodyLost (auction : Int) (account : String) (bot : Int) (r r' : Round) : Prop :=
  ∀ chat s s', recordOf bot chat r.database = .ok (some s) → s.follows (.prelaunch auction) →
    recordOf bot chat r'.database = .ok (some s') → s'.follows (.prelaunch auction) = false →
    s'.follows (.fungible account) →
    (∃ b, Assoc.get? bot r'.alerts.bots = some b ∧ chat ∈ b.index.lookup (.fungible account)) ∧
      (s'.enabled → ⟨bot, chat, .ready (launchNotification chat auction account)⟩ ∈ r'.spawns)

/-- What the handling of a launch did for a bot whose move stopped after some chats. -/
structure CutShort (auction : Int) (account : String) (entry : Int × TradeBot) (chats : List Int) (r r' : Round) :
    Prop where
  moved : ∀ chat ∈ chats, ∃ s s', recordOf entry.1 chat r.database = .ok (some s) ∧ s.follows (.prelaunch auction) ∧
    recordOf entry.1 chat r'.database = .ok (some s') ∧ Relabels (.prelaunch auction) (.fungible account) s s'
  kept : ∀ chat ∉ chats, Records.get? chat (rows entry.1 r'.database) = Records.get? chat (rows entry.1 r.database)
  elsewhere : ∀ collection, collection ≠ Subscriber.codec.collection →
    r'.database.records collection entry.1 = r.database.records collection entry.1
  index : Assoc.get? entry.1 r'.alerts.bots = some entry.2
  untold : r'.spawns.filter (·.bot = entry.1) = r.spawns.filter (·.bot = entry.1)

theorem CutShort.seat {s s' : Round} (h : CutShort auction account entry chats s s')
    (hseat : s.seat entry.1 = r.seat entry.1) (hseat' : r'.seat entry.1 = s'.seat entry.1) :
    CutShort auction account entry chats r r' := by
  obtain ⟨hown, -⟩ := Prod.mk.inj hseat
  obtain ⟨hrows, hspawns⟩ := Prod.mk.inj hown
  obtain ⟨hown', hbot'⟩ := Prod.mk.inj hseat'
  obtain ⟨hrows', hspawns'⟩ := Prod.mk.inj hown'
  refine ⟨?_, ?_, fun collection hne => ?_, hbot'.trans h.index, ?_⟩
  · simpa only [recordOf_own hrows, recordOf_own hrows'] using h.moved
  · simpa only [rows_own hrows, rows_own hrows'] using h.kept
  · exact (Database.records_congr hrows' collection).trans
      ((h.elsewhere collection hne).trans (Database.records_congr hrows collection))
  · exact hspawns'.trans (h.untold.trans hspawns)

/-- A launch that a bot goes through to its end loses nobody of the bot. -/
theorem Launched.nobodyLost (h : Launched auction account entry r r') : NobodyLost auction account entry.1 r r' := by
  intro chat s s' hrecord hfollows hrecord' _ _
  obtain ⟨b, hb, -, -, hlookup⟩ := h.index
  obtain ⟨moved, -, -, hmoved, hspawns⟩ := h.announced
  refine ⟨⟨b, hb, (hlookup chat).mpr ⟨s, hrecord, Or.inl hfollows⟩⟩, fun henabled => ?_⟩
  obtain ⟨s'', hrecord'', hrelabels⟩ := h.relabeled.moved chat s hrecord hfollows
  obtain rfl := Option.some.inj (Except.ok.inj (hrecord'.symm.trans hrecord''))
  have hmem : (chat, true) ∈ moved := (hmoved chat true).mpr ⟨s, hrecord, hfollows, hrelabels.enabled ▸ henabled⟩
  have hspawn : (⟨entry.1, chat, .ready (launchNotification chat auction account)⟩ : Spawn) ∈
      r'.spawns.filter (·.bot = entry.1) := by
    rw [hspawns]
    apply List.mem_append_right
    exact List.mem_map.mpr ⟨(chat, true), List.mem_filter.mpr ⟨hmem, rfl⟩, rfl⟩
  exact (List.mem_filter.mp hspawn).1

/-- A move that stopped on the way loses nobody exactly if all whom it moved were found under the token before and are
disabled. -/
theorem CutShort.nobodyLost_iff (h : CutShort auction account entry chats r r') (hserves : r.database.Serves entry.1)
    (hserves' : r'.database.Serves entry.1) (hfresh : r.spawns = []) :
    NobodyLost auction account entry.1 r r' ↔ ∀ chat ∈ chats, chat ∈ entry.2.index.lookup (.fungible account) ∧
      ∀ s, recordOf entry.1 chat r.database = .ok (some s) → s.enabled = false := by
  have hnone : r'.spawns.filter (·.bot = entry.1) = [] := by
    rw [h.untold, hfresh]
    rfl
  constructor
  · intro hnobody chat hchat
    obtain ⟨s, s', hrecord, hfollows, hrecord', hrelabels⟩ := h.moved chat hchat
    have hfollows' : s'.follows (.fungible account) := by
      rw [Subscriber.follows, Assoc.contains, hrelabels.settings]
      exact hfollows
    obtain ⟨⟨b, hb, hlookup⟩, htold⟩ := hnobody chat s s' hrecord hfollows hrecord' hrelabels.gone hfollows'
    obtain rfl := Option.some.inj (h.index.symm.trans hb)
    refine ⟨hlookup, fun other hother => ?_⟩
    obtain rfl := Option.some.inj (Except.ok.inj (hrecord.symm.trans hother))
    rw [← hrelabels.enabled]
    apply Bool.eq_false_iff.mpr
    intro henabled
    have hspawn : (⟨entry.1, chat, .ready (launchNotification chat auction account)⟩ : Spawn) ∈
        r'.spawns.filter (·.bot = entry.1) := List.mem_filter.mpr ⟨htold henabled, by simp⟩
    rw [hnone] at hspawn
    cases hspawn
  · intro hall chat s s' hrecord hfollows hrecord' hgone _
    by_cases hchat : chat ∈ chats
    · obtain ⟨hlookup, hdisabled⟩ := hall chat hchat
      obtain ⟨other, other', hother, -, hother', hrelabels⟩ := h.moved chat hchat
      obtain rfl := Option.some.inj (Except.ok.inj (hrecord.symm.trans hother))
      obtain rfl := Option.some.inj (Except.ok.inj (hrecord'.symm.trans hother'))
      refine ⟨⟨entry.2, h.index, hlookup⟩, fun henabled => ?_⟩
      rw [hrelabels.enabled, hdisabled s hrecord] at henabled
      cases henabled
    · rw [recordOf_congr hserves hserves' (h.kept chat hchat), hrecord] at hrecord'
      obtain rfl := Option.some.inj (Except.ok.inj hrecord')
      rw [hfollows] at hgone
      cases hgone

theorem cutShort_stopped {database : Database} (h : Sound entry.1 r.database)
    (hchats : ∀ chat ∈ chats, chat ∈ followers entry.1 r.database (.prelaunch auction))
    (hmoves : Moves entry.1 (.prelaunch auction) (.fungible account) chats r.database database) :
    CutShort auction account entry chats r (stopped entry database r) where
  moved := by
    intro chat hchat
    obtain ⟨s, hrecord, hfollows⟩ := (h.mem_followers _ _).mp (hchats chat hchat)
    obtain ⟨-, -, -, -, hwell⟩ := h.row_of_record hrecord
    exact ⟨s, _, hrecord, hfollows, hmoves.moved chat hchat s hrecord, relabels_moveSettings nofun hwell hfollows⟩
  kept := hmoves.kept
  elsewhere := fun collection hne => hmoves.elsewhere collection entry.1 fun heq => hne (congrArg Prod.fst heq)
  index := Assoc.get?_put_self _ _ _
  untold := rfl

section

variable (haccount : Token.parse (Token.fungible account).key = .ok (.fungible account))
  (h : Sound entry.1 r.database) {s : Round} (hs : s.seat entry.1 = r.seat entry.1)

include haccount h hs

/-- A bot's turn that ends before the write that fails, taken from a round that is for the bot as the first one. -/
theorem launched_of_turn (hdue : ∀ k ∈ due, (followers entry.1 r.database (.prelaunch auction)).length ≤ k)
    (hseat : r'.seat entry.1 = (launchTurnBut text auction account entry (due, s)).2.2.seat entry.1) :
    Launched auction account entry r r' := by
  have hrows : s.database.own entry.1 = r.database.own entry.1 := congrArg (·.1.1) hs
  have hchats := followers_own hrows (.prelaunch auction)
  rw [← hchats] at hdue
  rw [launchTurnBut_whole text haccount (h.own hrows) hdue] at hseat
  exact (launchTurn_whole auction h haccount).2.2.2.seat (hseat.trans (keepApart_launchTurn_seat.same entry s r hs).2)

/-- A bot's turn in which a write fails, taken from such a round. -/
theorem cutShort_of_turn {k : Nat} (hk : k < (followers entry.1 r.database (.prelaunch auction)).length)
    (hseat : r'.seat entry.1 = (launchTurnBut text auction account entry (some k, s)).2.2.seat entry.1) :
    r'.database.Serves entry.1 ∧
      CutShort auction account entry ((followers entry.1 r.database (.prelaunch auction)).take k) r r' := by
  have hrows : s.database.own entry.1 = r.database.own entry.1 := congrArg (·.1.1) hs
  have hchats := followers_own hrows (.prelaunch auction)
  rw [← hchats] at hk ⊢
  obtain ⟨database, hmoves, hturn⟩ := launchTurnBut_cut text haccount (h.own hrows) hk
  rw [hturn] at hseat
  have hstopped := cutShort_stopped (h.own hrows) (fun chat hchat => List.mem_of_mem_take hchat) hmoves
  exact ⟨(hmoves.sound.own (congrArg (·.1.1) hseat)).serves, hstopped.seat hs hseat⟩

end

/-- A launch during which one write fails, the one after `n` others. Handling it does not fail. The bots whose writes
come before it or after it go through the launch and lose nobody. The bot whose write it is has moved the chats before
it and no others, has told nobody, and has its old index: it has lost nobody exactly if each of these chats was found
under the token before and is disabled. -/
theorem launch_in_failing_store (text : String) (n : Nat) (auction : Int) (account : String) (r : Round)
    (hbots : (Assoc.keys r.alerts.bots).Nodup)
    (haccount : Token.parse (Token.fungible account).key = .ok (.fungible account))
    (hreadable : ∀ entry ∈ r.alerts.bots, Readable entry.1 r.database) (hfresh : r.spawns = []) :
    let after := launchBut text (some n) auction account r
    after.1 = none ∧ ∀ before entry rest, r.alerts.bots = before ++ entry :: rest →
      let first := movesOf auction r.database before
      let chats := followers entry.1 r.database (.prelaunch auction)
      (n < first ∨ first + chats.length ≤ n →
        Launched auction account entry r after.2.2 ∧ NobodyLost auction account entry.1 r after.2.2) ∧
      (first ≤ n → n < first + chats.length →
        CutShort auction account entry (chats.take (n - first)) r after.2.2 ∧
        (NobodyLost auction account entry.1 r after.2.2 ↔
          ∀ chat ∈ chats.take (n - first), chat ∈ entry.2.index.lookup (.fungible account) ∧
            ∀ s, recordOf entry.1 chat r.database = .ok (some s) → s.enabled = false)) := by
  intro after
  have hsound : ∀ entry ∈ r.alerts.bots, Sound entry.1 r.database := fun entry hentry => (hreadable entry hentry).sound
  let begun : Round :=
    { r with alerts := { r.alerts with events := r.alerts.events + 1, launches := r.alerts.launches + 1 } }
  have hbegun : ∀ entry ∈ r.alerts.bots, Sound entry.1 begun.database := hsound
  obtain ⟨due', r', hround, -, hinside⟩ := takeTurns_launchTurnBut text haccount hbots hbegun (some n)
  have hafter : after = (none, due', r') := hround
  refine ⟨congrArg Prod.fst hafter, fun before entry rest hsplit => ?_⟩
  intro first chats
  have hentry : entry ∈ r.alerts.bots := by
    rw [hsplit]
    simp
  have h : Sound entry.1 r.database := hsound entry hentry
  obtain ⟨s, hs, hseat⟩ := hinside before entry rest hsplit
  have hseat : r'.seat entry.1 =
      (launchTurnBut text auction account entry (left (some n) first, s)).2.2.seat entry.1 := hseat
  rw [hafter]
  constructor
  · intro hwhole
    have hdue : ∀ k ∈ left (some n) first, chats.length ≤ k := by
      intro k hk
      simp only [left, Option.bind_some, Option.mem_def] at hk
      split at hk
      · obtain rfl := Option.some.inj hk
        omega
      · cases hk
    have hlaunched := launched_of_turn text haccount h hs hdue hseat
    exact ⟨hlaunched, hlaunched.nobodyLost⟩
  · intro hfirst hcut
    rw [show left (some n) first = some (n - first) from if_pos hfirst] at hseat
    have hk : n - first < chats.length := by omega
    obtain ⟨hserves, hshort⟩ := cutShort_of_turn text haccount h hs hk hseat
    exact ⟨hshort, hshort.nobodyLost_iff h.serves hserves hfresh⟩

/-- Bot 1 moves its three followers; of those of bot 2 the first is moved, and it is lost. -/
theorem launch_in_failing_store_second_bot :
    let after := launchBut "disk full" (some 4) 7 "launched.near" beforeLaunch
    after.1 = none ∧ NobodyLost 7 "launched.near" 1 beforeLaunch after.2.2 ∧
      ¬ NobodyLost 7 "launched.near" 2 beforeLaunch after.2.2 := by
  intro after
  have hbots : (Assoc.keys beforeLaunch.alerts.bots).Nodup := by decide
  have haccount : Token.parse (Token.fungible "launched.near").key = .ok (.fungible "launched.near") :=
    Token.parse_key (by decide) rfl
  obtain ⟨hok, hparts⟩ := launch_in_failing_store "disk full" 4 7 "launched.near" beforeLaunch hbots haccount
    readable_beforeLaunch rfl
  obtain ⟨hwhole, -⟩ := hparts [] _ _ rfl
  obtain ⟨-, hcut⟩ := hparts [_] _ _ rfl
  obtain ⟨-, hnobody⟩ := hwhole (.inr (by decide +kernel))
  obtain ⟨-, hlost⟩ := hcut (by decide +kernel) (by decide +kernel)
  refine ⟨hok, hnobody, fun hsecond => ?_⟩
  obtain ⟨hfound, -⟩ := hlost.mp hsecond (-4) (by decide +kernel)
  revert hfound
  decide +kernel

/-- A database in which two chats of a bot follow an auction. -/
def twoFollowers : Database :=
  let s : Subscriber := { tokens := [(.prelaunch 7, {})] }
  { tables := [(("buybot", 1), [(1, s.toJson), (2, s.toJson)])] }

/-- If the second write fails, the first chat follows the token, but is not found under it and is not told. -/
theorem moved_chat_lost :
    let shelf := (perform rebuild 1 { database := twoFollowers }).2
    let r : Round := { database := shelf.database, net := {}, alerts := { bots := [(1, { index := shelf.index })] } }
    let after := (launchBut "disk full" (some 1) 7 "launched.near" r).2.2
    Readable 1 r.database ∧ Exact 1 shelf ∧ followers 1 after.database (.fungible "launched.near") = [1] ∧
      (Assoc.get? 1 after.alerts.bots).map (·.index.lookup (.fungible "launched.near")) = some [] ∧
      after.spawns.length = 0 ∧ ¬ NobodyLost 7 "launched.near" 1 r after := by
  intro shelf r after
  have hreadable : Readable 1 twoFollowers :=
    readable_of_reads ⟨rfl, rfl, by decide⟩ (by decide +kernel) (by decide +kernel)
  have hexact : Exact 1 shelf := (@Begins.rebuilt 1 { database := twoFollowers } hreadable).consistent.exact
  have hafter : Readable 1 after.database :=
    readable_of_reads ⟨rfl, rfl, by decide⟩ (by decide +kernel) (by decide +kernel)
  have hfollowers : followers 1 after.database (.fungible "launched.near") = [1] := by decide +kernel
  have hlookup : (Assoc.get? 1 after.alerts.bots).map (·.index.lookup (.fungible "launched.near")) = some [] := by
    decide +kernel
  have hspawns : after.spawns.length = 0 := by decide +kernel
  refine ⟨hreadable, hexact, hfollowers, hlookup, hspawns, fun hnobody => ?_⟩
  obtain ⟨s, hs, hfollows⟩ := (hreadable.sound.mem_followers (.prelaunch 7) 1).mp (by decide +kernel)
  obtain ⟨s', hs', hfollows'⟩ := (hafter.sound.mem_followers _ 1).mp (hfollowers ▸ List.mem_cons_self)
  have hgone : s'.follows (.prelaunch 7) = false := by
    apply Bool.eq_false_iff.mpr
    intro hstill
    have hmem := (hafter.sound.mem_followers (.prelaunch 7) 1).mpr ⟨s', hs', hstill⟩
    revert hmem
    decide +kernel
  obtain ⟨⟨b, hb, hfound⟩, -⟩ := hnobody 1 s s' hs hfollows hs' hgone hfollows'
  rw [hb] at hlookup
  have hempty : b.index.lookup (.fungible "launched.near") = [] := Option.some.inj hlookup
  rw [hempty] at hfound
  cases hfound

end TradeAlerts

end ChainAlerts
