import ChainAlerts.Proofs.EditRequests

/-! Turns that belong to bots. An event is handled bot by bot: each turn works on a state of which one part is the
bot's own, and a fault ends the round. If a turn neither reads nor changes the own part of another bot, a round does to
a bot what the bot's turn does by itself, or nothing if a turn before it ends the round. The calls on a bot's records
are turns of this kind. -/

namespace ChainAlerts

section

variable {σ ε ν : Type}

/-- Takes turns until a fault passes. -/
def takeTurns (turn : ε → σ → Option Fault × σ) : List ε → σ → Option Fault × σ
  | [], s => (none, s)
  | e :: rest, s =>
    match turn e s with
    | (none, s) => takeTurns turn rest s
    | (some f, s) => (some f, s)

/-- Turns keep to the own part of the bot whose turn it is. -/
structure KeepApart (owner : ε → Int) (turn : ε → σ → Option Fault × σ) (own : Int → σ → ν) : Prop where
  others : ∀ e s bot, owner e ≠ bot → own bot (turn e s).2 = own bot s
  same : ∀ e s s', own (owner e) s = own (owner e) s' →
    (turn e s).1 = (turn e s').1 ∧ own (owner e) (turn e s).2 = own (owner e) (turn e s').2

variable {owner : ε → Int} {turn : ε → σ → Option Fault × σ} {own : Int → σ → ν} {turns before after : List ε} {e : ε}
  {s : σ} {bot : Int}

theorem takeTurns_cons_none {rest : List ε} (h : (turn e s).1 = none) :
    takeTurns turn (e :: rest) s = takeTurns turn rest (turn e s).2 := by
  rw [takeTurns]
  generalize turn e s = outcome at h
  obtain ⟨fault, s⟩ := outcome
  obtain rfl : fault = none := h
  rfl

theorem takeTurns_cons_some {rest : List ε} {f : Fault} (h : (turn e s).1 = some f) :
    takeTurns turn (e :: rest) s = turn e s := by
  rw [takeTurns]
  generalize turn e s = outcome at h
  obtain ⟨fault, s⟩ := outcome
  obtain rfl : fault = some f := h
  rfl

theorem takeTurns_singleton (turn : ε → σ → Option Fault × σ) (e : ε) (s : σ) : takeTurns turn [e] s = turn e s := by
  rw [takeTurns]
  generalize turn e s = outcome
  obtain ⟨fault, after⟩ := outcome
  cases fault <;> rfl

/-- What each turn keeps, a round keeps. -/
theorem takeTurns_induction {P : σ → Prop} (hturn : ∀ e ∈ turns, ∀ s, P s → P (turn e s).2) (h : P s) :
    P (takeTurns turn turns s).2 := by
  induction turns generalizing s with
  | nil => exact h
  | cons e rest ih =>
      have hafter := hturn e List.mem_cons_self s h
      have hrest : ∀ other ∈ rest, ∀ s, P s → P (turn other s).2 :=
        fun other hother => hturn other (List.mem_cons_of_mem e hother)
      cases hfault : (turn e s).1 with
      | none =>
          rw [takeTurns_cons_none hfault]
          exact ih hrest hafter
      | some f =>
          rw [takeTurns_cons_some hfault]
          exact hafter

/-- What a turn comes to for its owner does not depend on the turns of others before it. -/
theorem KeepApart.after_other (h : KeepApart owner turn own) {other : ε} (hne : owner other ≠ owner e) :
    (turn e (turn other s).2).1 = (turn e s).1 ∧
      own (owner e) (turn e (turn other s).2).2 = own (owner e) (turn e s).2 :=
  h.same e _ _ (h.others other s (owner e) hne)

/-- A round in which every bot has one turn goes through exactly if each turn by itself does. -/
theorem KeepApart.none_iff (h : KeepApart owner turn own) (howners : (turns.map owner).Nodup) :
    (takeTurns turn turns s).1 = none ↔ ∀ e ∈ turns, (turn e s).1 = none := by
  induction turns generalizing s with
  | nil => simp [takeTurns]
  | cons e rest ih =>
      obtain ⟨hfresh, hrest⟩ := List.nodup_cons.mp howners
      rw [List.forall_mem_cons]
      cases hfault : (turn e s).1 with
      | some f => simp [takeTurns_cons_some hfault, hfault]
      | none =>
          rw [takeTurns_cons_none hfault, ih hrest, eq_self, true_and]
          refine forall₂_congr fun other hother => ?_
          have hne : owner e ≠ owner other := fun hsame => hfresh (hsame ▸ List.mem_map_of_mem hother)
          rw [(h.after_other hne).1]

/-- A round without a turn of a bot leaves it as it was. -/
theorem KeepApart.own_of_absent (h : KeepApart owner turn own) (habsent : bot ∉ turns.map owner) :
    own bot (takeTurns turn turns s).2 = own bot s := by
  induction turns generalizing s with
  | nil => rfl
  | cons e rest ih =>
      obtain ⟨hne, hrest⟩ := not_or.mp fun hmem => habsent (List.mem_cons.mpr hmem)
      have hfirst := h.others e s bot (Ne.symm hne)
      cases hfault : (turn e s).1 with
      | some f => rw [takeTurns_cons_some hfault, hfirst]
      | none => rw [takeTurns_cons_none hfault, ih hrest, hfirst]

/-- If no turn before ends the round, it does to a bot what the bot's turn does by itself. -/
theorem KeepApart.own_of_reached (h : KeepApart owner turn own) (howners : ((before ++ e :: after).map owner).Nodup)
    (hbefore : ∀ other ∈ before, (turn other s).1 = none) :
    own (owner e) (takeTurns turn (before ++ e :: after) s).2 = own (owner e) (turn e s).2 := by
  induction before generalizing s with
  | nil =>
      rw [List.nil_append]
      cases hfault : (turn e s).1 with
      | some f => rw [takeTurns_cons_some hfault]
      | none =>
          rw [takeTurns_cons_none hfault]
          exact h.own_of_absent (List.nodup_cons.mp howners).1
  | cons first rest ih =>
      obtain ⟨hfresh, hnodup⟩ := List.nodup_cons.mp howners
      obtain ⟨hfirst, hrest⟩ := List.forall_mem_cons.mp hbefore
      have hne : ∀ other ∈ rest ++ e :: after, owner first ≠ owner other :=
        fun other hother hsame => hfresh (hsame ▸ List.mem_map_of_mem hother)
      -- Both what the bot gets and whether a turn goes through are the same after the first turn as before it.
      rw [List.cons_append, takeTurns_cons_none hfirst, ih hnodup]
      · exact (h.after_other (hne e (by simp))).2
      · intro other hother
        rw [(h.after_other (hne other (List.mem_append_left _ hother))).1]
        exact hrest other hother

/-- If a turn before ends the round, it does nothing to a bot. -/
theorem KeepApart.own_of_ended (h : KeepApart owner turn own) (howners : ((before ++ e :: after).map owner).Nodup)
    (hended : ∃ other ∈ before, (turn other s).1 ≠ none) :
    own (owner e) (takeTurns turn (before ++ e :: after) s).2 = own (owner e) s := by
  induction before generalizing s with
  | nil =>
      obtain ⟨other, hother, -⟩ := hended
      cases hother
  | cons first rest ih =>
      obtain ⟨hfresh, hnodup⟩ := List.nodup_cons.mp howners
      have hne : ∀ other ∈ rest ++ e :: after, owner first ≠ owner other :=
        fun other hother hsame => hfresh (hsame ▸ List.mem_map_of_mem hother)
      have hkept := h.others first s (owner e) (hne e (by simp))
      rw [List.cons_append]
      cases hfault : (turn first s).1 with
      | some f => rw [takeTurns_cons_some hfault, hkept]
      | none =>
          rw [takeTurns_cons_none hfault, ih hnodup, hkept]
          obtain ⟨other, hother, hends⟩ := hended
          rcases List.mem_cons.mp hother with rfl | hother
          · exact absurd hfault hends
          · refine ⟨other, hother, ?_⟩
            rw [(h.after_other (hne other (List.mem_append_left _ hother))).1]
            exact hends

theorem filter_owner_of_nodup (howners : ((before ++ e :: after).map owner).Nodup) :
    (before ++ e :: after).filter (owner · = owner e) = [e] := by
  have hothers : ∀ others : List ε, owner e ∉ others.map owner → others.filter (owner · = owner e) = [] :=
    fun others habsent => List.filter_eq_nil_iff.mpr fun other hother hsame =>
      habsent (List.mem_map.mpr ⟨other, hother, of_decide_eq_true hsame⟩)
  rw [List.map_append, List.map_cons, List.nodup_middle, List.nodup_cons, List.mem_append, not_or] at howners
  obtain ⟨⟨hbefore, hafter⟩, -⟩ := howners
  rw [List.filter_append, List.filter_cons_of_pos (by simp), hothers before hbefore, hothers after hafter,
    List.nil_append]

/-- A bot is reached if none of the bots before it ends the round. -/
def Reached (ends : Int → Prop) (bots : List Int) (bot : Int) : Prop :=
  ∀ before after, bots = before ++ bot :: after → ∀ other ∈ before, ¬ends other

variable {ends : Int → Prop}

/-- A round does to a bot that is reached what it does if there are no turns but the bot's. -/
theorem KeepApart.own_alone (h : KeepApart owner turn own) (howners : (turns.map owner).Nodup)
    (hends : ∀ e ∈ turns, (turn e s).1 = none ↔ ¬ends (owner e)) (hreached : Reached ends (turns.map owner) bot)
    {s' : σ} (hsame : own bot s = own bot s') :
    own bot (takeTurns turn turns s).2 = own bot (takeTurns turn (turns.filter (owner · = bot)) s').2 := by
  by_cases hbot : bot ∈ turns.map owner
  · obtain ⟨e, he, rfl⟩ := List.mem_map.mp hbot
    obtain ⟨before, after, rfl⟩ := List.append_of_mem he
    have hbefore : ∀ other ∈ before, (turn other s).1 = none := fun other hother =>
      (hends other (List.mem_append_left _ hother)).mpr
        (hreached (before.map owner) (after.map owner) (by simp) _ (List.mem_map_of_mem hother))
    have hfilter : (before ++ e :: after).filter (owner · = owner e) = [e] :=
      filter_owner_of_nodup howners
    rw [h.own_of_reached howners hbefore, hfilter, takeTurns_singleton]
    exact (h.same e s s' hsame).2
  · have hnone : turns.filter (owner · = bot) = [] := List.filter_eq_nil_iff.mpr fun e he hsame =>
      hbot (List.mem_map.mpr ⟨e, he, of_decide_eq_true hsame⟩)
    rw [h.own_of_absent hbot, hnone]
    exact hsame

/-- A round does nothing to a bot that is not reached. -/
theorem KeepApart.own_of_not_reached (h : KeepApart owner turn own) (howners : (turns.map owner).Nodup)
    (hends : ∀ e ∈ turns, (turn e s).1 = none ↔ ¬ends (owner e)) (hnot : ¬Reached ends (turns.map owner) bot) :
    own bot (takeTurns turn turns s).2 = own bot s := by
  simp only [Reached, not_forall] at hnot
  obtain ⟨owners, others, hsplit, other, hother, hends'⟩ := hnot
  obtain ⟨before, rest, rfl, rfl, hrest⟩ := List.map_eq_append_iff.mp hsplit
  obtain ⟨e, after, rfl, rfl, -⟩ := List.map_eq_cons_iff.mp hrest
  obtain ⟨first, hfirst, rfl⟩ := List.mem_map.mp hother
  refine h.own_of_ended howners ⟨first, hfirst, fun hnone => ?_⟩
  exact hends' ((hends first (List.mem_append_left _ hfirst)).mp hnone)

end

/-- What of a database concerns a bot. -/
structure OwnRows where
  failure : Option String
  hasSchema : Bool
  rows : String → Records

namespace Database

def own (bot : Int) (db : Database) : OwnRows where
  failure := db.failure
  hasSchema := db.hasSchema
  rows := fun collection => db.records collection bot

variable {bot other : Int} {db db' : Database}

theorem own_withRecords_of_ne (h : other ≠ bot) (collection : String) (records : Records) :
    (db.withRecords collection other records).own bot = db.own bot := by
  have hrows : ∀ c, (db.withRecords collection other records).records c bot = db.records c bot :=
    fun c => records_withRecords_of_ne (fun heq => h heq.2.symm) db records
  simp only [own, hrows]
  rfl

theorem own_withRecords_congr (h : db.own bot = db'.own bot) (collection : String) (records : Records) :
    (db.withRecords collection bot records).own bot = (db'.withRecords collection bot records).own bot := by
  have hrows : ∀ (d : Database) c, (d.withRecords collection bot records).records c bot =
      if c = collection then records else d.records c bot := by
    intro d c
    by_cases hc : c = collection
    · rw [hc, if_pos rfl, records_withRecords]
    · rw [if_neg hc, records_withRecords_of_ne fun heq => hc heq.1]
  have hold : ∀ c, db.records c bot = db'.records c bot := fun c => congrFun (congrArg OwnRows.rows h) c
  have hfailure : db.failure = db'.failure := congrArg OwnRows.failure h
  have hschema : db.hasSchema = db'.hasSchema := congrArg OwnRows.hasSchema h
  simp only [own, hrows, hold]
  simp only [withRecords, hfailure, hschema]

theorem records_congr (h : db.own bot = db'.own bot) (collection : String) :
    db.records collection bot = db'.records collection bot :=
  congrFun (congrArg OwnRows.rows h) collection

theorem begin_congr (h : db.own bot = db'.own bot) (keys : List Int) : db.begin keys = db'.begin keys := by
  have hfailure : db.failure = db'.failure := congrArg OwnRows.failure h
  have hschema : db.hasSchema = db'.hasSchema := congrArg OwnRows.hasSchema h
  rw [Database.begin, Database.begin, hfailure, hschema]

theorem get_congr (h : db.own bot = db'.own bot) (collection : String) (chat : Int) :
    db.get collection bot chat = db'.get collection bot chat := by
  rw [Database.get, Database.get, begin_congr h, records_congr h]

theorem list_congr (h : db.own bot = db'.own bot) (collection : String) :
    db.list collection bot = db'.list collection bot := by
  rw [Database.list, Database.list, begin_congr h, records_congr h]

theorem put_congr (h : db.own bot = db'.own bot) (collection : String) (chat : Int) (payload : Json) :
    (db.put collection bot chat payload).map (own bot) = (db'.put collection bot chat payload).map (own bot) := by
  unfold Database.put
  rw [begin_congr h, records_congr h]
  cases db'.begin [bot, chat] with
  | error e => rfl
  | ok u =>
      cases payload with
      | obj fields =>
          simp only [except_ok_bind]
          split
          · exact congrArg Except.ok h
          · exact congrArg Except.ok (own_withRecords_congr h _ _)
      | _ => rfl

theorem delete_congr (h : db.own bot = db'.own bot) (collection : String) (chat : Int) :
    (db.delete collection bot chat).map (Prod.map id (own bot)) =
      (db'.delete collection bot chat).map (Prod.map id (own bot)) := by
  rw [Database.delete, Database.delete, begin_congr h, records_congr h]
  cases db'.begin [bot, chat] with
  | error e => rfl
  | ok u =>
      simp only [except_ok_bind]
      cases Records.get? chat (db'.records collection bot) with
      | none => exact congrArg (fun rows => Except.ok (none, rows)) h
      | some payload => exact congrArg (fun rows => Except.ok (some payload, rows)) (own_withRecords_congr h _ _)

/-- A payload that is deleted was there, and nothing else goes. -/
theorem delete_eq_ok {collection : String} {chat : Int} {found : Option Json}
    (h : db.delete collection bot chat = .ok (found, db')) :
    db' = db ∨ db' = db.withRecords collection bot ((db.records collection bot).erase chat) := by
  rw [Database.delete] at h
  cases hbegin : db.begin [bot, chat] with
  | error e =>
      rw [hbegin] at h
      cases h
  | ok u =>
      simp only [hbegin, except_ok_bind] at h
      cases hfound : Records.get? chat (db.records collection bot) with
      | none =>
          rw [hfound] at h
          exact Or.inl (congrArg Prod.snd (Except.ok.inj h)).symm
      | some payload =>
          rw [hfound] at h
          exact Or.inr (congrArg Prod.snd (Except.ok.inj h)).symm

end Database

namespace Store

variable {bot other : Int} {collection : String} {shelf shelf' : Shelf} {α : Type}

/-- What of a shelf concerns the bot whose shelf it is. -/
def Shelf.own (bot : Int) (shelf : Shelf) : OwnRows × SubscriberIndex := (shelf.database.own bot, shelf.index)

/-- A request changes nothing of the database, or the rows of its own collection and bot. -/
theorem database_answer (collection : String) (bot : Int) (r : Request) (shelf : Shelf) :
    (answer collection bot r shelf).2.database = shelf.database ∨
      ∃ rows, (answer collection bot r shelf).2.database = shelf.database.withRecords collection bot rows := by
  cases r with
  | write chat payload =>
      cases hput : shelf.database.put collection bot chat payload with
      | error e =>
          rw [answer_write_error hput]
          exact Or.inl rfl
      | ok db =>
          rw [answer_write_ok hput, Database.put_eq_ok hput]
          split
          · exact Or.inl rfl
          · exact Or.inr ⟨_, rfl⟩
  | remove chat =>
      cases hdelete : shelf.database.delete collection bot chat with
      | error e =>
          left
          simp only [answer, hdelete]
      | ok removed =>
          simp only [answer, hdelete]
          exact (Database.delete_eq_ok hdelete).imp_right fun hdb => ⟨_, hdb⟩
  | _ => exact Or.inl rfl

/-- What the requests of a bot on a collection leave as it is, its calls do. -/
theorem run_keeps {ν : Type} {part : Database → ν}
    (h : ∀ db rows, part (db.withRecords collection bot rows) = part db) (call : Call α) (shelf : Shelf) :
    part (call.run (answer collection bot) shelf).2.database = part shelf.database := by
  induction call generalizing shelf with
  | done result => rfl
  | ask r next ih =>
      have hfirst : part (answer collection bot r shelf).2.database = part shelf.database := by
        rcases database_answer collection bot r shelf with hdb | ⟨rows, hdb⟩
        · rw [hdb]
        · rw [hdb, h]
      rw [Task.run]
      exact (ih _ _).trans hfirst

/-- What a bot's request is answered, and what it leaves the bot, depends on what is the bot's own. -/
theorem answer_congr (collection : String) (h : shelf.own bot = shelf'.own bot) (r : Request) :
    (answer collection bot r shelf).1 = (answer collection bot r shelf').1 ∧
      (answer collection bot r shelf).2.own bot = (answer collection bot r shelf').2.own bot := by
  obtain ⟨hrows, hindex⟩ := Prod.mk.inj h
  cases r with
  | read chat => exact ⟨Database.get_congr hrows collection chat, h⟩
  | list => exact ⟨Database.list_congr hrows collection, h⟩
  | write chat payload =>
      have hput := Database.put_congr hrows collection chat payload
      simp only [answer]
      cases hleft : shelf.database.put collection bot chat payload <;>
        cases hright : shelf'.database.put collection bot chat payload <;> rw [hleft, hright] at hput
      · exact ⟨congrArg Except.error (Except.error.inj hput), h⟩
      · cases hput
      · cases hput
      · exact ⟨rfl, Prod.ext (Except.ok.inj hput) hindex⟩
  | remove chat =>
      have hdelete := Database.delete_congr hrows collection chat
      simp only [answer]
      cases hleft : shelf.database.delete collection bot chat <;>
        cases hright : shelf'.database.delete collection bot chat <;> rw [hleft, hright] at hdelete
      · exact ⟨congrArg Except.error (Except.error.inj hdelete), h⟩
      · cases hdelete
      · cases hdelete
      · obtain ⟨hfound, hrows'⟩ := Prod.mk.inj (Except.ok.inj hdelete)
        exact ⟨congrArg Except.ok hfound, Prod.ext hrows' hindex⟩
  | publish entries => exact ⟨rfl, Prod.ext hrows (congrArg (·.renew entries) hindex)⟩
  | _ => exact ⟨rfl, h⟩

theorem own_run_of_ne (h : other ≠ bot) (call : Call α) (shelf : Shelf) :
    (call.run (answer collection other) shelf).2.database.own bot = shelf.database.own bot :=
  run_keeps (fun _ rows => Database.own_withRecords_of_ne h collection rows) call shelf

theorem run_congr (h : shelf.own bot = shelf'.own bot) (call : Call α) :
    (call.run (answer collection bot) shelf).1 = (call.run (answer collection bot) shelf').1 ∧
      (call.run (answer collection bot) shelf).2.own bot = (call.run (answer collection bot) shelf').2.own bot := by
  induction call generalizing shelf shelf' with
  | done result => exact ⟨rfl, h⟩
  | ask r next ih =>
      obtain ⟨hreply, hafter⟩ := answer_congr collection h r
      simp only [Task.run]
      rw [hreply]
      exact ih _ hafter

end Store

end ChainAlerts
