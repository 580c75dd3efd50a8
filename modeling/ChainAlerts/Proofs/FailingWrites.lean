import ChainAlerts.Proofs.Listings
import ChainAlerts.Proofs.TokenMoves

/-! The move of all settings from one token to another, in a store of which one write may fail. Without a failure
every chat that follows the first token is moved, in ascending order, and the index is made afresh. A write that
fails ends the move there: the chats before it are moved, the others are not, and the index is left as it was. -/

namespace ChainAlerts

namespace Store

/-- Answers requests like a store of which one write fails: the one after as many others as are due. Nothing is due
once it has failed, nor if none is to fail. -/
def answerBut (text collection : String) (bot : Int) : (r : Request) → Option Nat × Shelf → r.Reply × Option Nat × Shelf
  | .write _ _, (some 0, shelf) => (.error (.failed text), none, shelf)
  | .write chat payload, (due, shelf) =>
    let (reply, shelf) := answer collection bot (.write chat payload) shelf
    (reply, due.map (· - 1), shelf)
  | r, (due, shelf) =>
    let (reply, shelf) := answer collection bot r shelf
    (reply, due, shelf)

variable {collection : String} {bot : Int} {α : Type} (text : String)

/-- A call in a store of which no write is to fail. -/
theorem run_answerBut_none (call : Call α) (shelf : Shelf) :
    call.run (answerBut text collection bot) (none, shelf) =
      Prod.map id (Prod.mk none) (call.run (answer collection bot) shelf) := by
  induction call generalizing shelf with
  | done result => rfl
  | ask r next ih =>
      have hanswer : answerBut text collection bot r (none, shelf) =
          Prod.map id (Prod.mk none) (answer collection bot r shelf) := by
        cases r <;> rfl
      simp only [Task.run, hanswer]
      exact ih _ _

/-- An edit that has a payload to write, if the write may fail: it stores nothing if its write is the one, and else
there is one write less before that one. -/
theorem Edit.run_answerBut {ρ ε : Type} (s : Store ρ) (e : Edit ρ ε α) {shelf : Shelf} {payload : Json} {kept : ρ × α}
    {db : Database} (hplan : e.plan s (shelf.database.get s.codec.collection s.bot e.chat) = .ok (payload, kept))
    (hput : shelf.database.put s.codec.collection s.bot e.chat payload = .ok db) :
    (e.call s).run (answerBut text s.codec.collection s.bot) (some 0, shelf) =
        (.error (.store (.store (.write s.codec.collection text))), none, shelf) ∧
      ∀ due ≠ some 0, (e.call s).run (answerBut text s.codec.collection s.bot) (due, shelf) =
        (.ok (some kept), due.map (· - 1), { shelf with database := db }) := by
  have hwrites : ∀ due, (e.call s).run (answerBut text s.codec.collection s.bot) (due, shelf) =
      (e.writes s payload kept).run (answerBut text s.codec.collection s.bot) (due, shelf) := by
    intro due
    have hread : answerBut text s.codec.collection s.bot (.read e.chat) (due, shelf) =
        (shelf.database.get s.codec.collection s.bot e.chat, due, shelf) := rfl
    rw [Edit.call_eq]
    simp only [Edit.reads, Task.run]
    rw [show answerBut text s.codec.collection s.bot (.lock e.chat) (due, shelf) = ((), due, shelf) from rfl, hread]
    simp only [Edit.afterRead, hplan]
  refine ⟨hwrites _, fun due hdue => ?_⟩
  rw [hwrites]
  obtain _ | _ | k := due
  · simp only [Edit.writes, Task.run, answerBut, answer_write_ok hput]
    rfl
  · exact absurd rfl hdue
  · simp only [Edit.writes, Task.run, answerBut, answer_write_ok hput]
    rfl

end Store

namespace Subscriptions

open Store

variable {bot chat : Int} {source target : Token} {s : Subscriber} {shelf : Shelf} {entries : List (Int × Subscriber)}

/-- Runs a call on a bot's subscriptions in a store of which one write may fail. -/
def runBut {α : Type} (text : String) (bot : Int) (call : Attempt α) (due : Option Nat) (shelf : Shelf) :
    Except SubscriptionError α × Option Nat × Shelf :=
  call.run (answerBut text (store bot).codec.collection (store bot).bot) (due, shelf)

/-- The failure of a call whose write failed. -/
def writeFailed (text : String) : SubscriptionError := .store (.store (.write Subscriber.codec.collection text))

/-- The edit that moves one chat's settings. -/
theorem Sound.runBut_edit (text : String) (h : Sound bot shelf.database)
    (hrecord : recordOf bot chat shelf.database = .ok (some s)) (hfollows : s.follows source)
    (htarget : Token.parse target.key = .ok target) (hne : source ≠ target) :
    ∃ database, Moves bot source target [chat] shelf.database database ∧
      runBut text bot (edit bot chat none fun s => .ok (moveSettings source target s)) (some 0) shelf =
        (.error (writeFailed text), none, shelf) ∧
      ∀ due ≠ some 0, runBut text bot (edit bot chat none fun s => .ok (moveSettings source target s)) due shelf =
        (.ok (some ((moveSettings source target s).1, true)), due.map (· - 1), { shelf with database }) := by
  obtain ⟨-, -, -, -, hwell⟩ := h.row_of_record hrecord
  obtain ⟨database, hput, hmoves⟩ := h.put_moved hrecord hfollows htarget hne
  obtain ⟨settings, -, hmove⟩ := moveSettings_of_follows target hfollows
  let e : Edit Subscriber SubscriptionError Bool :=
    { chat, default := none, change := fun s => .ok (moveSettings source target s) }
  have hplan : e.plan (store bot)
      (shelf.database.get (store bot).codec.collection (store bot).bot e.chat) =
      .ok ((moveSettings source target s).1.toJson, (moveSettings source target s).1, true) := by
    have hread : (store bot).record? e.chat
        (shelf.database.get (store bot).codec.collection (store bot).bot e.chat) = .ok (some s) := hrecord
    have hencode : (store bot).codec.encode (moveSettings source target s).1 =
        .ok (moveSettings source target s).1.toJson := if_pos (moveSettings_wellFormed source htarget hwell).writable
    rw [hmove] at hencode ⊢
    simp only [Edit.plan, hread, Option.some_or, Edit.changed, e, hmove, hencode]
  obtain ⟨hfails, hkept⟩ := e.run_answerBut text (store bot) hplan hput
  refine ⟨database, hmoves, ?_, fun due hdue => ?_⟩
  · show (Task.map _ (e.call (store bot))).run _ (some 0, shelf) = _
    rw [Task.run_map, hfails]
    rfl
  · show (Task.map _ (e.call (store bot))).run _ (due, shelf) = _
    rw [Task.run_map, hkept due hdue]
    rfl

/-- Entries that are the records of different chats, each of which follows a token. -/
structure Following (bot : Int) (source : Token) (entries : List (Int × Subscriber)) (db : Database) : Prop where
  nodup : (entries.map (·.1)).Nodup
  records : ∀ entry ∈ entries, recordOf bot entry.1 db = .ok (some entry.2) ∧ entry.2.follows source

/-- Once the first chat is moved the others are still those to be moved. -/
theorem Following.rest {entry : Int × Subscriber} {db db' : Database} (h : Sound bot db)
    (hfollowing : Following bot source (entry :: entries) db) (hmoves : Moves bot source target [entry.1] db db') :
    Following bot source entries db' := by
  obtain ⟨hfresh, hnodup⟩ := List.nodup_cons.mp hfollowing.nodup
  refine ⟨hnodup, fun other hother => ?_⟩
  obtain ⟨hrecord, hfollows⟩ := hfollowing.records other (List.mem_cons_of_mem entry hother)
  refine ⟨?_, hfollows⟩
  rw [hmoves.record_kept h, hrecord]
  intro hsame
  apply hfresh
  exact List.mem_map.mpr ⟨other, hother, List.mem_singleton.mp hsame⟩

theorem runBut_migrateEach_cons {text : String} {due : Option Nat} {rest : List Int} {r : Subscriber}
    {after : Option Nat × Shelf}
    (h : runBut text bot (edit bot chat none fun s => .ok (moveSettings source target s)) due shelf =
      (.ok (some (r, true)), after)) (moved : List (Int × Bool)) :
    runBut text bot (migrateEach bot source target (chat :: rest) moved) due shelf =
      runBut text bot (migrateEach bot source target rest (moved ++ [(chat, r.enabled)])) after.1 after.2 := by
  rw [runBut] at h
  rw [runBut, migrateEach, Task.run_ifOk, h]
  rfl

theorem runBut_migrateEach_error {text : String} {due : Option Nat} {rest : List Int} {cause : SubscriptionError}
    {after : Option Nat × Shelf}
    (h : runBut text bot (edit bot chat none fun s => .ok (moveSettings source target s)) due shelf =
      (.error cause, after)) (moved : List (Int × Bool)) :
    runBut text bot (migrateEach bot source target (chat :: rest) moved) due shelf = (.error cause, after) := by
  rw [runBut] at h
  rw [runBut, migrateEach, Task.run_ifOk, h]

section

variable (htarget : Token.parse target.key = .ok target) (hne : source ≠ target)

include htarget hne

/-- If no write fails before the end, every chat is moved. -/
theorem Following.migrateEach_whole (text : String) (h : Sound bot shelf.database)
    (hfollowing : Following bot source entries shelf.database) (moved : List (Int × Bool)) :
    ∃ database, Moves bot source target (entries.map (·.1)) shelf.database database ∧
      ∀ due : Option Nat, (∀ k ∈ due, entries.length ≤ k) →
        runBut text bot (migrateEach bot source target (entries.map (·.1)) moved) due shelf =
          (.ok (moved ++ entries.map fun entry => (entry.1, entry.2.enabled)), due.map (· - entries.length),
            { shelf with database }) := by
  induction entries generalizing shelf moved with
  | nil =>
      refine ⟨shelf.database, h.moves_none, fun due _ => ?_⟩
      simp [runBut, migrateEach]
  | cons entry rest ih =>
      obtain ⟨hrecord, hfollows⟩ := hfollowing.records entry List.mem_cons_self
      obtain ⟨hfresh, -⟩ := List.nodup_cons.mp hfollowing.nodup
      obtain ⟨first, hfirst, -, hedit⟩ := h.runBut_edit text hrecord hfollows htarget hne
      let after : Shelf := { shelf with database := first }
      obtain ⟨database, hmoves, hrun⟩ := ih (show Sound bot after.database from hfirst.sound)
        (hfollowing.rest h hfirst) (moved ++ [(entry.1, entry.2.enabled)])
      refine ⟨database, hfirst.trans h hmoves (by simpa using hfresh), fun due hdue => ?_⟩
      have hstep : runBut text bot (edit bot entry.1 none fun s => .ok (moveSettings source target s)) due shelf =
          (.ok (some ((moveSettings source target entry.2).1, true)), due.map (· - 1), after) := by
        apply hedit
        rintro rfl
        exact absurd (hdue 0 rfl) (by simp)
      have hrest : ∀ k ∈ due.map (· - 1), rest.length ≤ k := by
        intro k hk
        obtain ⟨j, hj, rfl⟩ := Option.map_eq_some_iff.mp hk
        have hbound := hdue j hj
        rw [List.length_cons] at hbound
        omega
      have henabled : (moveSettings source target entry.2).1.enabled = entry.2.enabled := by
        obtain ⟨settings, -, hmove⟩ := moveSettings_of_follows target hfollows
        rw [hmove]
        rfl
      have hleft : (due.map (· - 1)).map (· - rest.length) = due.map (· - (entry :: rest).length) := by
        rw [Option.map_map]
        congr 1
        funext k
        simp only [Function.comp_apply, List.length_cons]
        omega
      rw [List.map_cons, runBut_migrateEach_cons hstep, henabled, hrun _ hrest, List.append_assoc, hleft]
      rfl

/-- A write that fails before the end ends the move, and the chats before it are moved. -/
theorem Following.migrateEach_cut (text : String) (h : Sound bot shelf.database)
    (hfollowing : Following bot source entries shelf.database) {k : Nat} (hk : k < entries.length)
    (moved : List (Int × Bool)) :
    ∃ database, Moves bot source target ((entries.take k).map (·.1)) shelf.database database ∧
      runBut text bot (migrateEach bot source target (entries.map (·.1)) moved) (some k) shelf =
        (.error (writeFailed text), none, { shelf with database }) := by
  induction entries generalizing shelf k moved with
  | nil => cases hk
  | cons entry rest ih =>
      obtain ⟨hrecord, hfollows⟩ := hfollowing.records entry List.mem_cons_self
      obtain ⟨hfresh, -⟩ := List.nodup_cons.mp hfollowing.nodup
      obtain ⟨first, hfirst, hfails, hedit⟩ := h.runBut_edit text hrecord hfollows htarget hne
      rw [List.map_cons]
      cases k with
      | zero => exact ⟨shelf.database, h.moves_none, runBut_migrateEach_error hfails moved⟩
      | succ k =>
          let after : Shelf := { shelf with database := first }
          obtain ⟨database, hmoves, hrun⟩ := ih (show Sound bot after.database from hfirst.sound)
            (hfollowing.rest h hfirst) (Nat.lt_of_succ_lt_succ hk) (moved ++ [(entry.1, _)])
          refine ⟨database, hfirst.trans h hmoves ?_, ?_⟩
          · rintro chat hchat hmem
            rw [List.mem_singleton.mp hchat] at hmem
            exact hfresh (List.map_subset _ (List.take_subset _ _) hmem)
          · rw [runBut_migrateEach_cons (hedit (some (k + 1)) (by simp))]
            exact hrun

end

/-- The records of the chats that follow a token, as the database lists them. -/
def recordsWith (source : Token) (bot : Int) (db : Database) : List (Int × Subscriber) :=
  match (store bot).records (db.list (store bot).codec.collection (store bot).bot) with
  | .ok records => records.filter fun record => record.2.follows source
  | .error _ => []

/-- The chats that follow a token, and whether they are enabled. -/
def followersEnabled (source : Token) (bot : Int) (db : Database) : List (Int × Bool) :=
  (recordsWith source bot db).map fun record => (record.1, record.2.enabled)

/-- Listing a sound database gives the record of every chat that has one. -/
theorem Sound.readAll {db : Database} (h : Sound bot db) :
    ∃ records, (store bot).records (db.list (store bot).codec.collection (store bot).bot) = .ok records ∧
      ∀ chat s, (chat, s) ∈ records ↔ recordOf bot chat db = .ok (some s) := by
  obtain ⟨records, hrecords, -⟩ := h.records
  have hlist : db.list (store bot).codec.collection (store bot).bot = .ok (rows bot db) := by
    change db.list Subscriber.codec.collection bot = _
    rw [Database.list, h.serves.begin]
    rfl
  rw [hlist] at hrecords ⊢
  refine ⟨records, hrecords, fun chat s => ?_⟩
  rw [(store bot).mem_records hrecords]
  constructor
  · rintro ⟨payload, hpayload, hread⟩
    obtain ⟨s', hs', -⟩ := h.wellFormed _ hpayload
    rw [decode_eq_ok hs'] at hread
    obtain rfl := Except.ok.inj hread
    exact h.record_of_row (h.ascending.get?_eq_some_iff.mpr hpayload) hs'
  · intro hrecord
    obtain ⟨-, payload, hrow, hs, -⟩ := h.row_of_record hrecord
    exact ⟨payload, Records.mem_of_get? hrow, decode_eq_ok hs⟩

theorem Sound.mem_recordsWith {db : Database} (h : Sound bot db) :
    (chat, s) ∈ recordsWith source bot db ↔ recordOf bot chat db = .ok (some s) ∧ s.follows source := by
  obtain ⟨records, hrecords, hmem⟩ := h.readAll
  rw [recordsWith, hrecords]
  simp only [List.mem_filter, hmem]

/-- The chats of these records are the followers of the token. -/
theorem Sound.map_recordsWith {db : Database} (h : Sound bot db) (source : Token) :
    (recordsWith source bot db).map (·.1) = followers bot db source := by
  obtain ⟨records, hrecords, -, hfollowers⟩ := h.records
  rw [recordsWith, hrecords]
  exact hfollowers source

theorem Sound.ascending_followersEnabled {db : Database} (h : Sound bot db) (source : Token) :
    ((followersEnabled source bot db).map (·.1)).Pairwise (· < ·) := by
  rw [followersEnabled, List.map_map]
  show ((recordsWith source bot db).map (·.1)).Pairwise (· < ·)
  rw [h.map_recordsWith]
  exact h.ascending.chatsWith _

theorem Sound.mem_followersEnabled {db : Database} (h : Sound bot db) {enabled : Bool} :
    (chat, enabled) ∈ followersEnabled source bot db ↔
      ∃ s, recordOf bot chat db = .ok (some s) ∧ s.follows source ∧ s.enabled = enabled := by
  rw [followersEnabled, List.mem_map]
  constructor
  · rintro ⟨record, hrecord, heq⟩
    obtain ⟨rfl, rfl⟩ := Prod.mk.inj heq
    obtain ⟨hread, hfollows⟩ := h.mem_recordsWith.mp hrecord
    exact ⟨record.2, hread, hfollows, rfl⟩
  · rintro ⟨s, hread, hfollows, rfl⟩
    exact ⟨(chat, s), h.mem_recordsWith.mpr ⟨hread, hfollows⟩, rfl⟩

theorem Sound.following {db : Database} (h : Sound bot db) : Following bot source (recordsWith source bot db) db where
  nodup := by
    rw [h.map_recordsWith]
    exact (h.ascending.chatsWith _).imp Int.ne_of_lt
  records := fun _ hentry => h.mem_recordsWith.mp hentry

/-- Making the index afresh writes no row, so no failing write comes in between. -/
theorem runBut_rebuild (text : String) (bot : Int) (due : Option Nat) (shelf : Shelf) :
    runBut text bot (rebuild bot) due shelf =
      (((store bot).runAlone (rebuild bot) shelf).1, due, ((store bot).runAlone (rebuild bot) shelf).2) := by
  simp only [runBut, runAlone, rebuild, Task.run, Store.all, Task.run_andThen, answerBut, answer]
  cases (store bot).records (shelf.database.list (store bot).codec.collection (store bot).bot) <;> rfl

/-- The move starts from the records that it finds, in ascending order of the chats. -/
theorem Sound.runBut_migrate (h : Sound bot shelf.database) (text : String) (source target : Token) (due : Option Nat) :
    runBut text bot (migrate bot source target) due shelf =
      runBut text bot ((migrateEach bot source target (followers bot shelf.database source) []).ifOk fun moved =>
        (rebuild bot).ifOk fun _ => .done (.ok moved)) due shelf := by
  obtain ⟨records, hrecords, -, hfollowers⟩ := h.records
  have hall : ((store bot).all.map fun result => result.mapError SubscriptionError.store).run
      (answerBut text (store bot).codec.collection (store bot).bot) (due, shelf) = (.ok records, due, shelf) := by
    rw [Task.run_map]
    simp only [Store.all, Task.run, answerBut, answer, hrecords]
    rfl
  rw [runBut, migrate, Task.run_ifOk, hall, ← hfollowers]
  rfl

section

variable (htarget : Token.parse target.key = .ok target) (hne : source ≠ target)

include htarget hne

/-- If no write fails before the end, everyone who follows the first token is moved, and the index is exact. -/
theorem Sound.migrate_whole (text : String) (h : Sound bot shelf.database) :
    ∃ after, Moves bot source target (followers bot shelf.database source) shelf.database after.database ∧
      Exact bot after ∧
      ∀ due : Option Nat, (∀ k ∈ due, (followers bot shelf.database source).length ≤ k) →
        runBut text bot (migrate bot source target) due shelf =
          (.ok (followersEnabled source bot shelf.database),
            due.map (· - (followers bot shelf.database source).length), after) := by
  rw [← h.map_recordsWith, List.length_map]
  obtain ⟨database, hmoves, heach⟩ := h.following.migrateEach_whole htarget hne text h []
  obtain ⟨entries, hrebuild, hexact⟩ := @Sound.run_rebuild bot { shelf with database } hmoves.sound
  refine ⟨_, hmoves, hexact, fun due hdue => ?_⟩
  have hmoved := heach due hdue
  have hafter := runBut_rebuild text bot (due.map (· - (recordsWith source bot shelf.database).length))
    { shelf with database }
  rw [hrebuild] at hafter
  rw [runBut] at hmoved hafter
  rw [h.runBut_migrate text source target, ← h.map_recordsWith, runBut, Task.run_ifOk, hmoved]
  simp only
  rw [Task.run_ifOk, hafter]
  rfl

/-- If a write fails before the end, those before it are moved, and the index is as it was. -/
theorem Sound.migrate_cut (text : String) (h : Sound bot shelf.database) {k : Nat}
    (hk : k < (followers bot shelf.database source).length) :
    ∃ database, Moves bot source target ((followers bot shelf.database source).take k) shelf.database database ∧
      runBut text bot (migrate bot source target) (some k) shelf =
        (.error (writeFailed text), none, { shelf with database }) := by
  rw [← h.map_recordsWith] at hk ⊢
  rw [List.length_map] at hk
  obtain ⟨database, hmoves, heach⟩ := h.following.migrateEach_cut htarget hne text h hk []
  rw [List.map_take] at hmoves
  refine ⟨database, hmoves, ?_⟩
  rw [runBut] at heach
  rw [h.runBut_migrate text source target, ← h.map_recordsWith, runBut, Task.run_ifOk, heach]

end

end Subscriptions

end ChainAlerts
