import ChainAlerts.Subscriptions
import ChainAlerts.Proofs.RecordCodecs
import ChainAlerts.Proofs.Rows

/-! What a call on a bot's records does when nothing interferes with it. A database is sound for a bot if it
serves, lists its rows in order, and holds well-formed records only. An edit of a sound database either
changes nothing or stores one well-formed record, and the database is sound again. -/

namespace ChainAlerts

namespace Task

variable {ρ : Type} {reply : ρ → Type} {α β σ : Type} (answer : (r : ρ) → σ → reply r × σ)

theorem run_map (f : α → β) (t : Task ρ reply α) (s : σ) :
    (t.map f).run answer s = (f (t.run answer s).1, (t.run answer s).2) := run_andThen answer t _ s

theorem run_ifOk {ε : Type} (t : Task ρ reply (Except ε α)) (f : α → Task ρ reply (Except ε β)) (s : σ) :
    (t.ifOk f).run answer s =
      match t.run answer s with
      | (.ok a, s') => (f a).run answer s'
      | (.error e, s') => (.error e, s') := by
  rw [ifOk, run_andThen]
  cases h : t.run answer s with
  | mk result s' => cases result <;> rfl

theorem ifOk_assoc {γ ε : Type} (t : Task ρ reply (Except ε α)) (f : α → Task ρ reply (Except ε β))
    (g : β → Task ρ reply (Except ε γ)) : (t.ifOk f).ifOk g = t.ifOk fun a => (f a).ifOk g := by
  induction t with
  | done result => cases result <;> rfl
  | ask r next ih => exact congrArg (Task.ask r) (funext fun a => ih a)

end Task

namespace Database

/-- A database that serves the requests of a bot. -/
structure Serves (db : Database) (bot : Int) : Prop where
  works : db.failure = none
  hasTable : db.hasSchema
  bot_fits : fits bot

theorem Serves.begin {db : Database} {bot : Int} (h : db.Serves bot) (keys : List Int) :
    db.begin (bot :: keys) = if keys.all fits then .ok () else .error (.fault .rowKeyTooLarge) := by
  rw [Database.begin, h.works]
  simp [h.hasTable, h.bot_fits]

theorem records_withRecords (db : Database) (collection : String) (bot : Int) (rows : Records) :
    (db.withRecords collection bot rows).records collection bot = rows := by
  simp [withRecords, records]

/-- Other payloads of one collection and bot leave those of every other pair as they are. -/
theorem records_withRecords_of_ne {collection other : String} {bot otherBot : Int}
    (h : ¬(other = collection ∧ otherBot = bot)) (db : Database) (rows : Records) :
    (db.withRecords collection bot rows).records other otherBot = db.records other otherBot := by
  have hkey : (other, otherBot) ≠ (collection, bot) := fun heq => h (Prod.mk.inj heq)
  rw [records, records, withRecords, Assoc.get?_put_of_ne hkey]

theorem Serves.withRecords {db : Database} {bot : Int} (h : db.Serves bot) (collection : String)
    (rows : Records) : (db.withRecords collection bot rows).Serves bot := ⟨h.works, h.hasTable, h.bot_fits⟩

/-- Storing an object in a transaction that begins changes nothing or the row of one chat. -/
theorem put_obj {db : Database} {collection : String} {bot chat : Int} {fields : List (String × Json)}
    (h : db.begin [bot, chat] = .ok ()) :
    db.put collection bot chat (.obj fields) = .ok (
      if isStored (db.records collection bot) chat (.obj fields) then db
      else db.withRecords collection bot ((db.records collection bot).put chat (.obj fields))) := by
  rw [put, h, except_ok_bind]
  simp only
  split <;> rfl

end Database

namespace Store

/-- An edit alone, step by step. -/
theorem run_edit {ρ α ε : Type} (s : Store ρ) (chat : Int) (default : Option ρ) (change : ρ → Except ε (ρ × α))
    (shelf : Shelf) :
    s.runAlone (s.edit chat default change) shelf =
      match s.record? chat (shelf.database.get s.codec.collection s.bot chat) with
      | .error cause => (.error (.store cause), shelf)
      | .ok found =>
        match found.or default with
        | none => (.ok none, shelf)
        | some current =>
          match change current with
          | .error cause => (.error (.refused cause), shelf)
          | .ok (updated, extra) =>
            match s.runAlone (s.put chat updated) shelf with
            | (.error cause, shelf') => (.error (.store cause), shelf')
            | (.ok _, shelf') => (.ok (some (updated, extra)), shelf') := by
  simp only [runAlone, Store.edit, Task.run, answer, Task.run_andThen, Store.get]
  cases s.record? chat (shelf.database.get s.codec.collection s.bot chat) with
  | error cause => rfl
  | ok found =>
      simp only
      cases found.or default with
      | none => rfl
      | some current =>
          simp only
          cases change current with
          | error cause => rfl
          | ok result =>
              simp only [Task.run_andThen]
              cases (s.put chat result.1).run (answer s.codec.collection s.bot) shelf with
              | mk outcome shelf' => cases outcome <;> rfl

end Store

namespace Subscriptions

open Store

def rows (bot : Int) (db : Database) : Records := db.records Subscriber.codec.collection bot

/-- A database whose records of a bot can be read and changed. -/
structure Sound (bot : Int) (db : Database) : Prop where
  serves : db.Serves bot
  ascending : (rows bot db).Ascending
  fits : ∀ row ∈ rows bot db, Database.fits row.1
  wellFormed : ∀ row ∈ rows bot db, ∃ s, Subscriber.ofJson row.2 = .ok s ∧ s.WellFormed

variable {bot chat : Int} {db : Database} {shelf : Shelf}

theorem decode_eq_ok {payload : Json} {s : Subscriber} (h : Subscriber.ofJson payload = .ok s) :
    (store bot).decode chat payload = .ok s := by
  have hdecode : (store bot).codec.decode payload = .ok s := h
  rw [Store.decode, hdecode]

def recordOf (bot chat : Int) (db : Database) : Except StoreFailure (Option Subscriber) :=
  (store bot).record? chat (db.get (store bot).codec.collection (store bot).bot chat)

/-- A sound database has no record of a chat, or the well-formed record in its row. -/
theorem Sound.recordOf_cases (h : Sound bot db) (hchat : Database.fits chat) :
    (Records.get? chat (rows bot db) = none ∧ recordOf bot chat db = .ok none) ∨
    ∃ payload s, Records.get? chat (rows bot db) = some payload ∧ Subscriber.ofJson payload = .ok s ∧
      s.WellFormed ∧ recordOf bot chat db = .ok (some s) := by
  have hget : db.get (store bot).codec.collection (store bot).bot chat =
      .ok (Records.get? chat (rows bot db)) := by
    change db.get Subscriber.codec.collection bot chat = _
    rw [Database.get, h.serves.begin]
    simp [hchat, rows]
  rw [recordOf, hget]
  cases hfound : Records.get? chat (rows bot db) with
  | none => exact Or.inl ⟨rfl, rfl⟩
  | some payload =>
      obtain ⟨s, hs, hwell⟩ := h.wellFormed _ (Records.mem_of_get? hfound)
      refine Or.inr ⟨payload, s, rfl, hs, hwell, ?_⟩
      rw [record?, decode_eq_ok hs]
      rfl

theorem recordOf_of_not_fits (h : db.Serves bot) (hchat : Database.fits chat = false) :
    recordOf bot chat db = .error (.fault .rowKeyTooLarge) := by
  have hget : db.get (store bot).codec.collection (store bot).bot chat = .error (.fault .rowKeyTooLarge) := by
    change db.get Subscriber.codec.collection bot chat = _
    rw [Database.get, h.begin]
    simp only [List.all_cons, List.all_nil, hchat]
    rfl
  rw [recordOf, hget]
  rfl

@[simp] theorem rows_withRecords (bot : Int) (db : Database) (records : Records) :
    rows bot (db.withRecords Subscriber.codec.collection bot records) = records :=
  Database.records_withRecords db _ bot records

/-- Other rows in place of a bot's, each of which fits and holds a well-formed record, are as sound. -/
theorem Sound.withRows (h : Sound bot db) {records : Records} (hascending : records.Ascending)
    (hrows : ∀ row ∈ records, Database.fits row.1 ∧ ∃ s, Subscriber.ofJson row.2 = .ok s ∧ s.WellFormed) :
    Sound bot (db.withRecords Subscriber.codec.collection bot records) where
  serves := h.serves.withRecords _ _
  ascending := by
    rw [rows_withRecords]
    exact hascending
  fits := by
    intro row hrow
    rw [rows_withRecords] at hrow
    exact (hrows row hrow).1
  wellFormed := by
    intro row hrow
    rw [rows_withRecords] at hrow
    exact (hrows row hrow).2

/-- A change of the database that stores one record: the row is written, or a row that says the same is
kept. -/
def Stores (bot chat : Int) (r : Subscriber) (db db' : Database) : Prop :=
  db' = db ∨ rows bot db' = (rows bot db).put chat r.toJson

theorem Sound.put (h : Sound bot db) (hchat : Database.fits chat) {r : Subscriber} (hr : r.WellFormed) :
    ∃ db', db.put Subscriber.codec.collection bot chat r.toJson = .ok db' ∧ Sound bot db' ∧
      Stores bot chat r db db' := by
  have hbegin : db.begin [bot, chat] = .ok () := by
    rw [h.serves.begin]
    simp [hchat]
  have hput : db.put Subscriber.codec.collection bot chat r.toJson = .ok (
      if Database.isStored (rows bot db) chat r.toJson then db
      else db.withRecords Subscriber.codec.collection bot ((rows bot db).put chat r.toJson)) :=
    Database.put_obj hbegin
  by_cases hsame : Database.isStored (rows bot db) chat r.toJson
  · exact ⟨db, hput.trans (by rw [if_pos hsame]), h, Or.inl rfl⟩
  · refine ⟨_, hput.trans (by rw [if_neg hsame]), ?_, Or.inr (rows_withRecords _ _ _)⟩
    refine h.withRows h.ascending.put fun row hrow => ?_
    rcases Records.mem_put hrow with rfl | hrow
    · exact ⟨hchat, r, Subscriber.ofJson_toJson hr, hr⟩
    · exact ⟨h.fits row hrow, h.wellFormed row hrow⟩

theorem run_put {r : Subscriber} {db' : Database} (hr : r.isWritable)
    (hput : shelf.database.put Subscriber.codec.collection bot chat r.toJson = .ok db') :
    (store bot).runAlone ((store bot).put chat r) shelf = (.ok (), { shelf with database := db' }) := by
  have hencode : (store bot).codec.encode r = .ok r.toJson := if_pos hr
  have hanswer : answer (store bot).codec.collection (store bot).bot (.write chat r.toJson) shelf =
      (.ok (), { shelf with database := db' }) := by
    simp only [answer, store, hput]
  rw [Store.put, hencode, runAlone]
  simp only [Task.run, hanswer]
  rfl

theorem run_put_unwritable {r : Subscriber} (hr : r.isWritable = false) :
    (store bot).runAlone ((store bot).put chat r) shelf = (.error (.fault .tooLongToWrite), shelf) := by
  have hencode : (store bot).codec.encode r = .error .tooLongToWrite := by
    change r.write = _
    rw [Subscriber.write, hr]
    rfl
  rw [Store.put, hencode]
  rfl

theorem run_remove {found : Option Json} {db' : Database}
    (hdelete : shelf.database.delete Subscriber.codec.collection bot chat = .ok (found, db')) :
    (store bot).runAlone ((store bot).remove chat) shelf =
      ((store bot).removed chat (.ok found), { shelf with database := db' }) := by
  have hanswer : answer (store bot).codec.collection (store bot).bot (.remove chat) shelf =
      (.ok found, { shelf with database := db' }) := by
    simp only [answer, store, hdelete]
  simp only [runAlone, Store.remove, Task.run, hanswer]

theorem run_remove_of_not_fits (h : shelf.database.Serves bot) (hchat : Database.fits chat = false) :
    (store bot).runAlone ((store bot).remove chat) shelf = (.error (.fault .rowKeyTooLarge), shelf) := by
  have hanswer : answer (store bot).codec.collection (store bot).bot (.remove chat) shelf =
      (.error (.fault .rowKeyTooLarge), shelf) := by
    simp only [answer, store, Database.delete, h.begin, List.all_cons, hchat]
    rfl
  simp only [runAlone, Store.remove, Task.run, hanswer]
  rfl

/-- Removing a chat's row from a sound database leaves it sound and the rows of the others as they are; what was
in the row can be read. -/
theorem Sound.delete (h : Sound bot db) (hchat : Database.fits chat) :
    ∃ db', db.delete Subscriber.codec.collection bot chat = .ok (Records.get? chat (rows bot db), db') ∧
      Sound bot db' ∧ ∀ other, other ≠ chat → Records.get? other (rows bot db') = Records.get? other (rows bot db) := by
  have hbegin : db.begin [bot, chat] = .ok () := by
    rw [h.serves.begin]
    simp [hchat]
  cases hfound : Records.get? chat (rows bot db) with
  | none =>
      have hdelete : db.delete Subscriber.codec.collection bot chat = .ok (none, db) := by
        rw [rows] at hfound
        simp only [Database.delete, hbegin, except_ok_bind, hfound]
        rfl
      exact ⟨db, hdelete, h, fun _ _ => rfl⟩
  | some payload =>
      have hdelete : db.delete Subscriber.codec.collection bot chat = .ok (some payload,
          db.withRecords Subscriber.codec.collection bot ((rows bot db).erase chat)) := by
        rw [rows] at hfound
        simp only [Database.delete, hbegin, except_ok_bind, hfound]
        rfl
      refine ⟨_, hdelete, h.withRows h.ascending.erase fun row hrow => ?_, fun other hother => ?_⟩
      · have hmem := Records.mem_of_mem_erase hrow
        exact ⟨h.fits row hmem, h.wellFormed row hmem⟩
      · rw [rows_withRecords]
        exact Records.get?_erase_of_ne hother _

/-- Removing a chat's row from a sound database succeeds and leaves it sound; what was in it can be read. -/
theorem Sound.run_remove (h : Sound bot shelf.database) (chat : Int) :
    (∃ cause, (store bot).runAlone ((store bot).remove chat) shelf = (.error cause, shelf)) ∨
    ∃ removed database, (store bot).runAlone ((store bot).remove chat) shelf =
      (.ok removed, { shelf with database }) ∧
      Sound bot database := by
  cases hchat : Database.fits chat with
  | false => exact Or.inl ⟨_, run_remove_of_not_fits h.serves hchat⟩
  | true =>
      obtain ⟨db', hdelete, hsound, -⟩ := h.delete hchat
      right
      cases hfound : Records.get? chat (rows bot shelf.database) with
      | none =>
          rw [hfound] at hdelete
          exact ⟨none, db', Subscriptions.run_remove hdelete, hsound⟩
      | some payload =>
          rw [hfound] at hdelete
          obtain ⟨s, hs, -⟩ := h.wellFormed _ (Records.mem_of_get? hfound)
          have hremoved : (store bot).removed chat (.ok (some payload)) = .ok (some s) := by
            rw [Store.removed, decode_eq_ok hs]
            rfl
          exact ⟨some s, db', (Subscriptions.run_remove hdelete).trans (by rw [hremoved]), hsound⟩

/-- The record that an edit starts from: the one that the chat has, or the default of a chat that has none. -/
def StartsFrom (bot chat : Int) (default : Option Subscriber) (db : Database) (r : Subscriber) : Prop :=
  (∃ payload, Records.get? chat (rows bot db) = some payload ∧ Subscriber.ofJson payload = .ok r) ∨
    Records.get? chat (rows bot db) = none ∧ default = some r

/-- What an edit of a sound database can come to. It fails if the chat is no key, or if the change refuses a
record or makes one of it that cannot be written; it finds nothing to change; or it stores what the change makes
of a record. -/
inductive EditOutcome {α ε ε' : Type} (bot chat : Int) (default : Option Subscriber)
    (change : Subscriber → Except ε (Subscriber × α)) (shelf : Shelf) :
    Except ε' (Option (Subscriber × α)) × Shelf → Prop where
  | failed {cause} (h : Database.fits chat = false ∨ ∃ current, current.WellFormed ∧
      ∀ updated extra, change current = .ok (updated, extra) → updated.isWritable = false) :
    EditOutcome bot chat default change shelf (.error cause, shelf)
  | absent : EditOutcome bot chat default change shelf (.ok none, shelf)
  | stored {current updated extra database} (start : StartsFrom bot chat default shelf.database current)
    (update : change current = .ok (updated, extra)) (wellFormed : updated.WellFormed)
    (sound : Sound bot database) (stores : Stores bot chat updated shelf.database database) :
    EditOutcome bot chat default change shelf (.ok (some (updated, extra)), { shelf with database })

theorem EditOutcome.mapError {α ε ε' δ : Type} {default : Option Subscriber}
    {change : Subscriber → Except ε (Subscriber × α)} {out : Except ε' (Option (Subscriber × α)) × Shelf}
    (h : EditOutcome bot chat default change shelf out) (f : ε' → δ) :
    EditOutcome bot chat default change shelf (out.1.mapError f, out.2) := by
  cases h with
  | failed h => exact .failed h
  | absent => exact .absent
  | stored start update wellFormed sound stores => exact .stored start update wellFormed sound stores

/-- A change that makes well-formed records of well-formed ones, as far as what it makes can be written. -/
def Keeps {α ε : Type} (change : Subscriber → Except ε (Subscriber × α)) : Prop :=
  ∀ r updated extra, r.WellFormed → change r = .ok (updated, extra) → updated.isWritable → updated.WellFormed

/-- What an edit starts from in a sound database is well-formed if the default is. -/
theorem Sound.startsFrom (h : Sound bot db) (hchat : Database.fits chat) {default : Option Subscriber}
    (hdefault : ∀ r ∈ default, r.WellFormed) :
    ∃ found, recordOf bot chat db = .ok found ∧
      ∀ r, found.or default = some r → r.WellFormed ∧ StartsFrom bot chat default db r := by
  obtain ⟨hnone, hget⟩ | ⟨payload, s, hsome, hs, hwell, hget⟩ := h.recordOf_cases hchat
  · exact ⟨none, hget, fun r hr => ⟨hdefault r hr, Or.inr ⟨hnone, hr⟩⟩⟩
  · refine ⟨some s, hget, fun r hr => ?_⟩
    obtain rfl := Option.some.inj hr
    exact ⟨hwell, Or.inl ⟨payload, hsome, hs⟩⟩

theorem Sound.edit_outcome {α ε : Type} {default : Option Subscriber}
    {change : Subscriber → Except ε (Subscriber × α)}
    (h : Sound bot shelf.database) (hdefault : ∀ r ∈ default, r.WellFormed) (hchange : Keeps change) :
    EditOutcome bot chat default change shelf
      ((store bot).runAlone ((store bot).edit chat default change) shelf) := by
  have hrun := Store.run_edit (store bot) chat default change shelf
  rw [← recordOf] at hrun
  rw [hrun]
  cases hchat : Database.fits chat with
  | false =>
      rw [recordOf_of_not_fits h.serves hchat]
      exact .failed (Or.inl hchat)
  | true =>
      obtain ⟨found, hfound, hstart⟩ := h.startsFrom hchat hdefault
      simp only [hfound]
      cases hcurrent : found.or default with
      | none => exact .absent
      | some current =>
          obtain ⟨hwell, hstarts⟩ := hstart current hcurrent
          cases hupdate : change current with
          | error cause =>
              simp only [hupdate]
              exact .failed (Or.inr ⟨current, hwell, by simp [hupdate]⟩)
          | ok update =>
              obtain ⟨updated, extra⟩ := update
              cases hwritable : updated.isWritable with
              | false =>
                  simp only [hupdate, run_put_unwritable hwritable]
                  refine .failed (Or.inr ⟨current, hwell, fun other extra' heq => ?_⟩)
                  rw [hupdate] at heq
                  obtain ⟨rfl, -⟩ := Prod.mk.inj (Except.ok.inj heq)
                  exact hwritable
              | true =>
                  have hupdated := hchange current updated extra hwell hupdate hwritable
                  obtain ⟨db', hput, hsound, hstores⟩ := h.put hchat hupdated
                  simp only [hupdate, run_put hwritable hput]
                  exact .stored hstarts hupdate hupdated hsound hstores

/-- An edit as a call of a chat comes to the same, with its failures in other words. -/
theorem Sound.attempt_outcome {α : Type} {default : Option Subscriber}
    {change : Subscriber → Except SubscriptionError (Subscriber × α)} (h : Sound bot shelf.database)
    (chat : Int) (hdefault : ∀ r ∈ default, r.WellFormed) (hchange : Keeps change) :
    EditOutcome bot chat default change shelf ((store bot).runAlone (edit bot chat default change) shelf) := by
  rw [runAlone, edit, Task.run_map]
  exact (h.edit_outcome hdefault hchange).mapError ofEdit

end Subscriptions

end ChainAlerts
