import ChainAlerts.Fault
import ChainAlerts.Json.Alike

/-! The table in which subscribers are kept: for each collection and bot the payload of every chat, in
ascending order of the chats. Each operation is a transaction of its own, so one that fails changes
nothing. The main statements say what a look-up finds after each change. -/

namespace ChainAlerts

/-- The payloads of one collection and one bot, by chat, in ascending order. -/
abbrev Records : Type := List (Int × Json)

namespace Records

def get? (chat : Int) (records : Records) : Option Json := Assoc.get? chat records

/-- Stores a chat's payload in place of any it had. -/
def put (chat : Int) (payload : Json) : Records → Records
  | [] => [(chat, payload)]
  | (other, p) :: rest =>
    if chat < other then (chat, payload) :: (other, p) :: rest
    else if chat = other then (chat, payload) :: rest
    else (other, p) :: put chat payload rest

def erase (chat : Int) (records : Records) : Records := Assoc.erase chat records

@[simp] theorem get?_put_self (chat : Int) (payload : Json) (records : Records) :
    get? chat (put chat payload records) = some payload := by
  induction records with
  | nil => simp [get?, put]
  | cons entry rest ih =>
    by_cases hlt : chat < entry.1
    · simp [get?, put, hlt]
    · by_cases heq : chat = entry.1
      · simp [get?, put, heq]
      · have hne : ¬ entry.1 = chat := fun e => heq e.symm
        simpa [get?, put, Assoc.get?, hlt, heq, hne] using ih

theorem get?_put_of_ne {chat other : Int} (h : other ≠ chat) (payload : Json) (records : Records) :
    get? other (put chat payload records) = get? other records := by
  have hne : ¬ chat = other := fun e => h e.symm
  induction records with
  | nil => simp [get?, put, Assoc.get?, hne]
  | cons entry rest ih =>
    by_cases hlt : chat < entry.1
    · simp [get?, put, Assoc.get?, hlt, hne]
    · by_cases heq : chat = entry.1
      · have : ¬ entry.1 = other := fun e => h (heq.trans e).symm
        simp [get?, put, Assoc.get?, heq, this]
      · by_cases ho : entry.1 = other
        · have h1 : ¬ chat < other := ho ▸ hlt
          simp [get?, put, Assoc.get?, h1, hne, ho]
        · simpa [get?, put, Assoc.get?, hlt, heq, ho] using ih

@[simp] theorem get?_erase_self (chat : Int) (records : Records) : get? chat (erase chat records) = none :=
  Assoc.get?_erase_self chat records

theorem get?_erase_of_ne {chat other : Int} (h : other ≠ chat) (records : Records) :
    get? other (erase chat records) = get? other records :=
  Assoc.get?_erase_of_ne h records

end Records

/-- The failure of a transaction: of the database itself, or because of what it was given. -/
inductive DatabaseError where
  | failed (text : String)
  | fault (cause : Fault)

/-- The table, and what is wrong with the database at present. -/
structure Database where
  tables : List ((String × Int) × Records) := []
  failure : Option String := none
  hasSchema : Bool := true

namespace Database

/-- What a transaction reports when the table is not there. -/
def noTable : String := "no such table: subscribers"

/-- The payloads of a collection and a bot. -/
def records (db : Database) (collection : String) (bot : Int) : Records :=
  (Assoc.get? (collection, bot) db.tables).getD []

/-- The same table with other payloads for a collection and a bot. -/
def withRecords (db : Database) (collection : String) (bot : Int) (records : Records) : Database :=
  { db with tables := Assoc.put (collection, bot) records db.tables }

/-- Half the number of keys, `2 ^ 63`. -/
def keyBound : Int := 9223372036854775808

/-- Whether a number fits into a key of 64 bits. -/
def fits (n : Int) : Bool := -keyBound ≤ n && n < keyBound

/-- Begins a transaction on the given keys. -/
def begin (db : Database) (keys : List Int) : Except DatabaseError Unit :=
  match db.failure with
  | some text => .error (.failed text)
  | none =>
    if !db.hasSchema then .error (.failed noTable)
    else if keys.all fits then .ok ()
    else .error (.fault .rowKeyTooLarge)

def get (db : Database) (collection : String) (bot chat : Int) : Except DatabaseError (Option Json) := do
  db.begin [bot, chat]
  return (db.records collection bot).get? chat

/-- Whether a payload says the same as the one that is stored. -/
def isStored (records : Records) (chat : Int) (payload : Json) : Bool :=
  match records.get? chat with
  | some stored => payload.alike stored
  | none => false

/-- Stores an object as the payload of a chat. A payload that says the same as the stored one leaves that
one in place, with its own order of fields. -/
def put (db : Database) (collection : String) (bot chat : Int) (payload : Json) :
    Except DatabaseError Database := do
  db.begin [bot, chat]
  match payload with
  | .obj _ =>
    let records := db.records collection bot
    if isStored records chat payload then return db
    else return db.withRecords collection bot (records.put chat payload)
  | _ => throw (.fault .notPairs)

def list (db : Database) (collection : String) (bot : Int) : Except DatabaseError Records := do
  db.begin [bot]
  return db.records collection bot

/-- Removes a chat's payload and returns it. -/
def delete (db : Database) (collection : String) (bot chat : Int) :
    Except DatabaseError (Option Json × Database) := do
  db.begin [bot, chat]
  let records := db.records collection bot
  match records.get? chat with
  | none => return (none, db)
  | some payload => return (some payload, db.withRecords collection bot (records.erase chat))

end Database

end ChainAlerts
