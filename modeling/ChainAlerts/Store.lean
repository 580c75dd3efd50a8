import ChainAlerts.Database
import ChainAlerts.SubscriberIndex
import ChainAlerts.Task

/-! One bot's records of one kind. A call is a task: it locks the chat whose record it changes, reads,
writes and unlocks, each as a request of its own, so that calls that run side by side interleave at
these points and nowhere else. A record that cannot be read, and a database that fails, are errors of
the store; other failures pass through it. -/

namespace ChainAlerts

/-- The kind of records a store holds: where they are kept, and their form as payloads. -/
structure Codec (ρ : Type) where
  collection : String
  decode : Json → Except Fault ρ
  encode : ρ → Except Fault Json

/-- The records of chats that follow tokens. -/
def Subscriber.codec : Codec Subscriber where
  collection := "buybot"
  decode := Subscriber.ofJson
  encode := Subscriber.write

/-- A store's own errors. -/
inductive StoreError where
  | corrupt (collection : String) (bot chat : Int) (cause : Fault)
  | read (collection cause : String)
  | write (collection cause : String)
  | list (collection cause : String)
  | remove (collection cause : String)

def StoreError.message : StoreError → String
  | .corrupt collection bot chat cause =>
    s!"Corrupt {collection} record for bot {bot} destination {chat}: {cause.message}"
  | .read collection cause => s!"Failed to read {collection} record: {cause}"
  | .write collection cause => s!"Failed to write {collection} record: {cause}"
  | .list collection cause => s!"Failed to list {collection} records: {cause}"
  | .remove collection cause => s!"Failed to remove {collection} record: {cause}"

inductive StoreFailure where
  | store (e : StoreError)
  | fault (cause : Fault)

def StoreFailure.message : StoreFailure → String
  | .store e => e.message
  | .fault cause => cause.message

namespace Store

/-- What a call asks for: the lock of a chat, its payload, all payloads, and the lock and the entries of
the bot's index. -/
inductive Request where
  | lock (chat : Int)
  | unlock (chat : Int)
  | read (chat : Int)
  | write (chat : Int) (payload : Json)
  | remove (chat : Int)
  | list
  | lockIndex
  | publish (entries : List (Token × List Int))
  | unlockIndex

def Request.Reply : Request → Type
  | .read _ | .remove _ => Except DatabaseError (Option Json)
  | .write .. => Except DatabaseError Unit
  | .list => Except DatabaseError Records
  | .lock _ | .unlock _ | .lockIndex | .publish _ | .unlockIndex => Unit

abbrev Call (α : Type) : Type := Task Request Request.Reply α

/-- What calls work on: the database and the index of the bot. -/
structure Shelf where
  database : Database := {}
  index : SubscriberIndex := {}

/-- Answers a request of a call that runs alone. -/
def answer (collection : String) (bot : Int) : (r : Request) → Shelf → r.Reply × Shelf
  | .lock _, s | .unlock _, s | .lockIndex, s | .unlockIndex, s => ((), s)
  | .read chat, s => (s.database.get collection bot chat, s)
  | .write chat payload, s =>
    match s.database.put collection bot chat payload with
    | .ok database => (.ok (), { s with database })
    | .error e => (.error e, s)
  | .remove chat, s =>
    match s.database.delete collection bot chat with
    | .ok (payload, database) => (.ok payload, { s with database })
    | .error e => (.error e, s)
  | .list, s => (s.database.list collection bot, s)
  | .publish entries, s => ((), { s with index := s.index.renew entries })

end Store

/-- One bot's records of one kind. -/
structure Store (ρ : Type) where
  codec : Codec ρ
  bot : Int

namespace Store

variable {ρ : Type} (s : Store ρ)

/-- Reads a chat's payload as a record. What makes it malformed is an error of the store; any other fault
passes. -/
def decode (chat : Int) (payload : Json) : Except StoreFailure ρ :=
  match s.codec.decode payload with
  | .ok r => .ok r
  | .error f =>
    .error (if f.isMalformed then .store (.corrupt s.codec.collection s.bot chat f) else .fault f)

/-- A failed transaction as the failure of a call. -/
def failure (error : String → String → StoreError) : DatabaseError → StoreFailure
  | .failed text => .store (error s.codec.collection text)
  | .fault cause => .fault cause

/-- What a read transaction came to, as a record. -/
def record? (chat : Int) : Except DatabaseError (Option Json) → Except StoreFailure (Option ρ)
  | .ok none => .ok none
  | .ok (some payload) => some <$> s.decode chat payload
  | .error e => .error (s.failure .read e)

/-- What listing the payloads came to, as records. -/
def records : Except DatabaseError Records → Except StoreFailure (List (Int × ρ))
  | .ok rows => rows.mapM fun (chat, payload) => do return (chat, ← s.decode chat payload)
  | .error e => .error (s.failure .list e)

/-- What removing a payload came to, as the record that was removed. The payload is gone even if it is no
record. -/
def removed (chat : Int) : Except DatabaseError (Option Json) → Except StoreFailure (Option ρ)
  | .ok none => .ok none
  | .ok (some payload) => some <$> s.decode chat payload
  | .error e => .error (s.failure .remove e)

/-- A chat's record. -/
def get (chat : Int) : Call (Except StoreFailure (Option ρ)) :=
  .ask (.read chat) fun reply => .done (s.record? chat reply)

/-- Stores a chat's record. What cannot be written is not stored. -/
def put (chat : Int) (r : ρ) : Call (Except StoreFailure Unit) :=
  match s.codec.encode r with
  | .ok payload =>
    .ask (.write chat payload) fun (reply : Except DatabaseError Unit) => .done (reply.mapError (s.failure .write))
  | .error f => .done (.error (.fault f))

/-- Every record, in ascending order of the chats. -/
def all : Call (Except StoreFailure (List (Int × ρ))) :=
  .ask .list fun reply => .done (s.records reply)

/-- Removes a chat's record and returns it. -/
def remove (chat : Int) : Call (Except StoreFailure (Option ρ)) :=
  .ask (.remove chat) fun reply => .done (s.removed chat reply)

/-- Why an edit failed: the store, or the change itself. -/
inductive EditFailure (ε : Type) where
  | store (cause : StoreFailure)
  | refused (cause : ε)

/-- Changes a chat's record while its lock is held. A chat without one is given the default, if there is
a default, and else is left alone. The result is the record as stored and what else the change
yields. -/
def edit {α ε : Type} (chat : Int) (default : Option ρ) (change : ρ → Except ε (ρ × α)) :
    Call (Except (EditFailure ε) (Option (ρ × α))) :=
  let finish (result : Except (EditFailure ε) (Option (ρ × α))) :
      Call (Except (EditFailure ε) (Option (ρ × α))) :=
    .ask (.unlock chat) fun _ => .done result
  .ask (.lock chat) fun _ =>
    (s.get chat).andThen fun
      | .error cause => finish (.error (.store cause))
      | .ok found =>
        match found.or default with
        | none => finish (.ok none)
        | some current =>
          match change current with
          | .error cause => finish (.error (.refused cause))
          | .ok (updated, extra) =>
            (s.put chat updated).andThen fun
              | .error cause => finish (.error (.store cause))
              | .ok _ => finish (.ok (some (updated, extra)))

/-- Runs a call that nothing else interferes with. -/
def runAlone {α : Type} (call : Call α) (shelf : Shelf) : α × Shelf :=
  call.run (answer s.codec.collection s.bot) shelf

end Store

end ChainAlerts
