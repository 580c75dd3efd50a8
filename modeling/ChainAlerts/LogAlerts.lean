import ChainAlerts.FilterLists
import ChainAlerts.TradeAlerts

/-! Notifications of one kind of log for all bots. There is no index: the filters of every chat are
tried, and each filter that accepts a log yields a notification of its own. -/

namespace ChainAlerts

/-- The bots that take part, in the order in which they were added, and what has happened so far. -/
structure LogAlerts where
  bots : List Int := []
  events : Nat := 0
  dispatched : Nat := 0
  storeErrors : Nat := 0

namespace LogAlerts

variable {log filter : Type} (kind : LogKind log filter)

/-- Lets a bot take part. -/
def addBot (bot : Int) (l : LogAlerts) : LogAlerts :=
  { l with bots := if bot ∈ l.bots then l.bots else l.bots ++ [bot] }

/-- The deliveries of a log to one chat: as many as filters accept it. -/
def spawnsFor (bot chat : Int) (filters : List filter) (entry : log) : Except Fault (List Spawn) := do
  return (← kind.matching filters entry).map fun _ => ⟨bot, chat, .ready (kind.notification chat entry)⟩

/-- The deliveries of a log to chats in order, until the filters of one cannot be tried. -/
def spawnsForAll (bot : Int) (entry : log) : List (Int × List filter) → List Spawn × Option Fault
  | [] => ([], none)
  | (chat, filters) :: rest =>
    match spawnsFor kind bot chat filters entry with
    | .error f => ([], some f)
    | .ok spawns =>
      let (more, fault) := spawnsForAll bot entry rest
      (spawns ++ more, fault)

/-- The lists of filters of a bot. -/
def lists (bot : Int) (database : Database) : Except StoreFailure (List (Int × List filter)) :=
  let store := FilterLists.store kind bot
  store.records (database.list store.codec.collection bot)

/-- Hands a log to bots in order. A bot whose records cannot be read is passed over; other faults end the
handling. -/
def handleFor (database : Database) (entry : log) :
    List Int → LogAlerts → (Option Fault × List Spawn) × LogAlerts
  | [], l => ((none, []), l)
  | bot :: rest, l =>
    match lists kind bot database with
    | .error (.store _) => handleFor database entry rest { l with storeErrors := l.storeErrors + 1 }
    | .error (.fault f) => ((some f, []), l)
    | .ok lists =>
      let (spawns, fault) := spawnsForAll kind bot entry lists
      let l := { l with dispatched := l.dispatched + spawns.length }
      match fault with
      | some f => ((some f, spawns), l)
      | none =>
        let ((fault, more), l) := handleFor database entry rest l
        ((fault, spawns ++ more), l)

def handle (database : Database) (entry : log) (l : LogAlerts) : (Option Fault × List Spawn) × LogAlerts :=
  handleFor kind database entry l.bots { l with events := l.events + 1 }

end LogAlerts

end ChainAlerts
