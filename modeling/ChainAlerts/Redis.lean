import ChainAlerts.Assoc
import ChainAlerts.Text.Digit
import ChainAlerts.Task

/-! The shared store of counters and cached texts. Each command is atomic; a command that fails
changes nothing. Expiry is kept as the last one set on a key, and no command makes a key go away: keys
lapse in a step of their own. What is said of counters over time allows for such steps; all that is said
elsewhere is about a store in which no key lapses. -/

namespace ChainAlerts.Redis

/-- What a key holds: a counter or a text. -/
inductive Value where
  | count (n : Int)
  | text (s : String)
  deriving DecidableEq, Repr

def Value.show : Value → String
  | .count n => Text.intText n
  | .text s => s

/-- A value with the expiry last set on it, in seconds. -/
structure Cell where
  value : Value
  expiry : Option Int := none
  deriving DecidableEq, Repr

inductive Command where
  | get | set | incr | expire
  deriving DecidableEq, Repr

/-- A command with its arguments. Claiming a key sets it only if it is not there. -/
inductive Request where
  | get (key : String)
  | set (key text : String) (expiry : Int)
  | claim (key : String) (expiry : Int)
  | incr (key : String)
  | expire (key : String) (seconds : Int)
  deriving DecidableEq, Repr

def Request.command : Request → Command
  | .get _ => .get
  | .set .. | .claim .. => .set
  | .incr _ => .incr
  | .expire .. => .expire

abbrev Request.Result : Request → Type
  | .get _ => Option String
  | .set .. => Unit
  | .claim .. => Bool
  | .incr _ => Int
  | .expire .. => Unit

inductive Failure where
  | down
  deriving DecidableEq, Repr

def Failure.message : Failure → String
  | .down => "redis down"

abbrev Request.Reply (r : Request) : Type := Except Failure r.Result

/-- The contents of the store and the commands that fail at present. -/
structure State where
  cells : List (String × Cell) := []
  failing : List Command := []
  deriving Repr

namespace State

def cell? (s : State) (key : String) : Option Cell := Assoc.get? key s.cells

def put (s : State) (key : String) (cell : Cell) : State := { s with cells := Assoc.put key cell s.cells }

/-- The number that a key counts to; a key that counts nothing is at zero. -/
def count (s : State) (key : String) : Int :=
  match s.cell? key with
  | some { value := .count n, .. } => n
  | _ => 0

/-- Carries out a command that does not fail. -/
def perform (s : State) : (r : Request) → r.Result × State
  | .get key => ((s.cell? key).map (·.value.show), s)
  | .set key text expiry => ((), s.put key ⟨.text text, some expiry⟩)
  | .claim key expiry =>
    match s.cell? key with
    | some _ => (false, s)
    | none => (true, s.put key ⟨.text "1", some expiry⟩)
  | .incr key =>
    let n := s.count key + 1
    (n, s.put key ⟨.count n, (s.cell? key).bind (·.expiry)⟩)
  | .expire key seconds =>
    match s.cell? key with
    | some cell => ((), s.put key { cell with expiry := some seconds })
    | none => ((), s)

/-- Carries out a command, or fails without a change. -/
def answer (r : Request) (s : State) : r.Reply × State :=
  if r.command ∈ s.failing then (.error .down, s)
  else let (result, s') := s.perform r; (.ok result, s')

/-- Whether a key goes away by itself. -/
def expires (s : State) (key : String) : Bool := ((s.cell? key).bind (·.expiry)).isSome

/-- The store after the time of some keys has run out. Only a key with an expiry goes away. -/
def lapse (keys : List String) (s : State) : State :=
  { s with cells := s.cells.filter fun entry => ¬(entry.1 ∈ keys ∧ s.expires entry.1) }

end State

end ChainAlerts.Redis
