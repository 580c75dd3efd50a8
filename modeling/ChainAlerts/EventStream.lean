import ChainAlerts.Json.Reading
import ChainAlerts.Number.Num
import ChainAlerts.Text.Blank

/-! A stream of events from the indexer. A message is a list of events, which are handed to a callback one
by one; a callback that fails is counted and the next event follows. When the connection drops the stream
connects again, after a delay that doubles with each failure up to a maximum and starts over once a
connection stands. -/

namespace ChainAlerts

/-- Where a stream stands. -/
inductive ConnectionState where
  | disconnected | connecting | connected | reconnecting
  deriving DecidableEq, Repr

def ConnectionState.name : ConnectionState → String
  | .disconnected => "disconnected"
  | .connecting => "connecting"
  | .connected => "connected"
  | .reconnecting => "reconnecting"

/-- What a stream has seen. -/
structure StreamStats where
  messages : Nat := 0
  events : Nat := 0
  staleEvents : Nat := 0
  callbackErrors : Nat := 0
  reconnects : Nat := 0
  lastMessage : Option Num := none
  connectedSince : Option Num := none
  lastError : Option String := none
  deriving DecidableEq, Repr

/-- A stream of one kind of event on one network. States are announced in the order in which they are
entered. -/
structure EventStream where
  url : String
  pingInterval : Num := .int 30
  maxDelay : Num := .int 30
  firstDelay : Num := .int 1
  staleAfter : Num := .int 60
  state : ConnectionState := .disconnected
  stats : StreamStats := {}
  announced : List ConnectionState := []
  running : Bool := false
  hasSocket : Bool := false
  deriving DecidableEq, Repr

/-- What makes a stream connect again. -/
inductive StreamFailure where
  | unreachable (url cause : String)
  | notSubscribed
  | closed
  | badMessage (cause : Fault)

def StreamFailure.message : StreamFailure → String
  | .unreachable url cause => s!"Failed to connect to {url}: {cause}"
  | .notSubscribed => "send failed"
  | .closed => "no close frame received or sent"
  | .badMessage cause => cause.message

namespace EventStream

/-- Where the stream of a kind of event on a network is found. -/
def address (base kind : String) (testnet : Bool) : String :=
  Text.dropTrailingChar '/' base ++ "/" ++ (if testnet then "events-testnet" else "events") ++ "/" ++ kind

/-- What a stream asks for: every event. -/
def subscription : String := "\x7b\"And\": []\x7d"

/-- Enters a state, and announces it if it is another one than before. -/
def enter (s : EventStream) (state : ConnectionState) : EventStream :=
  if s.state = state then s else { s with state, announced := s.announced ++ [state] }

def count (s : EventStream) (change : StreamStats → StreamStats) : EventStream :=
  { s with stats := change s.stats }

def nanoseconds : Int := 1000000000

/-- Whether an event is older than the stream should be behind. An event without a readable time is not. -/
def isStale (s : EventStream) (now : Num) (event : Json) : Except Fault Bool := do
  let time ← event.fieldOrNull "block_timestamp_nanosec"
  if time.isNull then return false
  match time.integerOfText with
  | .error _ => return false
  | .ok n =>
    match Double.ofQuotient? n nanoseconds with
    | none => throw .quotientTooLarge
    | some seconds => return s.staleAfter.lt (.float (now.toDouble.sub seconds))

variable {σ : Type}

/-- A callback: it tells whether it succeeded, and may change everything. -/
abbrev Callback (σ : Type) : Type := Json → EventStream × σ → Bool × (EventStream × σ)

/-- Hands one event to the callback. An event whose age cannot be computed breaks the message off. -/
def handle (now : Num) (onEvent : Callback σ) (event : Json) (s : EventStream × σ) :
    Option Fault × (EventStream × σ) :=
  let stream := s.1.count fun c => { c with events := c.events + 1 }
  match stream.isStale now event with
  | .error f => (some f, (stream, s.2))
  | .ok stale =>
    let stream := if stale then stream.count fun c => { c with staleEvents := c.staleEvents + 1 } else stream
    match onEvent event (stream, s.2) with
    | (true, s) => (none, s)
    | (false, s) => (none, (s.1.count fun c => { c with callbackErrors := c.callbackErrors + 1 }, s.2))

/-- Hands the events among some values to the callback. -/
def handleAll (now : Num) (onEvent : Callback σ) :
    List Json → EventStream × σ → Option Fault × (EventStream × σ)
  | [], s => (none, s)
  | .obj fields :: rest, s =>
    match handle now onEvent (.obj fields) s with
    | (none, s) => handleAll now onEvent rest s
    | broken => broken
  | _ :: rest, s => handleAll now onEvent rest s

/-- Takes a message. What is no JSON, or no list, is passed over. -/
def receive (now : Num) (onEvent : Callback σ) (text : String) (s : EventStream × σ) :
    Option Fault × (EventStream × σ) :=
  match Json.decode text with
  | .ok (.arr items) =>
    let stream := s.1.count fun c => { c with messages := c.messages + 1, lastMessage := some now }
    handleAll now onEvent items (stream, s.2)
  | .ok _ | .error (.badJson _) => (none, s)
  | .error f => (some f, s)

end EventStream

/-- What arrives on a connection: a text, something that is none, its end, a time-out during which the
clock may be set, or one during which the stream is stopped. -/
inductive Frame where
  | text (s : String)
  | binary
  | close
  | timeOut
  | clock (now : Num)
  | stop
  deriving DecidableEq, Repr

/-- What comes of an attempt to connect. -/
inductive Connection where
  | refused (cause : String)
  | opened (frames : List Frame) (canSend : Bool)
  deriving DecidableEq, Repr

/-- The network that a stream runs on: the connections to come, what was done with them, the time and the
delays between attempts, and whatever the callback works on. -/
structure Wire (σ : Type) where
  connections : List Connection
  connects : Nat := 0
  greetings : Nat := 0
  closes : Nat := 0
  now : Num := .int 0
  pauses : List Num := []
  outside : σ

namespace EventStream

variable {σ : Type}

/-- A stream and its network. -/
abbrev Run (σ : Type) : Type := EventStream × Wire σ

/-- Closes the socket, if there is one. -/
def closeSocket (r : Run σ) : Run σ :=
  if r.1.hasSocket then (r.1, { r.2 with closes := r.2.closes + 1 }) else r

/-- Closes the socket for good. -/
def dropSocket (r : Run σ) : Run σ := let r := closeSocket r; ({ r.1 with hasSocket := false }, r.2)

/-- Stops a stream. It ends as soon as it looks. -/
def stop (r : Run σ) : Run σ := closeSocket ({ r.1 with running := false }, r.2)

/-- Connects and asks for every event. The result is what arrives. When no connection is left the stream
is stopped. -/
def connect (r : Run σ) : Except StreamFailure (List Frame) × Run σ :=
  let stream := r.1.enter .connecting
  let wire := { r.2 with connects := r.2.connects + 1 }
  let refuse (cause : String) (r : Run σ) : Except StreamFailure (List Frame) × Run σ :=
    (.error (.unreachable stream.url cause), (r.1.count fun c => { c with lastError := some cause }, r.2))
  match wire.connections with
  | [] => refuse "script ended" (stop (stream, wire))
  | .refused cause :: rest => refuse cause (stream, { wire with connections := rest })
  | .opened frames canSend :: rest =>
    let wire := { wire with connections := rest }
    if canSend then
      let stream := (stream.enter .connected).count fun c => { c with connectedSince := some wire.now }
      (.ok frames, ({ stream with hasSocket := true }, { wire with greetings := wire.greetings + 1 }))
    else (.error .notSubscribed, (stream, wire))

/-- Takes what arrives until the stream is stopped or the connection fails. When nothing is left to arrive
the stream is stopped. -/
def listen (onEvent : Callback (Wire σ)) : List Frame → Run σ → Option StreamFailure × Run σ
  | [], r => (none, if r.1.running then stop r else r)
  | frame :: rest, r =>
    if !r.1.running then (none, r)
    else
      match frame with
      | .text s =>
        match receive r.2.now onEvent s r with
        | (none, r) => listen onEvent rest r
        | (some f, r) => (some (.badMessage f), r)
      | .close => (some .closed, r)
      | .clock now => listen onEvent rest (r.1, { r.2 with now })
      | .stop => listen onEvent rest (stop r)
      | .binary | .timeOut => listen onEvent rest r

/-- What a failure leads to: a stream that still runs waits, and the next delay is twice as long. -/
def recover (failure : StreamFailure) (delay : Num) (r : Run σ) : Num × Run σ :=
  if !r.1.running then (delay, r)
  else
    let stream := r.1.count fun c =>
      { c with reconnects := c.reconnects + 1, lastError := some failure.message }
    (Num.least r.1.maxDelay delay.twice,
      (stream.enter .reconnecting, { r.2 with pauses := r.2.pauses ++ [delay] }))

/-- Connects where nothing stands in the way. -/
def join (s : EventStream) (now : Num) : EventStream :=
  let wire : Wire Unit := { connections := [.opened [] true], now, outside := () }
  (connect ({ s with running := true }, wire)).2.1

/-- Fails, and connects again where nothing stands in the way. -/
def rejoin (s : EventStream) (failure : StreamFailure) (now : Num) : EventStream :=
  let wire : Wire Unit := { connections := [], now, outside := () }
  (dropSocket (recover failure s.firstDelay (s, wire)).2).1.join now

/-- One connection: the attempt, what arrives, and what a failure leads to. -/
def attempt (onEvent : Callback (Wire σ)) (delay : Num) (r : Run σ) : Num × Run σ :=
  match connect r with
  | (.error failure, r) => recover failure delay r
  | (.ok frames, r) =>
    match listen onEvent frames r with
    | (none, r) => (r.1.firstDelay, r)
    | (some failure, r) => recover failure r.1.firstDelay r

/-- A callback that may also start the stream it belongs to. -/
abbrev RestartingCallback (σ : Type) : Type := (Run σ → Run σ) → Callback (Wire σ)

/-- Connects again and again until the stream is stopped, a number of times at most. A stream that a
callback starts afresh runs within the callback. -/
def loop (onEvent : RestartingCallback σ) : Nat → Num → Run σ → Run σ
  | 0, _, r => r
  | fuel + 1, delay, r =>
    if !r.1.running then r
    else
      let restart (r : Run σ) : Run σ :=
        let r := loop onEvent fuel r.1.firstDelay ({ r.1 with running := true }, r.2)
        (r.1.enter .disconnected, r.2)
      let (delay, r) := attempt (onEvent restart) delay r
      loop onEvent fuel delay (dropSocket r)

/-- Runs a stream until it is stopped. Every attempt uses up a connection, and the one that finds none
left stops the stream. -/
def start (onEvent : RestartingCallback σ) (r : Run σ) : Run σ :=
  let r := loop onEvent (r.2.connections.length + 2) r.1.firstDelay ({ r.1 with running := true }, r.2)
  (r.1.enter .disconnected, r.2)

end EventStream

end ChainAlerts
