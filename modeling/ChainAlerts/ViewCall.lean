import ChainAlerts.Json.Printer
import ChainAlerts.Text.Base64
import ChainAlerts.Web

/-! View calls on contracts. A call that fails on the way is tried again after a delay that doubles
each time; its result is kept in the shared store for a while. -/

namespace ChainAlerts.ViewCall

/-- How calls are made: where to, how often and after which first delay they are tried again, and
whether, under which mark and for how long results are kept. -/
structure Client where
  url : String
  cached : Bool := false
  lifetime : Int := 3600
  attempts : Int := 3
  delay : Num := .float (.ofInt 1)
  mark : String := "near_fanout:view:"

/-- Why a call has no result. -/
inductive CallError where
  | exhausted (last : Option String)
  | refused (contract method : String) (error : Json)
  | noResult (contract method : String) (instead : Json)
  | unreadable (contract method : String) (cause : Fault)

/-- A call's failure: an error of the call, a faulty answer that nothing guards against, or a failure
that nothing is prepared for. -/
inductive Failure where
  | call (e : CallError)
  | fault (f : Fault)
  | crash (text : String)

def CallError.message : CallError → String
  | .exhausted last => "RPC request failed after all retries: " ++ last.getD "None"
  | .refused contract method error => s!"{contract}.{method} failed: {error.text}"
  | .noResult contract method instead => s!"{contract}.{method} returned no result: {instead.text}"
  | .unreadable contract method cause => s!"{contract}.{method} returned invalid JSON: {cause.message}"

def Failure.message : Failure → String
  | .call e => e.message
  | .fault f => f.message
  | .crash text => text

/-- Sends until an answer arrives that is no failure on the way, `attempts` times at most, waiting
between attempts and doubling the wait. -/
def retry {σ : Type} (send : σ → WebResponse × σ) (pause : Num → σ → σ) :
    (attempts : Nat) → (delay : Num) → (last : Option String) → σ → Except Failure Json × σ
  | 0, _, last, s => (.error (.call (.exhausted last)), s)
  | left + 1, delay, _, s =>
    let (response, s) := send s
    let again (text : String) : Except Failure Json × σ :=
      if left = 0 then (.error (.call (.exhausted (some text))), s)
      else retry send pause left delay.twice (some text) (pause delay s)
    match response with
    | .failed text | .timedOut text => again text
    | .crashed text => (.error (.crash text), s)
    | .text body => ((Json.decode body).mapError .fault, s)
    | .value body => (.ok body, s)

/-- The result that an answer holds. -/
def result (contract method : String) (body : Json) : Except Failure Json := do
  if ← (body.holds "error").mapError .fault then
    throw (.call (.refused contract method (← (body.field "error").mapError .fault)))
  let given ← (body.fieldOrNull "result").mapError .fault
  let result := if given.truth then given else .obj []
  match ← (result.fieldOrNull "result").mapError .fault with
  | .arr bytes =>
    match Json.decodeBytes bytes with
    | .ok v => return v
    | .error f => throw (if f.isBadValue then .call (.unreadable contract method f) else .fault f)
  | _ =>
    throw (.call (.noResult contract method ((← (result.field? "error").mapError .fault).getD result)))

/-- The base-64 form of arguments. -/
def encodeArguments (arguments : Json) : String :=
  String.ofList (Text.base64 (Text.toBytes (arguments.print .dense)))

namespace Client

/-- The key under which a result is kept. -/
def key (c : Client) (contract method : String) (arguments : Json) : String :=
  c.mark ++ contract ++ ":" ++ method ++ ":" ++ arguments.sortKeys.print .dense

/-- Makes a call without looking for a kept result. -/
def fresh (c : Client) (contract method : String) (arguments : Json) : StateM Net (Except Failure Json) :=
  fun net =>
    let request := .view c.url contract method (encodeArguments arguments)
    let (body, net) := retry (Net.ask request) Net.pause c.attempts.toNat c.delay none net
    (body >>= result contract method, net)

/-- The kept text of a result. A store that fails has none. -/
def kept? (c : Client) (key : String) : StateM Net (Option String) := fun net =>
  if c.cached then
    let (reply, net) := net.command (.get key)
    match reply with
    | .ok text => (text, net)
    | .error _ => (none, net)
  else (none, net)

/-- Keeps a result, if the store works. -/
def keep (c : Client) (key : String) (v : Json) : StateM Net Unit := fun net =>
  if c.cached ∧ 0 < c.lifetime then ((), (net.command (.set key (v.print .line) c.lifetime)).2)
  else ((), net)

/-- Makes a call, or takes its kept result. -/
def call (c : Client) (contract method : String) (arguments : Json) : StateM Net (Except Failure Json) := do
  let key := c.key contract method arguments
  match ← c.kept? key with
  | some text => return (Json.decode text).mapError .fault
  | none =>
    match ← c.fresh contract method arguments with
    | .ok v => c.keep key v; return .ok v
    | .error e => return .error e

end Client

end ChainAlerts.ViewCall
