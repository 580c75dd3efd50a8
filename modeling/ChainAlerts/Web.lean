import ChainAlerts.Json.Reading
import ChainAlerts.Number.Num
import ChainAlerts.Redis

/-! The services asked over HTTP: a node that answers view calls and an endpoint that lists token
prices. Their answers are given in advance; what was asked, and how long was waited between attempts,
is recorded. -/

namespace ChainAlerts

/-- A request: a view call with its arguments in base 64, or the price list. -/
inductive WebRequest where
  | view (url contract method arguments : String)
  | list (url : String)
  deriving DecidableEq, Repr

/-- What comes back: a failure on the way, a time-out, a failure that nothing is prepared for, a text,
or a JSON value. -/
inductive WebResponse where
  | failed (text : String)
  | timedOut (text : String)
  | crashed (text : String)
  | text (body : String)
  | value (body : Json)

/-- The answers to come and what has been asked so far. View calls are answered from `views` if it is
given, the price list from `listing`, and everything else in turn from the queue. -/
structure Web where
  queue : List WebResponse := []
  views : Option (List (String × WebResponse)) := none
  listing : Option WebResponse := none
  requests : List WebRequest := []
  pauses : List Num := []

namespace WebRequest

/-- The body that goes with a request. -/
def body : WebRequest → Json
  | .view _ contract method arguments =>
    .obj [("jsonrpc", .str "2.0"), ("id", .str "dontcare"), ("method", .str "query"),
      ("params", .obj [("request_type", .str "call_function"), ("finality", .str "final"),
        ("account_id", .str contract), ("method_name", .str method), ("args_base64", .str arguments)])]
  | .list _ => .null

end WebRequest

namespace Web

/-- The name under which the answer to a view call is given. -/
def viewName (contract method : String) : String := contract ++ ":" ++ method

/-- The answer to a view that no contract has. -/
def noSuchView : WebResponse := .value (.obj [("result", .obj [("error", .str "no such view")])])

/-- The next answer in the queue. -/
def next (web : Web) : WebResponse × Web :=
  match web.queue with
  | [] => (.failed "no response scripted", web)
  | r :: rest => (r, { web with queue := rest })

/-- Answers a request and records it. -/
def answer (request : WebRequest) (web : Web) : WebResponse × Web :=
  let web := { web with requests := web.requests ++ [request] }
  match request with
  | .view _ contract method _ =>
    match web.views with
    | some views => ((Assoc.get? (viewName contract method) views).getD noSuchView, web)
    | none => web.next
  | .list _ =>
    match web.listing with
    | some r => (r, web)
    | none => web.next

end Web

/-- Everything outside that is asked while a notification is made: the shared store and the web. -/
structure Net where
  redis : Redis.State := {}
  web : Web := {}

namespace Net

def ask (request : WebRequest) (net : Net) : WebResponse × Net :=
  let (r, web) := net.web.answer request
  (r, { net with web })

/-- Waits between two attempts. -/
def pause (delay : Num) (net : Net) : Net :=
  { net with web := { net.web with pauses := net.web.pauses ++ [delay] } }

/-- Uses the shared store. -/
def command (r : Redis.Request) (net : Net) : r.Reply × Net :=
  let (reply, redis) := net.redis.answer r
  (reply, { net with redis })

end Net

end ChainAlerts
