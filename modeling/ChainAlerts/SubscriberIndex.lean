import ChainAlerts.Subscription

/-! Which chats follow a token. The index is made afresh from all records of a bot and replaced as a
whole; it holds neither whether a chat is enabled nor any setting, so what it finds are candidates. -/

namespace ChainAlerts

/-- The chats that follow each token, tokens in the order in which they were first met, with the number
of times the index has been made. -/
structure SubscriberIndex where
  entries : List (Token × List Int) := []
  generation : Nat := 0
  deriving Repr

namespace SubscriberIndex

/-- Adds a chat to those that follow a token. -/
def addChat (chat : Int) (token : Token) : List (Token × List Int) → List (Token × List Int)
  | [] => [(token, [chat])]
  | (t, chats) :: rest => if t = token then (t, chats ++ [chat]) :: rest else (t, chats) :: addChat chat token rest

/-- The entries for a list of records. -/
def ofRecords (records : List (Int × Subscriber)) : List (Token × List Int) :=
  records.foldl (fun entries (chat, s) =>
    s.tokens.foldl (fun entries (token, _) => addChat chat token entries) entries)
    []

/-- The chats that may follow a token. -/
def lookup (index : SubscriberIndex) (token : Token) : List Int := (Assoc.get? token index.entries).getD []

/-- The index with new entries. -/
def renew (index : SubscriberIndex) (entries : List (Token × List Int)) : SubscriberIndex :=
  { entries, generation := index.generation + 1 }

end SubscriberIndex

end ChainAlerts
