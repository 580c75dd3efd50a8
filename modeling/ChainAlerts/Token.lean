import ChainAlerts.Json.Reading

/-! Tokens a chat can follow: a launched fungible token, named by the account of its contract, or a
token still in its pre-launch auction, named by the number of the auction. A key is the text under
which a record files a token. -/

namespace ChainAlerts

/-- The account of the wrapped native token. -/
def wrappedNear : String := "wrap.near"

/-- The name of the native token itself. -/
def nativeNear : String := "near"

/-- The account of the contract that runs pre-launch auctions. -/
def auctionContract : String := "meme-cooking.near"

/-- The name of a token, the wrapped native token being the native one. -/
def normalizeToken (account : String) : String :=
  if account = wrappedNear then nativeNear else account

/-- A token that chats can follow. -/
inductive Token where
  | fungible (account : String)
  | prelaunch (auction : Int)
  deriving DecidableEq, Repr, Inhabited

namespace Token

/-- What the keys of pre-launch tokens start with. -/
def auctionMark : String := auctionContract ++ ":"

/-- The key under which a token is filed. -/
def key : Token → String
  | .fungible account => account
  | .prelaunch auction => auctionMark ++ Text.intText auction

/-- Whether a token has a key. The number of an auction may have too many digits for one. -/
def isWritable : Token → Bool
  | .fungible _ => true
  | .prelaunch auction => Integer.isWritable auction

/-- The rest of a text behind a beginning, if it has that beginning. -/
def behind? (start s : String) : Option String :=
  if start.toList.isPrefixOf s.toList then some (String.ofList (s.toList.drop start.toList.length)) else none

/-- The token that a key files. -/
def parse (key : String) : Except Fault Token :=
  if key = "" then .error .emptyTokenKey
  else
    match behind? auctionMark key with
    | some number => .prelaunch <$> Json.readInteger number
    | none => .ok (.fungible key)

end Token

end ChainAlerts
