import ChainAlerts.Settings
import ChainAlerts.Telegram

/-! The bots that the service speaks as. A bot is known by the number in its token; no two bots have the
same one. -/

namespace ChainAlerts

/-- A bot and the token it signs in with. -/
structure BotAccount where
  number : Int
  token : String
  deriving DecidableEq, Repr

inductive RegistryError where
  | alreadyRegistered (bot : Int)
  deriving DecidableEq, Repr

def RegistryError.message : RegistryError → String
  | .alreadyRegistered bot => s!"Bot {bot} is already registered"

/-- The registered bots, in the order in which they came. -/
abbrev Registry : Type := List BotAccount

namespace Registry

def get? (bot : Int) (registry : Registry) : Option BotAccount := registry.find? fun b => b.number = bot

/-- Registers a bot. -/
def add (b : BotAccount) (registry : Registry) : Except RegistryError Registry :=
  match registry.get? b.number with
  | some _ => .error (.alreadyRegistered b.number)
  | none => .ok (registry ++ [b])

/-- Registers the bot of a token. A malformed token and a bot that is there already are passed over. -/
def addToken (registry : Registry) (token : String) : Registry :=
  match Telegram.botNumber token with
  | .error _ => registry
  | .ok number => ((registry.add { number, token }).toOption).getD registry

/-- The bots of a list of tokens. -/
def ofTokens (tokens : List String) : Registry := tokens.foldl addToken []

/-- Where a bot reaches the chat service. -/
def address (s : Settings) : String := Text.dropTrailingChar '/' s.bots.serviceUrl ++ "/bot"

end Registry

end ChainAlerts
