import ChainAlerts.Environment
import ChainAlerts.Json
import ChainAlerts.RateLimit
import ChainAlerts.Text.Blank
import ChainAlerts.Text.Part

/-! The settings of the service. They are read group by group, and the first group in which something is
wrong is reported. A summary shows them without their secrets. Each setting is read from a variable of its
own. A group can also be given as a whole, as a document in a variable of the group's name, such as `REDIS`;
such variables are not read here, and environments are understood to have none. -/

namespace ChainAlerts

/-- The groups of settings, in the order in which they are read. -/
inductive SettingsGroup where
  | database | redis | bots | events | near | rateLimit | trending | general
  deriving DecidableEq, Repr

def SettingsGroup.title : SettingsGroup → String
  | .database => "DatabaseSettings"
  | .redis => "RedisSettings"
  | .bots => "BotSettings"
  | .events => "EventStreamSettings"
  | .near => "NearSettings"
  | .rateLimit => "RateLimitSettings"
  | .trending => "TrendingSettings"
  | .general => "Settings"

structure SettingsError where
  group : SettingsGroup
  problems : List (String × VariableProblem)
  deriving DecidableEq, Repr

/-- How much is logged. -/
inductive LogLevel where
  | debug | info | warning | error | critical
  deriving DecidableEq, Repr

namespace LogLevel

def all : List LogLevel := [.debug, .info, .warning, .error, .critical]

def name : LogLevel → String
  | .debug => "DEBUG"
  | .info => "INFO"
  | .warning => "WARNING"
  | .error => "ERROR"
  | .critical => "CRITICAL"

/-- The severity from which on messages are logged. -/
def severity : LogLevel → Int
  | .debug => 10
  | .info => 20
  | .warning => 30
  | .error => 40
  | .critical => 50

def parse (s : String) : Except VariableProblem LogLevel :=
  match all.find? fun level => level.name = s with
  | some level => .ok level
  | none => .error .notChoice

end LogLevel

/-- The bots: their tokens as one text, and where the chat service is. -/
structure BotSettings where
  tokens : Option String := none
  serviceUrl : String := "https://api.telegram.org"
  deriving DecidableEq, Repr

structure EventSettings where
  url : String := "wss://ws-events-v3.intear.tech"
  testnet : Bool := true
  maxReconnectDelay : Int := 30
  staleWarning : Int := 60
  deriving DecidableEq, Repr

structure NearSettings where
  nodeUrl : String := "https://rpc.mainnet.near.org"
  pricesUrl : String := "https://prices.intear.tech/tokens"
  refreshInterval : Int := 5
  viewLifetime : Int := 3600
  deriving DecidableEq, Repr

/-- How many notifications a chat may receive in five minutes, an hour and a day. -/
structure LimitSettings where
  perFiveMinutes : Int := 20
  perHour : Int := 150
  perDay : Int := 1000
  deriving DecidableEq, Repr

/-- Tokens that are never shown in the chats that gather all tokens, unless others are set. -/
def defaultExcluded : List String :=
  ["near", "wrap.near", "usdt.tether-token.near",
    "17208628f84f5d6ad33f0da3bbbeb27ffcb398eac501a31bd6ad2011e36133a1",
    "a0b86991c6218b36c1d19d4a2e9eb0ce3606eb48.factory.bridge.near",
    "dac17f958d2ee523a2206206994597c13d831ec7.factory.bridge.near", "meta-pool.near", "linear-protocol.near"]

/-- The chats that gather all tokens. -/
structure TrendingSettings where
  trending : Option Int := none
  dumpers : Option Int := none
  excluded : String := ",".intercalate defaultExcluded
  deriving DecidableEq, Repr

structure Settings where
  databaseUrl : String
  redisUrl : String := "redis://localhost:6379"
  bots : BotSettings := {}
  events : EventSettings := {}
  near : NearSettings := {}
  limits : LimitSettings := {}
  trending : TrendingSettings := {}
  logLevel : LogLevel := .info
  dryRun : Bool := false
  deriving DecidableEq, Repr

namespace Settings

open Environment

/-- The result of reading a group, unless something is wrong with it. -/
def group {α : Type} (g : SettingsGroup) (reading : Reading α) : Except SettingsError α :=
  match reading.run [] with
  | (a, []) => .ok a
  | (_, problems) => .error { group := g, problems }

/-- An address without the slashes at its end. -/
def bareAddress (schemes : List String) (reason s : String) : Except VariableProblem String := do
  return Text.dropTrailingChar '/' (← address schemes reason s)

def readBots (env : Environment) : Reading BotSettings := do
  let tokens ← env.read "BOT_TOKENS" (fun s => .ok (some s)) none
  let serviceUrl ← env.read "TELEGRAM_API_URL"
    (bareAddress ["http://", "https://"] "TELEGRAM_API_URL must be an HTTP(S) endpoint")
    "https://api.telegram.org"
  return { tokens, serviceUrl }

def readEvents (env : Environment) : Reading EventSettings := do
  let base : EventSettings := {}
  let url ← env.read "EVENTS_WS_URL"
    (bareAddress ["ws://", "wss://"] "WebSocket URL must start with ws:// or wss://") base.url
  let testnet ← env.read "EVENTS_TESTNET_ENABLED" flag base.testnet
  let maxReconnectDelay ← env.read "EVENTS_MAX_RECONNECT_DELAY_SECONDS" (integerWithin 1 (some 600))
    base.maxReconnectDelay
  let staleWarning ← env.read "EVENTS_STALE_EVENT_WARNING_SECONDS" (integerWithin 1 none) base.staleWarning
  return { url, testnet, maxReconnectDelay, staleWarning }

def readNear (env : Environment) : Reading NearSettings := do
  let base : NearSettings := {}
  let url := address ["http://", "https://"] "URL must be an HTTP(S) endpoint"
  let nodeUrl ← env.read "NEAR_RPC_URL" url base.nodeUrl
  let pricesUrl ← env.read "NEAR_PRICES_URL" url base.pricesUrl
  let refreshInterval ← env.read "NEAR_PRICES_REFRESH_INTERVAL_SECONDS" (integerWithin 1 (some 3600))
    base.refreshInterval
  let viewLifetime ← env.read "NEAR_VIEW_CACHE_TTL_SECONDS" (integerWithin 0 none) base.viewLifetime
  return { nodeUrl, pricesUrl, refreshInterval, viewLifetime }

def readLimits (env : Environment) : Reading LimitSettings := do
  let base : LimitSettings := {}
  let perFiveMinutes ← env.read "RATE_LIMIT_PER_5M" (integerWithin 1 none) base.perFiveMinutes
  let perHour ← env.read "RATE_LIMIT_PER_1H" (integerWithin 1 none) base.perHour
  let perDay ← env.read "RATE_LIMIT_PER_1D" (integerWithin 1 none) base.perDay
  return { perFiveMinutes, perHour, perDay }

def readTrending (env : Environment) : Reading TrendingSettings := do
  let chat (s : String) : Except VariableProblem (Option Int) := some <$> integer s
  let trending ← env.read "TRENDING_CHAT_ID" chat none
  let dumpers ← env.read "DUMPERS_CHAT_ID" chat none
  let excluded ← env.read "TRENDING_EXCLUDED_TOKENS" .ok (",".intercalate defaultExcluded)
  return { trending, dumpers, excluded }

/-- Reads all settings. -/
def ofEnvironment (env : Environment) : Except SettingsError Settings := do
  let databaseUrl ← group .database <| env.require "DATABASE_URL" <|
    address ["postgresql://", "postgresql+asyncpg://", "sqlite+aiosqlite://"]
      "DATABASE_URL must be a PostgreSQL or sqlite+aiosqlite connection string"
  let redisUrl ← group .redis <| env.read "REDIS_URL"
    (address ["redis://"] "REDIS_URL must start with redis://") "redis://localhost:6379"
  let bots ← group .bots (readBots env)
  let events ← group .events (readEvents env)
  let near ← group .near (readNear env)
  let limits ← group .rateLimit (readLimits env)
  let trending ← group .trending (readTrending env)
  let (logLevel, dryRun) ← group .general do
    let logLevel ← env.read "LOG_LEVEL" LogLevel.parse .info
    let dryRun ← env.read "DRY_RUN" flag false
    return (logLevel, dryRun)
  return { databaseUrl, redisUrl, bots, events, near, limits, trending, logLevel, dryRun }

/-- Reads the settings once: what has been read before is kept until it is cleared, and what could not be
read is not kept. -/
def readOnce (kept : Option Settings) (env : Environment) : Except SettingsError Settings × Option Settings :=
  match kept with
  | some s => (.ok s, some s)
  | none =>
    let result := ofEnvironment env
    (result, result.toOption)

/-- The tokens of the bots, blank ones left out. -/
def botTokens (s : Settings) : List String :=
  match s.bots.tokens with
  | none => []
  | some tokens => Text.commaList tokens

/-- The tokens never shown in the chats that gather all tokens. -/
def excludedTokens (s : Settings) : List String := Text.commaList s.trending.excluded

/-- The windows in which a chat's notifications are counted. -/
def windows (s : Settings) : List Window :=
  [⟨"5m", 300, s.limits.perFiveMinutes⟩, ⟨"1h", 3600, s.limits.perHour⟩, ⟨"1d", 86400, s.limits.perDay⟩]

/-- What stands in place of a password. -/
def mask : String := "***"

/-- An address with the password in it masked. -/
def redactUrl (url : String) : String :=
  match Text.splitFirst? "://".toList url.toList with
  | none => url
  | some (scheme, rest) =>
    if '@' ∈ scheme then url
    else
      match Text.splitFirst? ['@'] rest with
      | none => url
      | some (credentials, place) =>
        match Text.splitFirst? [':'] credentials with
        | none => url
        | some (user, _) =>
          String.ofList scheme ++ "://" ++ String.ofList user ++ ":" ++ mask ++ "@" ++ String.ofList place

/-- The address under which the database is opened, with the driver that is used for it. -/
def driverUrl (url : String) : String :=
  match Text.splitFirst? "postgresql://".toList url.toList with
  | some ([], place) => "postgresql+asyncpg://" ++ String.ofList place
  | _ => url

/-- A flag as the summary shows it. -/
def flagText (b : Bool) : String := if b then "True" else "False"

/-- A chat as the summary shows it. A chat of number zero counts as not set. -/
def chatText (chat : Option Int) : String :=
  match chat with
  | none | some 0 => "(not set)"
  | some n => Text.intText n

/-- The settings without their secrets. -/
def summary (s : Settings) : Json :=
  .obj [
    ("database_url", .str (redactUrl s.databaseUrl)),
    ("redis_url", .str (redactUrl s.redisUrl)),
    ("bots", .obj [("count", .str (Text.intText s.botTokens.length)), ("api_url", .str s.bots.serviceUrl)]),
    ("events", .obj [("ws_url", .str s.events.url), ("testnet_enabled", .str (flagText s.events.testnet))]),
    ("near", .obj [("rpc_url", .str s.near.nodeUrl), ("prices_url", .str s.near.pricesUrl),
      ("view_cache_ttl_seconds", .str (Text.intText s.near.viewLifetime))]),
    ("rate_limit", .obj [("per_5m", .str (Text.intText s.limits.perFiveMinutes)),
      ("per_1h", .str (Text.intText s.limits.perHour)), ("per_1d", .str (Text.intText s.limits.perDay))]),
    ("trending", .obj [("trending_chat_id", .str (chatText s.trending.trending)),
      ("dumpers_chat_id", .str (chatText s.trending.dumpers))]),
    ("log_level", .str s.logLevel.name),
    ("dry_run", .str (flagText s.dryRun))]

end Settings

end ChainAlerts
