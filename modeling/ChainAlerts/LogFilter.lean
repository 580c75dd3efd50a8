import ChainAlerts.Event
import ChainAlerts.Markdown
import ChainAlerts.Notification
import ChainAlerts.Version.Requirement
import ChainAlerts.Json.Printer

/-! Filters on what contracts log. A filter is a conjunction: each predicate that is set has to hold,
and null leaves one unset. Each kind of log has its own predicates and its own form of notification;
what they share is one record. -/

namespace ChainAlerts

/-- Predicates on logged lines. The account is always set. -/
structure TextFilter where
  account : String
  predecessor : Json := .null
  exact : Json := .null
  startsWith : Json := .null
  endsWith : Json := .null
  holds : Json := .null
  testnet : Option Bool := none

/-- Predicates on structured events. -/
structure StructuredFilter where
  account : Json := .null
  predecessor : Json := .null
  standard : Json := .null
  version : Option Requirement := none
  event : Json := .null
  testnet : Option Bool := none

namespace LogFilter

/-- Whether a predicate that asks for a text is unset or met by it. -/
def admits (wanted : Json) (s : String) : Bool := wanted.isNull || wanted.isText s

/-- Whether a predicate on the network is unset or met. -/
def admitsNetwork (wanted : Option Bool) (testnet : Bool) : Bool :=
  match wanted with
  | none => true
  | some b => b == testnet

/-- A predicate on a part of a text: unset, or a text to be tested for. Nothing else can be tested. -/
def partAdmits (test : List Char → List Char → Bool) (notText : Json.Kind → Fault) (wanted : Json)
    (s : String) : Except Fault Bool :=
  match wanted with
  | .null => .ok true
  | .str part => .ok (test part.toList s.toList)
  | v => .error (notText v.kind)

/-- A network predicate from its stored value: unset, or yes for every value that counts as set. -/
def readNetwork (v : Json) : Option Bool := if v.isNull then none else some v.truth

def writeNetwork : Option Bool → Json
  | none => .null
  | some b => .bool b

end LogFilter

namespace TextFilter

open LogFilter

/-- Whether a line meets every predicate that is set. Predicates are tested in order and the first
that fails decides. -/
def accepts (f : TextFilter) (log : TextLog) : Except Fault Bool := do
  if !(log.account == f.account && admitsNetwork f.testnet log.testnet &&
      admits f.predecessor log.predecessor && admits f.exact log.line) then return false
  if !(← partAdmits List.isPrefixOf .startNotText f.startsWith log.line) then return false
  if !(← partAdmits List.isSuffixOf .endNotText f.endsWith log.line) then return false
  partAdmits Text.occursIn .partNotText f.holds log.line

def toJson (f : TextFilter) : Json :=
  .obj [("account_id", .str f.account), ("predecessor_id", f.predecessor), ("exact_match", f.exact),
    ("text_starts_with", f.startsWith), ("text_ends_with", f.endsWith), ("text_contains", f.holds),
    ("is_testnet", writeNetwork f.testnet)]

def ofJson (v : Json) : Except Fault TextFilter := do
  let testnet ← v.fieldOrNull "is_testnet"
  return {
    account := (← v.field "account_id").text
    predecessor := ← v.fieldOrNull "predecessor_id"
    exact := ← v.fieldOrNull "exact_match"
    startsWith := ← v.fieldOrNull "text_starts_with"
    endsWith := ← v.fieldOrNull "text_ends_with"
    holds := ← v.fieldOrNull "text_contains"
    testnet := readNetwork testnet }

end TextFilter

namespace StructuredFilter

open LogFilter

/-- No predicate but the one on the network is set. Such a filter accepts nothing. -/
def isEmpty (f : StructuredFilter) : Bool :=
  f.account.isNull && f.predecessor.isNull && f.standard.isNull && f.version.isNone && f.event.isNull

/-- Whether an event meets every predicate that is set. -/
def accepts (f : StructuredFilter) (log : StructuredLog) (versions : VersionScheme := .standard) :
    Except Fault Bool := do
  if f.isEmpty then return false
  if !(admitsNetwork f.testnet log.testnet && admits f.account log.account &&
      admits f.predecessor log.predecessor && admits f.standard log.standard) then return false
  let versionAdmitted ← match f.version with
    | none => pure true
    | some requirement => requirement.acceptsText log.version versions
  return versionAdmitted && admits f.event log.event

def toJson (f : StructuredFilter) : Json :=
  .obj [("account_id", f.account), ("predecessor_id", f.predecessor), ("standard", f.standard),
    ("version", Json.ofText? (f.version.map (·.text))), ("event", f.event),
    ("is_testnet", writeNetwork f.testnet)]

/-- A requirement on the version from its stored value. -/
def readRequirement (v : Json) (versions : VersionScheme := .standard) : Except Fault (Option Requirement) :=
  match v with
  | .null => .ok none
  | .str s => some <$> Requirement.parse s versions
  | v => .error (.lacks v.kind "strip")

def ofJson (v : Json) (versions : VersionScheme := .standard) : Except Fault StructuredFilter := do
  let testnet ← v.fieldOrNull "is_testnet"
  let account ← v.fieldOrNull "account_id"
  let predecessor ← v.fieldOrNull "predecessor_id"
  let standard ← v.fieldOrNull "standard"
  let stored ← v.fieldOrNull "version"
  let event ← v.fieldOrNull "event"
  let version ← readRequirement stored versions
  return { account, predecessor, standard, version, event, testnet := readNetwork testnet }

/-- A filter that would accept nothing is not stored. -/
def check (f : StructuredFilter) : Except Fault Unit :=
  if f.isEmpty then .error .emptyFilter else .ok ()

end StructuredFilter

/-- The mark behind an account of the test network. -/
def networkMark (testnet : Bool) : String := if testnet then " \\(testnet\\)" else ""

/-- A notification of something logged: a headline with a link to the account, what was logged as
code, and a link to the transaction. -/
def logNotification (chat : Int) (headline account : String) (testnet : Bool) (logged transaction : String) :
    Notification where
  chat
  text := Markdown.escape headline ++ " " ++ Markdown.accountLink account ++ networkMark testnet ++ ":\n" ++
    Markdown.codeBlock logged ++ "\n" ++ Markdown.transactionLink transaction "Tx"
  context := [("account", account), ("tx", transaction)]

/-- A notification of a logged line. -/
def TextLog.notification (chat : Int) (log : TextLog) : Notification :=
  logNotification chat "Text log from" log.account log.testnet log.line log.transaction

def StructuredLog.notification (chat : Int) (log : StructuredLog) : Notification :=
  logNotification chat (log.standard ++ " " ++ log.version ++ " " ++ log.event ++ " event from") log.account
    log.testnet (log.data.print .lines) log.transaction

/-- What the kinds of log differ in: where their filters are stored and how filters and notifications
are made. -/
structure LogKind (log filter : Type) where
  collection : String
  read : Json → Except Fault filter
  write : filter → Json
  check : filter → Except Fault Unit
  accepts : filter → log → Except Fault Bool
  notification : Int → log → Notification
  describe : log → String

def LogKind.text : LogKind TextLog TextFilter where
  collection := "text_logs"
  read := TextFilter.ofJson
  write := TextFilter.toJson
  check _ := .ok ()
  accepts := TextFilter.accepts
  notification := TextLog.notification
  describe := TextLog.describe

/-- The requirements of filters are those of a scheme of version numbers. -/
def LogKind.structured (versions : VersionScheme := .standard) : LogKind StructuredLog StructuredFilter where
  collection := "nep297_logs"
  read v := StructuredFilter.ofJson v versions
  write := StructuredFilter.toJson
  check := StructuredFilter.check
  accepts f log := f.accepts log versions
  notification := StructuredLog.notification
  describe := StructuredLog.describe

namespace LogKind

variable {log filter : Type} (kind : LogKind log filter)

/-- Reads one chat's filters, in the order in which they were added. -/
def readFilters (v : Json) : Except Fault (List filter) := do
  (← ((← v.field? "filters").getD (.arr [])).elements).mapM kind.read

def writeFilters (filters : List filter) : Json := .obj [("filters", .arr (filters.map kind.write))]

/-- The filters that accept a log. -/
def matching (filters : List filter) (entry : log) : Except Fault (List filter) :=
  filters.filterM fun f => kind.accepts f entry

end LogKind

end ChainAlerts
