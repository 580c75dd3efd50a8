import ChainAlerts.Dispatch
import ChainAlerts.Json.Options

/-! Notifications, deliveries and what is outside as JSON. Lists of deliveries are sorted, because
deliveries that run side by side arrive in no particular order. -/

namespace ChainAlerts

def reportButtons (button : Button → Json) (rows : List (List Button)) : Json :=
  .arr (rows.map fun row => .arr (row.map button))

def Notification.report (n : Notification) : Json :=
  .obj [("destination", .int n.chat), ("text", .str n.text), ("buttons", reportButtons Button.toJson n.buttons),
    ("media", .ofOption Media.toJson n.media), ("context", .obj (n.context.map fun (k, s) => (k, .str s)))]

/-- The shared store, sorted by key. -/
def Redis.State.report (r : Redis.State) : Json :=
  let cells := r.cells.mergeSort fun a b => !(b.1 < a.1)
  .arr (cells.map fun (k, c) => .arr [.str k, .str c.value.show, .ofOption Json.int c.expiry])

def WebRequest.report : WebRequest → Json
  | .view url contract method arguments =>
    .arr [.str "POST", .str url, (WebRequest.view url contract method arguments).body]
  | .list url => .arr [.str "GET", .str url, .null]

/-- The delays for which something waited. -/
def reportPauses (pauses : List Num) : Json := .arr (pauses.map fun d => .str d.toDouble.text)

/-- The order of two lists by their elements; a list comes before what continues it. -/
def orderLists {α : Type} (order : α → α → Ordering) : List α → List α → Ordering
  | [], [] => .eq
  | [], _ :: _ => .lt
  | _ :: _, [] => .gt
  | a :: as, b :: bs => (order a b).then (orderLists order as bs)

namespace Delivered

def orderMedia (a b : Media) : Ordering := (compare a.kind.name b.kind.name).then (compare a.file b.file)

def orderButton (a b : Button) : Ordering := (compare a.text b.text).then (compare a.url b.url)

/-- The order in which deliveries are listed. -/
def order (a b : Delivered) : Ordering :=
  (compare a.bot b.bot).then <| (compare a.note.chat b.note.chat).then <|
    (compare a.note.text b.note.text).then <| (compare a.method b.method).then <|
    (orderLists orderMedia a.note.media.toList b.note.media.toList).then <|
    orderLists (orderLists orderButton) a.note.buttons b.note.buttons

def report (d : Delivered) : Json :=
  .obj [("bot", .int d.bot), ("method", .str d.method), ("chat", .int d.note.chat), ("text", .str d.note.text),
    ("media", .arr (d.note.media.toList.map fun m => .arr [.str m.kind.name, .str m.file])),
    ("parse_mode", .str "MarkdownV2"), ("preview_disabled", .bool d.note.media.isNone),
    ("buttons", if d.note.buttons.isEmpty then .null else
      reportButtons (fun b => .arr [.str b.text, .str b.url]) d.note.buttons)]

/-- Deliveries in order. -/
def reportAll (deliveries : List Delivered) : Json :=
  .arr ((deliveries.mergeSort fun a b => (order a b).isLE).map report)

end Delivered

def Dispatch.Counts.report (c : Dispatch.Counts) : Json :=
  .obj [("spawned", .int c.spawned), ("sent", .int c.sent), ("rate_limited", .int c.limited),
    ("skipped", .int c.skipped), ("failed", .int c.failed), ("limit_notices_sent", .int c.notices)]

end ChainAlerts
