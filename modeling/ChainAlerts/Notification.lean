import ChainAlerts.Json.Reading

/-! What a chat receives: a text in the chats' markup, rows of buttons that open a page, and at most
one piece of media. -/

namespace ChainAlerts

/-- The kinds of media a notification can carry. -/
inductive MediaKind where
  | photo | animation | video | audio
  deriving DecidableEq, Repr

def MediaKind.name : MediaKind → String
  | .photo => "photo"
  | .animation => "animation"
  | .video => "video"
  | .audio => "audio"

def MediaKind.all : List MediaKind := [.photo, .animation, .video, .audio]

/-- The kind that a value names. -/
def MediaKind.ofJson (v : Json) : Except Fault MediaKind :=
  match MediaKind.all.find? fun kind => v.isText kind.name with
  | some kind => .ok kind
  | none => .error (.notMember "MediaKind" v)

/-- A piece of media; `file` is a name the chat service knows it by, or its address. -/
structure Media where
  kind : MediaKind
  file : String
  deriving DecidableEq, Repr

namespace Media

def toJson (media : Media) : Json := .obj [("kind", .str media.kind.name), ("file", .str media.file)]

def ofJson (v : Json) : Except Fault Media := do
  return { kind := ← MediaKind.ofJson (← v.field "kind"), file := (← v.field "file").text }

end Media

structure Button where
  text : String
  url : String
  deriving DecidableEq, Repr

namespace Button

def toJson (button : Button) : Json := .obj [("text", .str button.text), ("url", .str button.url)]

def ofJson (v : Json) : Except Fault Button := do
  return { text := (← v.field "text").text, url := (← v.field "url").text }

/-- Reads rows of buttons. -/
def rowsOfJson (v : Json) : Except Fault (List (List Button)) := do
  (← v.elements).mapM fun row => do (← row.elements).mapM ofJson

end Button

/-- A message ready to be sent. The context names what it is about. -/
structure Notification where
  chat : Int
  text : String
  buttons : List (List Button) := []
  media : Option Media := none
  context : List (String × String) := []
  deriving DecidableEq, Repr

end ChainAlerts
