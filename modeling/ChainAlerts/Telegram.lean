import ChainAlerts.Json.Reading
import ChainAlerts.Notification
import ChainAlerts.Text.Part

/-! The chat service. A bot signs in before its first message and stays signed in until it is shut
down. A chat may refuse a message, and then nothing is delivered. -/

namespace ChainAlerts

/-- The way in which a message with media of a kind is sent. -/
def MediaKind.method : MediaKind → String
  | .photo => "send_photo"
  | .animation => "send_animation"
  | .video => "send_video"
  | .audio => "send_audio"

/-- A delivered notification and the bot that sent it. -/
structure Delivered where
  bot : Int
  note : Notification
  deriving DecidableEq, Repr

namespace Delivered

/-- The way in which the message was sent. -/
def method (d : Delivered) : String :=
  match d.note.media with
  | none => "send_message"
  | some media => media.kind.method

end Delivered

inductive SendError where
  | signIn (bot : Int)
  | refused (chat : Int)
  deriving DecidableEq, Repr

def SendError.message : SendError → String
  | .signIn bot => s!"Bot {bot} failed to initialize: init failed"
  | .refused chat => s!"Telegram rejected message to {chat}: chat not found"

/-- The service: what it has delivered, whom it refuses, and which bots are signed in. -/
structure Telegram where
  delivered : List Delivered := []
  refusing : List Int := []
  signInFails : Bool := false
  signedIn : List Int := []
  deriving Repr

namespace Telegram

/-- The number of a bot, which stands before the colon in its token. -/
def botNumber (token : String) : Except Fault Int :=
  match Text.splitFirst? [':'] token.toList with
  | some (number, secret) =>
    if secret.isEmpty || number.isEmpty || !number.all Text.isDigitLike then .error .badBotToken
    else Json.readInteger (String.ofList number)
  | none => .error .badBotToken

/-- Signs a bot in, if it is not signed in already. -/
def signIn (bot : Int) (t : Telegram) : Option Telegram :=
  if bot ∈ t.signedIn then some t
  else if t.signInFails then none
  else some { t with signedIn := bot :: t.signedIn }

/-- Sends a notification. -/
def send (bot : Int) (note : Notification) (t : Telegram) : Except SendError Unit × Telegram :=
  match t.signIn bot with
  | none => (.error (.signIn bot), t)
  | some t =>
    if note.chat ∈ t.refusing then (.error (.refused note.chat), t)
    else (.ok (), { t with delivered := t.delivered ++ [⟨bot, note⟩] })

/-- Shuts a bot down. -/
def signOut (bot : Int) (t : Telegram) : Telegram := { t with signedIn := t.signedIn.filter (· ≠ bot) }

end Telegram

end ChainAlerts
