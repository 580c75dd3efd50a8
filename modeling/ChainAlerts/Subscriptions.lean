import ChainAlerts.Store

/-! What chats may ask of a bot: to follow tokens, to follow them no longer, and to change the settings.
Every change goes through an edit of the chat's record, so changes of one chat do not overwrite each
other. A change of what is followed makes the index afresh after it is written. -/

namespace ChainAlerts

inductive SubscriptionError where
  | store (cause : StoreFailure)
  | rebuild (bot : Int) (cause : StoreFailure)
  | notFollowed (chat : Int) (token : Token)
  | noRecord (chat : Int)
  | noComponent (position : Int)
  | settings (cause : Fault)

def SubscriptionError.message : SubscriptionError → String
  | .store cause => cause.message
  | .rebuild bot cause => s!"Failed to rebuild index buybot:{bot}: {cause.message}"
  | .notFollowed chat token => s!"Chat {chat} does not follow {token.key}"
  | .noRecord chat => s!"Chat {chat} has no subscriptions"
  | .noComponent position => s!"No component at position {position}"
  | .settings cause => cause.message

/-- Moves a component by an offset, at most to an end of the list. -/
def Component.move? (components : List Component) (position offset : Int) : Option (List Component) :=
  match components[position.toNat]? with
  | some c =>
    if position < 0 then none
    else
      let target : Int := max 0 (min (components.length - 1) (position + offset))
      some ((components.eraseIdx position.toNat).insertIdx target.toNat c)
  | none => none

namespace Subscriptions

open Store

/-- A call that may fail. -/
abbrev Attempt (α : Type) : Type := Call (Except SubscriptionError α)

def store (bot : Int) : Store Subscriber := { codec := Subscriber.codec, bot }

/-- A failed edit as the failure of a call. -/
def ofEdit : EditFailure SubscriptionError → SubscriptionError
  | .store cause => .store cause
  | .refused cause => cause

variable (bot chat : Int) (token : Token)

/-- Makes the index afresh from all records while nobody uses it. If a record cannot be read the index
stays as it is. -/
def rebuild : Attempt Unit :=
  .ask .lockIndex fun _ =>
    (store bot).all.andThen fun
      | .ok records =>
        .ask (.publish (SubscriberIndex.ofRecords records)) fun _ => .ask .unlockIndex fun _ => .done (.ok ())
      | .error cause => .ask .unlockIndex fun _ => .done (.error (.rebuild bot cause))

/-- Edits a chat's record. -/
def edit {α : Type} (default : Option Subscriber)
    (change : Subscriber → Except SubscriptionError (Subscriber × α)) : Attempt (Option (Subscriber × α)) :=
  ((store bot).edit chat default change).map fun result => result.mapError ofEdit

/-- Edits a chat's record, or a new one. -/
def editOrBegin (change : Subscriber → Subscriber) : Attempt Subscriber :=
  (edit bot chat (some {}) fun s => .ok (change s, ())).ifOk fun
    | some (s, _) => .done (.ok s)
    | none => .done (.error (.noRecord chat))

def get : Attempt (Option Subscriber) := ((store bot).get chat).map fun result => result.mapError .store

/-- Follows a token. A token followed already keeps its settings unless others are given. -/
def follow (settings : Option Subscription) : Attempt Subscriber :=
  (editOrBegin bot chat fun s =>
    if s.follows token && settings.isNone then s else s.withToken token (settings.getD {})).ifOk fun s =>
  (rebuild bot).ifOk fun _ => .done (.ok s)

/-- Follows a token no longer, and tells whether it was followed. -/
def unfollow : Attempt Bool :=
  (edit bot chat none fun s => .ok (s.withoutToken token, s.follows token)).ifOk fun
    | some (_, true) => (rebuild bot).ifOk fun _ => .done (.ok true)
    | _ => .done (.ok false)

/-- Deletes a chat's record. -/
def forget : Attempt (Option Subscriber) :=
  (((store bot).remove chat).map fun result => result.mapError SubscriptionError.store).ifOk fun removed =>
    (rebuild bot).ifOk fun _ => .done (.ok removed)

/-- Moves a record's settings from one token to another, whose own settings they replace. The result also
tells whether there was anything to move. -/
def moveSettings (source target : Token) (s : Subscriber) : Subscriber × Bool :=
  match Assoc.get? source s.tokens with
  | some settings => ((s.withoutToken source).withToken target settings, true)
  | none => (s, false)

/-- Moves the settings of chats one after the other. -/
def migrateEach (source target : Token) : List Int → List (Int × Bool) → Attempt (List (Int × Bool))
  | [], moved => .done (.ok moved)
  | chat :: rest, moved =>
    (edit bot chat none fun s => .ok (moveSettings source target s)).ifOk fun
      | some (s, true) => migrateEach source target rest (moved ++ [(chat, s.enabled)])
      | _ => migrateEach source target rest moved

/-- Moves the settings of every chat that follows one token to another. The result is each chat that was
moved and whether it is enabled. -/
def migrate (source target : Token) : Attempt (List (Int × Bool)) :=
  ((store bot).all.map fun result => result.mapError SubscriptionError.store).ifOk fun records =>
    let chats := (records.filter fun (_, s) => s.follows source).map (·.1)
    (migrateEach bot source target chats []).ifOk fun moved => (rebuild bot).ifOk fun _ => .done (.ok moved)

/-- Enables or disables every notification of a chat. -/
def setEnabled (enabled : Bool) : Attempt Subscriber := editOrBegin bot chat fun s => { s with enabled }

/-- Changes the settings for a token that the chat follows. -/
def update (change : Subscription → Except SubscriptionError Subscription) : Attempt Subscription :=
  (edit bot chat none fun s =>
    match Assoc.get? token s.tokens with
    | none => .error (.notFollowed chat token)
    | some settings => do
      let settings ← change settings
      return (s.withToken token settings, settings)).ifOk fun
    | some (_, settings) => .done (.ok settings)
    | none => .done (.error (.noRecord chat))

/-- Asks for the changes of a direction, or no longer does. -/
def setPolarity (p : Polarity) (wanted : Bool) : Attempt Subscription :=
  update bot chat token fun s => .ok (s.setPolarity p wanted)

def setMinAmount (least : MinAmount) : Attempt Subscription :=
  update bot chat token fun s => .ok { s with minAmount := least }

/-- Replaces the attachments, and their currency if one is given. -/
def setAttachments (attachments : List Attachment) (currency : Option Currency) : Attempt Subscription :=
  update bot chat token fun s =>
    (Subscription.arranged { s with attachments, currency := currency.getD s.currency }).mapError .settings

def setComponents (components : List Component) : Attempt Subscription :=
  update bot chat token fun s => .ok { s with components }

/-- Moves a component up or down. -/
def moveComponent (position offset : Int) : Attempt Subscription :=
  update bot chat token fun s =>
    match Component.move? s.components position offset with
    | some components => .ok { s with components }
    | none => .error (.noComponent position)

def setLinks (links : List Button) : Attempt Subscription :=
  update bot chat token fun s => .ok { s with links }

def setButtons (buttons : List (List Button)) : Attempt Subscription :=
  update bot chat token fun s => .ok { s with buttons }

end Subscriptions

end ChainAlerts
