import ChainAlerts.LogFilter
import ChainAlerts.Store

/-! What chats may ask of a bot about one kind of log: to add a filter to their list, to remove one and
to replace one. Positions are counted from zero. -/

namespace ChainAlerts

inductive FilterError where
  | store (cause : StoreFailure)
  | negativePosition (position : Int)
  | noRecord (chat : Int)
  | nothingToRemove
  | noneAt
  | noneToReplaceAt
  /-- a position beyond all that a list can have -/
  | removalOutOfBounds
  | replacementOutOfBounds
  | refused (cause : Fault)

def FilterError.message : FilterError → String
  | .store cause => cause.message
  | .negativePosition position => s!"Filter position must not be negative, got {position}"
  | .noRecord chat => s!"Chat {chat} has no log filters"
  | .nothingToRemove => "pop from empty list"
  | .noneAt => "pop index out of range"
  | .noneToReplaceAt => "list assignment index out of range"
  | .removalOutOfBounds => "position too large"
  | .replacementOutOfBounds => "cannot fit 'int' into an index-sized integer"
  | .refused cause => cause.message

namespace FilterLists

open Store

/-- A call that may fail. -/
abbrev Attempt (α : Type) : Type := Call (Except FilterError α)

/-- The bound on positions in a list, which is `2 ^ 63`. -/
def positionBound : Int := 9223372036854775808

/-- A list without the element at a position, and that element. -/
def removeAt {α : Type} (position : Int) (xs : List α) : Except FilterError (List α × α) :=
  if positionBound ≤ position then .error .removalOutOfBounds
  else if xs.isEmpty then .error .nothingToRemove
  else
    match xs[position.toNat]? with
    | some x => .ok (xs.eraseIdx position.toNat, x)
    | none => .error .noneAt

/-- A list with another element at a position. -/
def replaceAt {α : Type} (position : Int) (x : α) (xs : List α) : Except FilterError (List α) :=
  if positionBound ≤ position then .error .replacementOutOfBounds
  else if position.toNat < xs.length then .ok (xs.set position.toNat x)
  else .error .noneToReplaceAt

variable {log filter : Type} (kind : LogKind log filter) (bot chat : Int)

def store : Store (List filter) :=
  { codec := {
      collection := kind.collection, decode := kind.readFilters
      encode := fun filters => .ok (kind.writeFilters filters) }
    bot }

/-- A failed edit as the failure of a call. -/
def ofEdit : EditFailure FilterError → FilterError
  | .store cause => .store cause
  | .refused cause => cause

/-- Edits a chat's list. A chat without a record is given the default, if there is one. -/
def edit {α : Type} (default : Option (List filter))
    (change : List filter → Except FilterError (List filter × α)) : Attempt (List filter × α) :=
  (((store kind bot).edit chat default change).map fun result => result.mapError ofEdit).ifOk fun
    | some r => .done (.ok r)
    | none => .done (.error (.noRecord chat))

def get : Attempt (Option (List filter)) :=
  ((store kind bot).get chat).map fun result => result.mapError .store

/-- Refuses a negative position. -/
def checkPosition (position : Int) : Except FilterError Unit :=
  if position < 0 then .error (.negativePosition position) else .ok ()

/-- Appends a filter. The result is the list as stored. -/
def add (f : filter) : Attempt (List filter) :=
  match kind.check f with
  | .error cause => .done (.error (.refused cause))
  | .ok _ => (edit kind bot chat (some []) fun fs => .ok (fs ++ [f], ())).map fun r => r.map (·.1)

/-- Removes the filter at a position and returns it. -/
def remove (position : Int) : Attempt filter :=
  match checkPosition position with
  | .error e => .done (.error e)
  | .ok _ => (edit kind bot chat none (removeAt position)).map fun r => r.map (·.2)

/-- Replaces the filter at a position. The result is the list as stored. -/
def replace (position : Int) (f : filter) : Attempt (List filter) :=
  match checkPosition position with
  | .error e => .done (.error e)
  | .ok _ =>
    match kind.check f with
    | .error cause => .done (.error (.refused cause))
    | .ok _ =>
      (edit kind bot chat none fun fs => (replaceAt position f fs).map fun fs => (fs, ())).map fun r => r.map (·.1)

end FilterLists

end ChainAlerts
