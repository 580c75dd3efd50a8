import ChainAlerts.Proofs.StoreRuns

/-! The requests of an edit. It asks for the lock of its chat, reads, and either is settled by what it read or
has a payload to write; then it lets the lock go. Alone it does so at one stroke, and an edit that fails leaves
the rows as they were. -/

namespace ChainAlerts

namespace Database

variable {db db' : Database} {collection : String} {bot chat : Int} {payload : Json}

theorem begin_of_put (h : db.put collection bot chat payload = .ok db') : db.begin [bot, chat] = .ok () := by
  unfold put at h
  cases hbegin : db.begin [bot, chat] with
  | ok u => rfl
  | error cause =>
      rw [hbegin] at h
      cases h

theorem begin_of_get {found : Option Json} (h : db.get collection bot chat = .ok found) :
    db.begin [bot, chat] = .ok () ∧ found = (db.records collection bot).get? chat := by
  rw [get] at h
  cases hbegin : db.begin [bot, chat] with
  | ok u =>
      rw [hbegin] at h
      exact ⟨rfl, (Except.ok.inj h).symm⟩
  | error cause =>
      rw [hbegin] at h
      cases h

/-- A payload that is stored either says the same as the one in its place, or takes the place. -/
theorem put_eq_ok (h : db.put collection bot chat payload = .ok db') :
    db' = if isStored (db.records collection bot) chat payload then db
      else db.withRecords collection bot ((db.records collection bot).put chat payload) := by
  have hbegin := begin_of_put h
  cases payload with
  | obj fields =>
      rw [put_obj hbegin] at h
      exact (Except.ok.inj h).symm
  | _ =>
      unfold put at h
      rw [hbegin] at h
      cases h

theorem records_of_put_ne {other : Int} (h : db.put collection bot chat payload = .ok db') (hne : other ≠ chat) :
    (db'.records collection bot).get? other = (db.records collection bot).get? other := by
  rw [put_eq_ok h]
  split
  · rfl
  · rw [records_withRecords]
    exact Records.get?_put_of_ne hne _ _

/-- What a chat's payload is read as does not depend on what is stored for another chat. -/
theorem get_of_put_ne {other : Int} (h : db.put collection bot chat payload = .ok db') (hne : other ≠ chat) :
    db'.get collection bot other = db.get collection bot other := by
  have hbegin : db'.begin [bot, other] = db.begin [bot, other] := by
    rw [put_eq_ok h]
    split <;> rfl
  rw [get, get, hbegin, records_of_put_ne h hne]

end Database

namespace Store

variable {ρ ε α : Type}

theorem answer_write_ok {collection : String} {bot chat : Int} {payload : Json} {shelf : Shelf} {db : Database}
    (h : shelf.database.put collection bot chat payload = .ok db) :
    answer collection bot (.write chat payload) shelf = (.ok (), { shelf with database := db }) := by
  simp only [answer, h]

theorem answer_write_error {collection : String} {bot chat : Int} {payload : Json} {shelf : Shelf}
    {cause : DatabaseError} (h : shelf.database.put collection bot chat payload = .error cause) :
    answer collection bot (.write chat payload) shelf = (.error cause, shelf) := by
  simp only [answer, h]

/-- What a chat's payload is read as after a payload was written for another chat, or was not. -/
theorem get_answer_write_ne (collection : String) (bot : Int) {chat other : Int} (payload : Json) (shelf : Shelf)
    (hne : other ≠ chat) :
    (answer collection bot (.write chat payload) shelf).2.database.get collection bot other =
      shelf.database.get collection bot other := by
  cases hput : shelf.database.put collection bot chat payload with
  | ok db =>
      rw [answer_write_ok hput]
      exact Database.get_of_put_ne hput hne
  | error cause => rw [answer_write_error hput]

/-- A chat whose record is edited, the record it is given if it has none, and the change. -/
structure Edit (ρ ε α : Type) where
  chat : Int
  default : Option ρ
  change : ρ → Except ε (ρ × α)

/-- What an edit comes to: it fails, or is left alone, or yields the record as stored and what else there is. -/
abbrev EditResult (ρ ε α : Type) : Type := Except (EditFailure ε) (Option (ρ × α))

/-- The payload of a chat. -/
def row (s : Store ρ) (chat : Int) (shelf : Shelf) : Option Json :=
  (shelf.database.records s.codec.collection s.bot).get? chat

namespace Edit

variable (s : Store ρ) (e : Edit ρ ε α)

def call : Call (EditResult ρ ε α) := s.edit e.chat e.default e.change

/-- What an edit makes of the record that it starts from: a result, or a payload to write and the result once it
is written. -/
def changed (current : ρ) : Except (EditResult ρ ε α) (Json × ρ × α) :=
  match e.change current with
  | .error cause => .error (.error (.refused cause))
  | .ok (updated, extra) =>
    match s.codec.encode updated with
    | .ok payload => .ok (payload, updated, extra)
    | .error f => .error (.error (.store (.fault f)))

/-- What an edit makes of what it read. -/
def plan (reply : Except DatabaseError (Option Json)) : Except (EditResult ρ ε α) (Json × ρ × α) :=
  match s.record? e.chat reply with
  | .error cause => .error (.error (.store cause))
  | .ok found =>
    match found.or e.default with
    | none => .error (.ok none)
    | some current => e.changed s current

/-- The result of an edit whose payload was written, or was not. -/
def written (kept : ρ × α) : Except DatabaseError Unit → EditResult ρ ε α
  | .ok _ => .ok (some kept)
  | .error cause => .error (.store (s.failure .write cause))

/-- The end of an edit. -/
def leave (result : EditResult ρ ε α) : Call (EditResult ρ ε α) := .ask (.unlock e.chat) fun _ => .done result

def writes (payload : Json) (kept : ρ × α) : Call (EditResult ρ ε α) :=
  .ask (.write e.chat payload) fun reply => e.leave (written s kept reply)

/-- What is left of an edit once it has read. -/
def afterRead (reply : Except DatabaseError (Option Json)) : Call (EditResult ρ ε α) :=
  match e.plan s reply with
  | .error result => e.leave result
  | .ok (payload, kept) => e.writes s payload kept

def reads : Call (EditResult ρ ε α) := .ask (.read e.chat) (e.afterRead s)

/-- An edit, request by request. -/
theorem call_eq : e.call s = .ask (.lock e.chat) fun _ => e.reads s := by
  refine congrArg (Task.ask (Request.lock e.chat)) (funext fun _ => ?_)
  refine congrArg (Task.ask (Request.read e.chat)) (funext fun reply => ?_)
  simp only [Task.andThen, afterRead, plan]
  cases s.record? e.chat reply with
  | error cause => rfl
  | ok found =>
      simp only
      cases found.or e.default with
      | none => rfl
      | some current =>
          simp only [changed]
          cases e.change current with
          | error cause => rfl
          | ok update =>
              simp only [Store.put]
              cases s.codec.encode update.1 with
              | error f => rfl
              | ok payload =>
                  refine congrArg (Task.ask (Request.write e.chat payload)) (funext fun reply => ?_)
                  cases reply <;> rfl

/-- An edit that is settled by what it reads changes nothing. -/
theorem alone_of_plan_error {shelf : Shelf} {result : EditResult ρ ε α}
    (h : e.plan s (shelf.database.get s.codec.collection s.bot e.chat) = .error result) :
    s.runAlone (e.call s) shelf = (result, shelf) := by
  rw [call_eq, runAlone]
  simp only [Task.run, answer, reads, afterRead, h, leave]

/-- An edit that has a payload to write answers as the write went. -/
theorem alone_of_plan_ok {shelf : Shelf} {payload : Json} {kept : ρ × α}
    (h : e.plan s (shelf.database.get s.codec.collection s.bot e.chat) = .ok (payload, kept)) :
    s.runAlone (e.call s) shelf =
      (written s kept (answer s.codec.collection s.bot (.write e.chat payload) shelf).1,
        (answer s.codec.collection s.bot (.write e.chat payload) shelf).2) := by
  rw [call_eq, runAlone]
  simp only [Task.run, answer, reads, afterRead, h, writes, leave]

/-- The row of a chat after an edit that does not fail. -/
def onRow (row : Option Json) : Option Json :=
  match e.plan s (.ok row) with
  | .error _ => row
  | .ok (payload, _) => if row.any payload.alike then row else some payload

/-- A payload that an edit stores is what the edit does to the row. -/
theorem row_of_put {shelf : Shelf} {payload : Json} {kept : ρ × α} {db : Database}
    (hplan : e.plan s (shelf.database.get s.codec.collection s.bot e.chat) = .ok (payload, kept))
    (hput : shelf.database.put s.codec.collection s.bot e.chat payload = .ok db) :
    s.row e.chat { shelf with database := db } = e.onRow s (s.row e.chat shelf) := by
  have hget : shelf.database.get s.codec.collection s.bot e.chat = .ok (s.row e.chat shelf) := by
    rw [Database.get, Database.begin_of_put hput]
    rfl
  have hstored : (s.row e.chat shelf).any payload.alike =
      Database.isStored (shelf.database.records s.codec.collection s.bot) e.chat payload := by
    rw [Database.isStored, row]
    cases Records.get? e.chat (shelf.database.records s.codec.collection s.bot) <;> rfl
  rw [hget] at hplan
  simp only [onRow, hplan]
  rw [hstored, row, Database.put_eq_ok hput]
  split
  · rfl
  · rw [Database.records_withRecords, Records.get?_put_self]

/-- An edit alone either fails and leaves every row as it was, or does to the row of its chat what it does to
rows and leaves the others. -/
theorem alone_row (shelf : Shelf) (chat : Int) :
    s.row chat (s.runAlone (e.call s) shelf).2 =
      if (s.runAlone (e.call s) shelf).1.isOk && e.chat = chat then e.onRow s (s.row chat shelf)
      else s.row chat shelf := by
  cases hplan : e.plan s (shelf.database.get s.codec.collection s.bot e.chat) with
  | error result =>
      rw [e.alone_of_plan_error s hplan]
      split
      next hdone =>
        obtain ⟨hok, rfl⟩ : result.isOk = true ∧ e.chat = chat := by simpa using hdone
        rw [onRow]
        cases hget : shelf.database.get s.codec.collection s.bot e.chat with
        | error cause =>
            rw [hget] at hplan
            obtain rfl := Except.error.inj hplan
            cases hok
        | ok found =>
            rw [hget, (Database.begin_of_get hget).2] at hplan
            rw [row, hplan]
      · rfl
  | ok planned =>
      obtain ⟨payload, kept⟩ := planned
      rw [e.alone_of_plan_ok s hplan]
      cases hput : shelf.database.put s.codec.collection s.bot e.chat payload with
      | error cause =>
          rw [answer_write_error hput]
          rfl
      | ok db =>
          rw [answer_write_ok hput]
          by_cases hchat : e.chat = chat
          · subst hchat
            rw [if_pos (by simp [written, Except.isOk, Except.toBool])]
            exact e.row_of_put s hplan hput
          · rw [if_neg (by simp [hchat])]
            exact Database.records_of_put_ne hput (Ne.symm hchat)

end Edit

/-- Edits one after another: what each comes to, and what is left. -/
def inTurn (s : Store ρ) : List (Edit ρ ε α) → Shelf → List (EditResult ρ ε α) × Shelf
  | [], shelf => ([], shelf)
  | e :: rest, shelf =>
    let (result, shelf) := s.runAlone (e.call s) shelf
    let (results, shelf) := inTurn s rest shelf
    (result :: results, shelf)

theorem inTurn_concat (s : Store ρ) (edits : List (Edit ρ ε α)) (e : Edit ρ ε α) (shelf : Shelf) :
    s.inTurn (edits ++ [e]) shelf =
      ((s.inTurn edits shelf).1 ++ [(s.runAlone (e.call s) (s.inTurn edits shelf).2).1],
        (s.runAlone (e.call s) (s.inTurn edits shelf).2).2) := by
  induction edits generalizing shelf with
  | nil => rfl
  | cons first rest ih =>
      simp only [List.cons_append, inTurn]
      rw [ih]

/-- After edits in turn the row of a chat is what the edits of the chat that did not fail made of it, one after
another. -/
theorem inTurn_row (s : Store ρ) (edits : List (Edit ρ ε α)) (shelf : Shelf) (chat : Int) :
    s.row chat (s.inTurn edits shelf).2 =
      ((edits.zip (s.inTurn edits shelf).1).filter fun settled => settled.2.isOk && settled.1.chat = chat).foldl
        (fun row settled => settled.1.onRow s row) (s.row chat shelf) := by
  induction edits generalizing shelf with
  | nil => rfl
  | cons e rest ih =>
      simp only [inTurn, List.zip_cons_cons, List.filter_cons]
      rw [ih, e.alone_row s shelf chat]
      split <;> rfl

end Store

end ChainAlerts
