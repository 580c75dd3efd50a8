import ChainAlerts.Proofs.IndexDuties

/-! Calls that fail. The database may fail at any request of a call and serve again at the next, and a call may fail
for what it reads or is given. Whatever the rows hold and whatever stage it failed at, a call that fails leaves every
row as it was, but for one: the row of a chat that is to be removed is gone even if it cannot be read, and the call
fails. The proof follows what a call has changed up to each request, whatever replies it is given. -/

namespace ChainAlerts

namespace Store

/-- Whether a reply means that a row was changed. -/
def Request.changes : (r : Request) → r.Reply → Bool
  | .write .., reply => (show Except DatabaseError Unit from reply).isOk
  | .remove _, reply => (show Except DatabaseError (Option Json) from reply).toOption.join.isSome
  | _, _ => false

/-- Every way in which a call can end, whatever replies it is given, is as told: by whether it has changed a row, and
by its result. The flag tells whether it has changed one so far. -/
def Ends {α : Type} (ends : Bool → α → Prop) : Bool → Call α → Prop
  | changed, .done result => ends changed result
  | changed, .ask r next => ∀ reply, Ends ends (changed || r.changes reply) (next reply)

section

variable {α β ε δ : Type} {changed : Bool}

theorem Ends.andThen {ends : Bool → α → Prop} {ends' : Bool → β → Prop} {t : Call α} {f : α → Call β}
    (h : Ends ends changed t) (hf : ∀ changed a, ends changed a → Ends ends' changed (f a)) :
    Ends ends' changed (t.andThen f) := by
  induction t generalizing changed with
  | done a => exact hf changed a h
  | ask r next ih => exact fun reply => ih reply (h reply)

theorem Ends.mono {ends ends' : Bool → α → Prop} {t : Call α} (h : Ends ends changed t)
    (himp : ∀ changed a, ends changed a → ends' changed a) : Ends ends' changed t := by
  induction t generalizing changed with
  | done a => exact himp changed a h
  | ask r next ih => exact fun reply => ih reply (h reply)

theorem Ends.ifOk {ends : Bool → Except ε α → Prop} {ends' : Bool → Except ε β → Prop} {t : Call (Except ε α)}
    {f : α → Call (Except ε β)} (h : Ends ends changed t)
    (hok : ∀ changed a, ends changed (.ok a) → Ends ends' changed (f a))
    (herror : ∀ changed e, ends changed (.error e) → ends' changed (.error e)) : Ends ends' changed (t.ifOk f) := by
  refine h.andThen fun changed result hresult => ?_
  cases result with
  | ok a => exact hok changed a hresult
  | error e => exact herror changed e hresult

/-- What is told of the ends of a call holds of each of its runs, in any surroundings in which a row is changed by no
request but one whose reply says so. -/
theorem Ends.run {σ τ : Type} {ends : Bool → α → Prop} {call : Call α} {respond : (r : Request) → σ → r.Reply × σ}
    (rows : σ → τ) (hrows : ∀ r x, r.changes (respond r x).1 = false → rows (respond r x).2 = rows x)
    (h : Ends ends changed call) (x : σ) :
    ∃ after, ends after (call.run respond x).1 ∧
      (after = false → changed = false ∧ rows (call.run respond x).2 = rows x) := by
  induction call generalizing changed x with
  | done result => exact ⟨changed, h, fun hsame => ⟨hsame, rfl⟩⟩
  | ask r next ih =>
      obtain ⟨after, hends, hsame⟩ := ih (respond r x).1 (h (respond r x).1) (respond r x).2
      refine ⟨after, hends, fun hafter => ?_⟩
      obtain ⟨hnone, hrest⟩ := hsame hafter
      obtain ⟨hchanged, hreply⟩ := Bool.or_eq_false_iff.mp hnone
      exact ⟨hchanged, hrest.trans (hrows r x hreply)⟩

/-- The end of a call that fails only before it has changed a row, some failures excepted. -/
def FailsFirst (excepted : ε → Prop) (changed : Bool) (result : Except ε α) : Prop :=
  changed → ∀ e, result = .error e → excepted e

/-- A call that ends before it has changed a row. -/
theorem Ends.unchanged {excepted : ε → Prop} (result : Except ε α) :
    Ends (FailsFirst excepted) false (.done result) := fun h => by cases h

/-- A call that does not fail. -/
theorem Ends.succeeds {excepted : ε → Prop} (a : α) : Ends (FailsFirst excepted) changed (.done (.ok a)) :=
  fun _ _ h => by cases h

theorem FailsFirst.map {excepted : ε → Prop} {result : Except ε α} (h : FailsFirst excepted changed result)
    (f : α → β) : FailsFirst excepted changed (result.map f) := by
  intro hchanged e he
  cases result with
  | ok a => cases he
  | error cause => exact h hchanged e (congrArg Except.error (Except.error.inj he))

theorem Ends.mapOk {excepted : ε → Prop} {t : Call (Except ε α)} (h : Ends (FailsFirst excepted) changed t)
    (f : α → β) : Ends (FailsFirst excepted) changed (t.map fun result => result.map f) :=
  h.andThen fun _ _ hresult => hresult.map f

/-- The end of an edit, which has changed a row only if it has stored a record. -/
def ChangesIfKept {ρ : Type} (changed : Bool) (result : EditResult ρ ε α) : Prop :=
  changed → ∃ kept, result = .ok (some kept)

variable {ρ : Type} (s : Store ρ) (chat : Int)

theorem ends_get : Ends (FailsFirst fun _ => False) false (s.get chat) := fun _ => .unchanged _

theorem ends_all : Ends (FailsFirst fun _ => False) false s.all := fun _ => .unchanged _

theorem ends_put (r : ρ) : Ends (FailsFirst fun _ => False) false (s.put chat r) := by
  rw [put]
  split
  · intro reply hchanged e he
    cases reply with
    | ok u => cases he
    | error cause => cases hchanged
  · exact .unchanged _

theorem ends_edit (e : Edit ρ ε α) : Ends ChangesIfKept false (e.call s) := by
  rw [e.call_eq]
  intro _ (reply : Except DatabaseError (Option Json))
  show Ends ChangesIfKept false (e.afterRead s reply)
  rw [Edit.afterRead]
  cases e.plan s reply with
  | error result =>
      intro _ hchanged
      cases hchanged
  | ok update =>
      intro reply _ hchanged
      cases reply with
      | ok u => exact ⟨update.2, rfl⟩
      | error cause => cases hchanged

/-- A call that edits a record and goes on fails first, if going on can only fail in an excepted way once something
is stored. -/
theorem ends_edit_ifOk {default : Option ρ} {change : ρ → Except δ (ρ × α)} {excepted : ε → Prop}
    (cast : EditFailure δ → ε) {next : Option (ρ × α) → Call (Except ε β)}
    (hnone : Ends (FailsFirst excepted) false (next none))
    (hstored : ∀ kept changed, Ends (FailsFirst excepted) changed (next (some kept))) :
    Ends (FailsFirst excepted) false
      (((s.edit chat default change).map fun result => result.mapError cast).ifOk next) := by
  have hedit : Ends (fun changed (result : Except ε (Option (ρ × α))) => changed → ∃ kept, result = .ok (some kept))
      false ((s.edit chat default change).map fun result => result.mapError cast) := by
    let e : Edit ρ δ α := { chat, default, change }
    refine (s.ends_edit e).andThen fun changed result hresult hchanged => ?_
    obtain ⟨kept, rfl⟩ := hresult hchanged
    exact ⟨kept, rfl⟩
  refine hedit.ifOk (fun changed found hfound => ?_) fun changed e herror hchanged => ?_
  · cases found with
    | some kept => exact hstored kept changed
    | none =>
        cases changed with
        | false => exact hnone
        | true =>
            obtain ⟨kept, hkept⟩ := hfound rfl
            cases hkept
  · obtain ⟨kept, hkept⟩ := herror hchanged
    cases hkept

end

/-- The shelf while its database fails, or while it does not. -/
def Shelf.failing (failure : Option String) (shelf : Shelf) : Shelf :=
  { shelf with database := { shelf.database with failure } }

/-- Answers requests in a database that fails at some of them: at the `n`th if `faults n` tells a failure. -/
def answerAmid (faults : Nat → Option String) (collection : String) (bot : Int) (r : Request) :
    Nat × Shelf → r.Reply × Nat × Shelf
  | (n, shelf) => (answer collection bot r (shelf.failing (faults n))).map id (Prod.mk (n + 1))

variable {ρ α ε : Type} (s : Store ρ) {chat : Int} {shelf : Shelf} {faults : Nat → Option String}

/-- Runs a call while the database fails at some of its requests. -/
def runAmid (faults : Nat → Option String) (call : Call α) (shelf : Shelf) : α × Shelf :=
  (call.run (answerAmid faults s.codec.collection s.bot) (0, shelf)).map id (·.2)

theorem failure_answer (collection : String) (bot : Int) (r : Request) (shelf : Shelf) :
    (answer collection bot r shelf).2.database.failure = shelf.database.failure := by
  cases r with
  | write chat payload =>
      cases hput : shelf.database.put collection bot chat payload with
      | error cause => rw [answer_write_error hput]
      | ok database =>
          rw [answer_write_ok hput, Database.put_eq_ok hput]
          split <;> rfl
  | remove chat =>
      simp only [answer, Database.delete]
      cases shelf.database.begin [bot, chat] with
      | error cause => rfl
      | ok u =>
          simp only [except_ok_bind]
          cases (shelf.database.records collection bot).get? chat <;> rfl
  | _ => rfl

/-- While nothing befalls the database, a call runs as it does alone. -/
theorem runAmid_steady (call : Call α) (shelf : Shelf) :
    s.runAmid (fun _ => shelf.database.failure) call shelf = s.runAlone call shelf := by
  have hrun : ∀ (shelf' : Shelf) (n : Nat), shelf'.database.failure = shelf.database.failure →
      (call.run (answerAmid (fun _ => shelf.database.failure) s.codec.collection s.bot) (n, shelf')).map id (·.2) =
        call.run (answer s.codec.collection s.bot) shelf' := by
    induction call with
    | done result => exact fun _ _ _ => rfl
    | ask r next ih =>
        intro shelf' n hsame
        have hfailing : shelf'.failing shelf.database.failure = shelf' := by
          rw [← hsame]
          rfl
        simp only [Task.run, answerAmid, hfailing]
        exact ih _ _ _ ((failure_answer _ _ r shelf').trans hsame)
  exact hrun shelf 0 rfl

/-- A row is changed by no request but one whose reply says so. -/
theorem tables_answerAmid (collection : String) (bot : Int) (r : Request) (x : Nat × Shelf)
    (h : r.changes (answerAmid faults collection bot r x).1 = false) :
    (answerAmid faults collection bot r x).2.2.database.tables = x.2.database.tables := by
  obtain ⟨n, shelf⟩ := x
  cases r with
  | write chat payload =>
      cases hput : (shelf.failing (faults n)).database.put collection bot chat payload with
      | error cause =>
          rw [answerAmid, answer_write_error hput]
          rfl
      | ok database =>
          rw [answerAmid, answer_write_ok hput] at h
          cases h
  | remove chat =>
      simp only [answerAmid, answer, Database.delete] at h ⊢
      cases hbegin : (shelf.failing (faults n)).database.begin [bot, chat] with
      | error cause => rfl
      | ok u =>
          simp only [hbegin, except_ok_bind] at h ⊢
          cases hrow : ((shelf.failing (faults n)).database.records collection bot).get? chat with
          | none => rfl
          | some payload =>
              simp only [hrow] at h
              cases h
  | _ => rfl

/-- A call that leaves every row as it is when it fails, some failures excepted, whatever befalls the database. -/
def SparesRows (excepted : ε → Prop) (call : Call (Except ε α)) : Prop :=
  ∀ faults shelf e, (s.runAmid faults call shelf).1 = .error e → ¬ excepted e →
    (s.runAmid faults call shelf).2.database.tables = shelf.database.tables

variable {s} in
theorem Ends.sparesRows {excepted : ε → Prop} {call : Call (Except ε α)} (h : Ends (FailsFirst excepted) false call) :
    s.SparesRows excepted call := by
  intro faults shelf e herror hnot
  obtain ⟨after, hends, hsame⟩ :=
    h.run (fun x : Nat × Shelf => x.2.database.tables) (tables_answerAmid s.codec.collection s.bot) (0, shelf)
  apply And.right
  apply hsame
  apply Bool.eq_false_iff.mpr
  intro hafter
  exact hnot (hends hafter e herror)

/-- A call that has changed a row fails in an excepted way only. -/
theorem Ends.excepted {σ : Type} {excepted : ε → Prop} {call : Call (Except ε α)} {e : ε}
    (h : Ends (FailsFirst excepted) true call) {respond : (r : Request) → σ → r.Reply × σ} {x : σ}
    (herror : (call.run respond x).1 = .error e) : excepted e := by
  obtain ⟨after, hends, hsame⟩ := h.run (fun _ => ()) (fun _ _ _ => rfl) x
  cases after with
  | true => exact hends rfl e herror
  | false => cases (hsame rfl).1

/-- The database without a chat's row. -/
def withoutRow (chat : Int) (shelf : Shelf) : Database :=
  shelf.database.withRecords s.codec.collection s.bot ((shelf.database.records s.codec.collection s.bot).erase chat)

/-- What a removal comes to. The transaction fails, or there is nothing to remove, or the row is gone and then read. -/
theorem run_remove_cases (chat : Int) (shelf : Shelf) :
    (∃ cause, s.runAlone (s.remove chat) shelf = (.error cause, shelf) ∧
        shelf.database.begin [s.bot, chat] ≠ .ok ()) ∨
      (s.row chat shelf = none ∧ s.runAlone (s.remove chat) shelf = (.ok none, shelf)) ∨
      ∃ payload, s.row chat shelf = some payload ∧ s.runAlone (s.remove chat) shelf =
        (some <$> s.decode chat payload, { shelf with database := s.withoutRow chat shelf }) := by
  simp only [runAlone, remove, Task.run, answer, Database.delete]
  cases hbegin : shelf.database.begin [s.bot, chat] with
  | error cause => exact Or.inl ⟨_, rfl, by simp⟩
  | ok u =>
      right
      simp only [except_ok_bind]
      cases hrow : s.row chat shelf with
      | none =>
          rw [row] at hrow
          rw [hrow]
          exact Or.inl ⟨rfl, rfl⟩
      | some payload =>
          rw [row] at hrow
          rw [hrow]
          exact Or.inr ⟨payload, rfl, rfl⟩

/-- A removal makes one request. -/
theorem run_remove_amid (chat : Int) (shelf : Shelf) :
    (s.remove chat).run (answerAmid faults s.codec.collection s.bot) (0, shelf) =
      (s.runAlone (s.remove chat) (shelf.failing (faults 0))).map id (Prod.mk 1) := rfl

/-- What a removal that fails leaves: all rows, or all but the chat's, whose payload is no record. -/
def SparesOthers (chat : Int) (shelf : Shelf) (after : Database) : Prop :=
  after.tables = shelf.database.tables ∨
    ∃ payload f, s.row chat shelf = some payload ∧ s.codec.decode payload = .error f ∧
      after.tables = (s.withoutRow chat shelf).tables

theorem decode_error_iff {payload : Json} :
    (∃ cause, s.decode chat payload = .error cause) ↔ ∃ f, s.codec.decode payload = .error f := by
  rw [decode]
  cases s.codec.decode payload <;> simp

theorem sparesOthers_remove {cause : StoreFailure} (h : (s.runAlone (s.remove chat) shelf).1 = .error cause) :
    s.SparesOthers chat shelf (s.runAlone (s.remove chat) shelf).2.database := by
  obtain ⟨_, hrun, -⟩ | ⟨-, hrun⟩ | ⟨payload, hrow, hrun⟩ := s.run_remove_cases chat shelf
  · rw [hrun]
    exact Or.inl rfl
  · rw [hrun]
    exact Or.inl rfl
  · rw [hrun] at h ⊢
    cases hread : s.decode chat payload with
    | ok r =>
        rw [hread] at h
        cases h
    | error e =>
        obtain ⟨f, hf⟩ := s.decode_error_iff.mp ⟨e, hread⟩
        exact Or.inr ⟨payload, f, hrow, hf, rfl⟩

/-- A row that cannot be read is removed by a call that fails. -/
theorem run_remove_unread {payload : Json} {f : Fault} (hbegin : shelf.database.begin [s.bot, chat] = .ok ())
    (hrow : s.row chat shelf = some payload) (hread : s.codec.decode payload = .error f) :
    ∃ cause, s.runAlone (s.remove chat) shelf = (.error cause, { shelf with database := s.withoutRow chat shelf }) := by
  obtain ⟨_, -, hnot⟩ | ⟨hnone, -⟩ | ⟨other, hother, hrun⟩ := s.run_remove_cases chat shelf
  · exact absurd hbegin hnot
  · rw [hrow] at hnone
    cases hnone
  · obtain rfl := Option.some.inj (hrow.symm.trans hother)
    obtain ⟨cause, hcause⟩ := s.decode_error_iff.mpr ⟨f, hread⟩
    refine ⟨cause, ?_⟩
    rw [hrun, hcause]
    rfl

/-- A removal of a chat's row that fails, as a call alone or as the first request of a longer one. -/
structure Removes (chat : Int) (call : Call (Except ε α)) (excepted : ε → Prop) : Prop where
  spares : ∀ faults shelf e, (s.runAmid faults call shelf).1 = .error e → ¬ excepted e →
    s.SparesOthers chat shelf (s.runAmid faults call shelf).2.database
  unread : ∀ faults shelf payload f, (shelf.failing (faults 0)).database.begin [s.bot, chat] = .ok () →
    s.row chat shelf = some payload → s.codec.decode payload = .error f →
    ∃ e, (s.runAmid faults call shelf).1 = .error e ∧ ¬ excepted e ∧
      (s.runAmid faults call shelf).2.database.tables = (s.withoutRow chat shelf).tables

theorem removes_remove : s.Removes chat (s.remove chat) fun _ => False where
  spares := fun _ _ _ h _ => s.sparesOthers_remove h
  unread := by
    intro faults shelf payload f hbegin hrow hread
    obtain ⟨cause, hrun⟩ := s.run_remove_unread hbegin hrow hread
    refine ⟨cause, ?_⟩
    rw [runAmid, run_remove_amid, hrun]
    exact ⟨rfl, id, rfl⟩

/-- A call that goes on after a removal, which can then fail in an excepted way only. -/
theorem Removes.ifOk {excepted : ε → Prop} (cast : StoreFailure → ε) (hcast : ∀ cause, ¬ excepted (cast cause))
    {next : Option ρ → Call (Except ε α)} (hnext : ∀ removed, Ends (FailsFirst excepted) true (next removed)) :
    s.Removes chat (((s.remove chat).map fun result => result.mapError cast).ifOk next) excepted where
  spares := by
    intro faults shelf e h hnot
    have hremove := @sparesOthers_remove _ s chat (shelf.failing (faults 0))
    rw [runAmid, Task.run_ifOk, Task.run_map, run_remove_amid] at h ⊢
    generalize s.runAlone (s.remove chat) (shelf.failing (faults 0)) = out at hremove h ⊢
    obtain ⟨result, after⟩ := out
    cases result with
    | error cause => exact hremove rfl
    | ok removed =>
        have hrest : ((next removed).run (answerAmid faults s.codec.collection s.bot) (1, after)).1 = .error e := h
        exact absurd ((hnext removed).excepted hrest) hnot
  unread := by
    intro faults shelf payload f hbegin hrow hread
    obtain ⟨cause, hrun⟩ := s.run_remove_unread hbegin hrow hread
    refine ⟨cast cause, ?_⟩
    rw [runAmid, Task.run_ifOk, Task.run_map, run_remove_amid, hrun]
    exact ⟨rfl, hcast cause, rfl⟩

/-- What the operations of a store leave of the rows if they fail. -/
structure FailsCleanly : Prop where
  get : ∀ chat, s.SparesRows (fun _ => False) (s.get chat)
  put : ∀ chat r, s.SparesRows (fun _ => False) (s.put chat r)
  all : s.SparesRows (fun _ => False) s.all
  edit : ∀ {α ε : Type} chat default (change : ρ → Except ε (ρ × α)),
    s.SparesRows (fun _ => False) (s.edit chat default change)
  remove : ∀ chat, s.Removes chat (s.remove chat) fun _ => False

theorem failsCleanly : s.FailsCleanly where
  get := fun chat => (s.ends_get chat).sparesRows
  put := fun chat r => (s.ends_put chat r).sparesRows
  all := s.ends_all.sparesRows
  edit := by
    intro α ε chat default change
    let e : Edit ρ ε α := { chat, default, change }
    apply Ends.sparesRows
    refine (s.ends_edit e).mono fun changed result hresult hchanged cause hcause => ?_
    obtain ⟨kept, rfl⟩ := hresult hchanged
    cases hcause
  remove := fun _ => s.removes_remove

end Store

namespace Subscriptions

open Store

variable {bot chat : Int} {token : Token} {changed : Bool}

/-- The failure of a call that could not make the index afresh. -/
def isRebuild : SubscriptionError → Prop
  | .rebuild .. => True
  | _ => False

theorem ends_rebuild : Ends (FailsFirst isRebuild) changed (rebuild bot) := by
  intro _ (reply : Except DatabaseError Records)
  simp only [Task.andThen]
  cases (store bot).records reply with
  | ok records => exact fun _ _ => .succeeds ()
  | error cause =>
      intro _ _ e he
      obtain rfl := Except.error.inj he
      trivial

theorem ends_rebuild_done {α : Type} (result : α) :
    Ends (FailsFirst isRebuild) changed ((rebuild bot).ifOk fun _ => .done (.ok result)) :=
  ends_rebuild.ifOk (fun _ _ _ => .succeeds result) fun _ _ h => h.map fun _ => result

theorem ends_editOrBegin (change : Subscriber → Subscriber) :
    Ends (FailsFirst isRebuild) false (editOrBegin bot chat change) :=
  ends_edit_ifOk (store bot) chat ofEdit (.unchanged _) fun _ _ => .succeeds _

theorem ends_follow (settings : Option Subscription) :
    Ends (FailsFirst isRebuild) false (follow bot chat token settings) := by
  rw [follow, editOrBegin, Task.ifOk_assoc]
  exact ends_edit_ifOk (store bot) chat ofEdit (.unchanged _) fun kept _ => ends_rebuild_done kept.1

theorem ends_unfollow : Ends (FailsFirst isRebuild) false (unfollow bot chat token) := by
  refine ends_edit_ifOk (store bot) chat ofEdit (.unchanged _) fun kept changed => ?_
  obtain ⟨s, removed⟩ := kept
  cases removed with
  | true => exact ends_rebuild_done true
  | false => exact .succeeds _

theorem ends_update (change : Subscription → Except SubscriptionError Subscription) :
    Ends (FailsFirst isRebuild) false (update bot chat token change) :=
  ends_edit_ifOk (store bot) chat ofEdit (.unchanged _) fun _ _ => .succeeds _

/-- Deleting a chat's record removes it and makes the index afresh. -/
theorem removes_forget : (store bot).Removes chat (forget bot chat) isRebuild :=
  .ifOk (store bot) SubscriptionError.store (fun _ => id) fun removed => ends_rebuild_done removed

/-- Whether a call edits the record of one chat. The others delete one, or edit those of all chats one by one. -/
def ChatCall.isEdit : ChatCall → Bool
  | .forget _ | .migrate .. => false
  | _ => true

theorem ChatCall.ends {call : ChatCall} (h : call.isEdit) : Ends (FailsFirst isRebuild) false (call.attempt bot) := by
  have only : ∀ {α : Type} {t : Attempt α}, Ends (FailsFirst isRebuild) false t →
      Ends (FailsFirst isRebuild) false (t.map (Except.map fun _ => ())) :=
    fun ht => ht.mapOk _
  cases call with
  | forget chat => cases h
  | migrate source target => cases h
  | follow chat token settings => exact only (ends_follow settings)
  | unfollow chat token => exact only ends_unfollow
  | setEnabled chat enabled => exact only (ends_editOrBegin _)
  | setPolarity chat token p wanted => exact only (ends_update _)
  | setMinAmount chat token least => exact only (ends_update _)
  | setAttachments chat token attachments currency => exact only (ends_update _)
  | setComponents chat token components => exact only (ends_update _)
  | moveComponent chat token position offset => exact only (ends_update _)
  | setLinks chat token links => exact only (ends_update _)
  | setButtons chat token buttons => exact only (ends_update _)

end Subscriptions

namespace FilterLists

open Store

variable {log filter : Type} {kind : LogKind log filter} {bot chat : Int}

theorem ends_edit {α : Type} {default : Option (List filter)}
    {change : List filter → Except FilterError (List filter × α)} :
    Ends (FailsFirst fun _ => False) false (edit kind bot chat default change) :=
  ends_edit_ifOk (store kind bot) chat ofEdit (.unchanged _) fun _ _ => .succeeds _

theorem ends_add (f : filter) : Ends (FailsFirst fun _ => False) false (add kind bot chat f) := by
  rw [add]
  split
  · exact .unchanged _
  · exact ends_edit.mapOk _

theorem ends_remove (position : Int) : Ends (FailsFirst fun _ => False) false (remove kind bot chat position) := by
  rw [remove]
  split
  · exact .unchanged _
  · exact ends_edit.mapOk _

theorem ends_replace (position : Int) (f : filter) :
    Ends (FailsFirst fun _ => False) false (replace kind bot chat position f) := by
  rw [replace]
  split
  · exact .unchanged _
  · split
    · exact .unchanged _
    · exact ends_edit.mapOk _

end FilterLists

open Subscriptions in
/-- A call that fails, otherwise than in making the index, leaves every row as it was, whatever befalls the database
in the meantime: each operation of a store but the removal, each change that a chat makes of its subscriptions but
their deletion, and each change of a list of filters. A removal or deletion that fails does so too, unless the payload
of the chat's row is no record; and then the call fails, the row is gone, and the other rows are as they were. -/
theorem failed_calls_spare_rows {ρ log filter : Type} (s : Store ρ) (kind : LogKind log filter) (bot chat : Int) :
    s.FailsCleanly ∧
      (∀ call : ChatCall, call.isEdit → (store bot).SparesRows isRebuild (call.attempt bot)) ∧
      (store bot).Removes chat (forget bot chat) isRebuild ∧
      ∀ position f,
        (FilterLists.store kind bot).SparesRows (fun _ => False) (FilterLists.add kind bot chat f) ∧
        (FilterLists.store kind bot).SparesRows (fun _ => False) (FilterLists.remove kind bot chat position) ∧
        (FilterLists.store kind bot).SparesRows (fun _ => False) (FilterLists.replace kind bot chat position f) :=
  ⟨s.failsCleanly, fun _ h => (ChatCall.ends h).sparesRows, removes_forget, fun position f =>
    ⟨(FilterLists.ends_add f).sparesRows, (FilterLists.ends_remove position).sparesRows,
      (FilterLists.ends_replace position f).sparesRows⟩⟩

/-- A bot with one row that cannot be read, which files a token under no key. -/
def unreadableRow : Store.Shelf :=
  { database := { tables := [(("buybot", 1), [(1, .obj [("tokens", .obj [("", .obj [])])])])] } }

open Subscriptions in
/-- The third request of a call fails: it is the write of an edit, but of a deletion it comes after the removal. -/
theorem failed_calls_spare_unreadableRow :
    let faults : Nat → Option String := fun n => if n = 2 then some "disk full" else none
    let changed := (store 1).runAmid faults ((ChatCall.setEnabled 2 false).attempt 1) unreadableRow
    let deleted := (store 1).runAmid faults (forget 1 1) unreadableRow
    changed.1 = .error (.store (.store (.write "buybot" "disk full"))) ∧
      changed.2.database.tables = unreadableRow.database.tables ∧
      ∃ e, deleted.1 = .error e ∧ ¬ isRebuild e ∧
        deleted.2.database.tables = ((store 1).withoutRow 1 unreadableRow).tables := by
  intro faults changed deleted
  obtain ⟨-, hedits, hforget, -⟩ := failed_calls_spare_rows (store 1) LogKind.text 1 1
  have hfails : changed.1 = .error (.store (.store (.write "buybot" "disk full"))) := rfl
  exact ⟨hfails, hedits (.setEnabled 2 false) rfl faults unreadableRow _ hfails id,
    hforget.unread faults unreadableRow _ .emptyTokenKey rfl rfl rfl⟩

open Subscriptions in
/-- Removing this row, and deleting the record in it, fails, and the row is gone. -/
theorem unreadableRow_lost :
    ((store 1).runAlone ((store 1).remove 1) unreadableRow).1 =
        .error (.store (.corrupt "buybot" 1 1 .emptyTokenKey)) ∧
      (ChatCall.run 1 unreadableRow (.forget 1)).1 = .error (.store (.store (.corrupt "buybot" 1 1 .emptyTokenKey))) ∧
      (rows 1 unreadableRow.database).map (·.1) = [1] ∧
      rows 1 ((store 1).runAlone ((store 1).remove 1) unreadableRow).2.database = [] ∧
      rows 1 (ChatCall.run 1 unreadableRow (.forget 1)).2.database = [] :=
  ⟨rfl, rfl, rfl, rfl, rfl⟩

end ChainAlerts
