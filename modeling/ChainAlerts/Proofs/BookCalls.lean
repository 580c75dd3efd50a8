import ChainAlerts.Proofs.SubscriptionBook

/-! Each call on a bot and what the book makes of it: a call edits one record, deletes it, or goes through the records
that follow a token, and in each case the rows are the written records of the changed book. Tokens and settings are as
their types have them, a chat fits in the key of a row, and an amount has no more digits than can be written. -/

namespace ChainAlerts.Subscriptions

open Store

variable {bot chat : Int} {book : Book} {db : Database} {shelf : Shelf} {s : Subscriber}

section Calls

variable {token : Token}

theorem or_new_eq (chat : Int) (book : Book) : (book.get? chat).or (some {}) = some (book.recordOf chat) := by
  rw [Book.recordOf]
  cases book.get? chat <;> rfl

theorem recordOf_eq_of_get? {old : Subscriber} (hget : book.get? chat = some old) : book.recordOf chat = old := by
  rw [Book.recordOf, hget]
  rfl

/-- A change of settings whose amount can be written as long as it could be. -/
def KeepsWritable (change : Subscription → Except SubscriptionError Subscription) : Prop :=
  ∀ s t, s.minAmount.isWritable → change s = .ok t → t.minAmount.isWritable

theorem keepsWritable_of_kept {f : Subscription → Subscription} (h : ∀ s, (f s).minAmount = s.minAmount) :
    KeepsWritable fun s => .ok (f s) := by
  intro s t hs ht
  obtain rfl := Except.ok.inj ht
  rw [h s]
  exact hs

theorem keepsWritable_move (position offset : Int) :
    KeepsWritable fun s =>
      match Component.move? s.components position offset with
      | some components => .ok { s with components }
      | none => .error (.noComponent position) := by
  intro s t hs ht
  beta_reduce at ht
  split at ht
  · obtain rfl := Except.ok.inj ht
    exact hs
  · cases ht

/-- Settings are arranged by putting the attachments that are given in order. -/
theorem arranged_given (s : Subscription) (attachments : List Attachment) (currency : Currency) :
    (Subscription.arranged { s with attachments, currency }).mapError SubscriptionError.settings =
      match Attachment.ordered attachments with
      | .ok attachments => .ok { s with attachments, currency }
      | .error cause => .error (.settings cause) := by
  rw [Subscription.arranged]
  cases Attachment.ordered attachments <;> rfl

theorem keepsWritable_attachments (attachments : List Attachment) (currency : Option Currency) :
    KeepsWritable fun s =>
      (Subscription.arranged { s with attachments, currency := currency.getD s.currency }).mapError .settings := by
  intro s t hs ht
  beta_reduce at ht
  rw [arranged_given] at ht
  split at ht
  · obtain rfl := Except.ok.inj ht
    exact hs
  · cases ht

/-- The change of a record by which its settings for a token are changed. -/
def changing (chat : Int) (token : Token) (change : Subscription → Except SubscriptionError Subscription)
    (s : Subscriber) : Except SubscriptionError (Subscriber × Subscription) :=
  match Assoc.get? token s.tokens with
  | none => .error (.notFollowed chat token)
  | some settings => (change settings).map fun settings => (s.withToken token settings, settings)

theorem update_eq (change : Subscription → Except SubscriptionError Subscription) :
    update bot chat token change = (edit bot chat none (changing chat token change)).ifOk fun
      | some (_, settings) => .done (.ok settings)
      | none => .done (.error (.noRecord chat)) := by
  have hchange : changing chat token change = fun s => match Assoc.get? token s.tokens with
      | none => .error (.notFollowed chat token)
      | some settings => do
        let settings ← change settings
        return (s.withToken token settings, settings) := by
    funext s
    rw [changing]
    cases Assoc.get? token s.tokens with
    | none => rfl
    | some settings =>
        simp only
        cases change settings <;> rfl
  rw [hchange]
  rfl

theorem enabled_moveSettings (source target : Token) (s : Subscriber) :
    (moveSettings source target s).1.enabled = s.enabled := by
  rw [moveSettings]
  split <;> rfl

theorem refiledIfOther_of_not_follows {source : Token} (target : Token) (h : s.follows source = false) :
    Book.refiledIfOther source target s = s := by
  have hnone : Assoc.get? source s.tokens = none := Option.isNone_iff_eq_none.mp (Option.isSome_eq_false_iff.mp h)
  rw [Book.refiledIfOther, Book.refiled, hnone, ite_self]

namespace Mirrors

/-- A change of a record, or of a new one, that goes on to something else. -/
theorem editOrBegin_stored (h : Mirrors bot book shelf.database) (hchat : Database.fits chat)
    (change : Subscriber → Subscriber) (hupdated : (change (book.recordOf chat)).WellFormed)
    (horder : (change (book.recordOf chat)).tokens.Perm (book.recordOf chat).tokens →
      (change (book.recordOf chat)).tokens = (book.recordOf chat).tokens) :
    ∃ database, (store bot).runAlone (editOrBegin bot chat change) shelf =
        (.ok (change (book.recordOf chat)), { shelf with database }) ∧
      Mirrors bot (book.put chat (change (book.recordOf chat))) database := by
  obtain ⟨database, hrun, hmirrors⟩ := h.edit_stored hchat (fun s => .ok (change s, ())) (or_new_eq chat book) rfl
    hupdated fun old hget hperm => recordOf_eq_of_get? hget ▸ horder (recordOf_eq_of_get? hget ▸ hperm)
  refine ⟨database, ?_, hmirrors⟩
  rw [editOrBegin, runAlone_ifOk, hrun]
  rfl

theorem follow (h : Mirrors bot book shelf.database) (hchat : Database.fits chat)
    (htoken : Token.parse token.key = .ok token) {settings : Option Subscription}
    (hsettings : ∀ s ∈ settings, s.Proper ∧ s.minAmount.isWritable) :
    Agrees bot ((store bot).runAlone (Subscriptions.follow bot chat token settings) shelf)
      ((book.follow chat token settings).map .ok id) := by
  let change (s : Subscriber) : Subscriber :=
    if s.follows token && settings.isNone then s else s.withToken token (settings.getD {})
  have hcurrent := h.wellFormed_recordOf chat
  have hproper : (settings.getD {}).Proper ∧ (settings.getD {}).minAmount.isWritable := by
    cases settings with
    | none => exact ⟨Subscription.proper_default, rfl⟩
    | some settings => exact hsettings settings rfl
  have hwritten := And.intro (Token.isProper_of_parse htoken) (Token.isWritable_of_parse htoken)
  obtain ⟨database, hrun, hmirrors⟩ := h.editOrBegin_stored hchat change
    (by
      simp only [change]
      split
      · exact hcurrent
      · exact hcurrent.withSettings hwritten hproper)
    (by
      simp only [change]
      split
      · exact fun _ => rfl
      · exact Assoc.put_eq_of_perm hcurrent.tokens)
  have hbook : book.follow chat token settings =
      (change (book.recordOf chat), book.put chat (change (book.recordOf chat))) := by
    cases settings <;> simp [Book.follow, change]
  rw [Subscriptions.follow, runAlone_ifOk, hrun, hbook]
  exact hmirrors.then_rebuild _

theorem setEnabled (h : Mirrors bot book shelf.database) (hchat : Database.fits chat) (enabled : Bool) :
    Agrees bot ((store bot).runAlone (Subscriptions.setEnabled bot chat enabled) shelf)
      ((book.setEnabled chat enabled).map .ok id) := by
  have hcurrent := h.wellFormed_recordOf chat
  obtain ⟨database, hrun, hmirrors⟩ := h.editOrBegin_stored hchat (fun s => { s with enabled })
    ⟨hcurrent.tokens, hcurrent.proper, hcurrent.writable⟩ fun _ => rfl
  rw [Subscriptions.setEnabled, hrun]
  exact ⟨rfl, hmirrors⟩

theorem unfollow (h : Mirrors bot book shelf.database) (hchat : Database.fits chat) (token : Token) :
    Agrees bot ((store bot).runAlone (Subscriptions.unfollow bot chat token) shelf)
      ((book.unfollow chat token).map .ok id) := by
  rw [Subscriptions.unfollow, runAlone_ifOk, Book.unfollow]
  cases hget : book.get? chat with
  | none =>
      rw [h.edit_none hchat (Option.or_none.trans hget)]
      exact ⟨rfl, h⟩
  | some s =>
      have hcurrent : (book.get? chat).or none = some s := Option.or_none.trans hget
      obtain ⟨database, hrun, hmirrors⟩ := h.edit_stored hchat
        (fun s => .ok (s.withoutToken token, s.follows token)) hcurrent rfl
        ((h.wellFormed_of_get? hget).withoutToken token) fun old hold hperm => by
          obtain rfl := Option.some.inj (hget.symm.trans hold)
          exact List.filter_sublist.eq_of_length hperm.length_eq
      rw [hrun]
      simp only
      cases s.follows token with
      | true => exact hmirrors.then_rebuild true
      | false => exact ⟨rfl, hmirrors⟩

theorem forget (h : Mirrors bot book shelf.database) (hchat : Database.fits chat) :
    Agrees bot ((store bot).runAlone (Subscriptions.forget bot chat) shelf) ((book.forget chat).map .ok id) := by
  obtain ⟨database, hdelete, hsound, -⟩ := h.sound.delete hchat
  have hmirrors : Mirrors bot (Assoc.erase chat book) database := by
    refine ⟨hsound, ?_, fun entry hentry => h.wellFormed entry (Assoc.mem_of_mem_erase hentry)⟩
    rw [Subscriptions.rows, Database.records_of_delete hdelete, Book.written_erase, ← h.rows]
    rfl
  have hremoved : (store bot).removed chat (.ok (Records.get? chat (Subscriptions.rows bot shelf.database))) =
      .ok (book.get? chat) := by
    rw [h.rows, Book.get?_written]
    cases hget : book.get? chat with
    | none => rfl
    | some s =>
        simp only [Option.map_some, Store.removed, decode_eq_ok (Subscriber.ofJson_toJson (h.wellFormed_of_get? hget))]
        rfl
  have hrun : (store bot).runAlone
      (((store bot).remove chat).map fun result => result.mapError SubscriptionError.store) shelf =
      (.ok (book.get? chat), { shelf with database }) := by
    have hremove := run_remove hdelete
    rw [hremoved] at hremove
    rw [runAlone] at hremove
    rw [runAlone, Task.run_map, hremove]
    rfl
  rw [Subscriptions.forget, runAlone_ifOk, hrun]
  exact hmirrors.then_rebuild _

/-- A change of the settings for a token. -/
theorem update (h : Mirrors bot book shelf.database) (hchat : Database.fits chat) (token : Token)
    {change : Subscription → Except SubscriptionError Subscription} (hproper : KeepsProper change)
    (hwritable : KeepsWritable change) :
    Agrees bot ((store bot).runAlone (Subscriptions.update bot chat token change) shelf)
      (book.configure chat token change) := by
  rw [update_eq, runAlone_ifOk, Book.configure]
  cases hget : book.get? chat with
  | none =>
      rw [h.edit_none hchat (Option.or_none.trans hget)]
      exact ⟨rfl, h⟩
  | some s =>
      have hcurrent : (book.get? chat).or none = some s := Option.or_none.trans hget
      have hs := h.wellFormed_of_get? hget
      cases hfound : Assoc.get? token s.tokens with
      | none =>
          have hrefused : changing chat token change s = .error (.notFollowed chat token) := by
            simp only [changing, hfound]
          rw [h.edit_refused hchat hcurrent hrefused]
          simp only [hfound]
          exact ⟨rfl, h⟩
      | some settings =>
          simp only [hfound]
          cases hchanged : change settings with
          | error cause =>
              have hrefused : changing chat token change s = .error cause := by
                simp only [changing, hfound, hchanged, Except.map]
              rw [h.edit_refused hchat hcurrent hrefused]
              exact ⟨rfl, h⟩
          | ok changed =>
              have hupdate : changing chat token change s = .ok (s.withToken token changed, changed) := by
                simp only [changing, hfound, hchanged, Except.map]
              have hentry := Subscriber.isWritable_iff.mp hs.writable _ (Assoc.mem_of_get? hfound)
              obtain ⟨htoken, hsettings⟩ := hs.proper_of_get? hfound
              have hnew := And.intro (hproper settings changed hsettings hchanged)
                (hwritable settings changed hentry.2 hchanged)
              obtain ⟨database, hrun, hmirrors⟩ := h.edit_stored hchat _ hcurrent hupdate
                (hs.withSettings ⟨htoken, hentry.1⟩ hnew) fun old hold hperm => by
                  obtain rfl := Option.some.inj (hget.symm.trans hold)
                  exact Assoc.put_eq_of_perm hs.tokens hperm
              rw [hrun]
              exact ⟨rfl, hmirrors⟩

/-- Moving the settings of one chat. -/
theorem edit_refile {source target : Token} (htarget : Token.parse target.key = .ok target) {before after : Book}
    (h : Mirrors bot (before ++ (chat, s) :: after) shelf.database) (hfollows : s.follows source) :
    ∃ shelf', (store bot).runAlone (edit bot chat none fun s => .ok (moveSettings source target s)) shelf =
        (.ok (some ((moveSettings source target s).1, true)), shelf') ∧
      Mirrors bot (before ++ (chat, Book.refiledIfOther source target s) :: after) shelf'.database := by
  have hmem : (chat, s) ∈ before ++ (chat, s) :: after := by simp
  have hget := Assoc.get?_of_mem (Book.nodup_of_ascending h.ascending) hmem
  have hs := h.wellFormed _ hmem
  have hchat : Database.fits chat := by
    apply h.sound.fits (chat, s.toJson)
    rw [h.rows]
    exact List.mem_map_of_mem hmem
  have hmoved := moveSettings_wellFormed source htarget hs
  obtain ⟨settings, hsettings, hmove⟩ := moveSettings_of_follows target hfollows
  have hchange : (Except.ok (moveSettings source target s) : Except SubscriptionError _) =
      .ok ((moveSettings source target s).1, true) := by rw [hmove]
  by_cases hsame : source = target
  · subst hsame
    have hperm : (moveSettings source source s).1.tokens.Perm s.tokens := by
      refine Assoc.perm_of_get?_eq hmoved.tokens hs.tokens fun token => ?_
      rw [hmove]
      by_cases htoken : token = source
      · rw [htoken, hsettings]
        exact Assoc.get?_put_self _ _ _
      · exact (Assoc.get?_put_of_ne htoken _ _).trans (Assoc.get?_erase_of_ne htoken _)
    refine ⟨shelf, ?_, ?_⟩
    · exact h.edit_reordered hchat _ hget hchange hmoved (by rw [hmove]; rfl) hperm
    · rw [Book.refiledIfOther, if_pos rfl]
      exact h
  · obtain ⟨database, hrun, hmirrors⟩ := h.edit_stored hchat (fun s => .ok (moveSettings source target s))
      (Option.or_none.trans hget) hchange hmoved fun old hold hperm => by
        obtain rfl := Option.some.inj (hget.symm.trans hold)
        -- the record has no longer the token that it had
        have hgone := (relabels_moveSettings hsame hs hfollows).gone
        have hkept : source ∈ Assoc.keys (moveSettings source target s).1.tokens :=
          (hperm.map Prod.fst).mem_iff.mpr (Assoc.contains_iff.mp hfollows)
        exact absurd (Assoc.contains_iff.mpr hkept) (Bool.eq_false_iff.mp hgone)
    refine ⟨_, hrun, ?_⟩
    rw [Book.put_middle h.ascending] at hmirrors
    rw [Book.refiledIfOther, if_neg hsame, Book.refiled, hsettings]
    rw [hmove] at hmirrors
    exact hmirrors

/-- Moving the settings of the chats that are left moves them in the book. -/
theorem migrateEach (source : Token) {target : Token} (htarget : Token.parse target.key = .ok target)
    (before after : Book) (h : Mirrors bot (before ++ after) shelf.database) (moved : List (Int × Bool)) :
    ∃ shelf', (store bot).runAlone
        (Subscriptions.migrateEach bot source target ((after.filter (·.2.follows source)).map (·.1)) moved) shelf =
        (.ok (moved ++ (after.migrate Book.refiledIfOther source target).1), shelf') ∧
      Mirrors bot (before ++ (after.migrate Book.refiledIfOther source target).2) shelf'.database := by
  induction after generalizing before shelf moved with
  | nil => exact ⟨shelf, by simp [Book.migrate, Subscriptions.migrateEach, runAlone], h⟩
  | cons entry rest ih =>
      obtain ⟨chat, s⟩ := entry
      cases hfollows : s.follows source with
      | false =>
          have hkept := refiledIfOther_of_not_follows target hfollows
          obtain ⟨shelf', hrun, hmirrors⟩ := ih (before ++ [(chat, s)]) (by simpa using h) moved
          refine ⟨shelf', ?_, ?_⟩
          · simpa [Book.migrate, hfollows] using hrun
          · simpa [Book.migrate, hkept] using hmirrors
      | true =>
          obtain ⟨shelf', hedit, hmirrors⟩ := edit_refile htarget h hfollows
          obtain ⟨shelf'', hrun, hmirrors⟩ := ih (before ++ [(chat, Book.refiledIfOther source target s)])
            (by simpa using hmirrors) (moved ++ [(chat, s.enabled)])
          refine ⟨shelf'', ?_, by simpa [Book.migrate] using hmirrors⟩
          rw [List.filter_cons, if_pos hfollows, List.map_cons, Subscriptions.migrateEach, runAlone_ifOk, hedit]
          simp only [enabled_moveSettings, hrun]
          simp [Book.migrate, hfollows]

theorem all (h : Mirrors bot book shelf.database) :
    (store bot).runAlone ((store bot).all.map fun result => result.mapError SubscriptionError.store) shelf =
      (.ok book, shelf) := by
  rw [runAlone, Task.run_map]
  simp only [Store.all, Task.run, answer, h.records_eq]
  rfl

theorem migrate (h : Mirrors bot book shelf.database) (source : Token) {target : Token}
    (htarget : Token.parse target.key = .ok target) :
    Agrees bot ((store bot).runAlone (Subscriptions.migrate bot source target) shelf)
      ((book.migrate Book.refiledIfOther source target).map .ok id) := by
  obtain ⟨shelf', hrun, hmirrors⟩ := migrateEach source htarget [] book h []
  rw [Subscriptions.migrate, runAlone_ifOk, h.all]
  simp only
  rw [runAlone_ifOk, hrun]
  exact hmirrors.then_rebuild _

theorem get (h : Mirrors bot book shelf.database) (hchat : Database.fits chat) :
    Agrees bot ((store bot).runAlone (Subscriptions.get bot chat) shelf) (.ok (book.get? chat), book) := by
  have hrun : (store bot).runAlone (Subscriptions.get bot chat) shelf =
      ((Subscriptions.recordOf bot chat shelf.database).mapError .store, shelf) := rfl
  rw [hrun, h.recordOf_eq hchat]
  exact ⟨rfl, h⟩

end Mirrors

end Calls

namespace ChatCall

/-- Whether the chat of a call can be the key of a row, and the amounts in it can be written. -/
def Storable : ChatCall → Prop
  | follow chat _ settings => Database.fits chat ∧ ∀ s ∈ settings, s.minAmount.isWritable
  | setMinAmount chat _ least => Database.fits chat ∧ least.isWritable
  | migrate _ _ => True
  | unfollow chat _ | forget chat | setEnabled chat _ | setPolarity chat _ _ _ | setAttachments chat _ _ _
  | setComponents chat _ _ | moveComponent chat _ _ _ | setLinks chat _ _ | setButtons chat _ _ => Database.fits chat

end ChatCall

/-- An inquiry with arguments as they are by their types, about rows that there can be. -/
def Inquiry.Valid : Inquiry → Prop
  | .change call => call.Valid ∧ call.Storable
  | .get chat => Database.fits chat
  | .all => True

theorem Agrees.map {α β : Type} {out : Except SubscriptionError α × Shelf}
    {expected : Except SubscriptionError α × Book} (h : Agrees bot out expected) (f : α → β) :
    Agrees bot (out.map (Except.map f) id) (expected.map (Except.map f) id) :=
  ⟨congrArg (Except.map f) h.result, h.mirrors⟩

/-- Whatever a bot is asked, it answers as the book does. -/
theorem Mirrors.ask (h : Mirrors bot book shelf.database) {q : Inquiry} (hq : q.Valid) :
    Agrees bot (q.ask bot shelf) (Book.ask Book.refiledIfOther q book) := by
  cases q with
  | get chat => exact (h.get hq).map Answer.found
  | all =>
      have hall : Agrees bot ((store bot).runAlone
          ((store bot).all.map fun result => result.mapError SubscriptionError.store) shelf) (.ok book, book) :=
        ⟨congrArg Prod.fst h.all, by rw [h.all]; exact h⟩
      exact hall.map Answer.records
  | change call =>
      obtain ⟨hvalid, hstorable⟩ := hq
      cases call with
      | follow chat token settings =>
          exact (h.follow hstorable.1 hvalid.1 fun s hs => ⟨hvalid.2 s hs, hstorable.2 s hs⟩).map Answer.record
      | unfollow chat token => exact (h.unfollow hstorable token).map Answer.wasFollowed
      | forget chat => exact (h.forget hstorable).map Answer.found
      | migrate source target => exact (h.migrate source hvalid).map Answer.moved
      | setEnabled chat enabled => exact (h.setEnabled hstorable enabled).map Answer.record
      | setPolarity chat token p wanted =>
          have hwritable : KeepsWritable fun s => .ok (s.setPolarity p wanted) :=
            keepsWritable_of_kept fun s => by cases p <;> rfl
          exact (h.update hstorable token (keepsProper_polarity p wanted) hwritable).map Answer.settings
      | setMinAmount chat token least =>
          have hwritable : KeepsWritable fun s => .ok { s with minAmount := least } := by
            intro s t _ ht
            obtain rfl := Except.ok.inj ht
            exact hstorable.2
          exact (h.update hstorable.1 token (keepsProper_minAmount hvalid) hwritable).map Answer.settings
      | setAttachments chat token attachments currency =>
          have hset := h.update hstorable token (keepsProper_attachments hvalid currency)
            (keepsWritable_attachments attachments currency)
          have hchange := funext fun s : Subscription => arranged_given s attachments (currency.getD s.currency)
          rw [congrArg (fun change => book.configure chat token change) hchange] at hset
          exact hset.map Answer.settings
      | setComponents chat token components =>
          exact (h.update hstorable token (keepsProper_components hvalid)
            (keepsWritable_of_kept fun _ => rfl)).map Answer.settings
      | moveComponent chat token position offset =>
          exact (h.update hstorable token (keepsProper_move position offset)
            (keepsWritable_move position offset)).map Answer.settings
      | setLinks chat token links =>
          exact (h.update hstorable token (keepsProper_links links)
            (keepsWritable_of_kept fun _ => rfl)).map Answer.settings
      | setButtons chat token buttons =>
          exact (h.update hstorable token (keepsProper_buttons buttons)
            (keepsWritable_of_kept fun _ => rfl)).map Answer.settings

/-- A bot answers as a book does. Over every run of calls and questions on a store that begins empty, what the bot
returns, how it refuses, and so every record that is read later, is what a book in memory gives; but a token that is
migrated to itself leaves every record as it is. -/
theorem bot_answers_as_book (bot : Int) (shelf : Shelf) (hserves : shelf.database.Serves bot)
    (hempty : rows bot shelf.database = []) (inquiries : List Inquiry) (hvalid : ∀ q ∈ inquiries, q.Valid) :
    answers (Inquiry.ask bot) inquiries shelf = answers (Book.ask Book.refiledIfOther) inquiries [] := by
  have hrun : ∀ (inquiries : List Inquiry) (shelf : Shelf) (book : Book), (∀ q ∈ inquiries, q.Valid) →
      Mirrors bot book shelf.database →
      answers (Inquiry.ask bot) inquiries shelf = answers (Book.ask Book.refiledIfOther) inquiries book := by
    intro inquiries
    induction inquiries with
    | nil => exact fun _ _ _ _ => rfl
    | cons q rest ih =>
        intro shelf book hvalid h
        obtain ⟨hq, hrest⟩ := List.forall_mem_cons.mp hvalid
        obtain ⟨hanswer, hmirrors⟩ := h.ask hq
        simp only [answers, hanswer, ih _ _ hrest hmirrors]
  refine hrun inquiries shelf [] hvalid ⟨⟨hserves, ?_, ?_, ?_⟩, hempty, fun entry hentry => ?_⟩
  · rw [hempty]
    exact List.Pairwise.nil
  · rw [hempty]
    exact fun _ hrow => absurd hrow List.not_mem_nil
  · rw [hempty]
    exact fun _ hrow => absurd hrow List.not_mem_nil
  · cases hentry

/-- A run in which a chat follows two tokens, a call is refused, and the first token is migrated to itself. -/
def selfMigration : List Inquiry := [
  .change (.follow 1 (.fungible "a.near") none),
  .change (.follow 1 (.fungible "b.near") (some { minAmount := .token 10 })),
  .change (.setLinks 2 (.fungible "a.near") []),
  .change (.migrate (.fungible "a.near") (.fungible "a.near")), .get 1, .all]

theorem selfMigration_valid : ∀ q ∈ selfMigration, q.Valid := by
  have ha : Token.parse (Token.fungible "a.near").key = .ok (.fungible "a.near") := Token.parse_key (by decide) rfl
  have hb : Token.parse (Token.fungible "b.near").key = .ok (.fungible "b.near") := Token.parse_key (by decide) rfl
  have hsettings : ({ minAmount := .token 10 } : Subscription).Proper := ⟨rfl, by simp, by decide, by decide⟩
  intro q hq
  simp only [selfMigration, List.mem_cons, List.not_mem_nil, or_false] at hq
  rcases hq with rfl | rfl | rfl | rfl | rfl | rfl
  · exact ⟨⟨ha, by simp⟩, rfl, by simp⟩
  · exact ⟨⟨hb, fun s hs => Option.some.inj hs ▸ hsettings⟩, rfl, fun s hs => Option.some.inj hs ▸ by decide⟩
  · exact ⟨trivial, rfl⟩
  · exact ⟨ha, trivial⟩
  · exact rfl
  · trivial

/-- The tokens of the record that was asked for, in their order. -/
def foundTokens : Except SubscriptionError Answer → List Token
  | .ok (.found (some s)) => Assoc.keys s.tokens
  | _ => []

theorem bot_answers_as_book_selfMigration :
    answers (Inquiry.ask 1) selfMigration {} = answers (Book.ask Book.refiledIfOther) selfMigration [] ∧
      (answers (Inquiry.ask 1) selfMigration {}).map Except.isOk = [true, true, false, true, true, true] ∧
      [.fungible "a.near", .fungible "b.near"] ∈ (answers (Inquiry.ask 1) selfMigration {}).map foundTokens := by
  have hserves : ({} : Shelf).database.Serves 1 := ⟨rfl, rfl, by decide⟩
  have hanswers := bot_answers_as_book 1 {} hserves rfl selfMigration selfMigration_valid
  refine ⟨hanswers, ?_, ?_⟩
  · rw [hanswers]
    decide +kernel
  · rw [hanswers]
    decide +kernel

/-- In a book that files the settings anew even then, the token would come after the other. -/
theorem selfMigration_keeps_order :
    ({} : Shelf).database.Serves 1 ∧ rows 1 ({} : Shelf).database = [] ∧ (∀ q ∈ selfMigration, q.Valid) ∧
      answers (Inquiry.ask 1) selfMigration {} ≠ answers (Book.ask Book.refiled) selfMigration [] := by
  refine ⟨⟨rfl, rfl, by decide⟩, rfl, selfMigration_valid, fun heq => ?_⟩
  have hfound : (answers (Inquiry.ask 1) selfMigration {}).map foundTokens =
      (answers (Book.ask Book.refiled) selfMigration []).map foundTokens := by rw [heq]
  exact absurd hfound (by decide +kernel)

end ChainAlerts.Subscriptions
