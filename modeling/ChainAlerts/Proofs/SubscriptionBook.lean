import ChainAlerts.Proofs.WrittenRecords

/-! A bot's subscriptions as a plain book: the record of each chat, kept in memory and changed in place. Whatever is
asked of a bot whose store begins empty and does not fail, the bot answers as the book does. The rows of the store
are the written records of the book; each call keeps that, and a run is an induction on its calls. -/

namespace ChainAlerts

namespace Assoc

variable {κ ν : Type} [DecidableEq κ] {key : κ} {value : ν} {table other : List (κ × ν)}

theorem put_eq_self (h : get? key table = some value) : put key value table = table := by
  induction table with
  | nil => cases h
  | cons entry rest ih =>
      rw [get?] at h
      rw [put]
      split
      next hkey =>
        rw [if_pos hkey] at h
        rw [← hkey, ← Option.some.inj h]
      next hkey =>
        rw [if_neg hkey] at h
        rw [ih h]

theorem erase_eq_self (h : get? key table = none) : erase key table = table := by
  refine List.filter_eq_self.mpr fun entry hentry => decide_eq_true ?_
  rintro rfl
  exact get?_eq_none_iff.mp h (List.mem_map_of_mem hentry)

/-- Tables in which the same is found hold the same. -/
theorem perm_of_get?_eq (htable : (keys table).Nodup) (hother : (keys other).Nodup)
    (h : ∀ k, get? k table = get? k other) : table.Perm other := by
  refine (List.perm_ext_iff_of_nodup htable.of_map hother.of_map).mpr fun entry => ⟨fun hmem => ?_, fun hmem => ?_⟩
  · exact mem_of_get? ((h _).symm.trans (get?_of_mem htable hmem))
  · exact mem_of_get? ((h _).trans (get?_of_mem hother hmem))

/-- Putting a value changes the order of a table only if it changes what is in it. -/
theorem put_eq_of_perm (hkeys : (keys table).Nodup) (h : (put key value table).Perm table) :
    put key value table = table :=
  put_eq_self (get?_of_mem hkeys (h.mem_iff.mp (mem_of_get? (get?_put_self key value table))))

end Assoc

theorem Database.records_of_delete {db db' : Database} {collection : String} {bot chat : Int} {found : Option Json}
    (h : db.delete collection bot chat = .ok (found, db')) :
    db'.records collection bot = (db.records collection bot).erase chat := by
  rw [delete] at h
  cases hbegin : db.begin [bot, chat] with
  | error e =>
      rw [hbegin] at h
      cases h
  | ok u =>
      simp only [hbegin, except_ok_bind] at h
      cases hfound : Records.get? chat (db.records collection bot) with
      | none =>
          rw [hfound] at h
          rw [← (Prod.mk.inj (Except.ok.inj h)).2]
          exact (Assoc.erase_eq_self hfound).symm
      | some payload =>
          rw [hfound] at h
          rw [← (Prod.mk.inj (Except.ok.inj h)).2, records_withRecords]

theorem Subscriber.WellFormed.withSettings {s : Subscriber} {token : Token} {settings : Subscription}
    (h : s.WellFormed) (htoken : token.isProper ∧ token.isWritable)
    (hsettings : settings.Proper ∧ settings.minAmount.isWritable) : (s.withToken token settings).WellFormed := by
  refine h.withToken htoken.1 hsettings.1 (isWritable_iff.mpr fun entry hmem => ?_)
  rcases Assoc.mem_put hmem with rfl | hmem
  · exact ⟨htoken.2, hsettings.2⟩
  · exact isWritable_iff.mp h.writable entry hmem

namespace Subscriptions

open Store

/-- What may be asked of a bot: a change, a chat's record, or all records. -/
inductive Inquiry where
  | change (call : ChatCall)
  | get (chat : Int)
  | all

inductive Answer where
  | record (s : Subscriber)
  | found (s : Option Subscriber)
  | wasFollowed (followed : Bool)
  | moved (chats : List (Int × Bool))
  | settings (s : Subscription)
  | records (records : List (Int × Subscriber))

/-- Asks a bot while nothing interferes. -/
def Inquiry.ask (bot : Int) (q : Inquiry) (shelf : Shelf) : Except SubscriptionError Answer × Shelf :=
  let alone {α : Type} (answer : α → Answer) (attempt : Attempt α) : Except SubscriptionError Answer × Shelf :=
    ((store bot).runAlone attempt shelf).map (Except.map answer) id
  match q with
  | .get chat => alone .found (Subscriptions.get bot chat)
  | .all => alone .records ((store bot).all.map fun result => result.mapError .store)
  | .change call =>
    match call with
    | .follow chat token settings => alone .record (follow bot chat token settings)
    | .unfollow chat token => alone .wasFollowed (unfollow bot chat token)
    | .forget chat => alone .found (forget bot chat)
    | .migrate source target => alone .moved (migrate bot source target)
    | .setEnabled chat enabled => alone .record (setEnabled bot chat enabled)
    | .setPolarity chat token p wanted => alone .settings (setPolarity bot chat token p wanted)
    | .setMinAmount chat token least => alone .settings (setMinAmount bot chat token least)
    | .setAttachments chat token attachments currency =>
      alone .settings (setAttachments bot chat token attachments currency)
    | .setComponents chat token components => alone .settings (setComponents bot chat token components)
    | .moveComponent chat token position offset => alone .settings (moveComponent bot chat token position offset)
    | .setLinks chat token links => alone .settings (setLinks bot chat token links)
    | .setButtons chat token buttons => alone .settings (setButtons bot chat token buttons)

/-- The answers to inquiries that are made one after another. -/
def answers {σ : Type} (ask : Inquiry → σ → Except SubscriptionError Answer × σ) :
    List Inquiry → σ → List (Except SubscriptionError Answer)
  | [], _ => []
  | q :: rest, s =>
    let (answer, s) := ask q s
    answer :: answers ask rest s

/-- The records of chats, in ascending order of the chats. -/
abbrev Book : Type := List (Int × Subscriber)

namespace Book

def get? (chat : Int) (book : Book) : Option Subscriber := Assoc.get? chat book

/-- Keeps a record for a chat, in place of any it had. -/
def put (chat : Int) (s : Subscriber) : Book → Book
  | [] => [(chat, s)]
  | (other, r) :: rest =>
    if chat < other then (chat, s) :: (other, r) :: rest
    else if chat = other then (chat, s) :: rest
    else (other, r) :: put chat s rest

/-- The chat's record, or the one that a new chat has. -/
def recordOf (chat : Int) (book : Book) : Subscriber := (book.get? chat).getD {}

def follow (chat : Int) (token : Token) (settings : Option Subscription) (book : Book) : Subscriber × Book :=
  let s := book.recordOf chat
  let s := match settings with
    | some settings => s.withToken token settings
    | none => if s.follows token then s else s.withToken token {}
  (s, book.put chat s)

def unfollow (chat : Int) (token : Token) (book : Book) : Bool × Book :=
  match book.get? chat with
  | some s => (s.follows token, book.put chat (s.withoutToken token))
  | none => (false, book)

def forget (chat : Int) (book : Book) : Option Subscriber × Book := (book.get? chat, Assoc.erase chat book)

/-- Files what a record has under one token under another. -/
def refiled (source target : Token) (s : Subscriber) : Subscriber :=
  match Assoc.get? source s.tokens with
  | some settings => (s.withoutToken source).withToken target settings
  | none => s

/-- Files it so unless the tokens are one and the same. -/
def refiledIfOther (source target : Token) (s : Subscriber) : Subscriber :=
  if source = target then s else refiled source target s

def migrate (refile : Token → Token → Subscriber → Subscriber) (source target : Token) (book : Book) :
    List (Int × Bool) × Book :=
  ((book.filter (·.2.follows source)).map fun (chat, s) => (chat, s.enabled),
    book.map fun (chat, s) => (chat, refile source target s))

def setEnabled (chat : Int) (enabled : Bool) (book : Book) : Subscriber × Book :=
  let s := { book.recordOf chat with enabled }
  (s, book.put chat s)

/-- Changes the settings for a token that the chat follows. -/
def configure (chat : Int) (token : Token) (change : Subscription → Except SubscriptionError Subscription)
    (book : Book) : Except SubscriptionError Subscription × Book :=
  match book.get? chat with
  | none => (.error (.noRecord chat), book)
  | some s =>
    match Assoc.get? token s.tokens with
    | none => (.error (.notFollowed chat token), book)
    | some settings =>
      match change settings with
      | .error cause => (.error cause, book)
      | .ok settings => (.ok settings, book.put chat (s.withToken token settings))

/-- What a setter does to the settings for its token: one field has a new value. -/
def setPolarity (p : Polarity) (wanted : Bool) (s : Subscription) : Subscription :=
  match p with
  | .buy => { s with buys := wanted }
  | .sell => { s with sells := wanted }
  | .lpAdd => { s with lpAdd := wanted }
  | .lpRemove => { s with lpRemove := wanted }

/-- Asks a book. -/
def ask (refile : Token → Token → Subscriber → Subscriber) (q : Inquiry) (book : Book) :
    Except SubscriptionError Answer × Book :=
  let set (chat : Int) (token : Token) (change : Subscription → Except SubscriptionError Subscription) :=
    (book.configure chat token change).map (Except.map .settings) id
  match q with
  | .get chat => (.ok (.found (book.get? chat)), book)
  | .all => (.ok (.records book), book)
  | .change call =>
    match call with
    | .follow chat token settings => (book.follow chat token settings).map (.ok ∘ .record) id
    | .unfollow chat token => (book.unfollow chat token).map (.ok ∘ .wasFollowed) id
    | .forget chat => (book.forget chat).map (.ok ∘ .found) id
    | .migrate source target => (book.migrate refile source target).map (.ok ∘ .moved) id
    | .setEnabled chat enabled => (book.setEnabled chat enabled).map (.ok ∘ .record) id
    | .setPolarity chat token p wanted => set chat token fun s => .ok (setPolarity p wanted s)
    | .setMinAmount chat token least => set chat token fun s => .ok { s with minAmount := least }
    | .setAttachments chat token attachments currency =>
      set chat token fun s =>
        match Attachment.ordered attachments with
        | .ok attachments => .ok { s with attachments, currency := currency.getD s.currency }
        | .error cause => .error (.settings cause)
    | .setComponents chat token components => set chat token fun s => .ok { s with components }
    | .moveComponent chat token position offset =>
      set chat token fun s =>
        match Component.move? s.components position offset with
        | some components => .ok { s with components }
        | none => .error (.noComponent position)
    | .setLinks chat token links => set chat token fun s => .ok { s with links }
    | .setButtons chat token buttons => set chat token fun s => .ok { s with buttons }

/-- The rows that a book is written as. -/
def written (book : Book) : Records := book.map fun entry => (entry.1, entry.2.toJson)

variable {book : Book} {chat : Int} {s : Subscriber}

theorem get?_written (chat : Int) (book : Book) :
    Records.get? chat book.written = (book.get? chat).map Subscriber.toJson := by
  induction book with
  | nil => rfl
  | cons entry rest ih =>
      by_cases h : entry.1 = chat
      · simp [Records.get?, get?, written, Assoc.get?, h]
      · simpa [Records.get?, get?, written, Assoc.get?, h] using ih

theorem written_put (chat : Int) (s : Subscriber) (book : Book) :
    (book.put chat s).written = book.written.put chat s.toJson := by
  induction book with
  | nil => rfl
  | cons entry rest ih =>
      simp only [written] at ih
      simp only [put, written, List.map_cons, Records.put]
      split
      · rfl
      · split
        · rfl
        · rw [List.map_cons, ih]

theorem written_erase (chat : Int) (book : Book) : written (Assoc.erase chat book) = book.written.erase chat := by
  rw [written, written, Records.erase, Assoc.erase, Assoc.erase, List.filter_map]
  rfl

theorem mem_put {entry : Int × Subscriber} (h : entry ∈ book.put chat s) : entry = (chat, s) ∨ entry ∈ book := by
  induction book with
  | nil => exact Or.inl (List.mem_singleton.mp h)
  | cons first rest ih =>
      rw [put] at h
      split at h
      · exact List.mem_cons.mp h
      · split at h
        · exact (List.mem_cons.mp h).imp_right (List.mem_cons_of_mem first)
        · rcases List.mem_cons.mp h with rfl | h
          · exact Or.inr List.mem_cons_self
          · exact (ih h).imp_right (List.mem_cons_of_mem first)

/-- A chat that has a record keeps its place. -/
theorem put_middle {before after : Book} {old : Subscriber}
    (h : (before ++ (chat, old) :: after).written.Ascending) (s : Subscriber) :
    put chat s (before ++ (chat, old) :: after) = before ++ (chat, s) :: after := by
  induction before with
  | nil => simp [put]
  | cons first rest ih =>
      obtain ⟨hfirst, hrest⟩ := List.pairwise_cons.mp h
      have hlt : first.1 < chat := hfirst (chat, old.toJson) (by simp)
      rw [List.cons_append, put, if_neg (by omega), if_neg (by omega)]
      exact congrArg (first :: ·) (ih hrest)

theorem nodup_of_ascending (h : book.written.Ascending) : (Assoc.keys book).Nodup := by
  have hkeys : Assoc.keys book = Assoc.keys book.written := by simp [Assoc.keys, written, Function.comp_def]
  rw [hkeys]
  exact Records.Ascending.nodup h

/-- Keeping the record that a chat has changes nothing. -/
theorem put_eq_self (h : book.written.Ascending) (hget : book.get? chat = some s) : book.put chat s = book := by
  obtain ⟨before, after, rfl⟩ := List.append_of_mem (Assoc.mem_of_get? hget)
  exact put_middle h s

end Book

/-- The rows of a bot's store are the written records of a book. -/
structure Mirrors (bot : Int) (book : Book) (db : Database) : Prop where
  sound : Sound bot db
  rows : rows bot db = book.written
  wellFormed : ∀ entry ∈ book, entry.2.WellFormed

variable {bot chat : Int} {book : Book} {db : Database} {shelf : Shelf} {s : Subscriber}

namespace Mirrors

/-- The rows of an empty book are none. -/
theorem of_no_rows (hserves : db.Serves bot) (hrows : Subscriptions.rows bot db = []) : Mirrors bot [] db where
  sound := ⟨hserves, by simp [hrows, Records.Ascending], by simp [hrows], by simp [hrows]⟩
  rows := hrows
  wellFormed := by simp

theorem ascending (h : Mirrors bot book db) : book.written.Ascending := h.rows ▸ h.sound.ascending

theorem wellFormed_of_get? (h : Mirrors bot book db) (hget : book.get? chat = some s) : s.WellFormed :=
  h.wellFormed _ (Assoc.mem_of_get? hget)

theorem wellFormed_recordOf (h : Mirrors bot book db) (chat : Int) : (book.recordOf chat).WellFormed := by
  rw [Book.recordOf]
  cases hget : book.get? chat with
  | none => exact Subscriber.wellFormed_new
  | some s => exact h.wellFormed_of_get? hget

/-- The record of a chat is read as the book has it. -/
theorem recordOf_eq (h : Mirrors bot book db) (hchat : Database.fits chat) :
    recordOf bot chat db = .ok (book.get? chat) := by
  have hrow : Records.get? chat (Subscriptions.rows bot db) = (book.get? chat).map Subscriber.toJson := by
    rw [h.rows, Book.get?_written]
  obtain ⟨hnone, hread⟩ | ⟨payload, r, hsome, hr, -, hread⟩ := h.sound.recordOf_cases hchat
  · rw [hnone] at hrow
    rw [hread, Option.map_eq_none_iff.mp hrow.symm]
  · rw [hsome] at hrow
    obtain ⟨s, hget, rfl⟩ := Option.map_eq_some_iff.mp hrow.symm
    rw [Subscriber.ofJson_toJson (h.wellFormed_of_get? hget)] at hr
    rw [hread, hget, Except.ok.inj hr]

/-- All records are listed as the book has them. -/
theorem records_eq (h : Mirrors bot book db) :
    (store bot).records (db.list (store bot).codec.collection (store bot).bot) = .ok book := by
  have hlist : db.list (store bot).codec.collection (store bot).bot = .ok book.written := by
    change db.list Subscriber.codec.collection bot = _
    rw [Database.list, h.sound.serves.begin]
    exact congrArg Except.ok h.rows
  rw [hlist]
  refine mapM_map_eq_ok fun entry hentry => ?_
  simp only [decode_eq_ok (Subscriber.ofJson_toJson (h.wellFormed entry hentry))]
  rfl

/-- Storing a record that has the tokens of the chat's old one in no other order is keeping it in the book. -/
theorem put (h : Mirrors bot book db) (hchat : Database.fits chat) (hs : s.WellFormed)
    (horder : ∀ old, book.get? chat = some old → s.tokens.Perm old.tokens → s.tokens = old.tokens) :
    ∃ db', db.put Subscriber.codec.collection bot chat s.toJson = .ok db' ∧ Mirrors bot (book.put chat s) db' := by
  obtain ⟨db', hput, hsound, -⟩ := h.sound.put hchat hs
  refine ⟨db', hput, hsound, ?_, fun entry hentry => ?_⟩
  · rw [Subscriptions.rows, Database.put_eq_ok hput]
    split
    next hstored =>
      -- the stored payload says the same, and then it is the same
      obtain ⟨stored, hrow, halike⟩ : ∃ stored, Records.get? chat (Subscriptions.rows bot db) = some stored ∧
          s.toJson.alike stored := by
        rw [Database.isStored] at hstored
        split at hstored
        next stored hrow => exact ⟨stored, hrow, hstored⟩
        · cases hstored
      rw [h.rows, Book.get?_written] at hrow
      obtain ⟨old, hget, rfl⟩ := Option.map_eq_some_iff.mp hrow
      obtain ⟨henabled, hperm⟩ := (Subscriber.alike_iff hs (h.wellFormed_of_get? hget)).mp halike
      obtain rfl : s = old := by
        cases s
        cases old
        exact congrArg₂ Subscriber.mk henabled (horder _ hget hperm)
      rw [Book.put_eq_self h.ascending hget]
      exact h.rows
    · rw [Database.records_withRecords, Book.written_put, ← h.rows]
      rfl
  · rcases Book.mem_put hentry with rfl | hentry
    · exact hs
    · exact h.wellFormed entry hentry

end Mirrors

/-- A call comes to what the book comes to, and the store mirrors the book again. -/
structure Agrees {α : Type} (bot : Int) (out : Except SubscriptionError α × Shelf)
    (expected : Except SubscriptionError α × Book) : Prop where
  result : out.1 = expected.1
  mirrors : Mirrors bot expected.2 out.2.database

theorem runAlone_ifOk {α β : Type} (t : Attempt α) (f : α → Attempt β) (shelf : Shelf) :
    (store bot).runAlone (t.ifOk f) shelf =
      match (store bot).runAlone t shelf with
      | (.ok a, shelf') => (store bot).runAlone (f a) shelf'
      | (.error e, shelf') => (.error e, shelf') := by
  simp only [runAlone, Task.run_ifOk]
  rcases t.run (answer (store bot).codec.collection (store bot).bot) shelf with ⟨_ | a, shelf'⟩ <;> rfl

section Edits

variable {α : Type} {default : Option Subscriber} {change : Subscriber → Except SubscriptionError (Subscriber × α)}
  {current updated : Subscriber} {extra : α}

namespace Mirrors

/-- An edit changes the record that the book has. -/
theorem run_edit (h : Mirrors bot book shelf.database) (hchat : Database.fits chat) :
    (store bot).runAlone (edit bot chat default change) shelf =
      match (book.get? chat).or default with
      | none => (.ok none, shelf)
      | some current =>
        match change current with
        | .error cause => (.error cause, shelf)
        | .ok (updated, extra) =>
          match (store bot).runAlone ((store bot).put chat updated) shelf with
          | (.error cause, shelf') => (.error (.store cause), shelf')
          | (.ok _, shelf') => (.ok (some (updated, extra)), shelf') := by
  have hmap : (store bot).runAlone (edit bot chat default change) shelf =
      (((store bot).runAlone ((store bot).edit chat default change) shelf).1.mapError ofEdit,
        ((store bot).runAlone ((store bot).edit chat default change) shelf).2) := Task.run_map _ _ _ shelf
  have hrecord := h.recordOf_eq hchat
  rw [Subscriptions.recordOf] at hrecord
  rw [hmap, Store.run_edit, hrecord]
  simp only
  cases (book.get? chat).or default with
  | none => rfl
  | some current =>
      simp only
      cases change current with
      | error cause => rfl
      | ok result =>
          simp only
          rcases (store bot).runAlone ((store bot).put chat result.1) shelf with ⟨_ | u, shelf'⟩ <;> rfl

theorem edit_none (h : Mirrors bot book shelf.database) (hchat : Database.fits chat)
    (hnone : (book.get? chat).or default = none) :
    (store bot).runAlone (edit bot chat default change) shelf = (.ok none, shelf) := by
  rw [h.run_edit hchat, hnone]

theorem edit_refused (h : Mirrors bot book shelf.database) (hchat : Database.fits chat)
    (hcurrent : (book.get? chat).or default = some current) {cause : SubscriptionError}
    (hchange : change current = .error cause) :
    (store bot).runAlone (edit bot chat default change) shelf = (.error cause, shelf) := by
  rw [h.run_edit hchat, hcurrent]
  simp only [hchange]

theorem edit_stored (h : Mirrors bot book shelf.database) (hchat : Database.fits chat)
    (change : Subscriber → Except SubscriptionError (Subscriber × α))
    (hcurrent : (book.get? chat).or default = some current) (hchange : change current = .ok (updated, extra))
    (hupdated : updated.WellFormed)
    (horder : ∀ old, book.get? chat = some old → updated.tokens.Perm old.tokens → updated.tokens = old.tokens) :
    ∃ database, (store bot).runAlone (edit bot chat default change) shelf =
        (.ok (some (updated, extra)), { shelf with database }) ∧ Mirrors bot (book.put chat updated) database := by
  obtain ⟨database, hput, hmirrors⟩ := h.put hchat hupdated horder
  refine ⟨database, ?_, hmirrors⟩
  rw [h.run_edit hchat, hcurrent]
  simp only [hchange, run_put hupdated.writable hput]

/-- Storing a record that has the tokens of the chat's old one in another order leaves the store as it is. -/
theorem edit_reordered (h : Mirrors bot book shelf.database) (hchat : Database.fits chat)
    (change : Subscriber → Except SubscriptionError (Subscriber × α)) (hget : book.get? chat = some current)
    (hchange : change current = .ok (updated, extra)) (hupdated : updated.WellFormed)
    (henabled : updated.enabled = current.enabled) (hperm : updated.tokens.Perm current.tokens) :
    (store bot).runAlone (edit bot chat none change) shelf = (.ok (some (updated, extra)), shelf) := by
  have hrow : Records.get? chat (shelf.database.records Subscriber.codec.collection bot) = some current.toJson := by
    rw [← Subscriptions.rows, h.rows, Book.get?_written, hget]
    rfl
  have hstored : Database.isStored (shelf.database.records Subscriber.codec.collection bot) chat updated.toJson := by
    rw [Database.isStored, hrow]
    exact (Subscriber.alike_iff hupdated (h.wellFormed_of_get? hget)).mpr ⟨henabled, hperm⟩
  obtain ⟨database, hput, -, -⟩ := h.sound.put hchat hupdated
  have hsame := Database.put_eq_ok hput
  rw [if_pos hstored] at hsame
  rw [hsame] at hput
  rw [h.run_edit hchat, hget]
  simp only [Option.some_or, hchange, run_put hupdated.writable hput]

/-- Making the index afresh after a call leaves its result and the records as they are. -/
theorem then_rebuild (h : Mirrors bot book shelf.database) {β : Type} (result : β) :
    Agrees bot ((store bot).runAlone ((rebuild bot).ifOk fun _ => .done (.ok result)) shelf) (.ok result, book) := by
  obtain ⟨entries, hrun, -⟩ := h.sound.run_rebuild
  rw [runAlone_ifOk, hrun]
  exact ⟨rfl, h⟩

end Mirrors

end Edits

end Subscriptions

end ChainAlerts
