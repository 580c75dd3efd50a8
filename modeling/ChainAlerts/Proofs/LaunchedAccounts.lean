import ChainAlerts.Proofs.Launches
import ChainAlerts.Proofs.UnreadableRows

/-! Launches of tokens whose account is no proper key. The account that a launch names is whatever the event says, and
the settings that are moved are filed under it. If the account is no key of a token, the records of those who followed
the auction can no longer be read, and the index cannot be made afresh; if it is the key of an auction, they are read as
following that auction. -/

namespace ChainAlerts

namespace Subscriber

variable {s r : Subscriber} {payload : Json}

/-- Settings that are read back from what is written of them. -/
def HasReadableSettings (s : Subscriber) : Prop :=
  ∀ entry ∈ s.tokens, entry.2.Proper ∧ entry.2.minAmount.isWritable

theorem WellFormed.hasReadableSettings (h : s.WellFormed) : s.HasReadableSettings := fun entry hentry =>
  ⟨(h.proper entry hentry).2, (isWritable_iff.mp h.writable entry hentry).2⟩

theorem key_mem_written {entry : Token × Subscription} (h : entry ∈ s.tokens) :
    entry.1.key ∈ Assoc.keys (Assoc.ofPairs (s.tokens.map writeEntry)) := by
  rw [Assoc.mem_keys_ofPairs, Assoc.keys, List.map_map]
  exact List.mem_map_of_mem (f := Prod.fst ∘ writeEntry) h

/-- Reading the settings under a key can fail only because the key files no token. -/
theorem readEntry_reads_iff {key : String} {settings : Subscription} (hproper : settings.Proper)
    (hwritable : settings.minAmount.isWritable) :
    (∃ entry, readEntry (key, settings.toJson) = .ok entry) ↔ ∃ token, Token.parse key = .ok token := by
  rw [readEntry, Subscription.ofJson_toJson hproper hwritable]
  cases Token.parse key with
  | ok token => simp
  | error f => simp [bind, Except.bind]

/-- Whether a written record can be read is a matter of the keys under which its tokens are filed. -/
theorem reads_toJson_iff (h : s.HasReadableSettings) :
    (∃ r, ofJson s.toJson = .ok r) ↔ ∀ entry ∈ s.tokens, ∃ token, Token.parse entry.1.key = .ok token := by
  have hwhole : (∃ r, ofJson s.toJson = .ok r) ↔
      ∃ tokens, (Assoc.ofPairs (s.tokens.map writeEntry)).mapM readEntry = .ok tokens := by
    rw [ofJson, toJson]
    cases hread : (Assoc.ofPairs (s.tokens.map writeEntry)).mapM readEntry with
    | ok tokens => simp [Subscription.flag, Json.entries, hread, Assoc.get?]
    | error f => simp [Subscription.flag, Json.entries, hread, Assoc.get?, bind, Except.bind]
  rw [hwhole, exists_mapM_eq_ok_iff]
  constructor
  · intro hall entry hentry
    obtain ⟨field, hfield, hsame⟩ := List.mem_map.mp (key_mem_written hentry)
    obtain ⟨written, hwritten, rfl⟩ := List.mem_map.mp (Assoc.mem_of_mem_ofPairs hfield)
    obtain ⟨hproper, hwritable⟩ := h written hwritten
    rw [← hsame]
    exact (readEntry_reads_iff hproper hwritable).mp (hall _ hfield)
  · intro hall field hfield
    obtain ⟨entry, hentry, rfl⟩ := List.mem_map.mp (Assoc.mem_of_mem_ofPairs hfield)
    obtain ⟨hproper, hwritable⟩ := h entry hentry
    exact (readEntry_reads_iff hproper hwritable).mpr (hall entry hentry)

/-- A payload that can be read and says the same as a written record files all its tokens under proper keys. -/
theorem parses_of_alike (halike : s.toJson.alike payload) (hread : ofJson payload = .ok r) :
    ∀ entry ∈ s.tokens, ∃ token, Token.parse entry.1.key = .ok token := by
  intro entry hentry
  rw [toJson] at halike
  obtain ⟨fields, rfl, -, hfields⟩ := Json.keys_of_alike halike (by simp [Assoc.keys])
  obtain ⟨w, hw, htokens⟩ := hfields ("tokens", .obj (Assoc.ofPairs (s.tokens.map writeEntry))) (by simp)
  obtain ⟨others, rfl, hperm, -⟩ := Json.keys_of_alike htokens (Assoc.nodup_keys_ofPairs _)
  obtain ⟨field, hfield, hsame⟩ := List.mem_map.mp (hperm.mem_iff.mp (key_mem_written hentry))
  obtain ⟨enabled, -, hread⟩ := except_bind_eq_ok.mp hread
  obtain ⟨stored, hstored, hread⟩ := except_bind_eq_ok.mp hread
  obtain ⟨entries, hentries, hread⟩ := except_bind_eq_ok.mp hread
  obtain ⟨tokens, htokens, -⟩ := except_bind_eq_ok.mp hread
  obtain rfl : some (.obj others) = stored := hw.symm.trans (Except.ok.inj hstored)
  obtain rfl : others = entries := Except.ok.inj hentries
  obtain ⟨parsed, hparsed⟩ := exists_mapM_eq_ok_iff.mp ⟨tokens, htokens⟩ field hfield
  obtain ⟨token, htoken, -⟩ := except_bind_eq_ok.mp hparsed
  exact ⟨token, hsame ▸ htoken⟩

end Subscriber

namespace Subscriptions

open Store

variable {bot chat : Int} {auction : Int} {account : String} {db db' : Database} {shelf : Shelf} {s : Subscriber}
  {payload : Json} {chats : List Int}

/-- The record that a launch makes of the record of a chat that followed the auction. -/
def launchedRecord (auction : Int) (account : String) (s : Subscriber) : Subscriber :=
  (moveSettings (.prelaunch auction) (.fungible account) s).1

theorem launchedRecord_of_follows (account : String) (hfollows : s.follows (.prelaunch auction)) :
    ∃ settings, ((.prelaunch auction), settings) ∈ s.tokens ∧
      launchedRecord auction account s = (s.withoutToken (.prelaunch auction)).withToken (.fungible account) settings ∧
      moveSettings (.prelaunch auction) (.fungible account) s = (launchedRecord auction account s, true) := by
  obtain ⟨settings, hsettings, hmove⟩ := moveSettings_of_follows (.fungible account) hfollows
  refine ⟨settings, Assoc.mem_of_get? hsettings, ?_, ?_⟩
  · rw [launchedRecord, hmove]
  · rw [launchedRecord, hmove]

/-- Every token of the new record but the launched one was one of the old record. -/
theorem mem_launchedRecord (hfollows : s.follows (.prelaunch auction)) {entry : Token × Subscription}
    (hentry : entry ∈ (launchedRecord auction account s).tokens) :
    ∃ old ∈ s.tokens, entry.2 = old.2 ∧ (entry.1 = .fungible account ∨ entry.1 = old.1) := by
  obtain ⟨settings, hsettings, hrecord, -⟩ := launchedRecord_of_follows account hfollows
  rw [hrecord] at hentry
  rcases Assoc.mem_put hentry with rfl | hold
  · exact ⟨_, hsettings, rfl, Or.inl rfl⟩
  · exact ⟨entry, Assoc.mem_of_mem_erase hold, rfl, Or.inr rfl⟩

theorem fungible_mem_launchedRecord (account : String) (hfollows : s.follows (.prelaunch auction)) :
    ∃ settings, (.fungible account, settings) ∈ (launchedRecord auction account s).tokens := by
  obtain ⟨settings, -, hrecord, -⟩ := launchedRecord_of_follows account hfollows
  refine ⟨settings, ?_⟩
  rw [hrecord]
  exact Assoc.mem_of_get? (Assoc.get?_put_self _ _ _)

theorem launchedRecord_readable (h : s.WellFormed) (hfollows : s.follows (.prelaunch auction)) :
    (launchedRecord auction account s).HasReadableSettings := by
  intro entry hentry
  obtain ⟨old, hold, hsettings, -⟩ := mem_launchedRecord hfollows hentry
  rw [hsettings]
  exact h.hasReadableSettings old hold

theorem launchedRecord_writable (h : s.WellFormed) (hfollows : s.follows (.prelaunch auction)) :
    (launchedRecord auction account s).isWritable := by
  refine Subscriber.isWritable_iff.mpr fun entry hentry => ?_
  obtain ⟨old, hold, hsettings, htoken⟩ := mem_launchedRecord hfollows hentry
  obtain ⟨hkey, hleast⟩ := Subscriber.isWritable_iff.mp h.writable old hold
  refine ⟨?_, hsettings ▸ hleast⟩
  rcases htoken with htoken | htoken
  · rw [htoken]
    rfl
  · rw [htoken]
    exact hkey

/-- All tokens of the new record are filed under proper keys exactly if the launched account is one. -/
theorem launchedRecord_parses_iff (h : s.WellFormed) (hfollows : s.follows (.prelaunch auction)) :
    (∀ entry ∈ (launchedRecord auction account s).tokens, ∃ token, Token.parse entry.1.key = .ok token) ↔
      ∃ token, Token.parse account = .ok token := by
  constructor
  · intro hall
    obtain ⟨settings, hmem⟩ := fungible_mem_launchedRecord account hfollows
    exact hall _ hmem
  · rintro ⟨token, htoken⟩ entry hentry
    obtain ⟨old, hold, -, hname | hname⟩ := mem_launchedRecord hfollows hentry
    · refine ⟨token, ?_⟩
      rw [hname]
      exact htoken
    · refine ⟨old.1, ?_⟩
      rw [hname]
      exact Subscriber.parse_key_of_mem h hold

/-- What a launch leaves in the row of a chat that followed the auction: the new record, unless the payload that is
there says the same. -/
def Rewritten (auction : Int) (account : String) (s : Subscriber) (payload payload' : Json) : Prop :=
  payload' = (launchedRecord auction account s).toJson ∨
    payload' = payload ∧ (launchedRecord auction account s).toJson.alike payload

theorem Rewritten.reads_iff {payload' : Json} (hrewritten : Rewritten auction account s payload payload')
    (hread : Subscriber.ofJson payload = .ok s) (h : s.WellFormed) (hfollows : s.follows (.prelaunch auction)) :
    (∃ r, Subscriber.ofJson payload' = .ok r) ↔ ∃ token, Token.parse account = .ok token := by
  rw [← launchedRecord_parses_iff h hfollows]
  rcases hrewritten with rfl | ⟨rfl, halike⟩
  · exact Subscriber.reads_toJson_iff (launchedRecord_readable h hfollows)
  · exact iff_of_true ⟨s, hread⟩ (Subscriber.parses_of_alike halike hread)

theorem recordOf_eq_some_iff (h : db.Serves bot) : recordOf bot chat db = .ok (some s) ↔
    Database.fits chat ∧
      ∃ payload, Records.get? chat (rows bot db) = some payload ∧ Subscriber.ofJson payload = .ok s := by
  cases hchat : Database.fits chat with
  | false => simp [recordOf_of_not_fits h hchat]
  | true =>
      have hget : db.get (store bot).codec.collection (store bot).bot chat = .ok (Records.get? chat (rows bot db)) := by
        change db.get Subscriber.codec.collection bot chat = _
        rw [Database.get, h.begin]
        simp [hchat, rows]
      rw [recordOf, hget]
      cases Records.get? chat (rows bot db) with
      | none => simp [record?]
      | some payload =>
          have hdecode : (store bot).decode chat payload = .ok s ↔ Subscriber.ofJson payload = .ok s :=
            (store bot).decode_eq_ok_iff
          simp [record?, ← hdecode, except_map_eq_ok]

/-- A change of a database that rewrites the rows of some chats for a launch, and nothing else. -/
structure Rewrites (bot auction : Int) (account : String) (chats : List Int) (db db' : Database) : Prop where
  serves : db'.Serves bot
  ascending : (rows bot db').Ascending
  rewritten : ∀ chat ∈ chats, ∀ payload s, Records.get? chat (rows bot db) = some payload →
    Subscriber.ofJson payload = .ok s →
      ∃ payload', Records.get? chat (rows bot db') = some payload' ∧ Rewritten auction account s payload payload'
  kept : ∀ chat ∉ chats, Records.get? chat (rows bot db') = Records.get? chat (rows bot db)

theorem Rewrites.refl (hserves : db.Serves bot) (hascending : (rows bot db).Ascending) :
    Rewrites bot auction account [] db db := ⟨hserves, hascending, by simp, fun _ _ => rfl⟩

theorem Rewrites.trans {db'' : Database} {others : List Int} (hfirst : Rewrites bot auction account chats db db')
    (hothers : Rewrites bot auction account others db' db'') (hdisjoint : chats.Disjoint others) :
    Rewrites bot auction account (chats ++ others) db db'' where
  serves := hothers.serves
  ascending := hothers.ascending
  rewritten := by
    intro chat hchat payload s hrow hread
    rcases List.mem_append.mp hchat with hchat | hchat
    · rw [hothers.kept chat (hdisjoint hchat)]
      exact hfirst.rewritten chat hchat payload s hrow hread
    · rw [← hfirst.kept chat fun hmem => hdisjoint hmem hchat] at hrow
      exact hothers.rewritten chat hchat payload s hrow hread
  kept := by
    intro chat hchat
    obtain ⟨hnot, hnotOther⟩ := not_or.mp fun hmem => hchat (List.mem_append.mpr hmem)
    exact (hothers.kept chat hnotOther).trans (hfirst.kept chat hnot)

/-- Storing the new record of one chat. -/
theorem put_launchedRecord (auction : Int) (account : String) (hserves : db.Serves bot)
    (hascending : (rows bot db).Ascending) (hchat : Database.fits chat)
    (hrow : Records.get? chat (rows bot db) = some payload)
    (hread : Subscriber.ofJson payload = .ok s) :
    ∃ db', db.put Subscriber.codec.collection bot chat (launchedRecord auction account s).toJson = .ok db' ∧
      Rewrites bot auction account [chat] db db' := by
  have hbegin : db.begin [bot, chat] = .ok () := by
    rw [hserves.begin]
    simp [hchat]
  have hput : db.put Subscriber.codec.collection bot chat (launchedRecord auction account s).toJson = .ok (
      if Database.isStored (rows bot db) chat (launchedRecord auction account s).toJson then db
      else db.withRecords Subscriber.codec.collection bot
        ((rows bot db).put chat (launchedRecord auction account s).toJson)) :=
    Database.put_obj hbegin
  have hsame : ∀ other ∈ [chat], ∀ payload' s', Records.get? other (rows bot db) = some payload' →
      Subscriber.ofJson payload' = .ok s' → other = chat ∧ payload' = payload ∧ s' = s := by
    intro other hother payload' s' hrow' hread'
    obtain rfl := List.mem_singleton.mp hother
    obtain rfl := Option.some.inj (hrow'.symm.trans hrow)
    exact ⟨rfl, rfl, Except.ok.inj (hread'.symm.trans hread)⟩
  by_cases hstored : Database.isStored (rows bot db) chat (launchedRecord auction account s).toJson
  · refine ⟨db, hput.trans (by rw [if_pos hstored]), hserves, hascending, ?_, fun _ _ => rfl⟩
    intro other hother payload' s' hrow' hread'
    obtain ⟨rfl, rfl, rfl⟩ := hsame other hother payload' s' hrow' hread'
    rw [Database.isStored, hrow] at hstored
    exact ⟨_, hrow, Or.inr ⟨rfl, hstored⟩⟩
  · refine ⟨_, hput.trans (by rw [if_neg hstored]), hserves.withRecords _ _, ?_, ?_, ?_⟩
    · rw [rows_withRecords]
      exact hascending.put
    · intro other hother payload' s' hrow' hread'
      obtain ⟨rfl, rfl, rfl⟩ := hsame other hother payload' s' hrow' hread'
      rw [rows_withRecords]
      exact ⟨_, Records.get?_put_self _ _ _, Or.inl rfl⟩
    · intro other hother
      rw [rows_withRecords]
      exact Records.get?_put_of_ne (fun heq => hother (List.mem_singleton.mpr heq)) _ _

theorem Rewrites.own {db'' : Database} (h : Rewrites bot auction account chats db db')
    (hown : db''.own bot = db'.own bot) : Rewrites bot auction account chats db db'' where
  serves := ⟨(congrArg OwnRows.failure hown).trans h.serves.works,
    (congrArg OwnRows.hasSchema hown).trans h.serves.hasTable, h.serves.bot_fits⟩
  ascending := rows_own hown ▸ h.ascending
  rewritten := rows_own hown ▸ h.rewritten
  kept := rows_own hown ▸ h.kept

/-- Every record of a bot can be read. -/
def AllRead (bot : Int) (db : Database) : Prop := ∀ row ∈ rows bot db, ∃ s, Subscriber.ofJson row.2 = .ok s

/-- After a launch all records can be read unless settings were filed under an account that is no proper key. -/
theorem Rewrites.allRead_iff (hrewrites : Rewrites bot auction account (followers bot db (.prelaunch auction)) db db')
    (h : Sound bot db) :
    AllRead bot db' ↔ followers bot db (.prelaunch auction) = [] ∨ ∃ token, Token.parse account = .ok token := by
  have hrow : ∀ chat ∈ followers bot db (.prelaunch auction), ∃ payload',
      Records.get? chat (rows bot db') = some payload' ∧
      ((∃ r, Subscriber.ofJson payload' = .ok r) ↔ ∃ token, Token.parse account = .ok token) := by
    intro chat hchat
    obtain ⟨s, hrecord, hfollows⟩ := (h.mem_followers _ _).mp hchat
    obtain ⟨-, payload, hpayload, hread, hwell⟩ := h.row_of_record hrecord
    obtain ⟨payload', hpayload', hrewritten⟩ := hrewrites.rewritten chat hchat payload s hpayload hread
    exact ⟨payload', hpayload', hrewritten.reads_iff hread hwell hfollows⟩
  constructor
  · intro hall
    cases hchats : followers bot db (.prelaunch auction) with
    | nil => exact Or.inl rfl
    | cons chat rest =>
        obtain ⟨payload', hpayload', hreads⟩ := hrow chat (hchats ▸ List.mem_cons_self)
        exact Or.inr (hreads.mp (hall _ (Records.mem_of_get? hpayload')))
  · rintro hharmless ⟨chat, payload⟩ hmem
    have hpayload := hrewrites.ascending.get?_eq_some_iff.mpr hmem
    by_cases hchat : chat ∈ followers bot db (.prelaunch auction)
    · rcases hharmless with hnobody | htoken
      · rw [hnobody] at hchat
        cases hchat
      · obtain ⟨payload', hpayload', hreads⟩ := hrow chat hchat
        obtain rfl := Option.some.inj (hpayload'.symm.trans hpayload)
        exact hreads.mpr htoken
    · rw [hrewrites.kept chat hchat] at hpayload
      obtain ⟨s, hread, -⟩ := h.wellFormed _ (Records.mem_of_get? hpayload)
      exact ⟨s, hread⟩

/-- The edit by which a launch moves one chat. -/
theorem run_launchEdit (account : String) (hserves : shelf.database.Serves bot)
    (hascending : (rows bot shelf.database).Ascending)
    (hrecord : recordOf bot chat shelf.database = .ok (some s)) (h : s.WellFormed)
    (hfollows : s.follows (.prelaunch auction)) :
    ∃ database, Rewrites bot auction account [chat] shelf.database database ∧
      (store bot).runAlone
          (edit bot chat none fun s => .ok (moveSettings (.prelaunch auction) (.fungible account) s)) shelf =
        (.ok (some (launchedRecord auction account s, true)), { shelf with database }) := by
  obtain ⟨hchat, payload, hrow, hread⟩ := (recordOf_eq_some_iff hserves).mp hrecord
  obtain ⟨settings, -, -, hmove⟩ := launchedRecord_of_follows account hfollows
  obtain ⟨database, hput, hrewrites⟩ :=
    put_launchedRecord auction account hserves hascending hchat hrow hread
  refine ⟨database, hrewrites, ?_⟩
  have hedit := Store.run_edit (store bot) chat none
    (fun s => (.ok (moveSettings (.prelaunch auction) (.fungible account) s) : Except SubscriptionError _)) shelf
  rw [← recordOf, hrecord] at hedit
  simp only [Option.some_or, hmove, run_put (launchedRecord_writable h hfollows) hput] at hedit
  rw [runAlone] at hedit
  rw [runAlone, edit, Task.run_map, hedit]
  rfl

/-- Every chat that is to be moved is moved, whatever the rows of the others have become. -/
theorem run_launchEdits (account : String) {entries : List (Int × Subscriber)} (hserves : shelf.database.Serves bot)
    (hascending : (rows bot shelf.database).Ascending)
    (hfollowing : Following bot (.prelaunch auction) entries shelf.database)
    (h : ∀ entry ∈ entries, entry.2.WellFormed) (moved : List (Int × Bool)) :
    ∃ database moved', Rewrites bot auction account (entries.map (·.1)) shelf.database database ∧
      (store bot).runAlone (migrateEach bot (.prelaunch auction) (.fungible account) (entries.map (·.1)) moved) shelf =
        (.ok moved', { shelf with database }) := by
  induction entries generalizing shelf moved with
  | nil => exact ⟨shelf.database, moved, .refl hserves hascending, rfl⟩
  | cons entry rest ih =>
      obtain ⟨hrecord, hfollows⟩ := hfollowing.records entry List.mem_cons_self
      obtain ⟨hfresh, hnodup⟩ := List.nodup_cons.mp hfollowing.nodup
      obtain ⟨first, hfirst, hedit⟩ := run_launchEdit account hserves hascending hrecord
        (h entry List.mem_cons_self) hfollows
      have hothers : Following bot (.prelaunch auction) rest first := by
        refine ⟨hnodup, fun other hother => ?_⟩
        obtain ⟨hother', hfollows'⟩ := hfollowing.records other (List.mem_cons_of_mem entry hother)
        refine ⟨?_, hfollows'⟩
        rw [recordOf_congr hserves hfirst.serves (hfirst.kept other.1 fun hsame => hfresh ?_), hother']
        exact List.mem_map.mpr ⟨other, hother, List.mem_singleton.mp hsame⟩
      obtain ⟨database, moved', hrest, hrun⟩ := @ih { shelf with database := first } hfirst.serves hfirst.ascending
        hothers (fun other hother => h other (List.mem_cons_of_mem entry hother))
        (moved ++ [(entry.1, (launchedRecord auction account entry.2).enabled)])
      refine ⟨database, moved', hfirst.trans hrest (by simpa using hfresh), ?_⟩
      rw [runAlone] at hedit
      rw [List.map_cons, runAlone, migrateEach, Task.run_ifOk, hedit]
      exact hrun

/-- Making the index afresh changes no row, and succeeds exactly if all rows can be read. -/
theorem run_rebuild_eq (bot : Int) (shelf : Shelf) : (store bot).runAlone (rebuild bot) shelf =
    match (store bot).records (shelf.database.list (store bot).codec.collection (store bot).bot) with
    | .ok records => (.ok (), { shelf with index := shelf.index.renew (SubscriberIndex.ofRecords records) })
    | .error cause => (.error (.rebuild bot cause), shelf) := by
  simp only [runAlone, rebuild, Task.run, Store.all, Task.run_andThen, answer]
  cases (store bot).records (shelf.database.list (store bot).codec.collection (store bot).bot) <;> rfl

theorem run_rebuild_ok_iff (shelf : Shelf) (hserves : shelf.database.Serves bot) :
    ((store bot).runAlone (rebuild bot) shelf).1 = .ok () ↔
      AllRead bot shelf.database := by
  have hlist : shelf.database.list (store bot).codec.collection (store bot).bot = .ok (rows bot shelf.database) := by
    change shelf.database.list Subscriber.codec.collection bot = _
    rw [Database.list, hserves.begin]
    rfl
  have hall : (∃ records, (store bot).records (.ok (rows bot shelf.database)) = .ok records) ↔
      AllRead bot shelf.database := by
    rw [(store bot).exists_records_iff]
    simp only [(store bot).decode_eq_ok_iff]
    rfl
  rw [run_rebuild_eq, hlist, ← hall]
  cases (store bot).records (.ok (rows bot shelf.database)) <;> simp

theorem Sound.run_migrate (h : Sound bot shelf.database) (source target : Token) :
    (store bot).runAlone (migrate bot source target) shelf = (store bot).runAlone
      ((migrateEach bot source target (followers bot shelf.database source) []).ifOk fun moved =>
        (rebuild bot).ifOk fun _ => .done (.ok moved)) shelf := by
  have hmigrate := h.runBut_migrate "" source target none
  rw [runBut, runBut, run_answerBut_none, run_answerBut_none] at hmigrate
  obtain ⟨hresult, hafter⟩ := Prod.mk.inj hmigrate
  exact Prod.ext hresult (Prod.mk.inj hafter).2

/-- The whole move for a launch: the rows of those who followed the auction are rewritten, and nothing fails but the
index, which may not be made afresh. -/
theorem Sound.run_launch (h : Sound bot shelf.database) (auction : Int) (account : String) :
    ∃ database, Rewrites bot auction account (followers bot shelf.database (.prelaunch auction)) shelf.database
        database ∧
      ((store bot).runAlone (migrate bot (.prelaunch auction) (.fungible account)) shelf).2.database = database ∧
      ∀ cause, ((store bot).runAlone (migrate bot (.prelaunch auction) (.fungible account)) shelf).1 = .error cause →
        ∃ reason, cause = .rebuild bot reason := by
  have hwell : ∀ entry ∈ recordsWith (.prelaunch auction) bot shelf.database, entry.2.WellFormed := by
    intro entry hentry
    obtain ⟨-, -, -, -, hwell⟩ := h.row_of_record (h.mem_recordsWith.mp hentry).1
    exact hwell
  obtain ⟨database, moved, hrewrites, hrun⟩ := run_launchEdits account h.serves h.ascending h.following hwell []
  rw [h.map_recordsWith] at hrewrites hrun
  refine ⟨database, hrewrites, ?_⟩
  have hrebuild := run_rebuild_eq bot { shelf with database }
  rw [runAlone] at hrun hrebuild
  rw [h.run_migrate, runAlone, Task.run_ifOk, hrun]
  simp only
  rw [Task.run_ifOk, hrebuild]
  cases (store bot).records (database.list (store bot).codec.collection (store bot).bot) with
  | ok records =>
      refine ⟨rfl, fun cause hcause => ?_⟩
      cases hcause
  | error reason => exact ⟨rfl, fun cause hcause => ⟨reason, (Except.error.inj hcause).symm⟩⟩

end Subscriptions

namespace TradeAlerts

open Subscriptions

variable {auction : Int} {account : String} {entry : Int × TradeBot} {r : Round}

/-- A bot's turn in a launch, whatever the account is. -/
theorem launchTurn_rewrites (auction : Int) (account : String) (h : Sound entry.1 r.database) :
    (launchTurn auction account entry r).1 = none ∧
      Rewrites entry.1 auction account (followers entry.1 r.database (.prelaunch auction)) r.database
        (launchTurn auction account entry r).2.database := by
  let shelf : Store.Shelf := { database := r.database, index := entry.2.index }
  have hshelf : Sound entry.1 shelf.database := h
  obtain ⟨database, hrewrites, hdatabase, hfails⟩ := hshelf.run_launch auction account
  obtain ⟨hfault, hafter, -⟩ := launchTurn_eq auction account entry r
  refine ⟨?_, ?_⟩
  · rw [hfault]
    change passing? ((store entry.1).runAlone _ shelf).1 = none
    cases hresult : ((store entry.1).runAlone (migrate entry.1 (.prelaunch auction) (.fungible account)) shelf).1 with
    | ok moved => rfl
    | error cause =>
        obtain ⟨reason, rfl⟩ := hfails cause hresult
        rfl
  · rw [hafter]
    exact hdatabase ▸ hrewrites

/-- A launch of any account. If the account is a proper key the launch does all that a launch is to do. -/
theorem handle_launch_rewrites (sources : Sources) (auction : Int) (account transaction : String) (nanoseconds : Int)
    (hbots : (Assoc.keys r.alerts.bots).Nodup) :
    let after := handle sources (.auction (.launch auction account transaction nanoseconds)) r
    ((∀ entry ∈ r.alerts.bots, Readable entry.1 r.database) → after.1 = .ok ()) ∧
      ∀ entry ∈ r.alerts.bots, Readable entry.1 r.database → after.1 = .ok () →
        Rewrites entry.1 auction account (followers entry.1 r.database (.prelaunch auction)) r.database
          after.2.database ∧
        (Token.parse account = .ok (.fungible account) → Launched auction account entry r after.2) := by
  intro after
  obtain ⟨hok, -, hseat⟩ := handle_launch sources auction account transaction nanoseconds hbots
  refine ⟨fun hall => hok.mpr fun entry hentry => (launchTurn_rewrites auction account (hall entry hentry).sound).1, ?_⟩
  intro entry hentry hreadable hafter
  have hsame := hseat hafter entry hentry
  refine ⟨(launchTurn_rewrites auction account hreadable.sound).2.own (congrArg (·.1.1) hsame), fun haccount => ?_⟩
  obtain ⟨-, -, -, hlaunched⟩ := launchTurn_whole auction hreadable.sound haccount
  exact hlaunched.seat hsame

/-- A record that follows an account was filed under it, so that the account is a proper key. -/
theorem parse_of_record {bot chat : Int} {db : Database} {s : Subscriber} (hserves : db.Serves bot)
    (hrecord : recordOf bot chat db = .ok (some s)) (hfollows : s.follows (.fungible account)) :
    Token.parse account = .ok (.fungible account) := by
  obtain ⟨-, payload, -, hread⟩ := (recordOf_eq_some_iff hserves).mp hrecord
  obtain ⟨_, _, -, -, _, -, hparse⟩ := Subscriber.exists_field_of_follows hread hfollows
  exact Token.parse_key_of_parse hparse

theorem readable_rebuild {bot : Int} {db : Database} (h : Readable bot db) :
    AllRead bot db ∧ ∀ index, (perform Subscriptions.rebuild bot { database := db, index }).1 = .ok () := by
  have hall : AllRead bot db := fun row hrow => (h.records row hrow).2
  exact ⟨hall, fun index => (run_rebuild_ok_iff { database := db, index } h.serves).mpr hall⟩

/-- Whether what an event files settings under can be read back: it is no launch, nobody followed the auction, or the
launched account is a proper key. -/
def FilesReadably (bot : Int) (db : Database) : AuctionEvent → Prop
  | .launch auction account _ _ =>
    (∀ chat s, recordOf bot chat db = .ok (some s) → s.follows (.prelaunch auction) = false) ∨
      ∃ token, Token.parse account = .ok token
  | _ => True

/-- After any event of an auction the records of a bot can all be read, and the index can be made afresh, exactly if the
event files nothing under what is no key. A chat that is moved by a launch follows the launched token exactly if its
account is the key of a token of its own kind. -/
theorem records_after_auctionEvent (sources : Sources) (event : AuctionEvent) (r : Round)
    (hbots : (Assoc.keys r.alerts.bots).Nodup) :
    let after := handle sources (.auction event) r
    ((∀ entry ∈ r.alerts.bots, Readable entry.1 r.database) → after.1 = .ok ()) ∧
      ∀ entry ∈ r.alerts.bots, Readable entry.1 r.database → after.1 = .ok () →
        (AllRead entry.1 after.2.database ↔ FilesReadably entry.1 r.database event) ∧
        (∀ index, (perform Subscriptions.rebuild entry.1 { database := after.2.database, index }).1 = .ok () ↔
          FilesReadably entry.1 r.database event) ∧
        ∀ auction account transaction nanoseconds, event = .launch auction account transaction nanoseconds →
          ∀ chat s, recordOf entry.1 chat r.database = .ok (some s) → s.follows (.prelaunch auction) →
            ((∃ s', recordOf entry.1 chat after.2.database = .ok (some s') ∧ s'.follows (.fungible account)) ↔
              Token.parse account = .ok (.fungible account)) := by
  intro after
  cases event with
  | launch auction account transaction nanoseconds =>
      obtain ⟨hok, hbot⟩ := handle_launch_rewrites sources auction account transaction nanoseconds hbots
      refine ⟨hok, fun entry hentry hreadable hafter => ?_⟩
      obtain ⟨hrewrites, hlaunched⟩ := hbot entry hentry hreadable hafter
      have hnobody : followers entry.1 r.database (.prelaunch auction) = [] ↔
          ∀ chat s, recordOf entry.1 chat r.database = .ok (some s) → s.follows (.prelaunch auction) = false := by
        rw [List.eq_nil_iff_forall_not_mem]
        simp only [hreadable.sound.mem_followers, not_exists, not_and, Bool.not_eq_true]
      have hall := hrewrites.allRead_iff hreadable.sound
      rw [hnobody] at hall
      refine ⟨hall, fun index => ?_, ?_⟩
      · exact (run_rebuild_ok_iff { database := after.2.database, index } hrewrites.serves).trans hall
      · intro auction' account' _ _ hsame chat s hrecord hfollows
        obtain ⟨rfl, rfl, -, -⟩ := AuctionEvent.launch.inj hsame
        constructor
        · rintro ⟨s', hrecord', hfollows'⟩
          exact parse_of_record hrewrites.serves hrecord' hfollows'
        · intro haccount
          obtain ⟨s', hrecord', hrelabels⟩ := (hlaunched haccount).relabeled.moved chat s hrecord hfollows
          refine ⟨s', hrecord', ?_⟩
          rw [Subscriber.follows, Assoc.contains, hrelabels.settings]
          exact hfollows
  | deposit auction trader amount transaction nanoseconds referrer =>
      have hsame : after.2.database = r.database := database_foldl_matchFor ..
      refine ⟨fun _ => rfl, fun entry _ hreadable _ => ?_⟩
      obtain ⟨hall, hrebuild⟩ := readable_rebuild hreadable
      rw [hsame]
      exact ⟨iff_of_true hall trivial, fun index => iff_of_true (hrebuild index) trivial, fun _ _ _ _ hlaunch => by cases hlaunch⟩
  | withdraw auction trader amount transaction nanoseconds =>
      have hsame : after.2.database = r.database := database_foldl_matchFor ..
      refine ⟨fun _ => rfl, fun entry _ hreadable _ => ?_⟩
      obtain ⟨hall, hrebuild⟩ := readable_rebuild hreadable
      rw [hsame]
      exact ⟨iff_of_true hall trivial, fun index => iff_of_true (hrebuild index) trivial, fun _ _ _ _ hlaunch => by cases hlaunch⟩

/-- The payload of the launch of auction 7 as a token with an account. -/
def launchPayload (account : String) : Json :=
  .obj [("account_id", .str auctionContract), ("event_standard", .str AuctionEvent.standard),
    ("event_event", .str "create_token"),
    ("event_data", .obj [("meme_id", .int 7), ("token_id", .str account)]), ("transaction_id", .str "tx"),
    ("block_timestamp_nanosec", .int 1)]

theorem ofJson?_launchPayload (account : String) :
    AuctionEvent.ofJson? (launchPayload account) = .ok (some (.launch 7 account "tx" 1)) := by
  have htime : (Json.int 1).integerOfText = .ok 1 := Json.integer_intText (n := 1) (by decide)
  simp [AuctionEvent.ofJson?, launchPayload, Json.fieldOrNull_obj, Json.isText, htime, Json.truth, Json.integer,
    Json.text]

theorem records_after_auctionEvent_launched :
    let sources : Sources := { oracle := {}, prices := [], routes := {} }
    AuctionEvent.ofJson? (launchPayload "launched.near") = .ok (some (.launch 7 "launched.near" "tx" 1)) ∧
      ∀ entry ∈ beforeLaunch.alerts.bots, Readable entry.1 beforeLaunch.database ∧
        AllRead entry.1 (handle sources (.auction (.launch 7 "launched.near" "tx" 1)) beforeLaunch).2.database ∧
        ∀ index, (perform Subscriptions.rebuild entry.1 {
          database := (handle sources (.auction (.launch 7 "launched.near" "tx" 1)) beforeLaunch).2.database
          index }).1 = .ok () := by
  intro sources
  have haccount : Token.parse "launched.near" = .ok (.fungible "launched.near") :=
    Token.parse_key (t := .fungible "launched.near") (by decide) rfl
  have hbots : (Assoc.keys beforeLaunch.alerts.bots).Nodup := by decide
  obtain ⟨hok, hbot⟩ := records_after_auctionEvent sources (.launch 7 "launched.near" "tx" 1) beforeLaunch hbots
  refine ⟨ofJson?_launchPayload _, fun entry hentry => ?_⟩
  have hreadable := readable_beforeLaunch entry hentry
  obtain ⟨hall, hrebuild, -⟩ := hbot entry hentry hreadable (hok readable_beforeLaunch)
  exact ⟨hreadable, hall.mpr (Or.inr ⟨_, haccount⟩), fun index => (hrebuild index).mpr (Or.inr ⟨_, haccount⟩)⟩

/-- A launch that names an empty account leaves every bot with a record that cannot be read, and its index cannot be
made afresh. -/
theorem empty_account_spoils_records :
    let sources : Sources := { oracle := {}, prices := [], routes := {} }
    let after := (handle sources (.auction (.launch 7 "" "tx" 1)) beforeLaunch).2.database
    AuctionEvent.ofJson? (launchPayload "") = .ok (some (.launch 7 "" "tx" 1)) ∧
      ∀ entry ∈ beforeLaunch.alerts.bots, Readable entry.1 beforeLaunch.database ∧ ¬AllRead entry.1 after ∧
        (perform Subscriptions.rebuild entry.1 { database := after }).1 ≠ .ok () := by
  intro sources after
  refine ⟨ofJson?_launchPayload _, fun entry hentry => ?_⟩
  have hreadable := readable_beforeLaunch entry hentry
  have hbots : (Assoc.keys beforeLaunch.alerts.bots).Nodup := by decide
  obtain ⟨hok, hbot⟩ := handle_launch_rewrites (r := beforeLaunch) sources 7 "" "tx" 1 hbots
  obtain ⟨hrewrites, -⟩ := hbot entry hentry hreadable (hok readable_beforeLaunch)
  have hspoilt : ¬AllRead entry.1 after := by
    rw [hrewrites.allRead_iff hreadable.sound]
    rintro (hnobody | ⟨token, htoken⟩)
    · have hfollowed : ∀ entry ∈ beforeLaunch.alerts.bots,
          followers entry.1 beforeLaunch.database (.prelaunch 7) ≠ [] := by decide +kernel
      exact hfollowed entry hentry hnobody
    · cases htoken
  exact ⟨hreadable, hspoilt, fun hrebuild =>
    hspoilt ((run_rebuild_ok_iff { database := after } hrewrites.serves).mp hrebuild)⟩

end TradeAlerts

end ChainAlerts
