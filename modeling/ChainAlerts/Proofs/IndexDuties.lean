import ChainAlerts.Proofs.EditRequests
import ChainAlerts.Proofs.IndexRuns

/-! What a call owes to the index. A call that changes who follows what owes a new index until it has listed the
records anew, and a call that has not listed them since must not end. A payload that a call writes leaves the
followers as they are, or the call owes from then on. Every call that chats make of a bot keeps to this, request
by request, whatever other calls do in between. -/

namespace ChainAlerts.Subscriptions

open Store

/-- What a call holds: nothing; a chat, with what it has read of it since; or the index, with the entries that it
has made of the records since. -/
inductive Phase where
  | free
  | editing (chat : Int) (seen : Option (Option Json))
  | indexing
  | listed (entries : List (Token × List Int))

def IsRecord (payload : Json) : Prop := ∃ s, Subscriber.ofJson payload = .ok s ∧ s.WellFormed

/-- A payload says that a chat follows what its row says. -/
def FollowsAlike (row : Option Json) (payload : Json) : Prop :=
  ∀ token, payloadFollows token payload = (row.map (payloadFollows token)).getD false

def AreRecords (bot : Int) (rows : Records) (records : List (Int × Subscriber)) : Prop :=
  (store bot).records (.ok rows) = .ok records ∧
    (∀ record ∈ records, Database.fits record.1 ∧ record.2.WellFormed) ∧
    ∀ token, (records.filter fun record => record.2.follows token).map (·.1) =
      Records.chatsWith (payloadFollows token) rows

/-- A call keeps to what it owes, for every reply that a database of well-formed records can give. The flag tells
whether it owes a new index. -/
inductive Obeys {α : Type} (bot : Int) (ends : Bool → α → Prop) : Phase → Bool → Call α → Prop where
  | done {owes : Bool} {result : α} (h : ends owes result) : Obeys bot ends .free owes (.done result)
  | lock {owes : Bool} {chat : Int} {next : Unit → Call α}
      (h : Obeys bot ends (.editing chat none) owes (next ())) : Obeys bot ends .free owes (.ask (.lock chat) next)
  | read {owes : Bool} {chat : Int} {next : Except DatabaseError (Option Json) → Call α}
      (hfail : Database.fits chat = false → ∀ cause,
        Obeys bot ends (.editing chat none) owes (next (.error cause)))
      (hfound : ∀ row, Database.fits chat → (∀ payload ∈ row, IsRecord payload) →
        Obeys bot ends (.editing chat (some row)) owes (next (.ok row))) :
      Obeys bot ends (.editing chat none) owes (.ask (.read chat) next)
  | write {owes : Bool} {chat : Int} {row : Option Json} {r : Subscriber}
      {next : Except DatabaseError Unit → Call α} (hfits : Database.fits chat) (hr : r.WellFormed)
      (hsame : FollowsAlike row r.toJson) (h : Obeys bot ends (.editing chat none) owes (next (.ok ()))) :
      Obeys bot ends (.editing chat (some row)) owes (.ask (.write chat r.toJson) next)
  | change {owes : Bool} {chat : Int} {row : Option Json} {r : Subscriber}
      {next : Except DatabaseError Unit → Call α} (hfits : Database.fits chat) (hr : r.WellFormed)
      (h : Obeys bot ends (.editing chat none) true (next (.ok ()))) :
      Obeys bot ends (.editing chat (some row)) owes (.ask (.write chat r.toJson) next)
  | unlock {owes : Bool} {chat : Int} {seen : Option (Option Json)} {next : Unit → Call α}
      (h : Obeys bot ends .free owes (next ())) :
      Obeys bot ends (.editing chat seen) owes (.ask (.unlock chat) next)
  | remove {owes : Bool} {chat : Int} {next : Except DatabaseError (Option Json) → Call α}
      (hfail : Database.fits chat = false → ∀ cause, Obeys bot ends .free owes (next (.error cause)))
      (hremoved : ∀ row, (∀ payload ∈ row, IsRecord payload) → Obeys bot ends .free true (next (.ok row))) :
      Obeys bot ends .free owes (.ask (.remove chat) next)
  | list {owes : Bool} {next : Except DatabaseError Records → Call α}
      (h : ∀ rows records, AreRecords bot rows records → Obeys bot ends .free owes (next (.ok rows))) :
      Obeys bot ends .free owes (.ask .list next)
  | lockIndex {owes : Bool} {next : Unit → Call α} (h : Obeys bot ends .indexing owes (next ())) :
      Obeys bot ends .free owes (.ask .lockIndex next)
  | listIndexed {owes : Bool} {next : Except DatabaseError Records → Call α}
      (h : ∀ rows records, AreRecords bot rows records →
        Obeys bot ends (.listed (SubscriberIndex.ofRecords records)) false (next (.ok rows))) :
      Obeys bot ends .indexing owes (.ask .list next)
  | publish {owes : Bool} {entries : List (Token × List Int)} {next : Unit → Call α}
      (h : Obeys bot ends .indexing owes (next ())) :
      Obeys bot ends (.listed entries) owes (.ask (.publish entries) next)
  | unlockIndex {owes : Bool} {next : Unit → Call α} (h : Obeys bot ends .free owes (next ())) :
      Obeys bot ends .indexing owes (.ask .unlockIndex next)

/-- The end of a call that owes nothing. -/
def Settled {α : Type} (owes : Bool) (_ : α) : Prop := owes = false

section

variable {α β : Type} {bot chat : Int} {phase : Phase} {owes : Bool}

theorem Obeys.andThen {ends : Bool → α → Prop} {ends' : Bool → β → Prop} {t : Call α} {f : α → Call β}
    (h : Obeys bot ends phase owes t) (hf : ∀ owes a, ends owes a → Obeys bot ends' .free owes (f a)) :
    Obeys bot ends' phase owes (t.andThen f) := by
  induction h with
  | done h => exact hf _ _ h
  | lock _ ih => exact .lock ih
  | read _ _ ihfail ihfound => exact .read ihfail ihfound
  | write hfits hr hsame _ ih => exact .write hfits hr hsame ih
  | change hfits hr _ ih => exact .change hfits hr ih
  | unlock _ ih => exact .unlock ih
  | remove _ _ ihfail ihremoved => exact .remove ihfail ihremoved
  | list _ ih => exact .list ih
  | lockIndex _ ih => exact .lockIndex ih
  | listIndexed _ ih => exact .listIndexed ih
  | publish _ ih => exact .publish ih
  | unlockIndex _ ih => exact .unlockIndex ih

theorem Obeys.map {ends : Bool → β → Prop} {f : α → β} {t : Call α}
    (h : Obeys bot (fun owes a => ends owes (f a)) phase owes t) : Obeys bot ends phase owes (t.map f) :=
  h.andThen fun _ _ ha => .done ha

theorem Obeys.ifOk {ε : Type} {ends : Bool → Except ε α → Prop} {ends' : Bool → Except ε β → Prop}
    {t : Call (Except ε α)} {f : α → Call (Except ε β)} (h : Obeys bot ends phase owes t)
    (hok : ∀ owes a, ends owes (.ok a) → Obeys bot ends' .free owes (f a))
    (herror : ∀ owes e, ends owes (.error e) → ends' owes (.error e)) :
    Obeys bot ends' phase owes (t.ifOk f) := by
  refine h.andThen fun owes result hresult => ?_
  cases result with
  | ok a => exact hok owes a hresult
  | error e => exact .done (herror owes e hresult)

/-- Making the index afresh settles whatever is owed. -/
theorem obeys_rebuild (bot : Int) (owes : Bool) : Obeys bot Settled .free owes (rebuild bot) := by
  refine .lockIndex (.listIndexed fun rows records hrecords => ?_)
  simp only [Task.andThen, hrecords.1]
  exact .publish (.unlockIndex (.done rfl))

end

section

variable {β : Type} {bot : Int} {owes : Bool} {default : Option Subscriber}
  {change : Subscriber → Except SubscriptionError (Subscriber × β)}

/-- The record that an edit makes its change of: the one it has read, or the default if it found none. -/
def Origin (row : Option Json) (default : Option Subscriber) (current : Subscriber) : Prop :=
  (∃ payload, row = some payload ∧ Subscriber.ofJson payload = .ok current) ∨ row = none ∧ default = some current

theorem Origin.followsAlike {row : Option Json} {current updated : Subscriber} (h : Origin row default current)
    (hdefault : ∀ r ∈ default, r.tokens = []) (hupdated : updated.WellFormed)
    (hsame : ∀ t, updated.follows t = current.follows t) : FollowsAlike row updated.toJson := by
  intro token
  rw [payloadFollows_eq (Subscriber.ofJson_toJson hupdated), hsame]
  obtain ⟨payload, rfl, hread⟩ | ⟨rfl, hcurrent⟩ := h
  · exact (payloadFollows_eq hread).symm
  · rw [Subscriber.follows, hdefault current hcurrent]
    rfl

/-- What an edit does once it has read a record keeps to what is owed, if its change leaves the followers as they
are or the call may go on owing. It fails only if the change refuses the record or makes one that cannot be
written. -/
theorem obeys_afterRead {ends : Bool → EditResult Subscriber SubscriptionError β → Prop}
    (e : Edit Subscriber SubscriptionError β) {row : Option Json} {current : Subscriber}
    (hplan : e.plan (store bot) (.ok row) = e.changed (store bot) current) (hfits : Database.fits e.chat)
    (hcurrent : current.WellFormed) (hchange : Keeps e.change)
    (herror : (∀ updated extra, e.change current = .ok (updated, extra) → updated.isWritable = false) →
      ∀ cause, ends owes (.error cause))
    (hstored : ∀ updated extra, e.change current = .ok (updated, extra) → updated.WellFormed →
      FollowsAlike row updated.toJson ∧ ends owes (.ok (some (updated, extra))) ∨
        ends true (.ok (some (updated, extra)))) :
    Obeys bot ends (.editing e.chat (some row)) owes (e.afterRead (store bot) (.ok row)) := by
  have hleave : ∀ {owes seen} {result : EditResult Subscriber SubscriptionError β}, ends owes result →
      Obeys bot ends (.editing e.chat seen) owes (e.leave result) := fun h => .unlock (.done h)
  rw [Edit.afterRead, hplan]
  cases hupdate : e.change current with
  | error cause =>
      simp only [Edit.changed, hupdate]
      exact hleave (herror (fun _ _ heq => by cases hupdate.symm.trans heq) _)
  | ok update =>
      obtain ⟨updated, extra⟩ := update
      cases hwritable : updated.isWritable with
      | false =>
          have hencode : (store bot).codec.encode updated = .error .tooLongToWrite :=
            if_neg (Bool.eq_false_iff.mp hwritable)
          simp only [Edit.changed, hupdate, hencode]
          refine hleave (herror (fun other extra' heq => ?_) _)
          obtain ⟨rfl, -⟩ := Prod.mk.inj (Except.ok.inj (hupdate.symm.trans heq))
          exact hwritable
      | true =>
          have hencode : (store bot).codec.encode updated = .ok updated.toJson := if_pos hwritable
          have hupdated := hchange current updated extra hcurrent hupdate hwritable
          simp only [Edit.changed, hupdate, hencode]
          rcases hstored updated extra hupdate hupdated with ⟨hsame, hends⟩ | hends
          · exact .write hfits hupdated hsame (hleave hends)
          · exact .change hfits hupdated (hleave hends)

/-- An edit keeps to what is owed if its change leaves the followers as they are, or the call may go on owing. It
fails only for a chat that is no key, or as its change does. -/
theorem obeys_edit {ends : Bool → Except SubscriptionError (Option (Subscriber × β)) → Prop} (chat : Int)
    (hdefault : ∀ r ∈ default, r.WellFormed) (hchange : Keeps change)
    (herror : (Database.fits chat = false ∨ ∃ current, current.WellFormed ∧
      ∀ updated extra, change current = .ok (updated, extra) → updated.isWritable = false) →
      ∀ e, ends owes (.error e))
    (hnone : ends owes (.ok none))
    (hstored : ∀ row current updated extra, Origin row default current → change current = .ok (updated, extra) →
      updated.WellFormed →
      FollowsAlike row updated.toJson ∧ ends owes (.ok (some (updated, extra))) ∨
        ends true (.ok (some (updated, extra)))) :
    Obeys bot ends .free owes (edit bot chat default change) := by
  let e : Edit Subscriber SubscriptionError β := { chat, default, change }
  suffices hcall : Obeys bot (fun owes result => ends owes (result.mapError ofEdit)) .free owes
      (e.call (store bot)) from hcall.map
  rw [Edit.call_eq]
  refine .lock (.read (fun hfits cause => ?_) fun row hfits hrow => ?_)
  · exact .unlock (.done (herror (Or.inl hfits) _))
  · -- there is a record to start from, or nothing is done
    have hfrom : ∀ current, Origin row default current → current.WellFormed →
        e.plan (store bot) (.ok row) = e.changed (store bot) current →
        Obeys bot (fun owes result => ends owes (result.mapError ofEdit)) (.editing chat (some row)) owes
          (e.afterRead (store bot) (.ok row)) := by
      intro current horigin hcurrent hplan
      exact obeys_afterRead e hplan hfits hcurrent hchange
        (fun hrefused _ => herror (Or.inr ⟨current, hcurrent, hrefused⟩) _)
        fun updated extra hupdate hupdated => hstored row current updated extra horigin hupdate hupdated
    cases row with
    | none =>
        cases hd : default with
        | none =>
            have hplan : e.plan (store bot) (.ok none) = .error (.ok none) := by
              simp only [Edit.plan, Store.record?, e, hd, Option.or]
            rw [Edit.afterRead, hplan]
            exact .unlock (.done hnone)
        | some current =>
            refine hfrom current (Or.inr ⟨rfl, hd⟩) (hdefault current hd) ?_
            simp only [Edit.plan, Store.record?, e, hd, Option.or]
    | some payload =>
        obtain ⟨current, hread, hcurrent⟩ := hrow payload rfl
        refine hfrom current (Or.inl ⟨payload, rfl, hread⟩) hcurrent ?_
        have hrecord : (store bot).record? chat (.ok (some payload)) = .ok (some current) := by
          rw [Store.record?, decode_eq_ok hread]
          rfl
        simp only [Edit.plan, e, hrecord, Option.or]

theorem obeys_edit_same (bot chat : Int) (default : Option Subscriber)
    (hdefault : ∀ r ∈ default, r.WellFormed ∧ r.tokens = []) (hchange : Keeps change)
    (hsame : ∀ r updated extra, change r = .ok (updated, extra) → ∀ t, updated.follows t = r.follows t) :
    Obeys bot Settled .free false (edit bot chat default change) :=
  obeys_edit chat (fun r hr => (hdefault r hr).1) hchange (fun _ _ => rfl) rfl
    fun _ current updated extra horigin hupdate hupdated =>
      Or.inl ⟨horigin.followsAlike (fun r hr => (hdefault r hr).2) hupdated (hsame current updated extra hupdate), rfl⟩

end

section

variable {bot chat : Int} {token : Token}

theorem obeys_setEnabled (enabled : Bool) : Obeys bot Settled .free false (setEnabled bot chat enabled) := by
  have hedit := obeys_edit_same bot chat _ wellFormed_of_mem_new (keeps_enabled enabled)
    fun r updated extra hupdate t => by
      obtain ⟨rfl, -⟩ := Prod.mk.inj (Except.ok.inj hupdate)
      rfl
  refine (hedit.ifOk (fun owes found hends => ?_) fun _ _ hends => hends)
  cases found <;> exact .done hends

theorem obeys_update {change : Subscription → Except SubscriptionError Subscription} (hchange : KeepsProper change) :
    Obeys bot Settled .free false (update bot chat token change) := by
  have hedit := obeys_edit_same bot chat none (by simp) (hchange.keeps chat token)
    fun r updated extra hupdate t => by
      obtain ⟨settings, hget, -, rfl⟩ := update_eq_ok hupdate
      exact Subscriber.follows_withToken hget extra t
  refine (hedit.ifOk (fun owes found hends => ?_) fun _ _ hends => hends)
  cases found <;> exact .done hends

/-- What ends by making the index afresh may have owed that. -/
theorem obeys_then_rebuild {α : Type} (owes : Bool) (result : α) :
    Obeys bot Settled .free owes ((rebuild bot).ifOk fun _ => .done (.ok result)) :=
  (obeys_rebuild bot owes).ifOk (fun _ _ hends => .done hends) fun _ _ hends => hends

theorem obeys_follow (htoken : Token.parse token.key = .ok token) {settings : Option Subscription}
    (hsettings : ∀ s ∈ settings, s.Proper) :
    Obeys bot Settled .free false (follow bot chat token settings) := by
  rw [follow, editOrBegin, Task.ifOk_assoc]
  let ends (owes : Bool) (result : Except SubscriptionError (Option (Subscriber × Unit))) : Prop :=
    owes = false ∨ ∃ r, result = .ok (some r)
  have hedit : Obeys bot ends .free false (edit bot chat (some {}) fun s =>
      .ok (if s.follows token && settings.isNone then s else s.withToken token (settings.getD {}), ())) :=
    obeys_edit chat (fun r hr => (wellFormed_of_mem_new r hr).1) (keeps_follow htoken hsettings)
      (fun _ _ => Or.inl rfl) (Or.inl rfl) fun _ _ _ _ _ _ _ => Or.inr (Or.inr ⟨_, rfl⟩)
  refine hedit.ifOk (fun owes found hends => ?_) fun owes cause hends => ?_
  · cases found with
    | none =>
        rcases hends with hends | ⟨r, heq⟩
        · exact .done hends
        · cases Except.ok.inj heq
    | some found => exact obeys_then_rebuild owes found.1
  · rcases hends with hends | ⟨r, heq⟩
    · exact hends
    · cases heq

theorem obeys_unfollow : Obeys bot Settled .free false (unfollow bot chat token) := by
  let ends (owes : Bool) (result : Except SubscriptionError (Option (Subscriber × Bool))) : Prop :=
    owes = false ∨ ∃ r, result = .ok (some (r, true))
  have hedit : Obeys bot ends .free false
      (edit bot chat none fun s => .ok (s.withoutToken token, s.follows token)) := by
    refine obeys_edit chat (by simp) (keeps_unfollow token) (fun _ _ => Or.inl rfl) (Or.inl rfl) ?_
    intro row current updated extra horigin hupdate hupdated
    obtain ⟨rfl, rfl⟩ := Prod.mk.inj (Except.ok.inj hupdate)
    cases hfollows : current.follows token with
    | true => exact Or.inr (Or.inr ⟨_, rfl⟩)
    | false =>
        exact Or.inl ⟨horigin.followsAlike (by simp) hupdated (Subscriber.follows_withoutToken hfollows), Or.inl rfl⟩
  refine hedit.ifOk (fun owes found hends => ?_) fun owes cause hends => ?_
  · rcases hends with rfl | ⟨r, heq⟩
    · match found with
      | none => exact .done rfl
      | some (_, false) => exact .done rfl
      | some (_, true) => exact obeys_then_rebuild false true
    · obtain rfl := Except.ok.inj heq
      exact obeys_then_rebuild owes true
  · rcases hends with hends | ⟨r, heq⟩
    · exact hends
    · cases heq

theorem obeys_forget : Obeys bot Settled .free false (forget bot chat) := by
  let ends (owes : Bool) (result : Except SubscriptionError (Option Subscriber)) : Prop :=
    owes = false ∨ ∃ removed, result = .ok removed
  have hremove : Obeys bot ends .free false
      (((store bot).remove chat).map fun result => result.mapError SubscriptionError.store) := by
    refine Obeys.map (.remove (fun _ _ => .done (Or.inl rfl)) fun row hrow => .done (Or.inr ?_))
    cases row with
    | none => exact ⟨none, rfl⟩
    | some payload =>
        obtain ⟨s, hs, -⟩ := hrow payload rfl
        refine ⟨some s, ?_⟩
        rw [Store.removed, decode_eq_ok hs]
        rfl
  refine hremove.ifOk (fun owes removed _ => obeys_then_rebuild owes removed) fun owes cause hends => ?_
  rcases hends with hends | ⟨removed, heq⟩
  · exact hends
  · cases heq

/-- Moving the settings of chats that are keys does not fail. -/
theorem obeys_migrateEach (source : Token) {target : Token} (htarget : Token.parse target.key = .ok target)
    {chats : List Int} (hchats : ∀ c ∈ chats, Database.fits c) (owes : Bool) (moved : List (Int × Bool)) :
    Obeys bot (fun _ result => ∃ moved, result = .ok moved) .free owes
      (migrateEach bot source target chats moved) := by
  induction chats generalizing owes moved with
  | nil => exact .done ⟨moved, rfl⟩
  | cons c rest ih =>
      have hrest := ih fun d hd => hchats d (List.mem_cons_of_mem c hd)
      have hedit : Obeys bot (fun _ result => ∃ found, result = .ok found) .free owes
          (edit bot c none fun s => .ok (moveSettings source target s)) := by
        refine obeys_edit c (by simp) (keeps_moveSettings source htarget) ?_ ⟨none, rfl⟩
          fun _ _ _ _ _ _ _ => Or.inr ⟨_, rfl⟩
        -- neither the chat nor the change can be at fault
        intro hfailed
        exfalso
        rcases hfailed with hfits | ⟨current, hcurrent, hunwritable⟩
        · rw [hchats c List.mem_cons_self] at hfits
          cases hfits
        · have hwritable := (moveSettings_wellFormed source htarget hcurrent).writable
          have hnot := hunwritable (moveSettings source target current).1 (moveSettings source target current).2 rfl
          rw [hnot] at hwritable
          cases hwritable
      refine hedit.ifOk (fun owes found _ => ?_) fun owes cause hends => ?_
      · match found with
        | none => exact hrest owes moved
        | some (_, false) => exact hrest owes moved
        | some (r, true) => exact hrest owes (moved ++ [(c, r.enabled)])
      · obtain ⟨found, heq⟩ := hends
        cases heq

theorem obeys_migrate (source : Token) {target : Token} (htarget : Token.parse target.key = .ok target) :
    Obeys bot Settled .free false (migrate bot source target) := by
  let ends (owes : Bool) (result : Except SubscriptionError (List (Int × Subscriber))) : Prop :=
    ∃ records, result = .ok records ∧ ∀ record ∈ records, Database.fits record.1
  have hall : Obeys bot ends .free false
      ((store bot).all.map fun result => result.mapError SubscriptionError.store) := by
    refine Obeys.map (.list fun rows records hrecords => .done ⟨records, ?_, fun r hr => (hrecords.2.1 r hr).1⟩)
    rw [hrecords.1]
    rfl
  refine hall.ifOk (fun owes records hends => ?_) fun owes cause hends => ?_
  · obtain ⟨records', heq, hfits⟩ := hends
    obtain rfl := Except.ok.inj heq
    have hchats : ∀ c ∈ (records.filter fun record => record.2.follows source).map (·.1), Database.fits c := by
      intro c hc
      obtain ⟨record, hrecord, rfl⟩ := List.mem_map.mp hc
      exact hfits record (List.mem_filter.mp hrecord).1
    refine (obeys_migrateEach source htarget hchats owes []).ifOk (fun owes moved _ => ?_) fun owes cause hends => ?_
    · exact obeys_then_rebuild owes moved
    · obtain ⟨moved, heq⟩ := hends
      cases heq
  · obtain ⟨records, heq, -⟩ := hends
    cases heq

end

namespace ChatCall

/-- A call as an attempt, of whose result is kept whether it failed, and how. -/
def attempt (bot : Int) (call : ChatCall) : Attempt Unit :=
  let only {α : Type} (t : Attempt α) : Attempt Unit := t.map (Except.map fun _ => ())
  match call with
  | follow chat token settings => only (Subscriptions.follow bot chat token settings)
  | unfollow chat token => only (Subscriptions.unfollow bot chat token)
  | forget chat => only (Subscriptions.forget bot chat)
  | migrate source target => only (Subscriptions.migrate bot source target)
  | setEnabled chat enabled => only (Subscriptions.setEnabled bot chat enabled)
  | setPolarity chat token p wanted => only (Subscriptions.setPolarity bot chat token p wanted)
  | setMinAmount chat token least => only (Subscriptions.setMinAmount bot chat token least)
  | setAttachments chat token attachments currency =>
    only (Subscriptions.setAttachments bot chat token attachments currency)
  | setComponents chat token components => only (Subscriptions.setComponents bot chat token components)
  | moveComponent chat token position offset => only (Subscriptions.moveComponent bot chat token position offset)
  | setLinks chat token links => only (Subscriptions.setLinks bot chat token links)
  | setButtons chat token buttons => only (Subscriptions.setButtons bot chat token buttons)

/-- Every call keeps to what it owes, and owes nothing in the end. -/
theorem Valid.obeys {call : ChatCall} (h : call.Valid) (bot : Int) :
    Obeys bot Settled .free false (call.attempt bot) := by
  cases call with
  | follow chat token settings => exact Obeys.map (obeys_follow h.1 h.2)
  | unfollow chat token => exact Obeys.map obeys_unfollow
  | forget chat => exact Obeys.map obeys_forget
  | migrate source target => exact Obeys.map (obeys_migrate source h)
  | setEnabled chat enabled => exact Obeys.map (obeys_setEnabled enabled)
  | setPolarity chat token p wanted => exact Obeys.map (obeys_update (keepsProper_polarity p wanted))
  | setMinAmount chat token least => exact Obeys.map (obeys_update (keepsProper_minAmount h))
  | setAttachments chat token attachments currency =>
      exact Obeys.map (obeys_update (keepsProper_attachments h currency))
  | setComponents chat token components => exact Obeys.map (obeys_update (keepsProper_components h))
  | moveComponent chat token position offset => exact Obeys.map (obeys_update (keepsProper_move position offset))
  | setLinks chat token links => exact Obeys.map (obeys_update (keepsProper_links links))
  | setButtons chat token buttons => exact Obeys.map (obeys_update (keepsProper_buttons buttons))

end ChatCall

end ChainAlerts.Subscriptions
